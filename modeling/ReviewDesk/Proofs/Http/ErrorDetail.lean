import ReviewDesk.Fault
import ReviewDesk.Proofs.Json.Ordered
import ReviewDesk.Proofs.Text.Trim

/-!
What a refused request tells: the member `detail` of the error body, if the body is an object that
has one, and else the body as it stands or, when there is none, the reason for the status.
-/

namespace ReviewDesk

namespace Json

theorem isBlank_of_isSpace {c : Char} (space : isSpace c = true) : Text.isBlank c = true := by
  simp only [isSpace, Bool.or_eq_true, beq_iff_eq] at space
  rcases space with ((rfl | rfl) | rfl) | rfl <;> decide

/-- A list between brackets has nothing blank at its ends. -/
theorem Listed.strip {α : Type} {opening closing : Char} {entry : List Char → α → Prop}
    {text : List Char} {values : List α} (listed : Listed opening closing entry text values)
    (begins : Text.isBlank opening = false) (ends : Text.isBlank closing = false) :
    Text.strip Text.isBlank text = text := by
  cases listed <;> exact Text.strip_of_ends _ begins ends _

end Json

open Json (Spells MemberText Listed)

/-- The body is the text of an object with these members, in the order in which they are written,
and has nothing but blanks around it. In the values of the members, arrays and objects stand at most
so deep. -/
def Holds (depth : Nat) (body : String) (fields : List (String × Json)) : Prop :=
  ∃ front text back, (∀ c ∈ front, Text.isBlank c = true) ∧ (∀ c ∈ back, Text.isBlank c = true) ∧
    body.toList = front ++ (text ++ back) ∧
    Listed '\x7b' '\x7d' (MemberText (Spells depth)) text fields

/-- How deep the values of members stand at most in a document that can be read. -/
def memberDepth : Nat :=
  Json.maxDepth - 1

variable {body : String} {fields : List (String × Json)}

theorem Holds.parse? (holds : Holds memberDepth body fields) :
    Json.parse? (Text.trim body) = some (Json.object fields) := by
  obtain ⟨front, text, back, before, after, whole, listed⟩ := holds
  have trimmed : (Text.trim body).toList = text := by
    rw [Text.trim, String.toList_ofList, whole, ← List.append_assoc,
      Text.strip_append Text.isBlank before after, listed.strip (by decide) (by decide)]
  have spells : Spells Json.maxDepth text (Json.object fields) := .inr (.inr ⟨fields, listed, rfl⟩)
  have around := Json.Around.mk Json.blank_nil Json.blank_nil spells
  rw [List.nil_append, List.append_nil] at around
  rw [Json.parse?_eq_some_iff, trimmed]
  exact around

theorem exists_holds {members : List (String × Json)}
    (parsed : Json.parse? (Text.trim body) = some (.members members)) :
    ∃ fields, Holds memberDepth body fields ∧ Json.object fields = .members members := by
  obtain ⟨front, back, before, after, whole⟩ := Text.exists_strip Text.isBlank body.toList
  have around := Json.parse?_eq_some_iff.mp parsed
  rw [Text.trim, String.toList_ofList] at around
  generalize Text.strip Text.isBlank body.toList = cs at whole around
  generalize same : Json.members members = value at around
  obtain @⟨gap, text, more, value, first, last, spells⟩ := around
  rcases spells with scalar | ⟨elements, -, array⟩ | ⟨fields, listed, object⟩
  · rw [← same] at scalar
    cases scalar
  · rw [← same] at array
    cases array
  · refine ⟨fields, ⟨front ++ gap, text, more ++ back, ?_, ?_, ?_, listed⟩, ?_⟩
    · exact List.forall_mem_append.mpr
        ⟨before, fun c inside => Json.isBlank_of_isSpace (first c inside)⟩
    · exact List.forall_mem_append.mpr
        ⟨fun c inside => Json.isBlank_of_isSpace (last c inside), after⟩
    · simpa only [List.append_assoc] using whole
    · exact object.symm

/-- A member of an object that was read was spelled, and keeps the order of names. -/
theorem Holds.exists_spells (holds : Holds memberDepth body fields) {name : String} {value : Json}
    (found : fields.reverse.lookup name = some value) : ∃ text, Spells memberDepth text value := by
  obtain ⟨-, text, -, -, -, -, listed⟩ := holds
  have inside := List.mem_reverse.mp (Json.mem_of_lookup found)
  obtain ⟨_, spelled⟩ := listed.exists_entry _ inside
  exact spelled.exists_spelled

theorem Holds.not_blank (holds : Holds memberDepth body fields) : ¬Text.Blank body := by
  intro blank
  have parsed := holds.parse?
  rw [(Text.trim_eq_empty_iff body).mpr blank] at parsed
  cases parsed

/-- What a value tells: its text, if it is one, and else how it is written. -/
def Json.told : Json → String
  | .string text => text
  | value => value.compact

namespace TransportFault

theorem detailOfBody_of_holds (holds : Holds memberDepth body fields) {value : Json}
    (found : fields.reverse.lookup "detail" = some value) :
    detailOfBody body = some value.told := by
  rw [detailOfBody, Text.trimToOption_of_not_blank holds.not_blank, Option.map_some,
    holds.parse?, Option.bind_some, Json.get?_object, found]
  cases value <;> rfl

theorem detailOfBody_of_other (counts : ¬Text.Blank body)
    (silent : ∀ fields, Holds memberDepth body fields → fields.reverse.lookup "detail" = none) :
    detailOfBody body = some (Text.trim body) := by
  have missing : (Json.parse? (Text.trim body)).bind (·.get? "detail") = none := by
    cases parsed : Json.parse? (Text.trim body) with
    | none => rfl
    | some value =>
        cases value with
        | members members =>
            obtain ⟨fields, holds, same⟩ := exists_holds parsed
            rw [Option.bind_some, ← same, Json.get?_object, silent fields holds]
        | _ => rfl
  rw [detailOfBody, Text.trimToOption_of_not_blank counts, Option.map_some, missing]

theorem detailOfBody_of_blank (blank : Text.Blank body) : detailOfBody body = none := by
  rw [detailOfBody, (Text.trimToOption_eq_none_iff body).mpr blank, Option.map_none]

variable (code : UInt16) (reason : Option String)

theorem detail_ofStatus {detail : String} (told : detailOfBody body = some detail) :
    (ofStatus code reason body).detail = detail := by
  rw [ofStatus, told]
  rfl

end TransportFault

/-- The text of an object with a single member that is a text holds this member. -/
theorem holds_compact (name text : String) :
    Holds memberDepth (Json.object [(name, .string text)]).compact [(name, .string text)] := by
  have member := Json.memberText_chars Json.blank_nil name (Json.spells_string memberDepth text)
  refine ⟨[], _, [], List.forall_mem_nil _, List.forall_mem_nil _, ?_,
    .entries (List.cons_ne_nil (_, name, Json.string text) [])
      (List.forall_mem_singleton.mpr member)⟩
  rw [Json.compact, String.toList_ofList]
  simp [Json.object, Json.insertMember, Json.compactChars, Json.compactMembers, Json.joined]

namespace TransportFault

/-- The detail of a refused request, for every answer of the server. -/
theorem detail_comes_from_body (code : UInt16) (reason : Option String) (body : String) :
    (ofStatus code reason body).body? = some body ∧
    (∀ fields s, Holds memberDepth body fields →
      fields.reverse.lookup "detail" = some (.string s) →
        (ofStatus code reason body).detail = s) ∧
    (∀ fields w, Holds memberDepth body fields → fields.reverse.lookup "detail" = some w →
      (∀ s, w ≠ .string s) →
        (ofStatus code reason body).detail = w.compact ∧ w.Ordered ∧
          (w.FloatsReadBack → Json.parse? w.compact = some w)) ∧
    (¬Text.Blank body →
      (∀ fields, Holds memberDepth body fields → fields.reverse.lookup "detail" = none) →
        (ofStatus code reason body).detail = Text.trim body) ∧
    (Text.Blank body →
      (ofStatus code reason body).detail = reason.getD ("HTTP " ++ toString code.toNat)) ∧
    ∀ s, (ofStatus code reason (Json.object [("detail", Json.string s)]).compact).detail = s := by
  have text (body : String) (fields : List (String × Json)) (s : String)
      (holds : Holds memberDepth body fields)
      (found : fields.reverse.lookup "detail" = some (.string s)) :
      (ofStatus code reason body).detail = s :=
    detail_ofStatus code reason (detailOfBody_of_holds holds found)
  refine ⟨rfl, text body, ?value, ?other, ?blank, fun s => text _ _ s (holds_compact _ s) rfl⟩
  case value =>
    intro fields w holds found other
    obtain ⟨_, spells⟩ := holds.exists_spells found
    refine ⟨?_, spells.ordered, spells.parse?_compact (by decide)⟩
    rw [detail_ofStatus code reason (detailOfBody_of_holds holds found)]
    cases w with
    | string s => exact (other s rfl).elim
    | null | bool | number | array | members => rfl
  case other =>
    intro counts silent
    exact detail_ofStatus code reason (detailOfBody_of_other counts silent)
  case blank =>
    intro blank
    rw [ofStatus, detailOfBody_of_blank blank]
    cases reason <;> rfl

end TransportFault

/-- An object with a second member beside the detail. -/
def beside (text : List Char) : List Char :=
  '\x7b' :: ("\"detail\":\"x\",\"o\":".toList ++ (text ++ ['\x7d']))

theorem holds_beside {depth : Nat} {text : List Char} {value : Json}
    (spells : Spells depth text value) :
    Holds depth (String.ofList (beside text)) [("detail", .string "x"), ("o", value)] := by
  have detail := Json.memberText_chars Json.blank_nil "detail" (Json.spells_string depth "x")
  have other := Json.memberText_chars Json.blank_nil "o" spells
  refine ⟨[], _, [], List.forall_mem_nil _, List.forall_mem_nil _, ?_,
    .entries (List.cons_ne_nil (_, "detail", Json.string "x") [(_, "o", value)])
      (List.forall_mem_cons.mpr ⟨detail, List.forall_mem_singleton.mpr other⟩)⟩
  rw [beside, String.toList_ofList]
  simp [Json.joined, Json.stringChars, Json.escapeChar]

/-- So many pairs of brackets, one in the other. -/
def brackets : Nat → List Char
  | 0 => []
  | n + 1 => '[' :: (brackets n ++ [']'])

def nested : Nat → Json
  | 0 => .array []
  | n + 1 => .array [nested n]

theorem spells_brackets (n : Nat) : Spells (n + 1) (brackets (n + 1)) (nested n) := by
  induction n with
  | zero => exact .inr (.inl ⟨[], .empty Json.blank_nil, rfl⟩)
  | succ n ih =>
      have around := Json.Around.mk Json.blank_nil Json.blank_nil ih
      rw [List.nil_append, List.append_nil] at around
      exact .inr (.inl ⟨[nested n], .entries (List.cons_ne_nil (_, nested n) [])
        (List.forall_mem_singleton.mpr around), rfl⟩)

namespace TransportFault

theorem detail_of_unread (code : UInt16) (reason : Option String) {text : List Char}
    (unread : (Json.readValue Json.maxDepth (beside text)).isNone = true) :
    (ofStatus code reason (String.ofList (beside text))).detail = String.ofList (beside text) := by
  have trimmed : Text.trim (String.ofList (beside text)) = String.ofList (beside text) := by
    rw [Text.trim, String.toList_ofList, beside, ← List.append_assoc,
      Text.strip_of_ends _ (by decide) (by decide)]
  have solid : Json.skipSpace (beside text) = beside text := Json.skipSpace_solid (by decide) _
  have counts : ¬Text.Blank (String.ofList (beside text)) := by
    intro blank
    have first := blank '\x7b' (by rw [String.toList_ofList]; exact List.mem_cons_self)
    exact absurd first (by decide)
  have none : Json.parse? (String.ofList (beside text)) = none := by
    rw [Json.parse?, String.toList_ofList, solid, Option.isNone_iff_eq_none.mp unread]
  refine detail_ofStatus code reason ?_
  rw [detailOfBody, Text.trimToOption_of_not_blank counts, trimmed, Option.map_some, none]
  rfl

/-- A text can be nested too deep, a number can be out of range, and half a character can stand
alone. The member `detail` is not told then. -/
theorem detail_is_lost_beyond_limits :
    (∃ fields, Holds (memberDepth + 1) (String.ofList (beside (brackets 127))) fields ∧
      fields.reverse.lookup "detail" = some (.string "x") ∧
      (ofStatus 400 none (String.ofList (beside (brackets 127)))).detail ≠ "x") ∧
    (∃ n : Json.NumberText, n.value? = none ∧
      (ofStatus 400 none (String.ofList (beside n.chars))).detail ≠ "x") ∧
    (ofStatus 400 none (String.ofList (beside "\"\\ud800\"".toList))).detail ≠ "x" := by
  have lost {text : List Char}
      (unread : (Json.readValue Json.maxDepth (beside text)).isNone = true) :
      (ofStatus 400 none (String.ofList (beside text))).detail ≠ "x" := by
    intro told
    have chars := congrArg String.toList ((detail_of_unread 400 none unread).symm.trans told)
    rw [String.toList_ofList, beside] at chars
    exact absurd (List.cons.inj chars).1 (by decide)
  refine ⟨⟨_, holds_beside (spells_brackets 126), rfl, lost (by decide +kernel)⟩, ?_,
    lost (by decide +kernel)⟩
  exact ⟨⟨false, ['1'], [], some ⟨'e', [], ['9', '9', '9'], .inl rfl, .inl rfl,
    List.cons_ne_nil _ _, List.all_eq_true.mp rfl⟩, List.cons_ne_nil _ _, fun _ => rfl,
    List.all_eq_true.mp rfl, List.forall_mem_nil _⟩, by decide +kernel, lost (by decide +kernel)⟩

end TransportFault
end ReviewDesk
