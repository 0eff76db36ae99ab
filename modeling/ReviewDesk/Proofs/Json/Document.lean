import ReviewDesk.Proofs.Json.Reading
import ReviewDesk.Proofs.Json.Value

/-!
A value is read back from its text, in either form. What may be lost is the order of members, and a
number whose own text does not tell it.
-/

namespace ReviewDesk
namespace Json

theorem blank_newline (indent : Nat) : Blank (newline indent) := by
  intro c inside
  rcases List.mem_cons.mp inside with rfl | spaces
  · decide
  · rw [List.eq_of_mem_replicate spaces]
    decide

section

variable {before close : List Char}

theorem Around.framed {inner : List Char → Json → Prop} {text : List Char} {value : Json}
    (around : Around inner text value) (blank : Blank before) (shut : Blank close) :
    Around inner (before ++ (text ++ close)) value := by
  obtain @⟨front, text, back, value, first, last, spelled⟩ := around
  have framed := Around.mk (blank.append first) (last.append shut) spelled
  simpa only [List.append_assoc] using framed

theorem MemberText.framed {inner : List Char → Json → Prop} {text : List Char}
    {member : String × Json} (spelled : MemberText inner text member) (blank : Blank before)
    (shut : Blank close) : MemberText inner (before ++ (text ++ close)) member := by
  obtain @⟨front, middle, text, value, pieces, first, between, around⟩ := spelled
  have framed := MemberText.mk pieces (blank.append first) between (around.framed blank_nil shut)
  simpa only [List.append_assoc, List.cons_append, List.nil_append] using framed

/-- Blanks may be put in front of every entry, and after the last. -/
theorem Listed.spread {α : Type} {opening closing : Char} {entry : List Char → α → Prop}
    (framed : ∀ ⦃text value before close⦄, entry text value → Blank before → Blank close →
      entry (before ++ (text ++ close)) value) (blank : Blank before) (shut : Blank close)
    {pieces : List (List Char × α)} (some_ : pieces ≠ [])
    (each : ∀ one ∈ pieces, entry one.1 one.2) :
    Listed opening closing entry
      (opening :: (before ++ (joined before (pieces.map Prod.fst) ++ (close ++ [closing]))))
      (pieces.map Prod.snd) := by
  obtain ⟨entries, full, spelled, values, text⟩ : ∃ entries : List (List Char × α), entries ≠ [] ∧
      (∀ one ∈ entries, entry one.1 one.2) ∧ entries.map Prod.snd = pieces.map Prod.snd ∧
        joined [] (entries.map Prod.fst) =
          before ++ (joined before (pieces.map Prod.fst) ++ close) := by
    induction pieces with
    | nil => exact (some_ rfl).elim
    | cons one pieces ih =>
        obtain ⟨first, others⟩ := List.forall_mem_cons.mp each
        cases pieces with
        | nil =>
            exact ⟨[(_, one.2)], List.cons_ne_nil _ _,
              List.forall_mem_singleton.mpr (framed first blank shut), rfl, rfl⟩
        | cons next pieces =>
            obtain ⟨entries, full, spelled, values, text⟩ := ih (List.cons_ne_nil _ _) others
            refine ⟨(_, one.2) :: entries, List.cons_ne_nil _ _,
              List.forall_mem_cons.mpr ⟨framed first blank blank_nil, spelled⟩, ?_, ?_⟩
            · rw [List.map_cons, List.map_cons, values]
            · obtain ⟨other, entries, rfl⟩ := List.exists_cons_of_ne_nil full
              simp only [List.map_cons, joined_cons, List.append_assoc, List.cons_append,
                List.nil_append, List.append_nil] at text ⊢
              rw [text]
  have listed : Listed opening closing entry _ _ := .entries full spelled
  rw [values, text] at listed
  simpa only [List.append_assoc] using listed

end

theorem ScalarText.spells {text : List Char} {value : Json} (scalar : ScalarText text value)
    (depth : Nat) : Spells depth text value := by
  cases depth with
  | zero => exact scalar
  | succ depth => exact .inl scalar

theorem spells_string (depth : Nat) (text : String) :
    Spells depth (stringChars text) (.string text) := by
  obtain ⟨pieces, chars, value⟩ := exists_written text
  rw [← chars, ← value]
  exact (ScalarText.string pieces).spells depth

theorem spells_number (depth : Nat) {value : Number} (back : value.ReadsBack) :
    Spells depth value.chars (.number value) := by
  obtain ⟨n, text, range⟩ := exists_numberText back
  rw [text, List.append_nil]
  exact (ScalarText.number n range).spells depth

theorem spells_bool (depth : Nat) (value : Bool) :
    Spells depth (compactChars (.bool value)) (.bool value) := by
  cases value with
  | false => exact ScalarText.false_.spells depth
  | true => exact ScalarText.true_.spells depth

section

variable {depth : Nat} {before close : List Char}

theorem spells_array (blank : Blank before) (shut : Blank close) {pieces : List (List Char × Json)}
    (some_ : pieces ≠ []) (each : ∀ one ∈ pieces, Spells depth one.1 one.2) :
    Spells (depth + 1)
      ('[' :: (before ++ (joined before (pieces.map Prod.fst) ++ (close ++ [']']))))
      (.array (pieces.map Prod.snd)) := by
  have around : ∀ one ∈ pieces, Around (Spells depth) one.1 one.2 := fun one inside => by
    simpa using Around.mk blank_nil blank_nil (each one inside)
  exact .inr (.inl ⟨_, .spread (fun _ _ _ _ => Around.framed) blank shut some_ around, rfl⟩)

/-- The text of a member: its name, a colon with blanks after it, and the text of its value. -/
def memberChars (colon : List Char) (member : String × List Char × Json) : List Char :=
  stringChars member.1 ++ ':' :: (colon ++ member.2.1)

theorem memberText_chars {colon text : List Char} (afterColon : Blank colon) (name : String)
    {value : Json} (spells : Spells depth text value) :
    MemberText (Spells depth) (memberChars colon (name, text, value)) (name, value) := by
  obtain ⟨pieces, chars, named⟩ := exists_written name
  have member := MemberText.mk pieces blank_nil blank_nil (.mk afterColon blank_nil spells)
  rw [chars, named] at member
  simpa [memberChars] using member

theorem spells_members {colon : List Char} (afterColon : Blank colon) (blank : Blank before)
    (shut : Blank close) {pieces : List (String × List Char × Json)} (some_ : pieces ≠ [])
    (each : ∀ one ∈ pieces, Spells depth one.2.1 one.2.2) :
    Spells (depth + 1)
      ('\x7b' ::
        (before ++ (joined before (pieces.map (memberChars colon)) ++ (close ++ ['\x7d']))))
      (object (pieces.map fun one => (one.1, one.2.2))) := by
  have member : ∀ one ∈ pieces.map fun one => (memberChars colon one, one.1, one.2.2),
      MemberText (Spells depth) one.1 one.2 := by
    intro one inside
    obtain ⟨piece, member, rfl⟩ := List.mem_map.mp inside
    exact memberText_chars afterColon piece.1 (each piece member)
  have listed : Listed '\x7b' '\x7d' (MemberText (Spells depth)) _ _ :=
    .spread (fun _ _ _ _ => MemberText.framed) blank shut (by simpa using some_) member
  rw [List.map_map, List.map_map] at listed
  exact .inr (.inr ⟨_, listed, rfl⟩)

end

theorem prettyElements_eq (indent : Nat) (elements : List Json) :
    prettyElements indent elements =
      joined (newline indent) (elements.map (prettyChars indent)) := by
  induction elements with
  | nil => simp only [prettyElements, List.map_nil, joined]
  | cons value elements ih =>
      cases elements with
      | nil => simp only [prettyElements, List.map_cons, List.map_nil, joined]
      | cons next elements =>
          simp only [List.map_cons, joined_cons] at ih ⊢
          simp only [prettyElements, ih, List.append_assoc, List.cons_append, List.nil_append]

theorem prettyMembers_eq (indent : Nat) (fields : List (String × Json)) :
    prettyMembers indent fields =
      joined (newline indent) (fields.map fun member =>
        memberChars [' '] (member.1, prettyChars indent member.2, member.2.sorted)) := by
  induction fields with
  | nil => simp only [prettyMembers, List.map_nil, joined]
  | cons member fields ih =>
      cases fields with
      | nil =>
          simp only [prettyMembers, List.map_cons, List.map_nil, joined, memberChars,
            List.append_assoc, List.cons_append, List.nil_append]
      | cons next fields =>
          simp only [List.map_cons, joined_cons] at ih ⊢
          simp only [prettyMembers, ih, memberChars, List.append_assoc, List.cons_append,
            List.nil_append]

theorem prettyChars_array {elements : List Json} (some_ : elements ≠ []) (indent : Nat) :
    prettyChars indent (.array elements) =
      '[' :: (newline (indent + 1) ++
        (joined (newline (indent + 1)) (elements.map (prettyChars (indent + 1))) ++
          (newline indent ++ [']']))) := by
  obtain ⟨value, others, rfl⟩ := List.exists_cons_of_ne_nil some_
  simp only [prettyChars, prettyElements_eq, List.append_assoc, List.cons_append, List.nil_append]

theorem prettyChars_members {fields : List (String × Json)} (some_ : fields ≠ []) (indent : Nat) :
    prettyChars indent (.members fields) =
      '\x7b' :: (newline (indent + 1) ++
        (joined (newline (indent + 1)) (fields.map fun member =>
          memberChars [' '] (member.1, prettyChars (indent + 1) member.2, member.2.sorted)) ++
          (newline indent ++ ['\x7d']))) := by
  obtain ⟨member, others, rfl⟩ := List.exists_cons_of_ne_nil some_
  simp only [prettyChars, prettyMembers_eq, List.append_assoc, List.cons_append, List.nil_append]

theorem compactElements_eq (elements : List Json) :
    compactElements elements = joined [] (elements.map compactChars) := by
  induction elements with
  | nil => simp only [compactElements, List.map_nil, joined]
  | cons value elements ih =>
      cases elements with
      | nil => simp only [compactElements, List.map_cons, List.map_nil, joined]
      | cons next elements =>
          simp only [List.map_cons, joined_cons] at ih ⊢
          simp only [compactElements, ih, List.append_assoc, List.cons_append, List.nil_append]

theorem compactMembers_eq (fields : List (String × Json)) :
    compactMembers fields =
      joined [] (fields.map fun member =>
        memberChars [] (member.1, compactChars member.2, member.2.sorted)) := by
  induction fields with
  | nil => simp only [compactMembers, List.map_nil, joined]
  | cons member fields ih =>
      cases fields with
      | nil =>
          simp only [compactMembers, List.map_cons, List.map_nil, joined, memberChars,
            List.append_assoc, List.cons_append, List.nil_append]
      | cons next fields =>
          simp only [List.map_cons, joined_cons] at ih ⊢
          simp only [compactMembers, ih, memberChars, List.append_assoc, List.cons_append,
            List.nil_append]

/-- Both forms of a text spell the value with its members in order, whatever blanks they have. -/
theorem spells_sorted_array {depth : Nat} {before close : List Char} (blank : Blank before)
    (shut : Blank close) {elements : List Json} (some_ : elements ≠ []) {chars : Json → List Char}
    (each : ∀ value ∈ elements, Spells depth (chars value) value.sorted) :
    Spells (depth + 1)
      ('[' :: (before ++ (joined before (elements.map chars) ++ (close ++ [']']))))
      (Json.array elements).sorted := by
  have pieces : ∀ one ∈ elements.map fun value => (chars value, value.sorted),
      Spells depth one.1 one.2 := by
    intro one inside
    obtain ⟨value, member, rfl⟩ := List.mem_map.mp inside
    exact each value member
  have spells := spells_array blank shut (by simpa using some_) pieces
  rw [List.map_map, List.map_map] at spells
  rw [sorted]
  exact spells

theorem spells_sorted_members {depth : Nat} {colon before close : List Char}
    (afterColon : Blank colon) (blank : Blank before) (shut : Blank close)
    {fields : List (String × Json)} (some_ : fields ≠ []) {chars : Json → List Char}
    (each : ∀ member ∈ fields, Spells depth (chars member.2) member.2.sorted) :
    Spells (depth + 1)
      ('\x7b' :: (before ++ (joined before (fields.map fun member =>
        memberChars colon (member.1, chars member.2, member.2.sorted)) ++ (close ++ ['\x7d']))))
      (Json.members fields).sorted := by
  have pieces : ∀ one ∈ fields.map fun member => (member.1, chars member.2, member.2.sorted),
      Spells depth one.2.1 one.2.2 := by
    intro one inside
    obtain ⟨member, known, rfl⟩ := List.mem_map.mp inside
    exact each member known
  have spells := spells_members afterColon blank shut (by simpa using some_) pieces
  rw [List.map_map, List.map_map] at spells
  rw [sorted]
  exact spells

theorem spells_empty_array (depth : Nat) : Spells (depth + 1) ['[', ']'] (Json.array []).sorted := by
  rw [sorted, List.map_nil]
  exact .inr (.inl ⟨[], .empty blank_nil, rfl⟩)

theorem spells_empty_members (depth : Nat) :
    Spells (depth + 1) ['\x7b', '\x7d'] (Json.members []).sorted := by
  rw [sorted, List.map_nil]
  exact .inr (.inr ⟨[], .empty blank_nil, rfl⟩)

/-- The indented text of a value spells the value with its members in order. -/
theorem Legible.spells_pretty {depth : Nat} {value : Json} (legible : Legible depth value)
    (indent : Nat) : Spells depth (prettyChars indent value) value.sorted := by
  -- what is inside is indented further, but its text is read all the same
  induction legible generalizing indent with
  | null depth =>
      simp only [prettyChars, compactChars, sorted]
      exact ScalarText.null.spells depth
  | bool depth value =>
      simp only [prettyChars, sorted]
      exact spells_bool depth value
  | number depth back =>
      simp only [prettyChars, compactChars, sorted]
      exact spells_number depth back
  | string depth text =>
      simp only [prettyChars, compactChars, sorted]
      exact spells_string depth text
  | @array depth elements inner ih =>
      by_cases empty : elements = []
      · subst empty
        rw [prettyChars]
        exact spells_empty_array depth
      rw [prettyChars_array empty]
      exact spells_sorted_array (blank_newline _) (blank_newline _) empty
        fun value inside => ih value inside (indent + 1)
  | @members depth fields inner ih =>
      by_cases empty : fields = []
      · subst empty
        rw [prettyChars]
        exact spells_empty_members depth
      rw [prettyChars_members empty]
      exact spells_sorted_members blank_space (blank_newline _) (blank_newline _) empty
        fun member inside => ih member inside (indent + 1)

/-- The compact text of a value spells the value with its members in order. -/
theorem Legible.spells_compact {depth : Nat} {value : Json} (legible : Legible depth value) :
    Spells depth (compactChars value) value.sorted := by
  induction legible with
  | null depth =>
      simp only [compactChars, sorted]
      exact ScalarText.null.spells depth
  | bool depth value =>
      simp only [sorted]
      exact spells_bool depth value
  | number depth back =>
      simp only [compactChars, sorted]
      exact spells_number depth back
  | string depth text =>
      simp only [compactChars, sorted]
      exact spells_string depth text
  | @array depth elements inner ih =>
      by_cases empty : elements = []
      · subst empty
        rw [compactChars, compactElements]
        exact spells_empty_array depth
      rw [compactChars, compactElements_eq]
      exact spells_sorted_array blank_nil blank_nil empty ih
  | @members depth fields inner ih =>
      by_cases empty : fields = []
      · subst empty
        rw [compactChars, compactMembers]
        exact spells_empty_members depth
      rw [compactChars, compactMembers_eq]
      exact spells_sorted_members blank_nil blank_nil blank_nil empty ih

/-- The indented text of a value with a line end after it is the document of that value. -/
theorem Legible.parse?_pretty {value : Json} (legible : Legible maxDepth value) :
    parse? (value.pretty ++ "\n") = some value.sorted := by
  have around := Around.mk blank_nil (blank_newline 0) (legible.spells_pretty 0)
  rw [parse?_eq_some_iff, String.toList_append, pretty, String.toList_ofList]
  exact around

/-- The compact text of a value is the document of that value. -/
theorem Legible.parse?_compact {value : Json} (legible : Legible maxDepth value) :
    parse? value.compact = some value.sorted := by
  have around := Around.mk blank_nil blank_nil legible.spells_compact
  rw [List.append_nil] at around
  rw [parse?_eq_some_iff, compact, String.toList_ofList]
  exact around

end Json
end ReviewDesk
