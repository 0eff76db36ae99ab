import Mathlib.Data.List.Basic
import ReviewDesk.Http.Client
import ReviewDesk.Proofs.Item.Decoding
import ReviewDesk.Proofs.Session.LabelForm

/-!
An item that repeats a submission can be read, as long as its count can. A form takes counts of 64
bits without a sign, an item has counts of 64 bits with one: the upper half of what can be sent is
refused when it comes back, although the label was saved.
-/

namespace ReviewDesk

open Decimal (Binary64)

namespace LabelForm

/-- What a form takes for a confidence has a document form. -/
theorem finite_confidence {f : LabelForm} {current : Option String} {s : Submission}
    (valid : f.validate current = .ok s) : ∀ x, s.confidence = some x → x.isFinite := by
  intro x known
  have read := (validate_eq_ok_iff.mp valid).2.confidence
  rw [known] at read
  exact (withinOne_of_readConfidence read).finite

end LabelForm

/-- The members of an item that repeats a submission. What is absent is `null` or left out; the
other members are such as an item may have. -/
structure Submission.Repeated (s : Submission) (id : String) (fields : List (String × Json)) :
    Prop where
  names : (fields.map Prod.fst).Nodup
  id : fields.lookup "id" = some (.string id)
  label : fields.lookup "human_label" = some (.string s.label)
  confidence : (fields.lookup "human_confidence").getD .null = .ofBinary64? s.confidence
  notes : (fields.lookup "human_notes").getD .null = .ofText? s.notes
  user : (fields.lookup "human_user").getD .null = .ofText? s.user
  count : (fields.lookup "count").getD .null = s.count.elim .null fun n => .ofNat n.toNat
  others : ∀ member ∈ fields, member.1 ∉ ["id", "human_label", "human_confidence", "human_notes",
    "human_user", "count"] → Item.checkMember member = .ok ()

/-- The count is one that an item can have. -/
def Submission.Fits (s : Submission) : Prop :=
  ∀ n, s.count = some n → (n.toNat : Int) ≤ Int64.maxValue.toInt

/-- The item has what was submitted. -/
structure Item.Has (item : Item) (id : String) (s : Submission) : Prop where
  id : item.id = id
  label : item.humanLabel = some s.label
  confidence : item.humanConfidence = s.confidence
  notes : item.humanNotes = s.notes
  user : item.humanUser = s.user
  count : item.count.map Int64.toInt = s.count.map fun n => (n.toNat : Int)

namespace Submission.Repeated

variable {s : Submission} {id : String} {fields : List (String × Json)}

theorem checkMember_ok (repeated : s.Repeated id fields)
    (finite : ∀ x, s.confidence = some x → x.isFinite) {name : String} {value : Json}
    (member : (name, value) ∈ fields) (other : name ≠ "count") :
    Item.checkMember (name, value) = .ok () := by
  have found := Json.lookup_of_mem repeated.names member
  -- what repeats the submission is read, whatever it is; the rest is as it may be
  have value_eq {v : Json} (same : (fields.lookup name).getD .null = v) : value = v := by
    rw [found, Option.getD_some] at same
    exact same
  by_cases id_ : name = "id"
  · subst id_
    cases repeated.id.symm.trans found
    rfl
  by_cases label : name = "human_label"
  · subst label
    cases repeated.label.symm.trans found
    rw [Item.checkMember_text (by decide)]
    rfl
  by_cases confidence : name = "human_confidence"
  · subst confidence
    rw [Item.checkMember_real (.inr rfl), value_eq repeated.confidence,
      Json.readOptional_real finite]
    rfl
  by_cases notes : name = "human_notes"
  · subst notes
    rw [Item.checkMember_text (by decide), value_eq repeated.notes, Json.readOptional_text]
    rfl
  by_cases user : name = "human_user"
  · subst user
    rw [Item.checkMember_text (by decide), value_eq repeated.user, Json.readOptional_text]
    rfl
  · exact repeated.others _ member (by simp [id_, label, confidence, notes, user, other])

theorem checkMember_count (repeated : s.Repeated id fields) {value : Json}
    (member : ("count", value) ∈ fields) :
    Item.checkMember ("count", value) =
      discard (Json.readOptional Json.readCount (s.count.elim .null fun n => .ofNat n.toNat)) := by
  have found := Json.lookup_of_mem repeated.names member
  have same := repeated.count
  rw [found, Option.getD_some] at same
  rw [Item.checkMember_count, same]

theorem checked (repeated : s.Repeated id fields)
    (finite : ∀ x, s.confidence = some x → x.isFinite) (fits : s.Fits) :
    ∀ member ∈ fields, Item.checkMember member = .ok () := by
  rintro ⟨name, value⟩ member
  by_cases count : name = "count"
  · subst count
    rw [repeated.checkMember_count member]
    cases known : s.count with
    | none => rfl
    | some n =>
        rw [Option.elim_some, Json.readOptional_ofNat (fits n known)]
        rfl
  · exact repeated.checkMember_ok finite member count

theorem has_of_reads (repeated : s.Repeated id fields)
    (finite : ∀ x, s.confidence = some x → x.isFinite) (fits : s.Fits) {item : Item}
    (reads : Item.Reads fields item) : item.Has id s where
  id := by
    have same := reads.id.symm.trans repeated.id
    cases same
    rfl
  label := by
    have read := reads.humanLabel
    rw [Item.optional, repeated.label] at read
    exact (Except.ok.inj read).symm
  confidence := by
    have read := reads.humanConfidence
    rw [Item.optional, repeated.confidence, Json.readOptional_real finite] at read
    exact (Except.ok.inj read).symm
  notes := by
    have read := reads.humanNotes
    rw [Item.optional, repeated.notes, Json.readOptional_text] at read
    exact (Except.ok.inj read).symm
  user := by
    have read := reads.humanUser
    rw [Item.optional, repeated.user, Json.readOptional_text] at read
    exact (Except.ok.inj read).symm
  count := by
    have read := reads.count
    rw [Item.optional, repeated.count] at read
    cases known : s.count with
    | none =>
        rw [known] at read
        rw [← Except.ok.inj read]
        rfl
    | some n =>
        rw [known, Option.elim_some, Json.readOptional_ofNat (fits n known)] at read
        have bound : (n.toNat : Int) ≤ 9223372036854775807 := fits n known
        have value : (Int64.ofInt n.toNat).toInt = n.toNat :=
          Int64.toInt_ofInt_of_le (by omega) (by omega)
        rw [← Except.ok.inj read, Option.map_some, Option.map_some, value]

/-- A count that is too large is what the answer is refused for. -/
theorem decode_large (repeated : s.Repeated id fields)
    (finite : ∀ x, s.confidence = some x → x.isFinite) {n : UInt64} (known : s.count = some n)
    (large : Int64.maxValue.toInt < (n.toNat : Int)) :
    Item.decode (.members fields) = .error (.outOfRange n.toNat .count) := by
  have fails {value : Json} (member : ("count", value) ∈ fields) :
      Item.checkMember ("count", value) = .error (.outOfRange n.toNat .count) := by
    rw [repeated.checkMember_count member, known, Option.elim_some,
      Json.readOptional_ofNat_error large]
    rfl
  have present : ∃ value, ("count", value) ∈ fields := by
    have same := repeated.count
    cases found : fields.lookup "count" with
    | none =>
        rw [found, known] at same
        cases same
    | some value => exact ⟨value, Json.mem_of_lookup found⟩
  rw [Item.decode, Item.forM_error]
  · rfl
  · rintro ⟨name, value⟩ member
    by_cases count : name = "count"
    · subst count
      exact .inr (fails member)
    · exact .inl (repeated.checkMember_ok finite member count)
  · obtain ⟨value, member⟩ := present
    exact ⟨_, member, fails member⟩

end Submission.Repeated

namespace Http

/-- The submission is answered with a document. -/
def Client.Answers (client : Client) (selected : String) (s : Submission) (log : List Request)
    (value : Json) : Prop :=
  ∃ response : Response,
    reply client.server
        ⟨"POST", client.base.endpoint (Client.queuePath ++ [selected, "label"]) [],
          some s.toJson⟩ log = .ok response ∧
      response.document = .ok value

theorem Client.submit_of_answers {client : Client} {selected : String} {s : Submission}
    {log : List Request} {value : Json} (answers : client.Answers selected s log value) :
    (client.service.submit selected s log).1 = decodeAs Item.decode (.ok value) := by
  obtain ⟨response, answered, document⟩ := answers
  have sent : (client.service.submit selected s log).1 =
      decodeAs Item.decode (exchange client.server ⟨"POST",
        client.base.endpoint (queuePath ++ [selected, "label"]) [], some s.toJson⟩ log).1 := rfl
  rw [sent, exchange, answered]
  exact congrArg (decodeAs Item.decode) document

/-- The answer that repeats a submission is read, with all that was submitted, if the count fits; it
is refused for the count otherwise. -/
theorem repeated_label_read_iff_fits {f : LabelForm} {current : Option String} {s : Submission}
    (valid : f.validate current = .ok s) {id : String} {fields : List (String × Json)}
    (repeated : s.Repeated id fields) :
    let value := Json.members fields
    (s.Fits → ∃ item, Item.decode value = .ok item ∧ item.Has id s ∧
      ∀ (client : Client) selected log, client.Answers selected s log value →
        (client.service.submit selected s log).1 = .ok item) ∧
    ∀ n, s.count = some n → Int64.maxValue.toInt < (n.toNat : Int) →
      Item.decode value = .error (.outOfRange n.toNat .count) ∧
      ∀ (client : Client) selected log, client.Answers selected s log value →
        (client.service.submit selected s log).1 =
          .error (.decode (DecodeFault.outOfRange n.toNat .count).message) := by
  intro value
  have finite := LabelForm.finite_confidence valid
  constructor
  · intro fits
    have checked := repeated.checked finite fits
    obtain ⟨item, reads⟩ := Item.exists_reads checked repeated.id
    have decoded := Item.decode_of_reads checked reads
    refine ⟨item, decoded, repeated.has_of_reads finite fits reads, ?_⟩
    intro client selected log answers
    rw [Client.submit_of_answers answers, Client.decodeAs, decoded]
  · intro n known large
    have refused := repeated.decode_large finite known large
    refine ⟨refused, ?_⟩
    intro client selected log answers
    rw [Client.submit_of_answers answers, Client.decodeAs, refused]

/-- A label with a count, and the members of an item that repeats both. -/
def counted (n : UInt64) : Submission where
  label := "YES"
  count := some n

def countedFields (n : UInt64) : List (String × Json) :=
  [("count", .ofNat n.toNat), ("human_label", .string "YES"), ("id", .string "a")]

theorem countedFields_repeat (n : UInt64) : (counted n).Repeated "a" (countedFields n) where
  names := by simp [countedFields]
  id := rfl
  label := rfl
  confidence := rfl
  notes := rfl
  user := rfl
  count := rfl
  others := by
    intro member inside unnamed
    simp only [countedFields, List.mem_cons, List.not_mem_nil, or_false] at inside
    rcases inside with rfl | rfl | rfl <;> simp at unnamed

theorem small_count_read :
    ({ label := "YES", count := "3" } : LabelForm).validate (some "a") = .ok (counted 3) ∧
      ∃ item, Item.decode (.members (countedFields 3)) = .ok item ∧ item.Has "a" (counted 3) := by
  have valid : ({ label := "YES", count := "3" } : LabelForm).validate (some "a") =
      .ok (counted 3) := by
    decide +kernel
  have fits : (counted 3).Fits := by
    intro n known
    cases known
    decide
  obtain ⟨item, decoded, has, -⟩ :=
    (repeated_label_read_iff_fits valid (countedFields_repeat 3)).1 fits
  exact ⟨valid, item, decoded, has⟩

/-- The least count that is sent and not read. -/
theorem large_count_refused :
    ({ label := "YES", count := "9223372036854775808" } : LabelForm).validate (some "a") =
        .ok (counted 9223372036854775808) ∧
      (counted 9223372036854775808).Repeated "a" (countedFields 9223372036854775808) ∧
      Item.decode (.members (countedFields 9223372036854775808)) =
        .error (.outOfRange 9223372036854775808 .count) :=
  ⟨by decide +kernel, countedFields_repeat _, rfl⟩

end Http
end ReviewDesk
