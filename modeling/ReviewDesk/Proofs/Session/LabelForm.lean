import ReviewDesk.Proofs.Decimal.Spelling
import ReviewDesk.Proofs.Except
import ReviewDesk.Proofs.Text.Trim
import ReviewDesk.Session.LabelForm

/-!
What a label form lets through. Its texts are looked at in the order selection, label, confidence,
count, and the form is refused for the first that will not do; a confidence and a count may be left
blank.
-/

namespace ReviewDesk
namespace LabelForm

open Decimal (Binary64 SpellsShare SpellsWord)
open Text (Blank trim)

theorem isFinite_of_isShare {x : Binary64} (share : isShare x) : x.isFinite := by
  cases x with
  | nan => cases share
  | infinite negative => cases negative <;> revert share <;> decide
  | finite negative m e canonical => rfl

theorem isShare_iff {x : Binary64} : isShare x = true ↔ x.WithinOne := by
  obtain ⟨_, one⟩ := Decimal.exists_one
  have bounds (finite : x.isFinite = true) :
      isShare x = true ↔ 0 ≤ x.units ∧ x.units ≤ Nat.pow 2 1074 := by
    rw [isShare, Bool.and_eq_true, Decimal.le_iff_units rfl finite,
      Decimal.le_iff_units finite (by rw [one]; rfl), Decimal.units_one]
    exact Iff.rfl
  constructor
  · intro share
    have finite := isFinite_of_isShare share
    obtain ⟨low, high⟩ := (bounds finite).mp share
    exact ⟨finite, low, high⟩
  · intro within
    exact (bounds within.finite).mpr ⟨within.zero_le, within.le_one⟩

variable {text : String} {fault : FormFault}

theorem readConfidence_of_blank (blank : Blank text) : readConfidence text = .ok none := by
  rw [readConfidence, (Text.trimToOption_eq_none_iff text).mpr blank]

theorem readConfidence_of_share {x : Binary64} (given : ¬Blank text)
    (parsed : Binary64.parse? (trim text) = some x) (share : x.WithinOne) :
    readConfidence text = .ok (some x) := by
  simp only [readConfidence, Text.trimToOption_of_not_blank given, parsed,
    if_pos (isShare_iff.mpr share)]

theorem readConfidence_of_other (given : ¬Blank text) (other : ¬SpellsShare (trim text)) :
    readConfidence text = .error (.invalidConfidence (trim text)) := by
  simp only [readConfidence, Text.trimToOption_of_not_blank given]
  cases parsed : Binary64.parse? (trim text) with
  | none => rfl
  | some x =>
      have large : ¬isShare x = true := fun share => other ⟨x, parsed, isShare_iff.mp share⟩
      exact if_neg large

theorem readConfidence_eq_ok_iff {confidence : Option Binary64} :
    readConfidence text = .ok confidence ↔ Blank text ∧ confidence = none ∨
      ¬Blank text ∧ ∃ x, Binary64.parse? (trim text) = some x ∧ x.WithinOne ∧
        confidence = some x := by
  by_cases blank : Blank text
  · simp [readConfidence_of_blank blank, blank, eq_comm]
  by_cases share : SpellsShare (trim text)
  · obtain ⟨x, spelled, within⟩ := share
    simp [readConfidence_of_share blank spelled within, blank, spelled, within, eq_comm]
  · rw [readConfidence_of_other blank share]
    refine ⟨nofun, ?_⟩
    rintro (⟨blank', -⟩ | ⟨-, x, spelled, within, -⟩)
    · exact (blank blank').elim
    · exact (share ⟨x, spelled, within⟩).elim

theorem withinOne_of_readConfidence {x : Binary64} (read : readConfidence text = .ok (some x)) :
    x.WithinOne := by
  obtain ⟨-, ⟨⟩⟩ | ⟨-, y, -, within, same⟩ := readConfidence_eq_ok_iff.mp read
  cases same
  exact within

theorem readCount_of_blank (blank : Blank text) : readCount text = .ok none := by
  rw [readCount, (Text.trimToOption_eq_none_iff text).mpr blank]

theorem readCount_of_word {n : UInt64} (given : ¬Blank text)
    (spelled : Decimal.word64? (trim text) = some n) : readCount text = .ok (some n) := by
  simp only [readCount, Text.trimToOption_of_not_blank given, spelled]

theorem readCount_of_other (given : ¬Blank text) (other : ¬SpellsWord (trim text)) :
    readCount text = .error (.invalidCount (trim text)) := by
  simp only [readCount, Text.trimToOption_of_not_blank given,
    Decimal.word64?_eq_none_iff.mpr other]

theorem readCount_eq_ok_iff {count : Option UInt64} :
    readCount text = .ok count ↔ Blank text ∧ count = none ∨
      ¬Blank text ∧ ∃ n, Decimal.Spells UInt64.size (trim text) n.toNat ∧ count = some n := by
  simp only [← Decimal.word64?_eq_some_iff]
  by_cases blank : Blank text
  · simp [readCount_of_blank blank, blank, eq_comm]
  by_cases word : SpellsWord (trim text)
  · rw [← not_not (a := SpellsWord _), ← Decimal.word64?_eq_none_iff] at word
    obtain ⟨n, spelled⟩ := Option.ne_none_iff_exists'.mp word
    simp [readCount_of_word blank spelled, blank, spelled, eq_comm]
  · simp [readCount_of_other blank word, blank, Decimal.word64?_eq_none_iff.mpr word]

theorem exists_readConfidence (sure : Blank text ∨ SpellsShare (trim text)) :
    ∃ value, readConfidence text = .ok value := by
  by_cases blank : Blank text
  · exact ⟨none, readConfidence_of_blank blank⟩
  · obtain ⟨x, parsed, share⟩ := sure.resolve_left blank
    exact ⟨some x, readConfidence_of_share blank parsed share⟩

theorem exists_readCount (counted : Blank text ∨ SpellsWord (trim text)) :
    ∃ value, readCount text = .ok value := by
  by_cases blank : Blank text
  · exact ⟨none, readCount_of_blank blank⟩
  · have spelled := counted.resolve_left blank
    rw [← not_not (a := SpellsWord _), ← Decimal.word64?_eq_none_iff] at spelled
    obtain ⟨n, word⟩ := Option.ne_none_iff_exists'.mp spelled
    exact ⟨some n, readCount_of_word blank word⟩

/-- Why a form is not sent: the first of its texts that will not do, or that there is no item to
send it for. -/
inductive Refused (f : LabelForm) : Option String → FormFault → Prop where
  | selection : Refused f none .missingSelection
  | label (id : String) (blank : Blank f.label) : Refused f (some id) .missingLabel
  | confidence (id : String) (labeled : ¬Blank f.label) (given : ¬Blank f.confidence)
      (wrong : ¬SpellsShare (trim f.confidence)) :
      Refused f (some id) (.invalidConfidence (trim f.confidence))
  | count (id : String) (labeled : ¬Blank f.label)
      (sure : Blank f.confidence ∨ SpellsShare (trim f.confidence)) (given : ¬Blank f.count)
      (wrong : ¬SpellsWord (trim f.count)) :
      Refused f (some id) (.invalidCount (trim f.count))

variable {f : LabelForm} {current : Option String}

theorem exists_refused_iff : (∃ fault, f.Refused current fault) ↔
    current = none ∨ Blank f.label ∨ (¬Blank f.confidence ∧ ¬SpellsShare (trim f.confidence)) ∨
      (¬Blank f.count ∧ ¬SpellsWord (trim f.count)) := by
  constructor
  · rintro ⟨fault, refused⟩
    cases refused with
    | selection => exact .inl rfl
    | label id blank => exact .inr (.inl blank)
    | confidence id labeled given wrong => exact .inr (.inr (.inl ⟨given, wrong⟩))
    | count id labeled sure given wrong => exact .inr (.inr (.inr ⟨given, wrong⟩))
  · intro wanting
    cases current with
    | none => exact ⟨_, .selection⟩
    | some id =>
        by_cases blank : Blank f.label
        · exact ⟨_, .label id blank⟩
        by_cases sure : Blank f.confidence ∨ SpellsShare (trim f.confidence)
        · rcases wanting with absent | blank' | unsure | ⟨given, wrong⟩
          · cases absent
          · exact (blank blank').elim
          · exact (not_or.mpr unsure sure).elim
          · exact ⟨_, .count id blank sure given wrong⟩
        · obtain ⟨given, wrong⟩ := not_or.mp sure
          exact ⟨_, .confidence id blank given wrong⟩

theorem validate_of_labeled (id : String) (labeled : ¬Blank f.label) :
    f.validate (some id) = readConfidence f.confidence >>= fun confidence =>
      readCount f.count >>= fun count => .ok
        { label := trim f.label
          confidence := confidence
          notes := Text.trimToOption f.notes
          user := Text.trimToOption f.user
          count := count } := by
  simp only [validate, Text.trimToOption_of_not_blank labeled]
  rfl

theorem validate_of_refused (refused : f.Refused current fault) :
    f.validate current = .error fault := by
  cases refused with
  | selection => rfl
  | label id blank => simp only [validate, (Text.trimToOption_eq_none_iff f.label).mpr blank]
  | confidence id labeled given wrong =>
      rw [validate_of_labeled id labeled, readConfidence_of_other given wrong]
      rfl
  | count id labeled sure given wrong =>
      obtain ⟨confidence, read⟩ := exists_readConfidence sure
      rw [validate_of_labeled id labeled, read, readCount_of_other given wrong]
      rfl

/-- The submission is what the texts of the form come to. -/
structure Gives (f : LabelForm) (s : Submission) : Prop where
  labeled : ¬Blank f.label
  label : s.label = trim f.label
  confidence : readConfidence f.confidence = .ok s.confidence
  notes : s.notes = Text.trimToOption f.notes
  user : s.user = Text.trimToOption f.user
  count : readCount f.count = .ok s.count

theorem validate_eq_ok_iff {s : Submission} :
    f.validate current = .ok s ↔ current.isSome ∧ f.Gives s := by
  constructor
  · intro valid
    cases current with
    | none => cases valid
    | some id =>
        by_cases blank : Blank f.label
        · rw [validate_of_refused (.label id blank)] at valid
          cases valid
        · rw [validate_of_labeled id blank] at valid
          obtain ⟨confidence, sure, rest⟩ := bind_eq_ok.mp valid
          obtain ⟨count, counted, same⟩ := bind_eq_ok.mp rest
          cases same
          exact ⟨rfl, {
            labeled := blank
            label := by dsimp only
            confidence := sure
            notes := by dsimp only
            user := by dsimp only
            count := counted }⟩
  · rintro ⟨selected, labeled, label, sure, notes, user, counted⟩
    obtain ⟨id, rfl⟩ := Option.isSome_iff_exists.mp selected
    rw [validate_of_labeled id labeled, sure, counted, ← label, ← notes, ← user]
    rfl

theorem exists_validate (fine : ¬∃ fault, f.Refused current fault) :
    ∃ submission, f.validate current = .ok submission := by
  rw [exists_refused_iff, not_or, not_or, not_or] at fine
  obtain ⟨selected, labeled, sure, counted⟩ := fine
  obtain ⟨id, rfl⟩ := Option.ne_none_iff_exists'.mp selected
  obtain ⟨confidence, read⟩ := exists_readConfidence (or_iff_not_and_not.mpr sure)
  obtain ⟨count, number⟩ := exists_readCount (or_iff_not_and_not.mpr counted)
  rw [validate_of_labeled id labeled, read, number]
  exact ⟨_, rfl⟩

/-- A form is refused for its first fault, and otherwise let through. -/
theorem validate_eq_error_iff : f.validate current = .error fault ↔ f.Refused current fault := by
  constructor
  · intro failed
    by_cases refused : ∃ first, f.Refused current first
    · obtain ⟨first, refused⟩ := refused
      have same := (validate_of_refused refused).symm.trans failed
      cases same
      exact refused
    · obtain ⟨submission, valid⟩ := exists_validate refused
      rw [valid] at failed
      cases failed
  · exact validate_of_refused

end LabelForm
end ReviewDesk
