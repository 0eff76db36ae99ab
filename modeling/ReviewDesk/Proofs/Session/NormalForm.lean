import ReviewDesk.Proofs.Decimal.ReadBack
import ReviewDesk.Proofs.Session.LabelForm

/-!
Forms that come to the same. Blanks around the texts of a form make no difference, neither to what is
submitted nor to why it is refused; and a submission is its own normal form: its texts are trimmed,
and the form that is filled in with its fields gives it again.
-/

namespace ReviewDesk

open Decimal (Binary64)

/-- A submission as a form gives it. -/
structure Submission.Normal (s : Submission) : Prop where
  label : Text.Trimmed s.label
  confidence : ∀ x ∈ s.confidence, x.WithinOne
  notes : ∀ text ∈ s.notes, Text.Trimmed text
  user : ∀ text ∈ s.user, Text.Trimmed text

namespace LabelForm

/-- Both forms have the same texts, the second with blanks around them. -/
structure Padded (f g : LabelForm) : Prop where
  label : Text.Padded f.label g.label
  confidence : Text.Padded f.confidence g.confidence
  notes : Text.Padded f.notes g.notes
  user : Text.Padded f.user g.user
  count : Text.Padded f.count g.count

theorem validate_of_padded {f g : LabelForm} (padded : f.Padded g) (current : Option String) :
    g.validate current = f.validate current := by
  simp only [validate, readConfidence, readCount, Text.trimToOption_of_padded padded.label,
    Text.trimToOption_of_padded padded.confidence, Text.trimToOption_of_padded padded.notes,
    Text.trimToOption_of_padded padded.user, Text.trimToOption_of_padded padded.count]

theorem blank_empty : Text.Blank "" := by
  decide +kernel

/-- A confidence is read from its text, none from none. -/
theorem readConfidence_text {confidence : Option Binary64}
    (within : ∀ x ∈ confidence, x.WithinOne) :
    readConfidence (confidence.elim "" Decimal.Style.plain.text) = .ok confidence := by
  cases confidence with
  | none => exact readConfidence_of_blank blank_empty
  | some x =>
      have trimmed := Decimal.trimmed_plain_text x
      rw [Option.elim_some]
      refine readConfidence_of_share trimmed.not_blank ?_ (within x rfl)
      rw [trimmed.trim_eq, Decimal.parse?_plain_text]

theorem readCount_toString {n : ℕ} (small : n < UInt64.size) :
    readCount (toString n) = .ok (some (.ofNat n)) := by
  have trimmed : Text.Trimmed (toString n) := Decimal.trimmed_toString n
  refine readCount_of_word trimmed.not_blank ?_
  rw [trimmed.trim_eq, Decimal.word64?,
    Decimal.natural?_eq_some_iff.mpr (Decimal.spells_toString small), Option.map_some]

/-- A count is read from its text, none from none. -/
theorem readCount_text {known : Option Int64} {count : Option UInt64}
    (same : (count.map fun n => (n.toNat : ℤ)) = known.map Int64.toInt) :
    readCount (known.elim "" fun n => toString n.toInt) = .ok count := by
  cases known with
  | none =>
      rw [Option.map_eq_none_iff.mp same]
      exact readCount_of_blank blank_empty
  | some n =>
      obtain ⟨word, rfl, value⟩ := Option.map_eq_some_iff.mp same
      rw [Option.elim_some, ← value]
      have read := readCount_toString word.toNat_lt
      rwa [UInt64.ofNat_toNat] at read

/-- The form with the fields of a submission as its texts; what is absent is left empty. -/
def write (f : LabelForm) (s : Submission) : LabelForm :=
  { f with
    label := s.label
    confidence := s.confidence.elim "" Decimal.Style.plain.text
    notes := s.notes.getD ""
    user := s.user.getD ""
    count := s.count.elim "" fun n => toString n.toNat }

variable {s : Submission}

theorem Gives.normal {f : LabelForm} (gives : f.Gives s) : s.Normal where
  label := by
    rw [gives.label]
    exact Text.trimmed_trim gives.labeled
  confidence := by
    intro x known
    have read := gives.confidence
    rw [Option.mem_def.mp known] at read
    exact withinOne_of_readConfidence read
  notes := fun text member => Text.trimmed_of_mem_trimToOption (gives.notes ▸ member)
  user := fun text member => Text.trimmed_of_mem_trimToOption (gives.user ▸ member)

theorem gives_write (f : LabelForm) (normal : s.Normal) : (f.write s).Gives s where
  labeled := normal.label.not_blank
  label := normal.label.trim_eq.symm
  confidence := readConfidence_text normal.confidence
  notes := (Text.trimToOption_getD normal.notes).symm
  user := (Text.trimToOption_getD normal.user).symm
  count := by
    cases known : s.count with
    | none =>
        simp only [write, known]
        exact readCount_of_blank blank_empty
    | some n =>
        simp only [write, known, Option.elim_some]
        rw [readCount_toString n.toNat_lt, UInt64.ofNat_toNat]

/-- What can be submitted at all. -/
theorem exists_form_iff_normal (id : String) :
    (∃ f : LabelForm, f.validate (some id) = .ok s) ↔ s.Normal := by
  constructor
  · rintro ⟨f, valid⟩
    exact (validate_eq_ok_iff.mp valid).2.normal
  · intro normal
    exact ⟨_, validate_eq_ok_iff.mpr ⟨rfl, gives_write {} normal⟩⟩

/-- Forms that differ by blanks around their texts come to the same; and what a form gives is normal,
and is given by every form that has just its fields. -/
theorem validation_has_a_normal_form (f : LabelForm) (current : Option String) :
    (∀ g, f.Padded g → g.validate current = f.validate current) ∧
      ∀ s, f.validate current = .ok s →
        s.Normal ∧ ∀ g : LabelForm, (g.write s).validate current = .ok s := by
  refine ⟨fun g padded => validate_of_padded padded current, ?_⟩
  intro s valid
  obtain ⟨selected, gives⟩ := validate_eq_ok_iff.mp valid
  refine ⟨gives.normal, fun g => ?_⟩
  exact validate_eq_ok_iff.mpr ⟨selected, gives_write g gives.normal⟩

end LabelForm
end ReviewDesk
