import ReviewDesk.Proofs.Session.NormalForm

/-!
A form that has taken over an item, and has got a label since. It is let through if the confidence
and the count of the item can be submitted, and what is submitted is then what the item has; the
reviewer who was there before stays if the item names none.
-/

namespace ReviewDesk

open Text (Blank trim)

/-- The confidence of the item, if it has one, can be submitted. -/
def Item.Sure (item : Item) : Prop :=
  ∀ x ∈ item.humanConfidence, x.WithinOne

/-- The count of the item, if it has one, can be submitted. -/
def Item.Counted (item : Item) : Prop :=
  ∀ n ∈ item.count, 0 ≤ n.toInt

/-- Whom the form names after it has taken over an item. -/
def LabelForm.reviewer (f : LabelForm) (item : Item) : String :=
  match item.humanUser with
  | some user => if user = "" then f.user else user
  | none => f.user

/-- What the item has is submitted again, with a new label. -/
structure Submission.TakenOver (s : Submission) (f : LabelForm) (item : Item) (label : String) :
    Prop where
  label : s.label = trim label
  confidence : s.confidence = item.humanConfidence
  count : (s.count.map fun n => (n.toNat : Int)) = item.count.map Int64.toInt
  notes : s.notes = item.humanNotes.bind fun text => if Blank text then none else some (trim text)
  user : s.user = if Blank (f.reviewer item) then none else some (trim (f.reviewer item))

namespace LabelForm

variable (f : LabelForm) {item : Item} {label : String}

theorem prefill_user (item : Item) : (f.prefill item).user = f.reviewer item := by
  rw [prefill, reviewer]
  cases item.humanUser with
  | none => rfl
  | some user => by_cases empty : user = "" <;> simp [Option.filter, empty]

theorem readConfidence_prefill (sure : item.Sure) :
    readConfidence (f.prefill item).confidence = .ok item.humanConfidence :=
  readConfidence_text sure

theorem readConfidence_prefill_of_not_sure (unsure : ¬item.Sure) :
    readConfidence (f.prefill item).confidence =
      .error (.invalidConfidence (f.prefill item).confidence) := by
  obtain ⟨x, known, beyond⟩ : ∃ x, item.humanConfidence = some x ∧ ¬x.WithinOne := by
    simpa [Item.Sure] using unsure
  have text : (f.prefill item).confidence = Decimal.Style.plain.text x := by
    rw [prefill, known]
    rfl
  have trimmed := Decimal.trimmed_plain_text x
  have other : ¬Decimal.SpellsShare (trim (Decimal.Style.plain.text x)) := by
    rw [trimmed.trim_eq, Decimal.spellsShare_plain_text_iff]
    exact beyond
  rw [text, readConfidence_of_other trimmed.not_blank other, trimmed.trim_eq]

theorem readCount_prefill (counted : item.Counted) : ∃ count,
    readCount (f.prefill item).count = .ok count ∧
      (count.map fun n => (n.toNat : Int)) = item.count.map Int64.toInt := by
  obtain ⟨count, same⟩ : ∃ count : Option UInt64,
      (count.map fun n => (n.toNat : Int)) = item.count.map Int64.toInt := by
    cases known : item.count with
    | none => exact ⟨none, rfl⟩
    | some n =>
        obtain ⟨k, value⟩ := Int.eq_ofNat_of_zero_le (counted n known)
        have small : k < UInt64.size := by
          have most : n.toInt < 2 ^ 63 := n.toInt_lt
          rw [value] at most
          exact Nat.lt_trans (by exact_mod_cast most) (by decide)
        refine ⟨some (.ofNat k), ?_⟩
        rw [Option.map_some, Option.map_some, value, UInt64.toNat_ofNat_of_lt' small]
  exact ⟨count, readCount_text same, same⟩

theorem readCount_prefill_of_not_counted (uncounted : ¬item.Counted) :
    readCount (f.prefill item).count = .error (.invalidCount (f.prefill item).count) := by
  obtain ⟨n, known, negative⟩ : ∃ n, item.count = some n ∧ n.toInt < 0 := by
    simpa [Item.Counted] using uncounted
  have text : (f.prefill item).count = toString n.toInt := by
    rw [prefill, known]
    rfl
  have trimmed := Decimal.trimmed_toString n.toInt
  have other : ¬Decimal.SpellsWord (trim (toString n.toInt)) := by
    rw [trimmed.trim_eq]
    exact Decimal.not_spellsWord_toString negative
  rw [text, readCount_of_other trimmed.not_blank other, trimmed.trim_eq]

theorem takenOver_of_gives {s : Submission} (sure : item.Sure) (counted : item.Counted)
    (gives : ((f.prefill item).set .label label).Gives s) : s.TakenOver f item label where
  label := gives.label
  confidence := by
    have read := (readConfidence_prefill f sure).symm.trans gives.confidence
    exact (Except.ok.inj read).symm
  count := by
    obtain ⟨count, read, same⟩ := readCount_prefill f counted
    rw [← same, Except.ok.inj (gives.count.symm.trans read)]
  notes := by
    rw [gives.notes]
    change Text.trimToOption (item.humanNotes.getD "") = _
    cases item.humanNotes with
    | none => exact (Text.trimToOption_eq_none_iff "").mpr blank_empty
    | some text => exact Text.trimToOption_eq text
  user := by
    rw [gives.user, ← prefill_user]
    exact Text.trimToOption_eq _

theorem validate_set_label (id : String) (labeled : ¬Blank label) :
    (f.set .label label).validate (some id) = readConfidence f.confidence >>= fun confidence =>
      readCount f.count >>= fun count => .ok
        { label := trim label
          confidence := confidence
          notes := Text.trimToOption f.notes
          user := Text.trimToOption f.user
          count := count } := by
  have set : f.set .label label = { f with label := label } := rfl
  rw [set, validate_of_labeled id labeled]

theorem validate_of_not_sure (id : String) (labeled : ¬Blank label) (unsure : ¬item.Sure) :
    ((f.prefill item).set .label label).validate (some id) =
      .error (.invalidConfidence (f.prefill item).confidence) := by
  rw [validate_set_label _ id labeled, readConfidence_prefill_of_not_sure f unsure]
  rfl

theorem validate_of_not_counted (id : String) (labeled : ¬Blank label) (sure : item.Sure)
    (uncounted : ¬item.Counted) : ((f.prefill item).set .label label).validate (some id) =
      .error (.invalidCount (f.prefill item).count) := by
  rw [validate_set_label _ id labeled, readConfidence_prefill f sure,
    readCount_prefill_of_not_counted f uncounted]
  rfl

theorem exists_validate_iff (item : Item) (id : String) (labeled : ¬Blank label) :
    (∃ s, ((f.prefill item).set .label label).validate (some id) = .ok s) ↔
      item.Sure ∧ item.Counted := by
  constructor
  · rintro ⟨s, valid⟩
    by_contra wanting
    by_cases sure : item.Sure
    · cases valid.symm.trans (validate_of_not_counted f id labeled sure (wanting ⟨sure, ·⟩))
    · cases valid.symm.trans (validate_of_not_sure f id labeled sure)
  · rintro ⟨sure, counted⟩
    obtain ⟨count, read, -⟩ := readCount_prefill f counted
    rw [validate_set_label _ id labeled, readConfidence_prefill f sure, read]
    exact ⟨_, rfl⟩

/-- A form that is left as the item filled it in, but for its label, is refused for a confidence or a
count that cannot be submitted, in this order and with the text that the item was given; and
otherwise it gives what the item has. -/
theorem prefilled_form_is_read_back (f : LabelForm) (item : Item) (id : String) {label : String}
    (labeled : ¬Blank label) :
    let form := (f.prefill item).set .label label
    ((∃ s, form.validate (some id) = .ok s) ↔ item.Sure ∧ item.Counted) ∧
      (∀ s, form.validate (some id) = .ok s → s.TakenOver f item label) ∧
      (¬item.Sure →
        form.validate (some id) = .error (.invalidConfidence (f.prefill item).confidence)) ∧
      (item.Sure → ¬item.Counted →
        form.validate (some id) = .error (.invalidCount (f.prefill item).count)) := by
  intro form
  have through := exists_validate_iff f item id labeled
  refine ⟨through, ?_, validate_of_not_sure f id labeled, validate_of_not_counted f id labeled⟩
  intro s valid
  obtain ⟨sure, counted⟩ := through.mp ⟨s, valid⟩
  exact takenOver_of_gives f sure counted (validate_eq_ok_iff.mp valid).2

/-- An item that was labeled with a confidence of a half. -/
def halfSure : Item where
  id := "a"
  humanConfidence := some (.finite false (Nat.pow 2 52) (-53) (by decide))
  humanUser := some ""
  humanNotes := some " dim light "
  count := some 3

theorem half_sure_form_is_read_back :
    let before := LabelForm.set {} .user " ann"
    ¬Blank " cat " ∧
      ∃ s, ((before.prefill halfSure).set .label " cat ").validate (some "a") = .ok s ∧
        s.TakenOver before halfSure " cat " := by
  intro before
  have labeled : ¬Blank " cat " := by decide +kernel
  obtain ⟨through, taken, -⟩ := prefilled_form_is_read_back before halfSure "a" labeled
  have sure : halfSure.Sure := by
    rintro x ⟨⟩
    exact isShare_iff.mp (by decide +kernel)
  have counted : halfSure.Counted := by
    rintro n ⟨⟩
    decide
  obtain ⟨s, valid⟩ := through.mpr ⟨sure, counted⟩
  exact ⟨labeled, s, valid, taken s valid⟩

end LabelForm
end ReviewDesk
