import ReviewDesk.Item.Decoding
import ReviewDesk.Proofs.Json.Value

/-!
An object is an item if every member has the type of the field that it names and the id is there.
What is read of each field does not depend on the other members.
-/

namespace ReviewDesk
open Decimal (Binary64)

namespace Json

theorem readOptional_text (text : Option String) :
    (ofText? text).readOptional readText = .ok text := by
  cases text <;> rfl

theorem readOptional_real {x : Option Binary64}
    (finite : ∀ value, x = some value → value.isFinite) :
    (ofBinary64? x).readOptional readReal = .ok x := by
  cases x with
  | none => rfl
  | some value =>
      rw [ofBinary64?, Option.elim_some, ofBinary64, if_pos (finite value rfl)]
      rfl

theorem readOptional_ofNat {n : Nat} (fits : (n : Int) ≤ Int64.maxValue.toInt) :
    (ofNat n).readOptional readCount = .ok (some (Int64.ofInt n)) := by
  simp [ofNat, readOptional, readCount, fits, Except.map]

theorem readOptional_ofNat_error {n : Nat} (large : Int64.maxValue.toInt < (n : Int)) :
    (ofNat n).readOptional readCount = .error (.outOfRange n .count) := by
  simp [ofNat, readOptional, readCount, Int.not_le.mpr large, Except.map]

end Json

namespace Item

theorem discard_eq_ok {α : Type} {x : Except DecodeFault α} :
    discard x = .ok () ↔ ∃ a, x = .ok a := by
  cases x with
  | error fault =>
      constructor
      · intro failed
        cases failed
      · rintro ⟨a, failed⟩
        cases failed
  | ok a => exact ⟨fun _ => ⟨a, rfl⟩, fun _ => rfl⟩

theorem forM_eq_ok {α : Type} {xs : List α} {check : α → Except DecodeFault Unit} :
    xs.forM check = .ok () ↔ ∀ x ∈ xs, check x = .ok () := by
  induction xs with
  | nil => exact ⟨fun _ _ inside => (List.not_mem_nil inside).elim, fun _ => rfl⟩
  | cons x xs ih =>
      rw [List.forM_eq_forM] at ih ⊢
      rw [List.forM_cons, List.forall_mem_cons]
      cases first : check x with
      | error fault => exact ⟨nofun, fun checked => nomatch checked.1⟩
      | ok _ => exact ih.trans (and_iff_right rfl).symm

/-- The only fault there is, is reported. -/
theorem forM_error {fields : List (String × Json)} {fault : DecodeFault}
    {check : String × Json → Except DecodeFault Unit}
    (only : ∀ member ∈ fields, check member = .ok () ∨ check member = .error fault)
    (some_ : ∃ member ∈ fields, check member = .error fault) :
    fields.forM check = .error fault := by
  induction fields with
  | nil =>
      obtain ⟨_, inside, -⟩ := some_
      cases inside
  | cons member fields ih =>
      rw [List.forM_eq_forM, List.forM_cons]
      rcases only member List.mem_cons_self with fine | failed
      · rw [fine]
        apply ih fun other inside => only other (List.mem_cons_of_mem _ inside)
        obtain ⟨other, inside, failed⟩ := some_
        rcases List.mem_cons.mp inside with rfl | inside
        · rw [fine] at failed
          cases failed
        · exact ⟨other, inside, failed⟩
      · rw [failed]
        rfl

/-- A field that may be missing, as it is read. -/
def optional {α : Type} (read : Json → Except DecodeFault α) (fields : List (String × Json))
    (name : String) : Except DecodeFault (Option α) :=
  ((fields.lookup name).getD .null).readOptional read

/-- Every field of the item is what is read of the members. -/
structure Reads (fields : List (String × Json)) (item : Item) : Prop where
  id : fields.lookup "id" = some (.string item.id)
  detector : optional Json.readText fields "detector_id" = .ok item.detector
  modelLabel : optional Json.readText fields "model_label" = .ok item.modelLabel
  modelConfidence : optional Json.readReal fields "model_confidence" = .ok item.modelConfidence
  resultType : optional Json.readText fields "result_type" = .ok item.resultType
  status : optional Json.readText fields "status" = .ok item.status
  count : optional Json.readCount fields "count" = .ok item.count
  received : optional Json.readText fields "received_ts" = .ok item.received
  updated : optional Json.readText fields "updated_ts" = .ok item.updated
  humanLabel : optional Json.readText fields "human_label" = .ok item.humanLabel
  humanConfidence : optional Json.readReal fields "human_confidence" = .ok item.humanConfidence
  humanUser : optional Json.readText fields "human_user" = .ok item.humanUser
  humanNotes : optional Json.readText fields "human_notes" = .ok item.humanNotes
  humanLabeledAt : optional Json.readText fields "human_labeled_at" = .ok item.humanLabeledAt
  imageUri : optional Json.readText fields "image_uri" = .ok item.imageUri

variable {fields : List (String × Json)}

theorem ofMembers_of_reads {item : Item} (reads : Reads fields item) :
    ofMembers fields = .ok item := by
  obtain ⟨id, detector, modelLabel, modelConfidence, resultType, status, count, received, updated,
    humanLabel, humanConfidence, humanUser, humanNotes, humanLabeledAt, imageUri⟩ := reads
  simp only [optional] at *
  simp only [ofMembers, *]
  rfl

theorem decode_of_reads {item : Item} (checked : ∀ member ∈ fields, checkMember member = .ok ())
    (reads : Reads fields item) : decode (.members fields) = .ok item := by
  rw [decode, forM_eq_ok.mpr checked]
  exact ofMembers_of_reads reads

/-- A field that was checked can be read. -/
theorem exists_optional {α : Type} {read : Json → Except DecodeFault α} {name : String}
    (checked : ∀ member ∈ fields, checkMember member = .ok ())
    (typed : ∀ value, checkMember (name, value) = discard (value.readOptional read)) :
    ∃ x, optional read fields name = .ok x := by
  rw [optional]
  cases found : fields.lookup name with
  | none => exact ⟨none, rfl⟩
  | some value =>
      have fits := checked _ (Json.mem_of_lookup found)
      rw [typed] at fits
      exact discard_eq_ok.mp fits

theorem checkMember_real {name : String}
    (real : name = "model_confidence" ∨ name = "human_confidence") (value : Json) :
    checkMember (name, value) = discard (value.readOptional Json.readReal) := by
  rcases real with rfl | rfl <;> simp [checkMember]

theorem checkMember_count (value : Json) :
    checkMember ("count", value) = discard (value.readOptional Json.readCount) := by
  simp [checkMember]

/-- The fields that are neither the id nor numbers. -/
def textNames : List String :=
  ["detector_id", "model_label", "result_type", "status", "received_ts", "updated_ts",
    "human_label", "human_user", "human_notes", "human_labeled_at", "image_uri"]

theorem checkMember_text {name : String} (text : name ∈ textNames) (value : Json) :
    checkMember (name, value) = discard (value.readOptional Json.readText) := by
  have other : name ≠ "id" ∧ ¬(name = "model_confidence" ∨ name = "human_confidence") ∧
      name ≠ "count" ∧ name ∈ fieldNames := by
    revert name
    decide
  rw [checkMember, if_neg other.1, if_neg other.2.1, if_neg other.2.2.1, if_pos other.2.2.2]

theorem checkMember_other {name : String} (other : name ∉ fieldNames) (value : Json) :
    checkMember (name, value) = .ok () := by
  have apart {known : String} (inside : known ∈ fieldNames) : name ≠ known := fun same =>
    other (same ▸ inside)
  rw [checkMember, if_neg (apart (by decide)), if_neg, if_neg (apart (by decide)), if_neg other]
  exact not_or.mpr ⟨apart (by decide), apart (by decide)⟩

theorem exists_reads {id : String} (checked : ∀ member ∈ fields, checkMember member = .ok ())
    (named : fields.lookup "id" = some (.string id)) : ∃ item, Reads fields item := by
  have text {name : String} (member : name ∈ textNames) :=
    exists_optional checked (checkMember_text member)
  obtain ⟨detector, detector_eq⟩ := @text "detector_id" (by decide)
  obtain ⟨modelLabel, modelLabel_eq⟩ := @text "model_label" (by decide)
  obtain ⟨resultType, resultType_eq⟩ := @text "result_type" (by decide)
  obtain ⟨status, status_eq⟩ := @text "status" (by decide)
  obtain ⟨received, received_eq⟩ := @text "received_ts" (by decide)
  obtain ⟨updated, updated_eq⟩ := @text "updated_ts" (by decide)
  obtain ⟨humanLabel, humanLabel_eq⟩ := @text "human_label" (by decide)
  obtain ⟨humanUser, humanUser_eq⟩ := @text "human_user" (by decide)
  obtain ⟨humanNotes, humanNotes_eq⟩ := @text "human_notes" (by decide)
  obtain ⟨humanLabeledAt, humanLabeledAt_eq⟩ := @text "human_labeled_at" (by decide)
  obtain ⟨imageUri, imageUri_eq⟩ := @text "image_uri" (by decide)
  obtain ⟨modelConfidence, modelConfidence_eq⟩ :=
    exists_optional checked (checkMember_real (.inl rfl))
  obtain ⟨humanConfidence, humanConfidence_eq⟩ :=
    exists_optional checked (checkMember_real (.inr rfl))
  obtain ⟨count, count_eq⟩ := exists_optional checked checkMember_count
  exact ⟨⟨id, detector, modelLabel, modelConfidence, resultType, status, count, received, updated,
    humanLabel, humanConfidence, humanUser, humanNotes, humanLabeledAt, imageUri⟩,
    ⟨named, detector_eq, modelLabel_eq, modelConfidence_eq, resultType_eq, status_eq, count_eq,
      received_eq, updated_eq, humanLabel_eq, humanConfidence_eq, humanUser_eq, humanNotes_eq,
      humanLabeledAt_eq, imageUri_eq⟩⟩

end Item
end ReviewDesk
