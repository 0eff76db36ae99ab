import ReviewDesk.Export.Basic
import ReviewDesk.Proofs.Export.Disk
import ReviewDesk.Proofs.Item.Decoding
import ReviewDesk.Proofs.Json.Document

/-!
An exported document holds every item: what is read from the file are the items that were written,
in their order. The numbers that are not whole have to be readable from their own texts.
-/

namespace ReviewDesk

open Decimal (Binary64)

namespace Json

theorem sorted_ofText? (text : Option String) : (ofText? text).sorted = ofText? text := by
  cases text <;> simp only [ofText?, Option.elim_none, Option.elim_some, sorted]

theorem sorted_ofBinary64? (value : Option Binary64) :
    (ofBinary64? value).sorted = ofBinary64? value := by
  cases value with
  | none => simp only [ofBinary64?, Option.elim_none, sorted]
  | some x =>
      rw [ofBinary64?, Option.elim_some, ofBinary64]
      split <;> simp only [sorted]

theorem sorted_ofCount? (count : Option Int64) : (ofCount? count).sorted = ofCount? count := by
  cases count <;> simp only [ofCount?, Option.elim_none, Option.elim_some, sorted]

theorem legible_ofText? (depth : Nat) (text : Option String) : Legible depth (ofText? text) := by
  cases text with
  | none => exact .null depth
  | some text => exact .string depth text

theorem legible_ofBinary64? (depth : Nat) {value : Option Binary64}
    (back : ∀ x, value = some x → (Number.real x).ReadsBack) :
    Legible depth (ofBinary64? value) := by
  cases value with
  | none => exact .null depth
  | some x =>
      rw [ofBinary64?, Option.elim_some, ofBinary64]
      split
      · exact .number depth (back x rfl)
      · exact .null depth

theorem legible_ofCount? (depth : Nat) (count : Option Int64) : Legible depth (ofCount? count) := by
  cases count with
  | none => exact .null depth
  | some n =>
      have low := n.minValue_le_toInt
      have high : n.toInt < UInt64.size := Int.lt_of_lt_of_le n.toInt_lt (by decide)
      exact .number depth (Number.whole_reads_back low high)

theorem readOptional_ofCount? (count : Option Int64) :
    (ofCount? count).readOptional readCount = .ok count := by
  cases count with
  | none => rfl
  | some n =>
      have range := And.intro n.minValue_le_toInt n.toInt_le
      change Except.map some (readCount (.number (.whole n.toInt))) = _
      rw [readCount, if_pos range, Int64.ofInt_toInt]
      rfl

end Json

namespace Item

/-- The floats of an item are numbers that can be read from their texts. -/
def FloatsReadBack (item : Item) : Prop :=
  ∀ x, item.modelConfidence = some x ∨ item.humanConfidence = some x →
    x.isFinite ∧ (Number.real x).ReadsBack

def recordMembers (item : Item) : List (String × Json) :=
  match item.record with
  | .members fields => fields
  | _ => []

theorem record_eq (item : Item) : item.record = .members item.recordMembers :=
  rfl

theorem sorted_record (item : Item) : item.record.sorted = Json.object item.recordMembers := by
  rw [record_eq, Json.sorted]
  simp only [recordMembers, record, List.map_cons, List.map_nil, Json.sorted_ofText?,
    Json.sorted_ofBinary64?, Json.sorted_ofCount?, Json.sorted]

theorem legible_record {item : Item} (floats : item.FloatsReadBack) (depth : Nat) :
    Json.Legible (depth + 1) item.record := by
  have text := Json.legible_ofText? depth
  have model := Json.legible_ofBinary64? depth fun x known => (floats x (.inl known)).2
  have human := Json.legible_ofBinary64? depth fun x known => (floats x (.inr known)).2
  have count := Json.legible_ofCount? depth item.count
  apply Json.Legible.members
  simp only [List.forall_mem_cons]
  exact ⟨.string _ _, text _, text _, model, text _, text _, count, text _, text _, text _, human,
    text _, text _, text _, text _, .string _ _,
    List.forall_mem_nil _⟩

theorem checkMember_record {item : Item} (floats : item.FloatsReadBack) :
    ∀ member ∈ item.recordMembers, checkMember member = .ok () := by
  have text {name : String} (field : Option String) (known : name ∈ textNames) :
      checkMember (name, .ofText? field) = .ok () := by
    rw [checkMember_text known, Json.readOptional_text]
    rfl
  have model : checkMember ("model_confidence", .ofBinary64? item.modelConfidence) = .ok () := by
    rw [checkMember_real (.inl rfl),
      Json.readOptional_real fun x known => (floats x (.inl known)).1]
    rfl
  have human : checkMember ("human_confidence", .ofBinary64? item.humanConfidence) = .ok () := by
    rw [checkMember_real (.inr rfl),
      Json.readOptional_real fun x known => (floats x (.inr known)).1]
    rfl
  have count : checkMember ("count", .ofCount? item.count) = .ok () := by
    rw [checkMember_count, Json.readOptional_ofCount?]
    rfl
  have state : checkMember ("review_state", .string item.reviewState) = .ok () := by
    simp [checkMember, fieldNames]
  simp only [recordMembers, record, List.forall_mem_cons]
  exact ⟨rfl, text _ (by decide), text _ (by decide), model, text _ (by decide), text _ (by decide),
    count, text _ (by decide), text _ (by decide), text _ (by decide), human, text _ (by decide),
    text _ (by decide), text _ (by decide), text _ (by decide), state,
    List.forall_mem_nil _⟩

/-- Members that have the values of a record, in whatever order, are read as the item. -/
theorem reads_record {item : Item} (floats : item.FloatsReadBack) {members : List (String × Json)}
    (same : ∀ name, members.lookup name = item.recordMembers.reverse.lookup name) :
    Reads members item := by
  have text {name : String} {field : Option String}
      (found : item.recordMembers.reverse.lookup name = some (.ofText? field)) :
      optional Json.readText members name = .ok field := by
    rw [optional, same, found]
    exact Json.readOptional_text field
  have model : optional Json.readReal members "model_confidence" = .ok item.modelConfidence := by
    rw [optional, same]
    exact Json.readOptional_real fun x known => (floats x (.inl known)).1
  have human : optional Json.readReal members "human_confidence" = .ok item.humanConfidence := by
    rw [optional, same]
    exact Json.readOptional_real fun x known => (floats x (.inr known)).1
  have count : optional Json.readCount members "count" = .ok item.count := by
    rw [optional, same]
    exact Json.readOptional_ofCount? item.count
  exact ⟨(same "id").trans rfl, text rfl, text rfl, model, text rfl, text rfl, count, text rfl,
    text rfl, text rfl, human, text rfl, text rfl, text rfl, text rfl⟩

/-- The record of an item, as it is read from a file. -/
theorem decode_sorted_record {item : Item} (floats : item.FloatsReadBack) :
    decode item.record.sorted = .ok item ∧
      item.record.sorted.get? "review_state" = some (.string item.reviewState) := by
  obtain ⟨members, object, known, same⟩ := Json.exists_object item.recordMembers
  have checked := fun member inside => checkMember_record floats member (known member inside)
  rw [sorted_record, object]
  exact ⟨decode_of_reads checked (reads_record floats same), (same "review_state").trans rfl⟩

end Item

namespace Export

theorem legible_records {items : List Item} (floats : ∀ item ∈ items, item.FloatsReadBack) :
    Json.Legible Json.maxDepth (.array (items.map Item.record)) := by
  apply Json.Legible.array
  intro value inside
  obtain ⟨item, member, rfl⟩ := List.mem_map.mp inside
  exact Item.legible_record (floats item member) _

theorem parse?_text {items : List Item} (floats : ∀ item ∈ items, item.FloatsReadBack) :
    Json.parse? (text .json items) = some (.array (items.map fun item => item.record.sorted)) := by
  have parsed := (legible_records floats).parse?_pretty
  rw [Json.sorted, List.map_map] at parsed
  exact parsed

theorem reviewState_eq_pending_iff (item : Item) :
    item.reviewState = "pending" ↔ item.humanLabel = none := by
  rw [Item.reviewState, Item.isPending]
  cases item.humanLabel <;> simp

/-- The file that was written is an array of as many elements as there were items; each is read as
the item in its place, and says that the item is pending if no label is known. -/
theorem json_file_reads_back {disk after : Disk} {path : String} {items : List Item} {n : Nat}
    (saved : save disk path .json items = .ok (after, n))
    (floats : ∀ item ∈ items, item.FloatsReadBack) :
    n = items.length ∧ ∃ (text : String) (values : List Json), after.read? path = some text ∧
      Json.parse? text = some (.array values) ∧ values.length = items.length ∧
      ∀ (k : Nat) (item : Item), items[k]? = some item → ∃ value, values[k]? = some value ∧
        Item.decode value = .ok item ∧
        (value.get? "review_state" = some (.string "pending") ↔ item.humanLabel = none) := by
  rw [save] at saved
  cases written : disk.write path (text .json items) with
  | error fault =>
      rw [written] at saved
      cases saved
  | ok disk =>
      rw [written] at saved
      cases saved
      refine ⟨rfl, _, _, Disk.read?_write written, parse?_text floats, List.length_map _, ?_⟩
      intro k item found
      have inside := List.mem_of_getElem? found
      obtain ⟨decoded, state⟩ := Item.decode_sorted_record (floats item inside)
      refine ⟨item.record.sorted, by rw [List.getElem?_map, found]; rfl, decoded, ?_⟩
      rw [state, ← reviewState_eq_pending_iff, Option.some.injEq, Json.string.injEq]

/-- An item with a label given with a confidence of one half, and a pending one. -/
def labeledAndPending : List Item :=
  [{ id := "a \"\n\u2028", humanLabel := some "YES",
     humanConfidence := some (.finite false 4503599627370496 (-53) (by decide)) },
   { id := "b", count := some (-3) }]

theorem floatsReadBack_labeledAndPending : ∀ item ∈ labeledAndPending, item.FloatsReadBack := by
  have half : (Number.real (.finite false 4503599627370496 (-53) (by decide))).ReadsBack := by
    rw [Number.ReadsBack]
    decide +kernel
  intro item inside x known
  simp only [labeledAndPending, List.mem_cons, List.not_mem_nil, or_false] at inside
  rcases inside with rfl | rfl
  · rcases known with none | same
    · cases none
    · cases same
      exact ⟨rfl, half⟩
  · rcases known with none | none <;> cases none

theorem labeledAndPending_read_back :
    ∃ after, save {} "out.json" .json labeledAndPending = .ok (after, 2) ∧
      ∃ (text : String) (values : List Json), after.read? "out.json" = some text ∧
        Json.parse? text = some (.array values) ∧ values.length = 2 ∧
        ∀ (k : Nat) (item : Item), labeledAndPending[k]? = some item →
          ∃ value, values[k]? = some value ∧ Item.decode value = .ok item ∧
            (value.get? "review_state" = some (.string "pending") ↔ item.humanLabel = none) := by
  have located : Disk.locate {} "out.json" = .ok ["out.json"] := by
    decide +kernel
  have saved : save {} "out.json" .json labeledAndPending =
      .ok ({ files := [(["out.json"], text .json labeledAndPending)] }, 2) := by
    rw [save, Disk.write, located]
    rfl
  exact ⟨_, saved, (json_file_reads_back saved floatsReadBack_labeledAndPending).2⟩

end Export
end ReviewDesk
