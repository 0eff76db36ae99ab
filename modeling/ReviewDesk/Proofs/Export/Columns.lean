import Mathlib.Data.List.Basic
import ReviewDesk.Export.Basic
import ReviewDesk.Item.Decoding
import ReviewDesk.Proofs.Export.Disk
import ReviewDesk.Proofs.Export.Table

/-!
The columns of an exported table. Whatever the texts of the items hold, no record and no column is
shifted: below the name of a field stands that field.
-/

namespace ReviewDesk

/-- The text of the field of that name. An absent field has an empty one, a number its digits. -/
def Item.fieldText (item : Item) : String → String
  | "id" => item.id
  | "detector_id" => item.detector.getD ""
  | "model_label" => item.modelLabel.getD ""
  | "model_confidence" => item.modelConfidence.elim "" Decimal.Style.plain.text
  | "result_type" => item.resultType.getD ""
  | "status" => item.status.getD ""
  | "count" => item.count.elim "" fun n => toString n.toInt
  | "received_ts" => item.received.getD ""
  | "updated_ts" => item.updated.getD ""
  | "human_label" => item.humanLabel.getD ""
  | "human_confidence" => item.humanConfidence.elim "" Decimal.Style.plain.text
  | "human_user" => item.humanUser.getD ""
  | "human_notes" => item.humanNotes.getD ""
  | "human_labeled_at" => item.humanLabeledAt.getD ""
  | "image_uri" => item.imageUri.getD ""
  | "review_state" => if item.humanLabel = none then "pending" else "labeled"
  | _ => ""

namespace Export

theorem reviewState_eq (item : Item) :
    item.reviewState = if item.humanLabel = none then "pending" else "labeled" := by
  rw [Item.reviewState, Item.isPending]
  cases item.humanLabel <;> rfl

/-- The two lists of columns, of their names and of their values, agree. -/
theorem csvFields_eq (item : Item) : item.csvFields = Csv.header.map item.fieldText := by
  rw [Item.csvFields, reviewState_eq]
  rfl

theorem csvText_table (items : List Item) (table : List (List String)) :
    Csv.Table (text .csv items).toList table ↔
      table = Csv.header :: items.map fun item => Csv.header.map item.fieldText := by
  rw [← funext csvFields_eq]
  apply Csv.table_text_iff
  intro record inside
  rcases List.mem_cons.mp inside with rfl | inside
  · exact List.cons_ne_nil _ _
  · obtain ⟨item, -, rfl⟩ := List.mem_map.mp inside
    exact List.cons_ne_nil _ _

/-- The file that was written is a table in one way only: the names of the columns, one for each
field and one more, and after them a record for each item in its place, with as many texts as there
are columns, each the text of the field of that name. The last one says whether a label is known. -/
theorem csv_file_reads_back {disk after : Disk} {path : String} {items : List Item} {n : Nat}
    (saved : save disk path .csv items = .ok (after, n)) :
    n = items.length ∧ Csv.header.length = 16 ∧
      Csv.header.Perm (Item.fieldNames ++ ["review_state"]) ∧
      ∃ (text : String) (records : List (List String)), after.read? path = some text ∧
        Csv.read? text = some (Csv.header :: records) ∧
        (∀ table, Csv.Table text.toList table ↔ table = Csv.header :: records) ∧
        records.length = items.length ∧
        ∀ (k : Nat) (item : Item), items[k]? = some item → ∃ record, records[k]? = some record ∧
          record.length = 16 ∧
          (∀ (j : Nat) (name : String), Csv.header[j]? = some name →
            record[j]? = some (item.fieldText name)) ∧
          record.getLast? = some (if item.humanLabel = none then "pending" else "labeled") := by
  obtain ⟨rfl, written⟩ := read?_save saved
  have table := csvText_table items
  refine ⟨rfl, rfl, by decide, _, _, written, Csv.read?_of_table ((table _).mpr rfl), table,
    List.length_map _, ?_⟩
  intro k item found
  refine ⟨Csv.header.map item.fieldText, by rw [List.getElem?_map, found]; rfl, rfl, ?_, rfl⟩
  intro j name column
  rw [List.getElem?_map, column]
  rfl

/-- Two items with a comma, quotes and line ends in their texts, and a count below zero. -/
def awkwardItems : List Item :=
  [{ id := "a,\"b\"", humanLabel := some "", humanNotes := some "\r\n,\"", imageUri := some "\r" },
   { id := "\n", count := some (-3) }]

theorem awkwardItems_read_back :
    ∃ after, save {} "out.csv" .csv awkwardItems = .ok (after, 2) ∧
      ∃ (text : String) (records : List (List String)), after.read? "out.csv" = some text ∧
        Csv.read? text = some (Csv.header :: records) ∧ records.length = 2 := by
  have located : Disk.locate {} "out.csv" = .ok ["out.csv"] := by
    decide +kernel
  have saved : save {} "out.csv" .csv awkwardItems =
      .ok ({ files := [(["out.csv"], text .csv awkwardItems)] }, 2) := by
    rw [save, Disk.write, located]
    rfl
  obtain ⟨-, -, -, text, records, written, read, -, count, -⟩ := csv_file_reads_back saved
  exact ⟨_, saved, text, records, written, read, count⟩

end Export
end ReviewDesk
