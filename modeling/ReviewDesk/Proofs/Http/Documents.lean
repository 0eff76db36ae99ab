import ReviewDesk.Http.Client
import ReviewDesk.Proofs.Item.Alike

/-!
Answers as items and pages: which documents are decoded, to what, and which changes of a document
make no difference, not even to the fault for which it is refused.
-/

namespace ReviewDesk.Http.Client

variable {α : Type} {decode : Json → Except DecodeFault α} {value : Json} {a : α}

theorem decodeAs_eq_ok : decodeAs decode (.ok value) = .ok a ↔ decode value = .ok a := by
  rw [decodeAs]
  cases decode value with
  | ok result =>
      exact ⟨fun same => congrArg _ (Except.ok.inj same),
        fun same => congrArg _ (Except.ok.inj same)⟩
  | error fault => exact ⟨nofun, nofun⟩

/-- Answers are decoded just where they spell an item or a page, and documents that are alike are
decoded to the same, or refused for the same fault. -/
theorem documents_are_decoded (ordered : value.Ordered) :
    (∀ item, decodeAs Item.decode (.ok value) = .ok item ↔ Item.Spelled value item) ∧
      (∀ page, decodeAs Page.decode (.ok value) = .ok page ↔ Page.Spelled value page) ∧
      (∀ other, other.Ordered → Item.Alike value other →
        decodeAs Item.decode (.ok value) = decodeAs Item.decode (.ok other)) ∧
      ∀ other, other.Ordered → Page.Alike value other →
        decodeAs Page.decode (.ok value) = decodeAs Page.decode (.ok other) := by
  refine ⟨fun item => decodeAs_eq_ok.trans (Item.decode_eq_ok ordered),
    fun page => decodeAs_eq_ok.trans (Page.decode_eq_ok ordered),
    fun other ordered' alike => ?_, fun other ordered' alike => ?_⟩
  · rw [decodeAs, decodeAs, Item.decode_congr ordered ordered' alike]
  · rw [decodeAs, decodeAs, Page.decode_congr ordered ordered' alike]

/-- A row of a page. -/
def countedRow : List (String × Json) :=
  [("count", .number (.whole 3)), ("id", .string "b")]

/-- The row with a member that is no field. -/
def seenRow : List (String × Json) :=
  Json.insertMember "seen" (.bool true) countedRow

/-- An object that is an item and a page at once. -/
def itemAndPage (row : List (String × Json)) : List (String × Json) :=
  [("id", .string "a"), ("items", .array [.members row]), ("total", .number (.whole 1))]

theorem itemAndPage_is_decoded :
    Json.Ordered (.members (itemAndPage countedRow)) ∧
      Item.Spelled (.members (itemAndPage countedRow)) { id := "a" } ∧
      Page.Spelled (.members (itemAndPage countedRow)) ⟨[{ id := "b", count := some 3 }], 1⟩ ∧
      decodeAs Item.decode (.ok (.members (itemAndPage countedRow))) =
        decodeAs Item.decode
          (.ok (.members (Json.insertMember "human_label" .null (itemAndPage countedRow)))) ∧
      decodeAs Page.decode (.ok (.members (itemAndPage countedRow))) =
        decodeAs Page.decode (.ok (.members (itemAndPage seenRow))) := by
  have parsed :
      Json.parse?
          "\x7b\"total\":1,\"items\":[\x7b\"id\":\"b\",\"count\":3\x7d],\"id\":\"a\"\x7d" =
        some (.members (itemAndPage countedRow)) := by with_unfolding_all rfl
  have parsed' :
      Json.parse? "[\x7b\"seen\":true,\"id\":\"b\",\"count\":3\x7d]" =
        some (.array [.members seenRow]) := by with_unfolding_all rfl
  have plain := Json.ordered_of_parse? parsed
  have unlabeled := Json.ordered_insertMember "human_label" .null plain
  have seen := Json.ordered_insertMember "items" (Json.ordered_of_parse? parsed') plain
  have alike : Page.Alike (.members (itemAndPage countedRow)) (.members (itemAndPage seenRow)) := by
    refine .members (.some (.array (.cons ?_ .nil))) rfl
    exact Item.Alike.insert_other (by decide : "seen" ∉ Item.fieldNames) _ _
  obtain ⟨item, page, asItem, asPage⟩ := documents_are_decoded plain
  refine ⟨plain, (item _).mp rfl, (page _).mp rfl, asItem _ unlabeled ?_, asPage _ seen alike⟩
  exact Item.Alike.insert_null rfl (by decide)

end ReviewDesk.Http.Client
