import ReviewDesk.Item.Basic

/-!
Items as comma-separated records. A field with a comma, a quote or a line end stands between quotes,
a quote in it is doubled, and every record ends with a line feed.
-/

namespace ReviewDesk
namespace Csv

def needsQuotes (field : String) : Bool :=
  field.toList.any fun c => c == ',' || c == '"' || c == '\r' || c == '\n'

def fieldChars (field : String) : List Char :=
  if needsQuotes field then
    ['"'] ++ field.toList.flatMap (fun c => if c = '"' then ['"', '"'] else [c]) ++ ['"']
  else field.toList

def recordChars (fields : List String) : List Char :=
  [','].intercalate (fields.map fieldChars) ++ ['\n']

def text (records : List (List String)) : String :=
  String.ofList (records.flatMap recordChars)

def header : List String :=
  ["id", "detector_id", "status", "result_type", "model_label", "model_confidence", "count",
    "received_ts", "updated_ts", "human_label", "human_confidence", "human_user", "human_notes",
    "human_labeled_at", "image_uri", "review_state"]

def realField (value : Option Decimal.Binary64) : String :=
  value.elim "" Decimal.Style.plain.text

end Csv

/-- Whether a human label is known. -/
def Item.reviewState (item : Item) : String :=
  if item.isPending then "pending" else "labeled"

/-- The fields of an item's record; what is absent is empty. -/
def Item.csvFields (item : Item) : List String :=
  let text (field : Option String) := field.getD ""
  [item.id, text item.detector, text item.status, text item.resultType, text item.modelLabel,
    Csv.realField item.modelConfidence, item.count.elim "" fun n => toString n.toInt,
    text item.received, text item.updated, text item.humanLabel,
    Csv.realField item.humanConfidence, text item.humanUser, text item.humanNotes,
    text item.humanLabeledAt, text item.imageUri, item.reviewState]

/-- The file of a list of items: the header and one record each. -/
def Csv.ofItems (items : List Item) : String :=
  Csv.text (Csv.header :: items.map Item.csvFields)

end ReviewDesk
