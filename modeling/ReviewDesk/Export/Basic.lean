import ReviewDesk.Export.Csv
import ReviewDesk.Export.Disk
import ReviewDesk.Export.Format
import ReviewDesk.Json.Writer
import ReviewDesk.Url.Basic

/-!
Exporting the items of a page to a file.
-/

namespace ReviewDesk

/-- The document of an item: its fields in order, and whether a label is known. -/
def Item.record (item : Item) : Json :=
  .members
    [("id", .string item.id), ("detector_id", .ofText? item.detector),
      ("model_label", .ofText? item.modelLabel),
      ("model_confidence", .ofBinary64? item.modelConfidence),
      ("result_type", .ofText? item.resultType), ("status", .ofText? item.status),
      ("count", .ofCount? item.count), ("received_ts", .ofText? item.received),
      ("updated_ts", .ofText? item.updated), ("human_label", .ofText? item.humanLabel),
      ("human_confidence", .ofBinary64? item.humanConfidence),
      ("human_user", .ofText? item.humanUser), ("human_notes", .ofText? item.humanNotes),
      ("human_labeled_at", .ofText? item.humanLabeledAt), ("image_uri", .ofText? item.imageUri),
      ("review_state", .string item.reviewState)]

namespace Export

/-- The text of an exported file. -/
def text (format : DataFormat) (items : List Item) : String :=
  match format with
  | .csv => Csv.ofItems items
  | .json => (Json.array (items.map Item.record)).pretty ++ "\n"

/-- Writes the items and tells how many there were. -/
def save (disk : Disk) (path : String) (format : DataFormat) (items : List Item) :
    Except DiskFault (Disk × Nat) :=
  (disk.write path (text format items)).map (·, items.length)

/-- A host as part of a file name. -/
def safeHost (host : String) : String :=
  String.ofList (host.toList.map fun c => if c.isAlphanum || c = '-' then c else '_')

/-- The file name for the pages of a server at a time. -/
def defaultName (base : Url) (time : String) (format : DataFormat) : String :=
  "review_" ++ safeHost (base.hostText?.getD "review") ++ "_" ++ time ++ "." ++ format.name

/-- Where a page goes: a given path, whose end may ask for another format, or a default name. -/
def target (output : Option String) (configured : DataFormat) (base : Url) (time : String) :
    String × DataFormat :=
  match output with
  | some path => (path, .ofPath path configured)
  | none => (defaultName base time configured, configured)

end Export
end ReviewDesk
