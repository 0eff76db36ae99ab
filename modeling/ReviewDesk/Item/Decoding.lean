import ReviewDesk.Item.Basic
import ReviewDesk.Json.Writer

/-!
Items and pages from document values. Members of an object are checked in the order of their names,
elements of an array in the order of the fields; the first misfit is reported, and a field that has
to be there only after that.
-/

namespace ReviewDesk

open Decimal (Binary64)

/-- What was expected of a document value. -/
inductive Expected where
  | item
  | page
  | text
  | real
  | count
  | total
  | list
deriving DecidableEq

def Expected.name : Expected → String
  | .item => "struct QueueItem"
  | .page => "struct QueuePage"
  | .text => "a string"
  | .real => "f64"
  | .count => "i64"
  | .total => "u64"
  | .list => "a sequence"

inductive DecodeFault where
  | missingField (name : String)
  | wrongKind (found : Json) (expected : Expected)
  | outOfRange (value : Int) (expected : Expected)
  | tooFew (length : Nat) (expected : Expected) (needed : Nat)
  | tooMany (length : Nat)

namespace DecodeFault

/-- A value as it is named in a fault. -/
def describe : Json → String
  | .null => "null"
  | .bool value => "boolean `" ++ (if value then "true" else "false") ++ "`"
  | .number (.whole value) => "integer `" ++ toString value ++ "`"
  | .number (.real value) => "floating point `" ++ Decimal.Style.document.text value ++ "`"
  | .string value => "string " ++ Text.quoted value
  | .array _ => "sequence"
  | .members _ => "map"

def message : DecodeFault → String
  | .missingField name => "missing field `" ++ name ++ "`"
  | .wrongKind found expected =>
    "invalid type: " ++ describe found ++ ", expected " ++ expected.name
  | .outOfRange value expected =>
    "invalid value: integer `" ++ toString value ++ "`, expected " ++ expected.name
  | .tooFew length expected needed =>
    "invalid length " ++ toString length ++ ", expected " ++ expected.name ++ " with " ++
      toString needed ++ " elements"
  | .tooMany length =>
    "invalid length " ++ toString length ++ ", expected fewer elements in array"

end DecodeFault

namespace Json

def readText : Json → Except DecodeFault String
  | .string text => .ok text
  | value => .error (.wrongKind value .text)

/-- Whole numbers are read as binary ones too. -/
def readReal : Json → Except DecodeFault Binary64
  | .number (.real value) => .ok value
  | .number (.whole value) => .ok (.ofInt value)
  | value => .error (.wrongKind value .real)

def readCount : Json → Except DecodeFault Int64
  | .number (.whole value) =>
    if Int64.minValue.toInt ≤ value ∧ value ≤ Int64.maxValue.toInt then .ok (Int64.ofInt value)
    else .error (.outOfRange value .count)
  | value => .error (.wrongKind value .count)

def readTotal : Json → Except DecodeFault UInt64
  | .number (.whole value) =>
    if 0 ≤ value ∧ value < UInt64.size then .ok (UInt64.ofNat value.toNat)
    else .error (.outOfRange value .total)
  | value => .error (.wrongKind value .total)

/-- An absent field and `null` mean the same. -/
def readOptional {α : Type} (read : Json → Except DecodeFault α) :
    Json → Except DecodeFault (Option α)
  | .null => .ok none
  | value => (read value).map some

end Json

/-- The members of an array's elements, named in the order of the fields. -/
def nameElements (names : List String) (needed : Expected) (elements : List Json) :
    List (String × Json) × Except DecodeFault Unit :=
  (names.zip elements,
    if elements.length < names.length then
      .error (.tooFew elements.length needed names.length)
    else if names.length < elements.length then .error (.tooMany elements.length)
    else .ok ())

namespace Item

/-- The fields of an item, in order. -/
def fieldNames : List String :=
  ["id", "detector_id", "model_label", "model_confidence", "result_type", "status", "count",
    "received_ts", "updated_ts", "human_label", "human_confidence", "human_user", "human_notes",
    "human_labeled_at", "image_uri"]

/-- A member has the type of the field that it names; one that names none may be anything. -/
def checkMember (member : String × Json) : Except DecodeFault Unit :=
  let (name, value) := member
  if name = "id" then discard (value.readText)
  else if name = "model_confidence" ∨ name = "human_confidence" then
    discard (value.readOptional Json.readReal)
  else if name = "count" then discard (value.readOptional Json.readCount)
  else if name ∈ fieldNames then discard (value.readOptional Json.readText)
  else .ok ()

/-- The item of members that have the right types. -/
def ofMembers (fields : List (String × Json)) : Except DecodeFault Item := do
  let value (name : String) := (fields.lookup name).getD .null
  let text (name : String) := (value name).readOptional Json.readText
  let real (name : String) := (value name).readOptional Json.readReal
  match fields.lookup "id" with
  | none => .error (.missingField "id")
  | some id =>
    return {
      id := ← id.readText
      detector := ← text "detector_id"
      modelLabel := ← text "model_label"
      modelConfidence := ← real "model_confidence"
      resultType := ← text "result_type"
      status := ← text "status"
      count := ← (value "count").readOptional Json.readCount
      received := ← text "received_ts"
      updated := ← text "updated_ts"
      humanLabel := ← text "human_label"
      humanConfidence := ← real "human_confidence"
      humanUser := ← text "human_user"
      humanNotes := ← text "human_notes"
      humanLabeledAt := ← text "human_labeled_at"
      imageUri := ← text "image_uri" }

def decode : Json → Except DecodeFault Item
  | .members fields => do
    fields.forM checkMember
    ofMembers fields
  | .array elements => do
    let (fields, complete) := nameElements fieldNames .item elements
    fields.forM checkMember
    complete
    ofMembers fields
  | value => .error (.wrongKind value .item)

end Item

namespace Page

def fieldNames : List String := ["items", "total"]

def readItems : Json → Except DecodeFault (List Item)
  | .array elements => elements.mapM Item.decode
  | value => .error (.wrongKind value .list)

def checkMember (member : String × Json) : Except DecodeFault Unit :=
  let (name, value) := member
  if name = "items" then discard (readItems value)
  else if name = "total" then discard (value.readTotal)
  else .ok ()

def ofMembers (fields : List (String × Json)) : Except DecodeFault Page := do
  match fields.lookup "items", fields.lookup "total" with
  | none, _ => .error (.missingField "items")
  | _, none => .error (.missingField "total")
  | some items, some total => return { items := ← readItems items, total := ← total.readTotal }

def decode : Json → Except DecodeFault Page
  | .members fields => do
    fields.forM checkMember
    ofMembers fields
  | .array elements => do
    let (fields, complete) := nameElements fieldNames .page elements
    fields.forM checkMember
    complete
    ofMembers fields
  | value => .error (.wrongKind value .page)

end Page
end ReviewDesk
