import ReviewDesk.Decimal.Layout
import ReviewDesk.Json.Value

/-!
Items of the review queue, pages of them, and the labels that reviewers submit.
-/

namespace ReviewDesk

open Decimal (Binary64)

/-- An answered image query. It is pending as long as no human label is known. -/
structure Item where
  id : String
  detector : Option String := none
  modelLabel : Option String := none
  modelConfidence : Option Binary64 := none
  resultType : Option String := none
  status : Option String := none
  count : Option Int64 := none
  received : Option String := none
  updated : Option String := none
  humanLabel : Option String := none
  humanConfidence : Option Binary64 := none
  humanUser : Option String := none
  humanNotes : Option String := none
  humanLabeledAt : Option String := none
  imageUri : Option String := none
deriving DecidableEq

def Item.isPending (item : Item) : Bool :=
  item.humanLabel.isNone

/-- A page of the queue, and how many items the whole queue has. -/
structure Page where
  items : List Item
  total : UInt64
deriving DecidableEq

/-- A label given by a reviewer. -/
structure Submission where
  label : String
  confidence : Option Binary64 := none
  notes : Option String := none
  user : Option String := none
  count : Option UInt64 := none
deriving DecidableEq

namespace Json

def ofText? (text : Option String) : Json :=
  text.elim .null .string

def ofBinary64? (value : Option Binary64) : Json :=
  value.elim .null ofBinary64

def ofCount? (count : Option Int64) : Json :=
  count.elim .null fun n => .number (.whole n.toInt)

end Json

/-- The document of a submission; what is absent is left out. -/
def Submission.toJson (s : Submission) : Json :=
  .object <|
    [("label", .string s.label)] ++
      (s.confidence.map fun x => ("confidence", Json.ofBinary64 x)).toList ++
      (s.notes.map fun text => ("notes", .string text)).toList ++
      (s.user.map fun text => ("user", .string text)).toList ++
      (s.count.map fun n => ("count", Json.ofNat n.toNat)).toList

end ReviewDesk
