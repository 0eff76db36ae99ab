import ReviewDesk.Decimal.Layout
import ReviewDesk.Decimal.Reader
import ReviewDesk.Fault
import ReviewDesk.Item.Basic
import ReviewDesk.Text.Blank

/-!
The form in which a label is entered. Its fields hold raw texts; they are read when the form is
submitted.
-/

namespace ReviewDesk

open Decimal (Binary64)

inductive FormField where
  | label
  | confidence
  | notes
  | user
  | count
deriving DecidableEq

namespace FormField

def all : List FormField := [.label, .confidence, .notes, .user, .count]

def next : FormField → FormField
  | .label => .confidence
  | .confidence => .notes
  | .notes => .user
  | .user => .count
  | .count => .label

def title : FormField → String
  | .label => "Label"
  | .confidence => "Confidence"
  | .notes => "Notes"
  | .user => "User"
  | .count => "Count"

end FormField

inductive FormStatus where
  | idle
  | invalid (fault : FormFault)
  | submitting
  | saved
  | failed (fault : TransportFault)
deriving DecidableEq

structure SubmitTicket where
  id : String
  submission : Submission
deriving DecidableEq

structure LabelForm where
  label : String := ""
  confidence : String := ""
  notes : String := ""
  user : String := ""
  count : String := ""
  focus : FormField := .label
  status : FormStatus := .idle
deriving DecidableEq

namespace LabelForm

def get (f : LabelForm) : FormField → String
  | .label => f.label
  | .confidence => f.confidence
  | .notes => f.notes
  | .user => f.user
  | .count => f.count

def set (f : LabelForm) (field : FormField) (text : String) : LabelForm :=
  match field with
  | .label => { f with label := text }
  | .confidence => { f with confidence := text }
  | .notes => { f with notes := text }
  | .user => { f with user := text }
  | .count => { f with count := text }

def focusNext (f : LabelForm) : LabelForm :=
  { f with focus := f.focus.next }

/-- A value from zero to one. -/
def isShare (x : Binary64) : Bool :=
  (Binary64.zero false).le x && x.le (.ofNat 1)

/-- The confidence that a text gives; a blank text gives none. -/
def readConfidence (text : String) : Except FormFault (Option Binary64) :=
  match Text.trimToOption text with
  | none => .ok none
  | some raw =>
    match Binary64.parse? raw with
    | some value => if isShare value then .ok (some value) else .error (.invalidConfidence raw)
    | none => .error (.invalidConfidence raw)

def readCount (text : String) : Except FormFault (Option UInt64) :=
  match Text.trimToOption text with
  | none => .ok none
  | some raw =>
    match Decimal.word64? raw with
    | some value => .ok (some value)
    | none => .error (.invalidCount raw)

/-- The submission of the form for the open item; the first of its faults otherwise. -/
def validate (f : LabelForm) (current : Option String) : Except FormFault Submission :=
  match current, Text.trimToOption f.label with
  | none, _ => .error .missingSelection
  | some _, none => .error .missingLabel
  | some _, some label => do
    let confidence ← readConfidence f.confidence
    let count ← readCount f.count
    return {
      label := label
      confidence := confidence
      notes := Text.trimToOption f.notes
      user := Text.trimToOption f.user
      count := count }

def beginSubmit (f : LabelForm) (current : Option String) :
    LabelForm × Except FormFault SubmitTicket :=
  match f.validate current with
  | .ok submission =>
    ({ f with status := .submitting }, .ok ⟨current.getD "", submission⟩)
  | .error fault => ({ f with status := .invalid fault }, .error fault)

def applySubmit (f : LabelForm) (answer : Except TransportFault Item) : LabelForm :=
  match answer with
  | .ok _ => { f with status := .saved }
  | .error fault => { f with status := .failed fault }

/-- Takes over what is known of an item. The label is left to be given; a user stays unless the item
names one. -/
def prefill (f : LabelForm) (item : Item) : LabelForm :=
  { f with
    label := ""
    user := (item.humanUser.filter (· ≠ "")).getD f.user
    confidence := item.humanConfidence.elim "" Decimal.Style.plain.text
    notes := item.humanNotes.getD ""
    count := item.count.elim "" fun n => toString n.toInt }

/-- Empties all but the user. -/
def clear (f : LabelForm) : LabelForm :=
  { f with label := "", confidence := "", notes := "", count := "", status := .idle }

end LabelForm
end ReviewDesk
