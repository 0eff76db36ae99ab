import ReviewDesk.Session.Basic
import ReviewDesk.Time.Timestamp

/-!
A session as plain text, ready to be laid out. There is no text for a page without a number: the
program stops when it is to show one.
-/

namespace ReviewDesk

open Decimal (Binary64)

namespace View

/-- Stands where nothing is known. -/
def missing : String := "–"

def detailHint : String := "No item selected. Pick a row and press Enter."

structure Row where
  id : String
  detector : String
  modelLabel : String
  confidence : String
  modelConfidence : Option Binary64
  received : String
  status : String
  humanLabel : Option String
  selected : Bool
deriving DecidableEq

inductive Body where
  | loading
  | empty
  | failed (detail : String)
  | rows (rows : List Row)
deriving DecidableEq

inductive Detail where
  | placeholder (text : String)
  | item (id : String) (fields : List (String × String)) (fault : Option String)
deriving DecidableEq

structure Choice where
  key : Char
  label : String
  chosen : Bool
deriving DecidableEq

structure Field where
  title : String
  value : String
  focused : Bool
deriving DecidableEq

structure Form where
  choices : List Choice
  fields : List Field
  status : Option String
  statusIsFault : Bool
deriving DecidableEq

def textOr (text : Option String) : String :=
  (text.filter (· ≠ "")).getD missing

/-- A share in percent with one decimal place. -/
def confidenceText : Option Binary64 → String
  | some x => if x.isFinite then Decimal.onePlace (x.mul (.ofNat 100)) ++ "%" else missing
  | none => missing

/-- A timestamp at the offset zero; a text that is none stays as it is. -/
def timestampText : Option String → String
  | none => missing
  | some raw =>
    if (Text.trimToOption raw).isNone then missing
    else
      match Time.parse? raw with
      | some time => time.text
      | none => raw

def reviewState (item : Item) : String :=
  match item.humanLabel with
  | some label => "Labeled (" ++ label ++ ")"
  | none => "Pending"

def Row.ofItem (current : Option String) (item : Item) : Row where
  id := item.id
  detector := textOr item.detector
  modelLabel := textOr item.modelLabel
  confidence := confidenceText item.modelConfidence
  modelConfidence := item.modelConfidence
  received := timestampText item.received
  status := reviewState item
  humanLabel := item.humanLabel
  selected := current = some item.id

def Body.ofSession (s : Session) : Body :=
  match s.queue.status, s.queue.items with
  | .failed fault, _ => .failed fault.detail
  | .loading, [] => .loading
  | .idle, [] => .loading
  | .ready, [] => .empty
  | _, items => .rows (items.map (Row.ofItem s.selection.current))

def filterText (f : Filter) : String :=
  (if f.pendingOnly then "pending only" else "all items") ++
    f.detector.elim "" (" · detector " ++ ·) ++ " · limit " ++ toString f.limit.toNat

def detailFields (item : Item) : List (String × String) :=
  [("Detector", textOr item.detector), ("Status", textOr item.status),
    ("Result type", textOr item.resultType), ("Model label", textOr item.modelLabel),
    ("Model confidence", confidenceText item.modelConfidence),
    ("Count", item.count.elim missing fun n => toString n.toInt),
    ("Received", timestampText item.received), ("Updated", timestampText item.updated),
    ("Human label", textOr item.humanLabel),
    ("Human confidence", confidenceText item.humanConfidence),
    ("Reviewer", textOr item.humanUser), ("Notes", textOr item.humanNotes),
    ("Labeled at", timestampText item.humanLabeledAt), ("Image", textOr item.imageUri)]

def Detail.ofSelection (s : Selection) : Detail :=
  match s.detail, s.pending, s.fault with
  | some shown, _, fault => .item shown.id (detailFields shown) (fault.map (·.detail))
  | none, some id, _ => .placeholder ("Loading " ++ id ++ "…")
  | none, none, some fault => .placeholder ("Could not load item: " ++ fault.detail)
  | none, none, none => .placeholder detailHint

/-- The labels that have a key, from one to nine. -/
def choicesOf (labels : List String) (chosen : String) : List Choice :=
  (labels.take 9).zipIdx.map fun (label, index) =>
    ⟨Nat.digitChar (index + 1), label, chosen = label⟩

def statusText : FormStatus → Option String × Bool
  | .idle => (none, false)
  | .submitting => (some "Saving…", false)
  | .saved => (some "Label saved", false)
  | .invalid fault => (some fault.message, true)
  | .failed fault => (some ("Save failed: " ++ fault.detail), true)

def Form.ofLabelForm (f : LabelForm) (labels : List String) : Form where
  choices := choicesOf labels f.label
  fields := FormField.all.map fun field => ⟨field.title, f.get field, f.focus = field⟩
  status := (statusText f.status).1
  statusIsFault := (statusText f.status).2

end View

structure View where
  summary : String
  filterSummary : String
  pageLabel : String
  prevEnabled : Bool
  nextEnabled : Bool
  loading : Bool
  body : View.Body
  detail : View.Detail
  form : View.Form
deriving DecidableEq

def Session.formView (s : Session) : View.Form :=
  .ofLabelForm s.form s.labels

/-- The session on a page of that number. -/
def Session.viewAt (s : Session) (page : UInt64) : View :=
  let paging := s.queue.paging
  { summary := "Showing " ++ toString s.queue.items.length ++ " of " ++
      toString s.queue.total.toNat
    filterSummary := View.filterText s.queue.filter
    pageLabel := "page " ++ toString page.toNat ++ "/" ++ toString paging.pages.toNat
    prevEnabled := paging.prevEnabled
    nextEnabled := paging.nextEnabled
    loading := s.queue.isLoading
    body := .ofSession s
    detail := .ofSelection s.selection
    form := s.formView }

/-- The view of a session, if its page has a number. -/
def Session.view? (s : Session) : Option View :=
  s.queue.paging.page?.map s.viewAt

end ReviewDesk
