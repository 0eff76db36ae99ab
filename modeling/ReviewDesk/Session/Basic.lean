import ReviewDesk.Session.LabelForm
import ReviewDesk.Session.Queue
import ReviewDesk.Session.Selection

/-!
A review session: the page, the open item and the label form, changed by what the reviewer asks for
and by the answers to requests. Requests are not made here; tickets say what to ask.
-/

namespace ReviewDesk

structure Session where
  queue : Queue
  selection : Selection
  form : LabelForm
  labels : List String
deriving DecidableEq

namespace Session

def start (filter : Filter) (labels : List String) (user : Option String) : Session where
  queue := { filter := filter }
  selection := {}
  form := { user := user.getD "" }
  labels := labels

/-- Puts a label of the vocabulary into the form; false when there is none at that place. -/
def chooseLabel (s : Session) (index : Nat) : Session × Bool :=
  match s.labels[index]? with
  | some label => ({ s with form := { s.form with label := label } }, true)
  | none => (s, false)

def beginLoad (s : Session) (filter : Filter) : Session × LoadTicket :=
  let (queue, ticket) := s.queue.beginLoad filter
  ({ s with queue := queue }, ticket)

def refresh (s : Session) : Session × LoadTicket :=
  s.beginLoad s.queue.filter

def loadAt (s : Session) (offset : UInt64) : Session × LoadTicket :=
  s.beginLoad { s.queue.filter with offset := offset }

def nextPage (s : Session) : Session × Option LoadTicket :=
  if s.queue.paging.nextEnabled then
    let (s, ticket) := s.loadAt s.queue.paging.next
    (s, some ticket)
  else (s, none)

def prevPage (s : Session) : Session × Option LoadTicket :=
  if s.queue.paging.prevEnabled then
    let (s, ticket) := s.loadAt s.queue.paging.prev
    (s, some ticket)
  else (s, none)

def setDetector (s : Session) (detector : Option String) : Session × LoadTicket :=
  let current := s.queue.filter
  s.beginLoad (.normalized current.pendingOnly detector current.limit 0)

def togglePending (s : Session) : Session × LoadTicket :=
  let current := s.queue.filter
  s.beginLoad (.normalized (!current.pendingOnly) current.detector current.limit 0)

/-- The next page size in a direction; a size that is no choice goes to the default one. -/
def steppedLimit (limit : UInt64) (grow : Bool) : Option UInt64 :=
  match Filter.limitChoices.findIdx? (· = limit) with
  | none => some Filter.defaultLimit
  | some index =>
    if grow then Filter.limitChoices[index + 1]?
    else if index = 0 then none else Filter.limitChoices[index - 1]?

/-- Changes the page size and stays on the page that holds the first item shown. -/
def stepLimit (s : Session) (grow : Bool) : Session × Option LoadTicket :=
  let current := s.queue.filter
  match steppedLimit current.limit grow with
  | none => (s, none)
  | some limit =>
    let (s, ticket) := s.beginLoad
      (.normalized current.pendingOnly current.detector limit (current.offset / limit * limit))
    (s, some ticket)

def reconcile (s : Session) : Session :=
  { s with selection := s.selection.reconcile s.queue.items }

/-- Takes over the open item's detail into the form. -/
def prefill (s : Session) : Session :=
  match s.selection.detail with
  | some item => { s with form := s.form.prefill item }
  | none => s

def onQueueResult (s : Session) (ticket : LoadTicket) (answer : Except TransportFault Page) :
    Session × LoadOutcome :=
  let (queue, outcome) := s.queue.applyLoad ticket answer
  let s := { s with queue := queue }
  (if outcome = .accepted then s.reconcile else s, outcome)

def beginSelect (s : Session) (id : String) : Session × SelectTicket :=
  let (selection, ticket) := s.selection.beginSelect id
  ({ s with selection := selection }, ticket)

def onDetailResult (s : Session) (ticket : SelectTicket) (answer : Except TransportFault Item) :
    Session × SelectOutcome :=
  let (selection, outcome) := s.selection.applySelect ticket answer
  let s := { s with selection := selection }
  (if outcome = .applied then s.prefill else s, outcome)

def beginSubmit (s : Session) : Session × Except FormFault SubmitTicket :=
  let (form, ticket) := s.form.beginSubmit s.selection.current
  ({ s with form := form }, ticket)

/-- A saved label reloads the page; the saved item is taken over when it is still the open one. -/
def onSubmitResult (s : Session) (answer : Except TransportFault Item) :
    Session × Option LoadTicket :=
  let s := { s with form := s.form.applySubmit answer }
  match answer with
  | .error _ => (s, none)
  | .ok item =>
    let (selection, open?) := s.selection.applySubmitted item
    let s := { s with selection := selection }
    let (s, reload) := (if open? then s.prefill else s).refresh
    (s, some reload)

end Session
end ReviewDesk
