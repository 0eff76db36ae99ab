import ReviewDesk.Console.Board
import ReviewDesk.Console.Dispatch
import ReviewDesk.Export.Basic

/-!
The console: a session, its board, and the keys that change them. Requests are collected in the
order in which they are sent off.
-/

namespace ReviewDesk

inductive KeyCode where
  | char (c : Char)
  | enter
  | escape
  | tab
  | backspace
  | up
  | down
  | left
  | pageUp
  | pageDown
deriving DecidableEq

structure KeyPress where
  code : KeyCode
  ctrl : Bool := false
  alt : Bool := false
  shift : Bool := false
deriving DecidableEq

structure Console where
  session : Session
  board : Board := {}
  disk : Disk := {}
  /-- Where the page is exported to. -/
  target : String × DataFormat
  /-- Requests that are sent off, the first one first. -/
  outbox : List Dispatch := []

namespace Console

def send (c : Console) (request : Dispatch) : Console :=
  { c with outbox := c.outbox ++ [request] }

/-- Goes on with a changed session and the load that it asks for. -/
def load (c : Console) (step : Session × LoadTicket) : Console :=
  { c with session := step.1 }.send (.load step.2)

/-- Goes on with a load if there is one. -/
def loadOr (c : Console) (step : Session × Option LoadTicket) (otherwise : Console → Console) :
    Console :=
  match step with
  | (s, some ticket) => c.load (s, ticket)
  | (_, none) => otherwise c

def notify (c : Console) (text : String) : Console :=
  { c with board := c.board.notify text }

def warn (c : Console) (text : String) : Console :=
  { c with board := c.board.warn text }

def mapForm (c : Console) (f : LabelForm → LabelForm) : Console :=
  { c with session := { c.session with form := f c.session.form } }

/-- A new session that asks for its first page. -/
def start (filter : Filter) (labels : List String) (user : Option String)
    (target : String × DataFormat) (disk : Disk) : Console :=
  let session := Session.start filter labels user
  { session := session, target := target, disk := disk : Console }.load (session.beginLoad filter)

def refresh (c : Console) : Console :=
  c.load c.session.refresh

def select (c : Console) (id : String) : Console :=
  let (s, ticket) := c.session.beginSelect id
  { c with session := s }.send (.select ticket)

def cursorDown (c : Console) : Console :=
  if c.board.cursor + 1 < c.board.rowIds.length then
    { c with board := { c.board with cursor := c.board.cursor + 1 } }
  else c

def cursorUp (c : Console) : Console :=
  { c with board := { c.board with cursor := c.board.cursor - 1 } }

/-- Opens the row under the cursor. -/
def openRow (c : Console) : Console :=
  match c.board.rowIds[c.board.cursor]? with
  | some id => c.select id
  | none => c

def nextPage (c : Console) : Console :=
  c.loadOr c.session.nextPage (·.notify "Already on the last page")

def prevPage (c : Console) : Console :=
  c.loadOr c.session.prevPage (·.notify "Already on the first page")

def stepLimit (c : Console) (grow : Bool) : Console :=
  c.loadOr (c.session.stepLimit grow) id

def startFilter (c : Console) : Console :=
  { c with
    board := { c.board with
      filterMode := true
      filterInput := c.session.queue.filter.detector.getD "" } }

def chooseLabel (c : Console) (digit : Char) : Console :=
  match c.session.chooseLabel (digit.toNat - '1'.toNat) with
  | (s, true) => { c with session := s }
  | (_, false) => c.warn ("No label bound to " ++ digit.toString)

def submit (c : Console) : Console :=
  if c.session.form.status = .submitting then c.notify "A label is already being saved"
  else
    match c.session.beginSubmit with
    | (s, .ok ticket) => { c with session := s }.send (.submit ticket)
    | (s, .error fault) => { c with session := s }.warn fault.message

def exportPage (c : Console) : Console :=
  match Export.save c.disk c.target.1 c.target.2 c.session.queue.items with
  | .ok (disk, count) =>
    { c with disk := disk }.notify
      ("Exported " ++ toString count ++ " items to " ++ c.target.1)
  | .error fault => c.warn ("Export failed: " ++ fault.message)

/-- A character key where keys are commands. -/
def handleChar (c : Console) (ch : Char) : Console :=
  match ch with
  | 'j' => c.cursorDown
  | 'k' => c.cursorUp
  | 'n' => c.nextPage
  | 'p' => c.prevPage
  | 'r' => c.refresh
  | 'a' => c.load c.session.togglePending
  | '/' => c.startFilter
  | '+' => c.stepLimit true
  | '=' => c.stepLimit true
  | '-' => c.stepLimit false
  | '_' => c.stepLimit false
  | 'e' => { c with board := { c.board with editing := true } }
  | 's' => c.submit
  | 'c' => c.mapForm LabelForm.clear
  | 'x' => c.exportPage
  | '?' => { c with board := { c.board with helpMode := true } }
  | ch => if '1' ≤ ch ∧ ch ≤ '9' then c.chooseLabel ch else c

/-- A key that ends the console. -/
def isQuit (key : KeyPress) : Bool :=
  key.code == .char 'q' || (key.code == .char 'c' && key.ctrl)

/-- A key where keys are commands. -/
def handleKey (c : Console) (key : KeyPress) : Console :=
  if isQuit key then c
  else
    match key.code with
    | .char ch => c.handleChar ch
    | .down => c.cursorDown
    | .up => c.cursorUp
    | .enter => c.openRow
    | .pageDown => c.nextPage
    | .pageUp => c.prevPage
    | .tab => c.mapForm LabelForm.focusNext
    | .escape => c
    | .backspace => c
    | .left => c

/-- A key while a text is typed; characters with control or alt are no text. -/
def editText (text : String) (key : KeyPress) : String :=
  match key.code with
  | .backspace => String.ofList text.toList.dropLast
  | .char ch =>
    if ch = 'u' ∧ key.ctrl then ""
    else if key.ctrl ∨ key.alt then text
    else text.push ch
  | _ => text

/-- A key while the detector to filter by is typed. -/
def handleFilterKey (c : Console) (key : KeyPress) : Console :=
  match key.code with
  | .escape => { c with board := { c.board with filterMode := false } }
  | .enter =>
    let detector := c.board.filterInput
    { c with board := { c.board with filterMode := false, filterInput := "" } }.load
      (c.session.setDetector (some detector))
  | _ => { c with board := { c.board with filterInput := editText c.board.filterInput key } }

/-- A key while a field of the form is typed. -/
def handleEditKey (c : Console) (key : KeyPress) : Console :=
  match key.code with
  | .escape => { c with board := { c.board with editing := false } }
  | .enter => { c with board := { c.board with editing := false } }
  | .tab => c.mapForm LabelForm.focusNext
  | _ => c.mapForm fun form => form.set form.focus (editText (form.get form.focus) key)

/-- A key while the help is shown; some of them close it. -/
def handleHelpKey (c : Console) (key : KeyPress) : Console :=
  if key.code = .escape ∨ key.code = .enter ∨ key.code = .char '?' then
    { c with board := { c.board with helpMode := false } }
  else c

/-- A key, read in the mode that the board is in. False when the console is to end. -/
def route (c : Console) (key : KeyPress) : Console × Bool :=
  if c.board.helpMode then (c.handleHelpKey key, true)
  else if c.board.filterMode then (c.handleFilterKey key, true)
  else if c.board.editing then (c.handleEditKey key, true)
  else (c.handleKey key, !isQuit key)

/-- Takes in an answer, and tells what there is to tell. -/
def receive (c : Console) (arrival : Arrival) : Console × Option String :=
  let (s, requests, notice) := c.session.receive arrival
  ({ c with session := s, outbox := c.outbox ++ requests }, notice)

/-- Takes in an answer and shows what there is to tell. -/
def arrive (c : Console) (arrival : Arrival) : Console :=
  match c.receive arrival with
  | (c, some notice) => if arrival.isFault then c.warn notice else c.notify notice
  | (c, none) => c

/-- Opens the row at a cell of the screen, where keys are commands. -/
def click (c : Console) (x y : UInt16) : Console :=
  if c.board.helpMode || c.board.filterMode || c.board.editing then c
  else
    match c.board.rowAt? x y with
    | some (index, id) => { c with board := { c.board with cursor := index } }.select id
    | none => c

/-- Takes over the page as it is now, if there is a view of it. The console stops otherwise. -/
def sync? (c : Console) : Option Console :=
  c.session.view?.map fun view => { c with board := c.board.sync view }

end Console
end ReviewDesk
