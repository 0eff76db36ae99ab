import ReviewDesk.Console.Rect
import ReviewDesk.View

/-!
What the console keeps beside the session: the cursor in the table, the mode that keys are read in,
and the last notices, newest first.
-/

namespace ReviewDesk

structure Notice where
  text : String
  isFault : Bool
deriving DecidableEq

structure Board where
  cursor : Nat := 0
  selectedRow : Option Nat := none
  /-- The first row of the table that is shown. -/
  firstRow : Nat := 0
  tableArea : Option Rect := none
  rowIds : List String := []
  helpMode : Bool := false
  filterMode : Bool := false
  filterInput : String := ""
  editing : Bool := false
  notices : List Notice := []
deriving DecidableEq

namespace Board

def maxNotices : Nat := 6

def push (b : Board) (notice : Notice) : Board :=
  { b with notices := (notice :: b.notices).take maxNotices }

def notify (b : Board) (text : String) : Board :=
  b.push ⟨text, false⟩

def warn (b : Board) (text : String) : Board :=
  b.push ⟨text, true⟩

/-- The row at a cell of the screen, when a table is shown there. -/
def rowAt? (b : Board) (x y : UInt16) : Option (Nat × String) := do
  let area ← b.tableArea
  if area.contains x y then
    let row ← area.tableRow? y
    let index := row + b.firstRow
    let id ← b.rowIds[index]?
    some (index, id)
  else none

/-- Takes over the rows that are shown. The cursor stays among them. -/
def sync (b : Board) (view : View) : Board :=
  let ids := match view.body with
    | .rows rows => rows.map View.Row.id
    | _ => []
  if ids.isEmpty then { b with rowIds := [], cursor := 0, selectedRow := none, firstRow := 0 }
  else
    let cursor := min b.cursor (ids.length - 1)
    { b with rowIds := ids, cursor := cursor, selectedRow := some cursor }

end Board
end ReviewDesk
