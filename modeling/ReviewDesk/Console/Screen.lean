import ReviewDesk.Console.Basic
import ReviewDesk.Console.Picture
import ReviewDesk.Console.Wrap
import ReviewDesk.Text.Fit
import ReviewDesk.Text.Split

/-!
The screen of the console: 160 cells wide and 40 lines high. The header stands above the items,
which have the detail and the form at their right, and the status stands below.
-/

namespace ReviewDesk

open Text (Glyph glyphs)

namespace Screen

def width : Nat := 160

def itemsArea : Rect := Rect.ofCorner 0 4 90 31

/-- The rows of the table that are shown at once. -/
def tableRows : Nat := 28

/-- A line made of parts. -/
def line (parts : List String) : List Glyph :=
  parts.flatMap glyphs

/-- The lines of a text, each one on its own. -/
def plain (text : String) : List (List Glyph) :=
  (Text.lines text).map glyphs

def wrapped (trim : Bool) (width : Nat) (lines : List (List Glyph)) : List (List Glyph) :=
  lines.flatMap (wrap trim width)

def header (v : View) : Picture :=
  Picture.cutBox "Review Queue" width 4
    [line [v.summary, "  |  ", v.filterSummary, "  |  ", v.pageLabel,
      if v.loading then "  loading…" else ""],
     line ["p prev", "  ", "n next", "  |  ", "? help"]]

def columnWidths : List Nat := [1, 18, 16, 8, 7, 19, 13]

/-- A row of the table. A cell shows the first line of its text. -/
def tableRow (cells : List String) : List Cell :=
  (List.intersperse [Picture.blank] (List.zipWith
    (fun width text => Picture.inscribe width Picture.blank ((Text.lines text).headD ""))
    columnWidths cells)).flatten

def tableHead : List Cell :=
  tableRow ["", "ID", "Detector", "Model", "Conf", "Received", "Status"]

def tableLine (row : View.Row) : List Cell :=
  tableRow [if row.selected then "▶" else " ", Text.shorten row.id 18,
    Text.shorten row.detector 16, row.modelLabel, row.confidence, row.received, row.status]

/-- The table from one of its rows on. -/
def table (rows : List View.Row) (firstRow : Nat) : Picture :=
  let shown := ((rows.drop firstRow).take tableRows).map tableLine
  tableHead :: shown ++
    List.replicate (tableRows - shown.length) (List.replicate 88 Picture.blank)

def items (v : View) (firstRow : Nat) : Picture :=
  match v.body with
  | .loading => Picture.cutBox "Items" 90 31 [glyphs "Loading queue…"]
  | .empty => Picture.cutBox "Items" 90 31 [glyphs "Nothing to review for this filter."]
  | .failed detail =>
    Picture.box "Items" 90 31 (wrapped true 88
      [glyphs "Could not load the queue", glyphs detail, glyphs "Press r to retry."])
  | .rows rows => Picture.frame "Items" 90 (table rows firstRow)

def detail (v : View) : Picture :=
  match v.detail with
  | .placeholder text => Picture.box "Detail" 70 20 (wrapped true 68 (plain text))
  | .item id fields fault =>
    Picture.box ("Detail " ++ id) 70 20 (wrapped false 68
      (fields.map (fun field => line [Text.padRight field.1 17, field.2]) ++
        (fault.map fun text => glyphs ("Last fetch failed: " ++ text)).toList))

/-- What stands before a field of the form. -/
def marker (focused editing : Bool) : String :=
  if focused then (if editing then "✎ " else "› ") else "  "

def form (v : View) (editing : Bool) : Picture :=
  let choices := v.form.choices.flatMap fun choice =>
    ["[" ++ choice.key.toString ++ "] " ++ choice.label, "  "]
  let fields := v.form.fields.map fun field =>
    line [marker field.focused editing ++ Text.padRight field.title 11, field.value]
  Picture.cutBox "Label" 70 11 (line choices :: fields ++ (v.form.status.map glyphs).toList)

def modeName (b : Board) : String :=
  if b.filterMode then "FILTER" else if b.editing then "EDIT" else "NORMAL"

/-- The two newest notices and the mode. -/
def status (b : Board) : Picture :=
  Picture.box "Status" width 5 (wrapped true 158
    ((b.notices.take 2).map (fun notice => glyphs notice.text) ++
      [line [" " ++ modeName b ++ " ",
        "  enter select  1-9 label  tab field  e edit  s submit  x export  q quit"]]))

def helpBox (title : String) (height : Nat) (lines : List String) : Picture :=
  Picture.box title 100 height (wrapped true 98 (lines.map glyphs))

def labelKeys (labels : List String) : String :=
  "  ".intercalate ((labels.take 9).zipIdx.map fun (label, index) =>
    toString (index + 1) ++ "=" ++ label)

def help (labels : List String) : Picture :=
  Picture.frame "Help" 102
    (helpBox "Queue" 8
      ["  up/down or j/k: move cursor",
       "  enter or click: open item detail",
       "  n/p: next/previous page",
       "  r: reload, a: toggle pending only",
       "  /: detector filter, +/-: page size"] ++
     helpBox "Labeling" 9
      ["  labels: " ++ labelKeys labels,
       "  tab: next field, e: edit field (enter/esc to finish)",
       "  ctrl+u: clear field while editing",
       "  s: submit label, c: clear form",
       "  x: export current page"] ++
     helpBox "Close" 5 ["Press ? or Esc to close."])

def filterPrompt (v : View) (input : String) : Picture :=
  Picture.frame "Detector Filter" 96
    (Picture.cutBox "Input" 94 3 (plain ("Detector: " ++ if input.isEmpty then "<any>" else input)) ++
     Picture.cutBox "Current" 94 3 (plain v.filterSummary) ++
     Picture.page 94 4 (wrapped true 94
       [glyphs "Enter to apply, Esc to cancel. Leave empty for every detector."]))

/-- The whole screen. The help hides the prompt. -/
def picture (v : View) (b : Board) (labels : List String) : Picture :=
  let screen := header v ++
    Picture.beside (items v b.firstRow) (detail v ++ form v b.editing) ++ status b
  if b.helpMode then Picture.overlay (help labels) 29 8 screen
  else if b.filterMode then Picture.overlay (filterPrompt v b.filterInput) 32 14 screen
  else screen

end Screen

/-- The first of the rows that are shown, moved just far enough to show the selected one. -/
def Board.scrolled (firstRow selected count shown : Nat) : Nat :=
  let start := min firstRow (min (count - 1) selected)
  if start + shown ≤ selected then selected + 1 - shown else start

/-- Takes over where the table stands on the screen, and scrolls it. -/
def Board.show (b : Board) : Board :=
  match b.selectedRow with
  | some selected =>
    { b with
      tableArea := some Screen.itemsArea
      firstRow := Board.scrolled b.firstRow selected b.rowIds.length Screen.tableRows }
  | none => { b with tableArea := none }

/-- Draws the page as it is now, if there is a view of it. The console stops otherwise. -/
def Console.draw? (c : Console) : Option (Console × Picture) :=
  c.session.view?.map fun view =>
    let board := (c.board.sync view).show
    ({ c with board := board }, Screen.picture view board c.session.labels)

end ReviewDesk
