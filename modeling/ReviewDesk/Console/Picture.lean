import ReviewDesk.Text.Glyph
import ReviewDesk.Text.Split

/-!
Pictures made of lines of cells. A glyph of two cells stands in the first one, and covers the second
one.
-/

namespace ReviewDesk

open Text (Glyph glyphs)

/-- What a cell shows. -/
abbrev Cell := String

abbrev Picture := List (List Cell)

namespace Picture

def blank : Cell := " "

/-- What the upper and lower lines of a frame are made of. -/
def rule : Cell := "─"

/-- So many cells, cut or filled. -/
def filled (width : Nat) (filler : Cell) (cells : List Cell) : List Cell :=
  (cells ++ List.replicate (width - cells.length) filler).take width

/-- The cells of a line. Glyphs that take no room are left out. -/
def row (width : Nat) (line : List Glyph) : List Cell :=
  filled width blank (line.flatMap fun g =>
    if g.columns = 0 then [] else g.text :: List.replicate (g.columns - 1) blank)

/-- Lines at the top of a rectangle. -/
def page (width height : Nat) (lines : List (List Glyph)) : Picture :=
  (lines.take height).map (row width) ++
    List.replicate (height - lines.length) (List.replicate width blank)

/-- Writes a glyph after so many columns; the cells are held last one first. A glyph that takes no
room goes to the cell before it, and one that comes after nothing but such glyphs joins them. -/
def inscribeGlyph : List Cell × Nat → Glyph → List Cell × Nat
  | ([], _), g => (List.replicate (g.columns - 1) blank ++ [g.text], g.columns)
  | (cell :: before, used), g =>
    let cells :=
      if used = 0 ∨ g.columns = 0 then (cell ++ g.text) :: before else g.text :: cell :: before
    (List.replicate (g.columns - 1) blank ++ cells, used + g.columns)

/-- A text in a field of so many cells. One that takes no room is not written at all. -/
def inscribe (width : Nat) (filler : Cell) (s : String) : List Cell :=
  let line := if Text.columns s.toList = 0 then [] else Text.fit width (glyphs s)
  filled width filler (line.foldl inscribeGlyph ([], 0)).1.reverse

/-- The lines of a title, side by side in the upper line of a frame. -/
def titleCells (width : Nat) : List String → List Cell
  | [] => List.replicate width rule
  | s :: rest =>
    let room := min width (Text.columns s.toList)
    inscribe room rule s ++ titleCells (width - room) rest

/-- A frame around a picture of two cells less, with a title in its upper line. -/
def frame (title : String) (width : Nat) (inside : Picture) : Picture :=
  let inner := width - 2
  let top := "┌" :: titleCells inner (Text.lines title) ++ ["┐"]
  let bottom := "└" :: List.replicate inner rule ++ ["┘"]
  top :: (inside.map fun line => "│" :: line ++ ["│"]) ++ [bottom]

/-- Lines in a frame. The width and the height are those of the frame. -/
def box (title : String) (width height : Nat) (lines : List (List Glyph)) : Picture :=
  frame title width (page (width - 2) (height - 2) lines)

/-- Lines in a frame, each one cut where the frame begins. -/
def cutBox (title : String) (width height : Nat) (lines : List (List Glyph)) : Picture :=
  box title width height (lines.map (Text.fit (width - 2)))

def beside (left right : Picture) : Picture :=
  List.zipWith (· ++ ·) left right

/-- Lays a picture over another one, so many cells to the right and down. -/
def overlay (top : Picture) (x y : Nat) (bottom : Picture) : Picture :=
  bottom.take y ++
    List.zipWith (fun line under => under.take x ++ line ++ under.drop (x + line.length))
      top (bottom.drop y) ++
    bottom.drop (y + top.length)

/-- What is seen of a line: the cell after a wide glyph is covered by it. Where a selector makes the
glyph a picture, the cell is drawn all the same. -/
def uncovered (isCovered : Bool) : List Cell → List Cell
  | [] => []
  | cell :: rest =>
    let covers := 1 < Text.columns cell.toList &&
      (isCovered || !cell.toList.contains Text.pictureSelector)
    (if isCovered then blank else cell) :: uncovered covers rest

/-- The lines as texts, without the spaces at their ends. -/
def texts (picture : Picture) : List String :=
  picture.map fun line =>
    String.ofList
      ((String.join (uncovered false line)).toList.reverse.dropWhile (· = ' ')).reverse

end Picture
end ReviewDesk
