import ReviewDesk.Text.Blank
import ReviewDesk.Text.Cluster
import ReviewDesk.Text.Width

/-!
A line of text as it is shown: cluster by cluster, each with the cells that it takes. Controls are
not shown.
-/

namespace ReviewDesk
namespace Text

structure Glyph where
  chars : List Char
  columns : Nat
deriving DecidableEq

namespace Glyph

def ofChars (chars : List Char) : Glyph :=
  ⟨chars, Text.columns chars⟩

def text (g : Glyph) : String :=
  String.ofList g.chars

def zeroWidthSpace : Char := Char.ofNat 0x200b

def noBreakSpace : Char := Char.ofNat 0xa0

/-- A line may be broken here. -/
def isBreak (g : Glyph) : Bool :=
  g.chars = [zeroWidthSpace] || (g.chars.all isBlank && g.chars ≠ [noBreakSpace])

end Glyph

def isControl (c : Char) : Bool :=
  c.toNat < 0x20 || (0x7f ≤ c.toNat && c.toNat < 0xa0)

def glyphs (s : String) : List Glyph :=
  ((clusters s.toList).filter fun chars => !chars.any isControl).map Glyph.ofChars

/-- The cells that a line takes. -/
def lineColumns : List Glyph → Nat
  | [] => 0
  | g :: rest => g.columns + lineColumns rest

/-- The glyphs of a line that fit into so many cells. -/
def fit : Nat → List Glyph → List Glyph
  | _, [] => []
  | room, g :: rest => if g.columns ≤ room then g :: fit (room - g.columns) rest else []

end Text
end ReviewDesk
