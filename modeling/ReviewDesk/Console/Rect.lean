/-!
Rectangles of screen cells, with coordinates of 16 bits. No rectangle reaches past the greatest
coordinate.
-/

namespace ReviewDesk

structure Rect where
  x : UInt16
  y : UInt16
  width : UInt16
  height : UInt16
deriving DecidableEq

namespace Rect

/-- The sum, or the greatest coordinate. -/
def saturating (a b : UInt16) : UInt16 :=
  if a.toNat + b.toNat < UInt16.size then a + b else UInt16.ofNat (UInt16.size - 1)

/-- The rectangle at a corner, cut where the coordinates end. -/
def ofCorner (x y width height : UInt16) : Rect :=
  ⟨x, y, saturating x width - x, saturating y height - y⟩

def contains (r : Rect) (x y : UInt16) : Bool :=
  r.x ≤ x && x < saturating r.x r.width && r.y ≤ y && y < saturating r.y r.height

/-- The row of a framed table that stands at a line of the screen, below the frame and the
header. -/
def tableRow? (r : Rect) (y : UInt16) : Option Nat :=
  if r.height ≤ 3 then none
  else
    let first := saturating r.y 2
    let last := r.y + r.height - 1
    if first ≤ y ∧ y < last then some (y - first).toNat else none

/-- The part of a length that a percentage covers, to the nearest cell, a half away from zero. -/
def share (length : UInt16) (percent : Nat) : Nat :=
  (length.toNat * min percent 100 * 2 + 100) / 200

/-- Start and length of the middle of three parts, the outer ones equal. -/
def middle (start length percent : UInt16) : UInt16 × UInt16 :=
  let margin := ((100 - percent) / 2).toNat
  let before := share length margin
  let after := share length (margin + percent.toNat)
  (start + UInt16.ofNat before, UInt16.ofNat (after - before))

/-- A rectangle of so many percent in the middle of another. -/
def centered (percentX percentY : UInt16) (r : Rect) : Rect :=
  let (x, width) := middle r.x r.width percentX
  let (y, height) := middle r.y r.height percentY
  ofCorner x y width height

end Rect
end ReviewDesk
