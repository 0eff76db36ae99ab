import ReviewDesk.Decimal.Binary64

/-!
Colours of table cells.
-/

namespace ReviewDesk

inductive Colour where
  | green
  | lightGreen
  | yellow
  | red
  | darkGray
  | cyan
  | gray
deriving DecidableEq

structure Style where
  colour : Colour
  bold : Bool := false
deriving DecidableEq

namespace Style

open Decimal (Binary64)

/-- A confidence is better from nine tenths, from seven tenths, and from a half on. -/
def ofConfidence : Option Binary64 → Style
  | none => ⟨.darkGray, false⟩
  | some x =>
    if (Binary64.ofDecimal false 9 (-1)).le x then ⟨.green, true⟩
    else if (Binary64.ofDecimal false 7 (-1)).le x then ⟨.lightGreen, false⟩
    else if (Binary64.ofDecimal false 5 (-1)).le x then ⟨.yellow, false⟩
    else ⟨.red, false⟩

def ofReviewState (humanLabel : Option String) : Style :=
  if humanLabel.isSome then ⟨.cyan, false⟩ else ⟨.gray, false⟩

end Style
end ReviewDesk
