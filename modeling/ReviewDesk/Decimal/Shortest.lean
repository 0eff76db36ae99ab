import ReviewDesk.Decimal.Binary64

/-!
The fewest decimal digits that read back as the same value. On the grid of each digit count only the
two points next to the value matter: if any point reads back, one of them does.
-/

namespace ReviewDesk
namespace Decimal

/-- Which of two equally near decimals is taken. -/
inductive Tie where
  | up
  | even
deriving DecidableEq

/-- The number `digits * 10 ^ exponent`. -/
structure Numeral where
  digits : Nat
  exponent : Int
deriving DecidableEq

/-- The exponent of the leading decimal digit of a positive quotient. -/
def leadingExponent (num den : Nat) : Int :=
  if den ≤ num then (Binary64.digitCount (num / den) : Int) - 1
  else -(Binary64.digitCount ((den - 1) / num) : Int)

/-- Numerator and denominator after a division by a power of ten. -/
def downscaleTen (exponent : Int) (num den : Nat) : Nat × Nat :=
  if 0 ≤ exponent then (num, den * Nat.pow 10 exponent.toNat)
  else (num * Nat.pow 10 (-exponent).toNat, den)

/-- The decimal of at most `count` digits that reads back as the value, the nearer of two. -/
def gridPoint? (tie : Tie) (value : Binary64) (num den count : Nat) : Option Numeral :=
  let exponent := leadingExponent num den - (count : Int) + 1
  let (n, d) := downscaleTen exponent num den
  let below := n / d
  let twice := 2 * (n % d)
  let fits (digits : Nat) : Bool := Binary64.ofDecimal false digits exponent = value
  let upper : Bool := d < twice || (twice == d && (tie == .up || below % 2 == 1))
  if n % d = 0 then (if fits below then some ⟨below, exponent⟩ else none)
  else if fits below && fits (below + 1) then
    some ⟨if upper then below + 1 else below, exponent⟩
  else if fits below then some ⟨below, exponent⟩
  else if fits (below + 1) then some ⟨below + 1, exponent⟩
  else none

/-- The shortest decimal for a positive significand times a power of two. Seventeen digits always
suffice; past them the value is written out in full. -/
def shortest (tie : Tie) (significand : Nat) (exponent : Int) : Numeral :=
  let (num, den) := Binary64.downscale (-exponent) significand 1
  let value := Binary64.ofRatio false num den
  match (List.range 17).findSome? fun i => gridPoint? tie value num den (i + 1) with
  | some numeral => numeral
  | none =>
    if 0 ≤ exponent then ⟨significand * Nat.pow 2 exponent.toNat, 0⟩
    else ⟨significand * Nat.pow 5 (-exponent).toNat, exponent⟩

/-- The same number without zeros at its end. -/
def dropZeros : Nat → Numeral → Numeral
  | 0, x => x
  | fuel + 1, x =>
    if x.digits ≠ 0 ∧ x.digits % 10 = 0 then dropZeros fuel ⟨x.digits / 10, x.exponent + 1⟩ else x

def Numeral.reduced (x : Numeral) : Numeral :=
  dropZeros (Binary64.digitCount x.digits) x

end Decimal
end ReviewDesk
