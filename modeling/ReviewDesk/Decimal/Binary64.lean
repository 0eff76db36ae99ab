/-!
Binary floating point of 53 bits, computed exactly. A finite value is a significand times a power of
two in its only form; every operation rounds the exact result once, to nearest, ties to even.
-/

namespace ReviewDesk
namespace Decimal

/-- The quotient rounded to the nearest integer, a half to the even neighbour. -/
def halfEven (num den : Nat) : Nat :=
  let q := num / den
  let twice := 2 * (num % den)
  if twice < den then q else if den < twice then q + 1 else q + q % 2

/-- The one form of a finite value: full precision, or the least exponent. -/
def Canonical (significand : Nat) (exponent : Int) : Prop :=
  significand < Nat.pow 2 53 ∧ -1074 ≤ exponent ∧ exponent ≤ 971 ∧
    (Nat.pow 2 52 ≤ significand ∨ exponent = -1074)

instance (significand : Nat) (exponent : Int) : Decidable (Canonical significand exponent) := by
  unfold Canonical; infer_instance

inductive Binary64 where
  | nan
  | infinite (negative : Bool)
  | finite (negative : Bool) (significand : Nat) (exponent : Int)
      (canonical : Canonical significand exponent)
deriving DecidableEq

namespace Binary64

def zero (negative : Bool) : Binary64 :=
  .finite negative 0 (-1074) (by decide)

/-- The value of a rounded significand; one that was rounded up to `2 ^ 53` is halved, and what is
out of range is infinite. -/
def ofRounded (negative : Bool) (significand : Nat) (exponent : Int) : Binary64 :=
  let (significand, exponent) :=
    if significand = Nat.pow 2 53 then (Nat.pow 2 52, exponent + 1) else (significand, exponent)
  if h : Canonical significand exponent then .finite negative significand exponent h
  else .infinite negative

/-- Numerator and denominator after a division by a power of two. -/
def downscale (exponent : Int) (num den : Nat) : Nat × Nat :=
  if 0 ≤ exponent then (num, den * Nat.pow 2 exponent.toNat)
  else (num * Nat.pow 2 (-exponent).toNat, den)

/-- The exponent that leaves a quotient of 53 bits, but none below the least. -/
def ratioExponent (num den : Nat) : Int :=
  let guess : Int := (num.log2 : Int) - (den.log2 : Int) - 52
  let (n, d) := downscale guess num den
  max (if d * Nat.pow 2 52 ≤ n then guess else guess - 1) (-1074)

/-- The value nearest to a quotient of two natural numbers, the second not zero. -/
def ofRatio (negative : Bool) (num den : Nat) : Binary64 :=
  if num = 0 then zero negative
  else
    let exponent := ratioExponent num den
    let (n, d) := downscale exponent num den
    ofRounded negative (halfEven n d) exponent

def ofNat (n : Nat) : Binary64 :=
  ofRatio false n 1

/-- The nearest value to an integer. -/
def ofInt (n : Int) : Binary64 :=
  ofRatio (n < 0) n.natAbs 1

/-- How many digits the number has when it is written to the base ten. -/
def digitCount (n : Nat) : Nat :=
  (Nat.toDigits 10 n).length

/-- The value nearest to `digits * 10 ^ exponent`. Numbers far outside the range are settled by
their size alone. -/
def ofDecimal (negative : Bool) (digits : Nat) (exponent : Int) : Binary64 :=
  if digits = 0 then zero negative
  else
    let size : Int := digitCount digits + exponent
    if 310 < size then .infinite negative
    else if size < -330 then zero negative
    else if 0 ≤ exponent then ofRatio negative (digits * Nat.pow 10 exponent.toNat) 1
    else ofRatio negative digits (Nat.pow 10 (-exponent).toNat)

def isFinite : Binary64 → Bool
  | .finite .. => true
  | _ => false

def neg : Binary64 → Binary64
  | .nan => .nan
  | .infinite negative => .infinite (!negative)
  | .finite negative m e h => .finite (!negative) m e h

/-- A finite value as a multiple of the least positive one, `2 ^ (-1074)`. -/
def units : Binary64 → Int
  | .finite negative m e _ =>
    let size : Int := (m * Nat.pow 2 (e + 1074).toNat : Nat)
    if negative then -size else size
  | _ => 0

/-- The order of numbers; nothing compares with what is no number, and the zeros are equal. -/
def le : Binary64 → Binary64 → Bool
  | .nan, _ => false
  | _, .nan => false
  | .infinite true, _ => true
  | _, .infinite false => true
  | .infinite false, _ => false
  | _, .infinite true => false
  | x, y => x.units ≤ y.units

def mul : Binary64 → Binary64 → Binary64
  | .finite s m e _, .finite t n f _ =>
    let (num, den) := downscale (-(e + f)) (m * n) 1
    ofRatio (s != t) num den
  | .infinite s, .infinite t => .infinite (s != t)
  | .infinite s, .finite t n _ _ => if n = 0 then .nan else .infinite (s != t)
  | .finite s m _ _, .infinite t => if m = 0 then .nan else .infinite (s != t)
  | _, _ => .nan

def div : Binary64 → Binary64 → Binary64
  | .finite s m e _, .finite t n f _ =>
    if n = 0 then (if m = 0 then .nan else .infinite (s != t))
    else
      let (num, den) := downscale (f - e) m n
      ofRatio (s != t) num den
  | .infinite s, .finite t _ _ _ => .infinite (s != t)
  | .finite s _ _ _, .infinite t => zero (s != t)
  | _, _ => .nan

end Binary64
end Decimal
end ReviewDesk
