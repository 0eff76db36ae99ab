import ReviewDesk.Decimal.Binary64

/-!
Reading number texts. A floating value is a sign, digits with at most one point among them, and an
exponent, or the name of an infinity or of what is no number; a natural number is digits after an
optional plus.
-/

namespace ReviewDesk
namespace Decimal

def isDigit (c : Char) : Bool :=
  '0' ≤ c && c ≤ '9'

def digitValue (c : Char) : Nat :=
  c.toNat - '0'.toNat

/-- The number that a row of digits spells. -/
def ofDigits (cs : List Char) : Nat :=
  cs.foldl (fun n c => n * 10 + digitValue c) 0

/-- The digits at the front, and what follows them. -/
def spanDigits (cs : List Char) : List Char × List Char :=
  (cs.takeWhile isDigit, cs.dropWhile isDigit)

/-- A row of at least one digit and nothing else. -/
def digitsOnly? (cs : List Char) : Option Nat :=
  if !cs.isEmpty && cs.all isDigit then some (ofDigits cs) else none

/-- An optional sign at the front. -/
def spanSign : List Char → Bool × List Char
  | '-' :: rest => (true, rest)
  | '+' :: rest => (false, rest)
  | cs => (false, cs)

/-- The exponent at the end of a number; none is the exponent zero. -/
def exponent? : List Char → Option Int
  | [] => some 0
  | c :: rest =>
    if c = 'e' || c = 'E' then
      let (negative, digits) := spanSign rest
      (digitsOnly? digits).map fun n => if negative then -(n : Int) else n
    else none

/-- Digits, a point somewhere, an exponent; at least one digit before the exponent. -/
def unsignedNumber? (negative : Bool) (cs : List Char) : Option Binary64 :=
  let (whole, rest) := spanDigits cs
  let (fraction, rest) :=
    match rest with
    | '.' :: rest => spanDigits rest
    | rest => ([], rest)
  if whole.isEmpty && fraction.isEmpty then none
  else
    (exponent? rest).map fun exponent =>
      Binary64.ofDecimal negative (ofDigits (whole ++ fraction)) (exponent - fraction.length)

/-- The value of a number text, letters in either case. -/
def Binary64.parse? (s : String) : Option Binary64 :=
  let (negative, cs) := spanSign s.toList
  let word := String.ofList (cs.map Char.toLower)
  if word == "inf" || word == "infinity" then some (.infinite negative)
  else if word == "nan" then some .nan
  else unsignedNumber? negative cs

/-- The value of a natural number text below a bound. -/
def natural? (bound : Nat) (s : String) : Option Nat :=
  let cs := match s.toList with
    | '+' :: rest => rest
    | cs => cs
  (digitsOnly? cs).filter (· < bound)

/-- The 64-bit number that the text spells. -/
def word64? (s : String) : Option UInt64 :=
  (natural? UInt64.size s).map UInt64.ofNat

end Decimal
end ReviewDesk
