import ReviewDesk.Decimal.Shortest

/-!
Decimal text of binary values. A style says which of two equally short texts is taken, whether a
whole number keeps a point, and where the notation with an exponent begins.
-/

namespace ReviewDesk
namespace Decimal

/-- How a value is written. -/
structure Style where
  tie : Tie
  /-- Whole numbers end in `.0`. -/
  keepsPoint : Bool
  /-- The least and the greatest leading exponent written without an exponent; absent when every
  number is. -/
  positional : Option (Int × Int)

/-- Text for readers: never an exponent, and no point in a whole number. -/
def Style.plain : Style := ⟨.up, false, none⟩

/-- Text for documents: a point always, and an exponent for very small and very large values. -/
def Style.document : Style := ⟨.even, true, some (-5, 15)⟩

def digitText (n : Nat) : List Char :=
  Nat.toDigits 10 n

def signText (negative : Bool) : List Char :=
  if negative then ['-'] else []

/-- Digits with a point before the last `-exponent` of them, or with zeros after them. -/
def positionalText (keepsPoint : Bool) (digits : List Char) (exponent : Int) : List Char :=
  if 0 ≤ exponent then
    digits ++ List.replicate exponent.toNat '0' ++ (if keepsPoint then ['.', '0'] else [])
  else
    let places := (-exponent).toNat
    if places < digits.length then
      digits.take (digits.length - places) ++ ['.'] ++ digits.drop (digits.length - places)
    else ['0', '.'] ++ List.replicate (places - digits.length) '0' ++ digits

/-- One digit, the others after a point, and the exponent of the first with its sign. -/
def scientificText (digits : List Char) (leading : Int) : List Char :=
  digits.take 1 ++ (if 1 < digits.length then '.' :: digits.drop 1 else []) ++
    ['e', if leading < 0 then '-' else '+'] ++ digitText leading.natAbs

def decimalText (style : Style) (x : Numeral) : List Char :=
  let digits := digitText x.digits
  let leading := (digits.length : Int) + x.exponent - 1
  match style.positional with
  | none => positionalText style.keepsPoint digits x.exponent
  | some (least, greatest) =>
    if least ≤ leading ∧ leading ≤ greatest then
      positionalText style.keepsPoint digits x.exponent
    else scientificText digits leading

def Style.chars (style : Style) : Binary64 → List Char
  | .nan => ['N', 'a', 'N']
  | .infinite negative => signText negative ++ ['i', 'n', 'f']
  | .finite negative significand exponent _ =>
    signText negative ++
      if significand = 0 then positionalText style.keepsPoint ['0'] 0
      else decimalText style (shortest style.tie significand exponent).reduced

/-- The shortest text that reads back as the value. -/
def Style.text (style : Style) (x : Binary64) : String :=
  String.ofList (style.chars x)

/-- Text with one decimal place, rounded from the exact value, a half to the even neighbour. -/
def onePlace : Binary64 → String
  | .nan => "NaN"
  | .infinite negative => if negative then "-inf" else "inf"
  | .finite negative significand exponent _ =>
    let (num, den) := Binary64.downscale (-exponent) (significand * 10) 1
    let tenths := halfEven num den
    String.ofList (signText negative ++ digitText (tenths / 10) ++ ['.'] ++ digitText (tenths % 10))

end Decimal
end ReviewDesk
