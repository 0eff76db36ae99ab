import ReviewDesk.Decimal.Reader
import ReviewDesk.Json.Value

/-!
Reading document text. Arrays and objects may stand 127 deep. A binary number keeps as many leading
digits as 64 bits hold, and is scaled once by a power of ten.
-/

namespace ReviewDesk
namespace Json

/-- The blanks allowed between tokens. -/
def isSpace (c : Char) : Bool :=
  c == ' ' || c == '\t' || c == '\n' || c == '\r'

def skipSpace (cs : List Char) : List Char :=
  cs.dropWhile isSpace

/-- Appends digits while the number stays below `2 ^ 64`; also tells how many were taken. -/
def keepDigits (significand : Nat) : List Char → Nat × Nat
  | [] => (significand, 0)
  | c :: rest =>
    let next := significand * 10 + Decimal.digitValue c
    if next < UInt64.size then
      let (kept, count) := keepDigits next rest
      (kept, count + 1)
    else (significand, 0)

/-- A power of ten as a binary value. -/
def tenPower (exponent : Nat) : Decimal.Binary64 :=
  .ofDecimal false 1 exponent

/-- The value times a power of ten, in steps of at most `10 ^ 308`; absent when it overflows. Three
steps bring every significand of 64 bits to zero. -/
def scaleTen (value : Decimal.Binary64) (exponent : Int) : Nat → Option Decimal.Binary64
  | 0 => some value
  | fuel + 1 =>
    if exponent.natAbs ≤ 308 then
      if 0 ≤ exponent then
        let scaled := value.mul (tenPower exponent.natAbs)
        if scaled.isFinite then some scaled else none
      else some (value.div (tenPower exponent.natAbs))
    else if value = .zero false then some value
    else if 0 ≤ exponent then none
    else scaleTen (value.div (tenPower 308)) (exponent + 308) fuel

def real? (negative : Bool) (significand : Nat) (exponent : Int) : Option Number :=
  (scaleTen (.ofNat significand) exponent 4).map fun value =>
    .real (if negative then value.neg else value)

/-- The exponent part of a number, with what follows it. -/
def readExponent (cs : List Char) : Option (Int × List Char) :=
  let (negative, cs) := Decimal.spanSign cs
  let (digits, rest) := Decimal.spanDigits cs
  if digits.isEmpty then none
  else
    let value : Int := Decimal.ofDigits digits
    some (if negative then -value else value, rest)

/-- A whole number when it fits 64 bits, a binary one otherwise; there is no whole minus zero. -/
def wholeNumber? (negative : Bool) (digits : List Char) : Option Number :=
  let value := Decimal.ofDigits digits
  let (significand, count) := keepDigits 0 digits
  if count < digits.length then real? negative significand (digits.length - count : Nat)
  else if !negative then some (.whole value)
  else if 0 < value && value ≤ Int64.minValue.toInt.natAbs then some (.whole (-value))
  else real? true value 0

/-- The number after its sign, with what follows it. -/
def readUnsigned (negative : Bool) (cs : List Char) : Option (Number × List Char) := do
  let (whole, rest) := Decimal.spanDigits cs
  if whole.isEmpty || (1 < whole.length && whole.head? == some '0') then none
  let (significand, count) := keepDigits 0 whole
  let dropped := whole.length - count
  match rest with
  | '.' :: rest =>
    let (fraction, rest) := Decimal.spanDigits rest
    if fraction.isEmpty then none
    let (significand, count) := keepDigits significand fraction
    let exponent : Int := dropped - count
    match rest with
    | 'e' :: rest | 'E' :: rest =>
      let (power, rest) ← readExponent rest
      let value ← real? negative significand (exponent + power)
      return (value, rest)
    | rest =>
      let value ← real? negative significand exponent
      return (value, rest)
  | 'e' :: rest | 'E' :: rest =>
    let (power, rest) ← readExponent rest
    let value ← real? negative significand (dropped + power)
    return (value, rest)
  | rest =>
    let value ← wholeNumber? negative whole
    return (value, rest)

def readNumber : List Char → Option (Number × List Char)
  | '-' :: rest => readUnsigned true rest
  | cs => readUnsigned false cs

def hexValue? (c : Char) : Option Nat :=
  if '0' ≤ c && c ≤ '9' then some (c.toNat - '0'.toNat)
  else if 'a' ≤ c && c ≤ 'f' then some (c.toNat - 'a'.toNat + 10)
  else if 'A' ≤ c && c ≤ 'F' then some (c.toNat - 'A'.toNat + 10)
  else none

/-- Four digits to the base 16. -/
def hexUnit? (a b c d : Char) : Option Nat := do
  let a ← hexValue? a
  let b ← hexValue? b
  let c ← hexValue? c
  let d ← hexValue? d
  return ((a * 16 + b) * 16 + c) * 16 + d

def simpleEscape? (c : Char) : Option Char :=
  match c with
  | '"' => some '"'
  | '\\' => some '\\'
  | '/' => some '/'
  | 'b' => some '\x08'
  | 'f' => some '\x0c'
  | 'n' => some '\n'
  | 'r' => some '\r'
  | 't' => some '\t'
  | _ => none

def isHighSurrogate (unit : Nat) : Bool :=
  0xd800 ≤ unit && unit < 0xdc00

def isLowSurrogate (unit : Nat) : Bool :=
  0xdc00 ≤ unit && unit < 0xe000

/-- The characters up to the closing quote, with what follows it. Halves of a character beyond the
first plane have to come in pairs. -/
def readChars : List Char → Option (List Char × List Char)
  | [] => none
  | '"' :: rest => some ([], rest)
  | '\\' :: 'u' :: a :: b :: c :: d :: '\\' :: 'u' :: e :: f :: g :: h :: rest => do
    let high ← hexUnit? a b c d
    if isHighSurrogate high then
      let low ← hexUnit? e f g h
      if isLowSurrogate low then
        let (text, rest) ← readChars rest
        return (Char.ofNat (0x10000 + (high - 0xd800) * 0x400 + (low - 0xdc00)) :: text, rest)
      else none
    else if isLowSurrogate high then none
    else
      let (text, rest) ← readChars ('\\' :: 'u' :: e :: f :: g :: h :: rest)
      return (Char.ofNat high :: text, rest)
  | '\\' :: 'u' :: a :: b :: c :: d :: rest => do
    let unit ← hexUnit? a b c d
    if isHighSurrogate unit || isLowSurrogate unit then none
    else
      let (text, rest) ← readChars rest
      return (Char.ofNat unit :: text, rest)
  | '\\' :: c :: rest => do
    let c ← simpleEscape? c
    let (text, rest) ← readChars rest
    return (c :: text, rest)
  | c :: rest =>
    if c.toNat < 0x20 || c == '\\' then none
    else do
      let (text, rest) ← readChars rest
      return (c :: text, rest)
termination_by cs => cs.length

/-- What a value reader may read at the depth that is left. -/
abbrev ValueReader := List Char → Option (Json × List Char)

/-- A value that is neither an array nor an object. -/
def readScalar : ValueReader
  | 'n' :: 'u' :: 'l' :: 'l' :: rest => some (.null, rest)
  | 't' :: 'r' :: 'u' :: 'e' :: rest => some (.bool true, rest)
  | 'f' :: 'a' :: 'l' :: 's' :: 'e' :: rest => some (.bool false, rest)
  | '"' :: rest => do
    let (text, rest) ← readChars rest
    return (.string (String.ofList text), rest)
  | cs => do
    let (value, rest) ← readNumber cs
    return (.number value, rest)

/-- The elements after the first bracket or comma, up to the closing bracket. Each element takes at
least one character, so the number of characters is enough fuel. -/
def readElements (element : ValueReader) : Nat → List Char → Option (List Json × List Char)
  | 0, _ => none
  | fuel + 1, cs => do
    let (value, rest) ← element (skipSpace cs)
    match skipSpace rest with
    | ',' :: rest =>
      let (values, rest) ← readElements element fuel rest
      return (value :: values, rest)
    | ']' :: rest => return ([value], rest)
    | _ => none

def readMembers (element : ValueReader) :
    Nat → List Char → Option (List (String × Json) × List Char)
  | 0, _ => none
  | fuel + 1, cs => do
    match skipSpace cs with
    | '"' :: rest =>
      let (name, rest) ← readChars rest
      match skipSpace rest with
      | ':' :: rest =>
        let (value, rest) ← element (skipSpace rest)
        match skipSpace rest with
        | ',' :: rest =>
          let (fields, rest) ← readMembers element fuel rest
          return ((String.ofList name, value) :: fields, rest)
        | '\x7d' :: rest => return ([(String.ofList name, value)], rest)
        | _ => none
      | _ => none
    | _ => none

/-- A value whose arrays and objects stand at most `depth` deep. -/
def readValue : Nat → ValueReader
  | 0, cs => if cs.head? == some '[' || cs.head? == some '\x7b' then none else readScalar cs
  | depth + 1, '[' :: cs =>
    match skipSpace cs with
    | ']' :: rest => some (.array [], rest)
    | cs => (readElements (readValue depth) cs.length cs).map fun (values, rest) =>
        (.array values, rest)
  | depth + 1, '\x7b' :: cs =>
    match skipSpace cs with
    | '\x7d' :: rest => some (.members [], rest)
    | cs => (readMembers (readValue depth) cs.length cs).map fun (fields, rest) =>
        (object fields, rest)
  | _ + 1, cs => readScalar cs

def maxDepth : Nat := 127

/-- The value of a document text; nothing but blanks may stand around it. -/
def parse? (s : String) : Option Json :=
  match readValue maxDepth (skipSpace s.toList) with
  | some (value, rest) => if (skipSpace rest).isEmpty then some value else none
  | none => none

end Json
end ReviewDesk
