import Mathlib.Data.List.Basic
import ReviewDesk.Json.Reader

/-!
Document texts, apart from how they are read. A number and a text between quotes are given by what
they are written of; arrays and objects stand at most so deep, with blanks around everything in
them. What a number is worth is left to the arithmetic of the reader.
-/

namespace ReviewDesk
namespace Json

open Decimal (isDigit ofDigits)

/-- The exponent of a number. -/
structure ExponentText where
  letter : Char
  sign : List Char
  digits : List Char
  letter_mem : letter = 'e' ∨ letter = 'E'
  sign_mem : sign = [] ∨ sign = ['+'] ∨ sign = ['-']
  some_ : digits ≠ []
  each : ∀ c ∈ digits, isDigit c = true

namespace ExponentText

def chars (e : ExponentText) : List Char :=
  e.letter :: (e.sign ++ e.digits)

def value (e : ExponentText) : Int :=
  if e.sign = ['-'] then -(ofDigits e.digits : Int) else ofDigits e.digits

end ExponentText

/-- A number. No zero stands in front of other digits; without a point there is no digit of a
fraction. -/
structure NumberText where
  negative : Bool
  whole : List Char
  fraction : List Char
  exponent : Option ExponentText
  some_ : whole ≠ []
  leading : whole.head? = some '0' → whole.length = 1
  digits : ∀ c ∈ whole, isDigit c = true
  fractional : ∀ c ∈ fraction, isDigit c = true

namespace NumberText

def fractionChars (n : NumberText) : List Char :=
  if n.fraction = [] then [] else '.' :: n.fraction

def exponentChars (n : NumberText) : List Char :=
  n.exponent.elim [] ExponentText.chars

def chars (n : NumberText) : List Char :=
  (if n.negative then ['-'] else []) ++ (n.whole ++ (n.fractionChars ++ n.exponentChars))

/-- The leading digits, as many as are kept. -/
def significand (n : NumberText) : Nat :=
  (keepDigits (keepDigits 0 n.whole).1 n.fraction).1

/-- The power of ten by which the kept digits are less than all of them. -/
def shift (n : NumberText) : Int :=
  (n.whole.length - (keepDigits 0 n.whole).2 : Nat) -
    (keepDigits (keepDigits 0 n.whole).1 n.fraction).2

/-- The value apart from the exponent. -/
def plain? (n : NumberText) : Option Number :=
  if n.fraction = [] then wholeNumber? n.negative n.whole
  else real? n.negative n.significand n.shift

/-- The value, that a number out of range does not have. -/
def value? (n : NumberText) : Option Number :=
  n.exponent.elim n.plain? fun e => real? n.negative n.significand (n.shift + e.value)

end NumberText

/-- One character between quotes: as it is, or by one of three escapes. -/
inductive Written where
  | plain (c : Char) (quote : c ≠ '"') (slash : c ≠ '\\') (printed : 0x20 ≤ c.toNat)
  | short (letter c : Char) (escape : simpleEscape? letter = some c)
  | unit (a b c d : Char) (code : Nat) (digits : hexUnit? a b c d = some code)
    (single : isHighSurrogate code = false ∧ isLowSurrogate code = false)
  | pair (a b c d e f g h : Char) (high low : Nat) (first : hexUnit? a b c d = some high)
    (second : hexUnit? e f g h = some low)
    (halves : isHighSurrogate high = true ∧ isLowSurrogate low = true)

namespace Written

def chars : Written → List Char
  | plain c .. => [c]
  | short letter .. => ['\\', letter]
  | unit a b c d .. => ['\\', 'u', a, b, c, d]
  | pair a b c d e f g h .. => ['\\', 'u', a, b, c, d, '\\', 'u', e, f, g, h]

def char : Written → Char
  | plain c .. => c
  | short _ c _ => c
  | unit _ _ _ _ code .. => Char.ofNat code
  | pair _ _ _ _ _ _ _ _ high low .. =>
    Char.ofNat (0x10000 + (high - 0xd800) * 0x400 + (low - 0xdc00))

/-- The text between quotes, quotes and all. -/
def quoted (pieces : List Written) : List Char :=
  '"' :: (pieces.flatMap chars ++ ['"'])

def text (pieces : List Written) : String :=
  String.ofList (pieces.map char)

end Written

def Blank (gap : List Char) : Prop :=
  ∀ c ∈ gap, isSpace c = true

/-- Texts with commas between them, and blanks after each comma. -/
def joined (gap : List Char) : List (List Char) → List Char
  | [] => []
  | [text] => text
  | text :: rest => text ++ ',' :: (gap ++ joined gap rest)

/-- A bracket, the entries with commas between them, and the other bracket. -/
inductive Listed {α : Type} (opening closing : Char) (entry : List Char → α → Prop) :
    List Char → List α → Prop
  | empty {gap} (blank : Blank gap) : Listed opening closing entry (opening :: (gap ++ [closing])) []
  | entries {entries : List (List Char × α)} (some_ : entries ≠ [])
      (each : ∀ one ∈ entries, entry one.1 one.2) :
      Listed opening closing entry (opening :: (joined [] (entries.map Prod.fst) ++ [closing]))
        (entries.map Prod.snd)

/-- A value with blanks around it. -/
inductive Around (inner : List Char → Json → Prop) : List Char → Json → Prop
  | mk {front text back value} (before : Blank front) (after : Blank back)
      (spelled : inner text value) : Around inner (front ++ (text ++ back)) value

/-- A name, a colon and a value, with blanks around each. -/
inductive MemberText (inner : List Char → Json → Prop) : List Char → String × Json → Prop
  | mk {front middle text value} (pieces : List Written) (before : Blank front)
      (between : Blank middle) (spelled : Around inner text value) :
      MemberText inner (front ++ (Written.quoted pieces ++ (middle ++ ':' :: text)))
        (Written.text pieces, value)

/-- A value that is neither an array nor an object. -/
inductive ScalarText : List Char → Json → Prop
  | null : ScalarText ['n', 'u', 'l', 'l'] .null
  | true_ : ScalarText ['t', 'r', 'u', 'e'] (.bool true)
  | false_ : ScalarText ['f', 'a', 'l', 's', 'e'] (.bool false)
  | string (pieces : List Written) :
      ScalarText (Written.quoted pieces) (.string (Written.text pieces))
  | number (n : NumberText) {value} (range : n.value? = some value) :
      ScalarText n.chars (.number value)

/-- The text of a value whose arrays and objects stand at most so deep. -/
def Spells : Nat → List Char → Json → Prop
  | 0, text, value => ScalarText text value
  | depth + 1, text, value =>
    ScalarText text value ∨
      (∃ elements, Listed '[' ']' (Around (Spells depth)) text elements ∧
        value = .array elements) ∨
      ∃ fields, Listed '\x7b' '\x7d' (MemberText (Spells depth)) text fields ∧
        value = object fields

end Json
end ReviewDesk
