import ReviewDesk.Decimal.Layout
import ReviewDesk.Decimal.Reader
import ReviewDesk.Text.Quoted
import ReviewDesk.Text.Split
import ReviewDesk.Url.Percent

/-!
Numeric hosts: four bytes in any of the usual spellings, or eight words between brackets.
-/

namespace ReviewDesk
namespace Url

/-- The number that digits spell to a base of at most sixteen. -/
def ofBase (base : Nat) (cs : List Char) : Option Nat :=
  cs.foldlM (fun n c => (Text.hexDigit? c).bind fun d =>
    if d < base then some (n * base + d) else none) 0

/-- A number with a leading `0x` to the base 16, with another leading zero to the base 8. -/
def addressNumber? (cs : List Char) : Option Nat :=
  match cs with
  | [] => none
  | '0' :: 'x' :: rest => ofBase 16 rest
  | '0' :: 'X' :: rest => ofBase 16 rest
  | '0' :: c :: rest => ofBase 8 (c :: rest)
  | cs => ofBase 10 cs

/-- The parts of a domain, without an empty one at the end. -/
def domainParts (cs : List Char) : List (List Char) :=
  let parts := Text.splitChars '.' cs
  if parts.getLast? = some [] then parts.dropLast else parts

/-- A domain whose last part is a number is an address or nothing. -/
def endsInNumber (cs : List Char) : Bool :=
  match (domainParts cs).getLast? with
  | none => false
  | some part => (!part.isEmpty && part.all Decimal.isDigit) || (addressNumber? part).isSome

/-- Bytes in front and one number for all the bytes that are left. -/
def address4? (cs : List Char) : Option Nat := do
  let numbers ← (domainParts cs).mapM addressNumber?
  let last ← numbers.getLast?
  let front := numbers.dropLast
  if numbers.length ≤ 4 ∧ front.all (· ≤ 255) ∧ last < Nat.pow 256 (4 - front.length) then
    some (front.foldl (fun n byte => n * 256 + byte) 0 * Nat.pow 256 (4 - front.length) + last)
  else none

def address4Text (n : Nat) : List Char :=
  ['.'].intercalate ([n / 16777216 % 256, n / 65536 % 256, n / 256 % 256, n % 256].map
    Decimal.digitText)

/-- A byte without leading zeros. -/
def plainByte? (cs : List Char) : Option Nat :=
  if cs.length ≤ 3 ∧ (cs.length = 1 ∨ cs.head? ≠ some '0') then
    (Decimal.digitsOnly? cs).filter (· ≤ 255)
  else none

/-- Words separated by colons. Four bytes may stand for the last two words. -/
def words? : List (List Char) → Option (List Nat)
  | [] => some []
  | [part] =>
    if part.contains '.' then
      match Text.splitChars '.' part with
      | [a, b, c, d] => do
        let a ← plainByte? a
        let b ← plainByte? b
        let c ← plainByte? c
        let d ← plainByte? d
        some [a * 256 + b, c * 256 + d]
      | _ => none
    else if 1 ≤ part.length ∧ part.length ≤ 4 then (ofBase 16 part).map ([·]) else none
  | part :: parts => do
    let word ← if 1 ≤ part.length ∧ part.length ≤ 4 then ofBase 16 part else none
    let rest ← words? parts
    some (word :: rest)

/-- What stands before and after the first double colon. -/
def splitDoubleColon : List Char → Option (List Char × List Char)
  | ':' :: ':' :: rest => some ([], rest)
  | c :: rest => (splitDoubleColon rest).map fun (before, after) => (c :: before, after)
  | [] => none

def groups (cs : List Char) : List (List Char) :=
  if cs.isEmpty then [] else Text.splitChars ':' cs

/-- Eight words; one double colon stands for as many zeros as are missing. -/
def address6? (cs : List Char) : Option (List Nat) :=
  match splitDoubleColon cs with
  | none => (words? (groups cs)).filter (·.length = 8)
  | some (before, after) => do
    if before.contains '.' then none
    let front ← words? (groups before)
    let back ← words? (groups after)
    if front.length + back.length ≤ 7 then
      some (front ++ List.replicate (8 - front.length - back.length) 0 ++ back)
    else none

/-- The length of the run of zeros at the front. -/
def zeroRun (words : List Nat) : Nat :=
  (words.takeWhile (· = 0)).length

/-- The start and length of the first longest run of zeros. -/
def longestZeros (words : List Nat) : Nat × Nat :=
  (List.range words.length).foldl (fun (start, length) i =>
    let run := zeroRun (words.drop i)
    if length < run then (i, run) else (start, length)) (0, 0)

def wordsText (words : List Nat) : List Char :=
  [':'].intercalate (words.map Text.hexDigits)

/-- The words, the longest run of at least two zeros left out. -/
def address6Text (words : List Nat) : List Char :=
  let (start, length) := longestZeros words
  ['['] ++
    (if length < 2 then wordsText words
     else wordsText (words.take start) ++ [':', ':'] ++ wordsText (words.drop (start + length))) ++
    [']']

end Url
end ReviewDesk
