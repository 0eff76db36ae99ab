/-!
Labels with other than ASCII characters, in the ASCII form that name servers know. The characters
beyond ASCII are written in increasing order, as numbers that say how many places have been passed
since the one before.
-/

namespace ReviewDesk
namespace Url

/-- Divides by 35 until 455 is not exceeded; each time the second number grows by a digit. -/
def shrink (delta k : Nat) : Nat × Nat :=
  if 455 < delta then shrink (delta / 35) (k + 36) else (delta, k)
termination_by delta
decreasing_by exact Nat.div_lt_self (by omega) (by omega)

/-- How the threshold between digits moves with each number that is written. -/
def adaptBias (delta count : Nat) (first : Bool) : Nat :=
  let delta := if first then delta / 700 else delta / 2
  let (delta, k) := shrink (delta + delta / count) 0
  k + 36 * delta / (delta + 38)

def labelDigit (n : Nat) : Char :=
  if n < 26 then Char.ofNat (n + 97) else Char.ofNat (n - 26 + 48)

def threshold (k bias : Nat) : Nat :=
  min 26 (max 1 (k - bias))

/-- A number in digits of a variable base; a digit below its threshold is the last one. -/
def variableDigits (bias k q : Nat) : List Char :=
  if q < threshold k bias then [labelDigit q]
  else
    labelDigit (threshold k bias + (q - threshold k bias) % (36 - threshold k bias)) ::
      variableDigits bias (k + 36) ((q - threshold k bias) / (36 - threshold k bias))
termination_by q
decreasing_by
  have positive : 1 ≤ threshold k bias := by unfold threshold; omega
  have : (q - threshold k bias) / (36 - threshold k bias) ≤ q - threshold k bias :=
    Nat.div_le_self _ _
  omega

/-- The state while the characters beyond ASCII are written in increasing order. -/
structure LabelState where
  next : Nat := 128
  delta : Nat := 0
  bias : Nat := 72
  handled : Nat
  out : List Char

/-- Writes every occurrence of one code point. -/
def writeCode (basic : Nat) (codes : List Nat) (s : LabelState) (code : Nat) : LabelState :=
  let start := { s with delta := s.delta + (code - s.next) * (s.handled + 1), next := code }
  let s := codes.foldl (fun (s : LabelState) c =>
    if c < code then { s with delta := s.delta + 1 }
    else if c = code then
      { s with
        out := s.out ++ variableDigits s.bias 36 s.delta
        bias := adaptBias s.delta (s.handled + 1) (s.handled == basic)
        delta := 0
        handled := s.handled + 1 }
    else s) start
  { s with delta := s.delta + 1, next := code + 1 }

/-- The code points from 128 on, each once, in increasing order. -/
def extendedCodes (codes : List Nat) : List Nat :=
  ((codes.filter (128 ≤ ·)).mergeSort (· ≤ ·)).foldr
    (fun n rest => if rest.head? = some n then rest else n :: rest) []

/-- The ASCII form of a label: its ASCII characters, and after a hyphen what and where the others
are. -/
def encodeLabel (label : List Char) : List Char :=
  let codes := label.map Char.toNat
  let basic := label.filter fun c => c.toNat < 128
  let start : LabelState :=
    { handled := basic.length, out := if basic.isEmpty then [] else basic ++ ['-'] }
  ((extendedCodes codes).foldl (writeCode basic.length codes) start).out

/-- The number that a digit of a label stands for. -/
def labelDigit? (c : Char) : Option Nat :=
  if c.isLower then some (c.toNat - 97)
  else if c.isDigit then some (c.toNat - 48 + 26)
  else none

/-- Reads one number in digits of a variable base, and adds it to `sum`. What is left is shorter. -/
def readVariable (bias k weight sum : Nat) :
    (cs : List Char) → Option (Nat × { rest : List Char // rest.length < cs.length })
  | [] => none
  | c :: rest => do
    let digit ← labelDigit? c
    let sum := sum + digit * weight
    if UInt32.size ≤ sum then none
    else if digit < threshold k bias then some (sum, ⟨rest, Nat.lt_succ_self _⟩)
    else
      let weight := weight * (36 - threshold k bias)
      if UInt32.size ≤ weight then none
      else
        let (sum, left) ← readVariable bias (k + 36) weight sum rest
        some (sum, ⟨left.1, Nat.lt_succ_of_lt left.2⟩)

/-- Puts the characters that are left to be read into `label`, each one at the place after the last
one and at a code point that is not smaller. -/
def insertCodes (label : List Char) (code place bias : Nat) (cs : List Char) :
    Option (List Char) :=
  if cs.isEmpty then some label
  else
    match readVariable bias 36 1 place cs with
    | none => none
    | some (sum, ⟨rest, _⟩) =>
      let length := label.length + 1
      let code := code + sum / length
      if Nat.isValidChar code then
        insertCodes (label.insertIdx (sum % length) (Char.ofNat code)) code (sum % length + 1)
          (adaptBias (sum - place) length (place == 0)) rest
      else none
termination_by cs.length

/-- The label that an ASCII form stands for. A hyphen at its beginning divides nothing. -/
def decodeLabel? (cs : List Char) : Option (List Char) :=
  let digits := (cs.reverse.takeWhile (· ≠ '-')).reverse
  let basic := cs.take (cs.length - digits.length - 1)
  if cs.head? = some '-' ∧ basic.isEmpty then none
  else insertCodes basic 128 0 72 digits

end Url
end ReviewDesk
