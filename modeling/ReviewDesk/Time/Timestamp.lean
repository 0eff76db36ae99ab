import ReviewDesk.Decimal.Layout
import ReviewDesk.Decimal.Reader
import ReviewDesk.Time.Civil

/-!
Timestamps: a date, a separator, a time, an optional fraction of a second, and an offset. They are
shown as the date and time at the offset zero.
-/

namespace ReviewDesk
namespace Time

/-- A number of exactly so many digits at the front. -/
def takeNumber? (width : Nat) (cs : List Char) : Option (Nat × List Char) :=
  let digits := cs.take width
  if digits.length = width ∧ digits.all Decimal.isDigit then
    some (Decimal.ofDigits digits, cs.drop width)
  else none

def takeChar? (allowed : List Char) : List Char → Option (List Char)
  | c :: rest => if c ∈ allowed then some rest else none
  | [] => none

/-- A point and at least one digit, all dropped. -/
def skipFraction? : List Char → Option (List Char)
  | '.' :: rest =>
    let (digits, rest) := Decimal.spanDigits rest
    if digits.isEmpty then none else some rest
  | cs => some cs

/-- The offset from universal time in minutes, with what follows it. -/
def takeOffset? : List Char → Option (Int × List Char)
  | 'Z' :: rest => some (0, rest)
  | 'z' :: rest => some (0, rest)
  | sign :: rest => do
    let negative ← if sign = '+' then some false
      else if sign = '-' ∨ sign = '−' then some true else none
    let (hours, rest) ← takeNumber? 2 rest
    let rest ← takeChar? [':'] rest
    let (minutes, rest) ← takeNumber? 2 rest
    if hours < 24 ∧ minutes < 60 then
      let offset : Int := (hours * 60 + minutes : Nat)
      some (if negative then -offset else offset, rest)
    else none
  | [] => none

/-- The time that a timestamp names, at the offset zero. -/
def parse? (s : String) : Option DateTime := do
  let (year, rest) ← takeNumber? 4 s.toList
  let rest ← takeChar? ['-'] rest
  let (month, rest) ← takeNumber? 2 rest
  let rest ← takeChar? ['-'] rest
  let (day, rest) ← takeNumber? 2 rest
  let rest ← takeChar? ['T', 't', ' '] rest
  let (hour, rest) ← takeNumber? 2 rest
  let rest ← takeChar? [':'] rest
  let (minute, rest) ← takeNumber? 2 rest
  let rest ← takeChar? [':'] rest
  let (second, rest) ← takeNumber? 2 rest
  let rest ← skipFraction? rest
  let (offset, rest) ← takeOffset? rest
  let date : Date := ⟨year, month, day⟩
  if date.isValid ∧ hour < 24 ∧ minute < 60 ∧ second ≤ 60 ∧ rest.isEmpty then
    some ((⟨date, hour, minute, second⟩ : DateTime).toUtc offset)
  else none

/-- The digits of a number, filled up with zeros in front. -/
def padded (width n : Nat) : List Char :=
  let digits := Decimal.digitText n
  List.replicate (width - digits.length) '0' ++ digits

/-- Four digits; outside the years 0 to 9999 with a sign in front. -/
def yearText (year : Int) : List Char :=
  (if year < 0 then ['-'] else if 9999 < year then ['+'] else []) ++ padded 4 year.natAbs

def DateTime.text (t : DateTime) : String :=
  String.ofList <|
    yearText t.date.year ++ ['-'] ++ padded 2 t.date.month ++ ['-'] ++ padded 2 t.date.day ++
      [' '] ++ padded 2 t.hour ++ [':'] ++ padded 2 t.minute ++ [':'] ++ padded 2 t.second

/-- The time as a part of a file name. -/
def DateTime.stamp (t : DateTime) : String :=
  String.ofList <|
    yearText t.date.year ++ padded 2 t.date.month ++ padded 2 t.date.day ++ ['_'] ++
      padded 2 t.hour ++ padded 2 t.minute ++ padded 2 t.second

end Time
end ReviewDesk
