/-!
Days of the civil calendar, in years before and after the year zero.
-/

namespace ReviewDesk
namespace Time

structure Date where
  year : Int
  month : Nat
  day : Nat
deriving DecidableEq

def isLeap (year : Int) : Bool :=
  year % 4 == 0 && (year % 100 != 0 || year % 400 == 0)

def daysInMonth (year : Int) (month : Nat) : Nat :=
  if month = 2 then (if isLeap year then 29 else 28)
  else if month = 4 ∨ month = 6 ∨ month = 9 ∨ month = 11 then 30
  else 31

namespace Date

def isValid (d : Date) : Bool :=
  1 ≤ d.month && d.month ≤ 12 && 1 ≤ d.day && d.day ≤ daysInMonth d.year d.month

def next (d : Date) : Date :=
  if d.day < daysInMonth d.year d.month then { d with day := d.day + 1 }
  else if d.month < 12 then ⟨d.year, d.month + 1, 1⟩
  else ⟨d.year + 1, 1, 1⟩

def prev (d : Date) : Date :=
  if 1 < d.day then { d with day := d.day - 1 }
  else if 1 < d.month then ⟨d.year, d.month - 1, daysInMonth d.year (d.month - 1)⟩
  else ⟨d.year - 1, 12, 31⟩

end Date

/-- A time of a day; a leap second is the second 60. -/
structure DateTime where
  date : Date
  hour : Nat
  minute : Nat
  second : Nat
deriving DecidableEq

/-- The time at an offset of zero, for a local time whose offset is less than a day. -/
def DateTime.toUtc (t : DateTime) (offsetMinutes : Int) : DateTime :=
  let minutes : Int := (t.hour * 60 + t.minute : Nat) - offsetMinutes
  let date := if minutes < 0 then t.date.prev else if minutes < 1440 then t.date else t.date.next
  let ofDay := (minutes % 1440).toNat
  ⟨date, ofDay / 60, ofDay % 60, t.second⟩

end Time
end ReviewDesk
