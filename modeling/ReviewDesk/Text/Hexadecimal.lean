/-!
Numbers to the base 16, and tables of such numbers that are kept as text: commas stand between the
numbers of a row, and a semicolon ends it. Blanks and line ends mean nothing.
-/

namespace ReviewDesk
namespace Text

/-- The digits of a number to the base 16, in lower case. -/
def hexDigits (n : Nat) : List Char :=
  Nat.toDigits 16 n

def hexDigit? (c : Char) : Option Nat :=
  if '0' ≤ c && c ≤ '9' then some (c.toNat - '0'.toNat)
  else if 'a' ≤ c && c ≤ 'f' then some (c.toNat - 'a'.toNat + 10)
  else if 'A' ≤ c && c ≤ 'F' then some (c.toNat - 'A'.toNat + 10)
  else none

/-- What is read of a table so far. Rows and the numbers of a row are held last one first. -/
structure Table where
  rows : List (List Nat) := []
  row : List Nat := []
  number : Nat := 0

namespace Table

def read (t : Table) (c : Char) : Table :=
  match c with
  | ';' => { rows := (t.number :: t.row).reverse :: t.rows }
  | ',' => { t with row := t.number :: t.row, number := 0 }
  | c =>
    match hexDigit? c with
    | some digit => { t with number := t.number * 16 + digit }
    | none => t

end Table

/-- The rows of a table. -/
def tableRows (s : String) : List (List Nat) :=
  (s.toList.foldl Table.read {}).rows.reverse

end Text
end ReviewDesk
