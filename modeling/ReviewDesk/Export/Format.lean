import ReviewDesk.Text.Split

/-!
The formats of exported files, and which of them a file name asks for.
-/

namespace ReviewDesk

inductive DataFormat where
  | csv
  | json
deriving DecidableEq

namespace DataFormat

def name : DataFormat → String
  | .csv => "csv"
  | .json => "json"

/-- The last component of a path; none when the path ends by going up. -/
def fileName? (path : String) : Option String :=
  ((Text.split '/' path).filter fun part => part ≠ "" ∧ part ≠ ".").getLast?.filter (· ≠ "..")

/-- What follows the last point of a name that does not begin with it. -/
def extension? (name : String) : Option String :=
  let after := (name.toList.reverse.takeWhile (· ≠ '.')).reverse
  if after.length + 1 < name.length then some (String.ofList after) else none

/-- The format that the end of a path asks for, in letters of either case. -/
def ofPath (path : String) (fallback : DataFormat) : DataFormat :=
  let lower (text : String) : String := String.ofList (text.toList.map Char.toLower)
  match ((fileName? path).bind extension?).map lower with
  | some "json" => .json
  | some "csv" => .csv
  | _ => fallback

end DataFormat
end ReviewDesk
