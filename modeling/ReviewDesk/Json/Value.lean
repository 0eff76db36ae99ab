import ReviewDesk.Decimal.Binary64

/-!
Document values. An object built by `Json.object` or read from text has its members in the order of
their names and each name once; one that stands for a record keeps the order of the record's fields.
-/

namespace ReviewDesk

/-- A number as it was written: a whole number of 64 bits, or a binary one. -/
inductive Number where
  | whole (value : Int)
  | real (value : Decimal.Binary64)
deriving DecidableEq

inductive Json where
  | null
  | bool (value : Bool)
  | number (value : Number)
  | string (value : String)
  | array (elements : List Json)
  | members (fields : List (String × Json))
deriving BEq

namespace Json

/-- Puts a member in its place; a later value of the same name replaces the earlier one. -/
def insertMember (name : String) (value : Json) : List (String × Json) → List (String × Json)
  | [] => [(name, value)]
  | (other, old) :: rest =>
    if name = other then (name, value) :: rest
    else if name < other then (name, value) :: (other, old) :: rest
    else (other, old) :: insertMember name value rest

/-- The object of the given members, sorted by name, the last of equal names winning. -/
def object (fields : List (String × Json)) : Json :=
  .members (fields.foldl (fun sorted field => insertMember field.1 field.2 sorted) [])

/-- The member of that name. -/
def get? : Json → String → Option Json
  | .members fields, name => fields.lookup name
  | _, _ => none

def isNull : Json → Bool
  | .null => true
  | _ => false

def ofNat (n : Nat) : Json :=
  .number (.whole n)

/-- A value that is no finite number has no document form. -/
def ofBinary64 (x : Decimal.Binary64) : Json :=
  if x.isFinite then .number (.real x) else .null

end Json
end ReviewDesk
