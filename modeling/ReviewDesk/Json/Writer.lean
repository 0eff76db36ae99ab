import ReviewDesk.Decimal.Layout
import ReviewDesk.Json.Value
import ReviewDesk.Text.Quoted

/-!
Document text. The compact form has no blanks; the indented form puts every element and member on a
line of its own; the outline names the kind of each value.
-/

namespace ReviewDesk

/-- Whole numbers in digits, binary ones in the shortest text with a point or an exponent. -/
def Number.chars : Number → List Char
  | .whole value => Decimal.signText (value < 0) ++ Decimal.digitText value.natAbs
  | .real value => Decimal.Style.document.chars value

namespace Json

def hexPair (n : Nat) : List Char :=
  [Nat.digitChar (n / 16), Nat.digitChar (n % 16)]

/-- Quotes, backslashes and controls are escaped, all else stands for itself. -/
def escapeChar (c : Char) : List Char :=
  match c with
  | '"' => ['\\', '"']
  | '\\' => ['\\', '\\']
  | '\x08' => ['\\', 'b']
  | '\x0c' => ['\\', 'f']
  | '\n' => ['\\', 'n']
  | '\r' => ['\\', 'r']
  | '\t' => ['\\', 't']
  | c => if c.toNat < 0x20 then ['\\', 'u', '0', '0'] ++ hexPair c.toNat else [c]

def stringChars (s : String) : List Char :=
  ['"'] ++ s.toList.flatMap escapeChar ++ ['"']

mutual

/-- The compact form. -/
def compactChars : Json → List Char
  | .null => ['n', 'u', 'l', 'l']
  | .bool true => ['t', 'r', 'u', 'e']
  | .bool false => ['f', 'a', 'l', 's', 'e']
  | .number value => value.chars
  | .string value => stringChars value
  | .array elements => ['['] ++ compactElements elements ++ [']']
  | .members fields => ['\x7b'] ++ compactMembers fields ++ ['\x7d']

def compactElements : List Json → List Char
  | [] => []
  | [value] => compactChars value
  | value :: rest => compactChars value ++ [','] ++ compactElements rest

def compactMembers : List (String × Json) → List Char
  | [] => []
  | [(name, value)] => stringChars name ++ [':'] ++ compactChars value
  | (name, value) :: rest =>
    stringChars name ++ [':'] ++ compactChars value ++ [','] ++ compactMembers rest

end

def compact (value : Json) : String :=
  String.ofList (compactChars value)

/-- A new line at a depth of two blanks each. -/
def newline (depth : Nat) : List Char :=
  '\n' :: List.replicate (2 * depth) ' '

mutual

/-- The indented form; empty arrays and objects stay on their line. -/
def prettyChars (depth : Nat) : Json → List Char
  | .array [] => ['[', ']']
  | .array elements =>
    ['['] ++ newline (depth + 1) ++ prettyElements (depth + 1) elements ++ newline depth ++ [']']
  | .members [] => ['\x7b', '\x7d']
  | .members fields =>
    ['\x7b'] ++ newline (depth + 1) ++ prettyMembers (depth + 1) fields ++ newline depth ++ ['\x7d']
  | .null => compactChars .null
  | .bool value => compactChars (.bool value)
  | .number value => compactChars (.number value)
  | .string value => compactChars (.string value)

def prettyElements (depth : Nat) : List Json → List Char
  | [] => []
  | [value] => prettyChars depth value
  | value :: rest => prettyChars depth value ++ [','] ++ newline depth ++ prettyElements depth rest

def prettyMembers (depth : Nat) : List (String × Json) → List Char
  | [] => []
  | [(name, value)] => stringChars name ++ [':', ' '] ++ prettyChars depth value
  | (name, value) :: rest =>
    stringChars name ++ [':', ' '] ++ prettyChars depth value ++ [','] ++ newline depth ++
      prettyMembers depth rest

end

def pretty (value : Json) : String :=
  String.ofList (prettyChars 0 value)

mutual

/-- The outline: every value after the name of its kind. -/
def outline : Json → String
  | .null => "Null"
  | .bool value => "Bool(" ++ (if value then "true" else "false") ++ ")"
  | .number value => "Number(" ++ String.ofList value.chars ++ ")"
  | .string value => "String(" ++ Text.quoted value ++ ")"
  | .array elements => "Array [" ++ outlineElements elements ++ "]"
  | .members fields => "Object \x7b" ++ outlineMembers fields ++ "\x7d"

def outlineElements : List Json → String
  | [] => ""
  | [value] => outline value
  | value :: rest => outline value ++ ", " ++ outlineElements rest

def outlineMembers : List (String × Json) → String
  | [] => ""
  | [(name, value)] => Text.quoted name ++ ": " ++ outline value
  | (name, value) :: rest =>
    Text.quoted name ++ ": " ++ outline value ++ ", " ++ outlineMembers rest

end

end Json
end ReviewDesk
