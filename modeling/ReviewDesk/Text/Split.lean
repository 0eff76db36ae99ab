/-!
Cutting a text at every occurrence of a character. There is always at least one part.
-/

namespace ReviewDesk
namespace Text

def splitChars (separator : Char) : List Char → List (List Char)
  | [] => [[]]
  | c :: rest =>
    if c = separator then [] :: splitChars separator rest
    else
      match splitChars separator rest with
      | [] => [[c]]
      | part :: parts => (c :: part) :: parts

def split (separator : Char) (s : String) : List String :=
  (splitChars separator s.toList).map String.ofList

/-- A line without the carriage return that stood before its line feed. -/
def withoutReturn (line : List Char) : List Char :=
  if line.getLast? = some '\r' then line.dropLast else line

/-- The lines of a text. A line feed at its end begins no line of its own. -/
def lines (s : String) : List String :=
  let parts := splitChars '\n' s.toList
  let ended := parts.dropLast.map withoutReturn
  ((if parts.getLast? = some [] then ended else ended ++ parts.drop ended.length)).map String.ofList

end Text
end ReviewDesk
