/-!
Texts of a wanted number of characters.
-/

namespace ReviewDesk
namespace Text

/-- At most so many characters: of a longer text the last one is an ellipsis. -/
def shorten (s : String) (limit : Nat) : String :=
  if s.length ≤ limit then s else String.ofList (s.toList.take (limit - 1)) ++ "…"

/-- The text and the blanks that make it so many characters long. -/
def padRight (s : String) (length : Nat) : String :=
  s ++ String.ofList (List.replicate (length - s.length) ' ')

end Text
end ReviewDesk
