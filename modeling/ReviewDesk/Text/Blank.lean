/-!
Blank characters and the removal of them at both ends of a text. A character is blank when it has
the Unicode property `White_Space`.
-/

namespace ReviewDesk
namespace Text

def isBlank (c : Char) : Bool :=
  (0x9 ≤ c.toNat && c.toNat ≤ 0xd) || c.toNat == 0x20 || c.toNat == 0x85 || c.toNat == 0xa0 ||
    c.toNat == 0x1680 || (0x2000 ≤ c.toNat && c.toNat ≤ 0x200a) || c.toNat == 0x2028 ||
    c.toNat == 0x2029 || c.toNat == 0x202f || c.toNat == 0x205f || c.toNat == 0x3000

/-- Drops the characters of the class at both ends. -/
def strip (drop : Char → Bool) (cs : List Char) : List Char :=
  ((cs.dropWhile drop).reverse.dropWhile drop).reverse

/-- The text without the blanks at its ends. -/
def trim (s : String) : String :=
  String.ofList (strip isBlank s.toList)

/-- The trimmed text, absent when nothing is left. -/
def trimToOption (s : String) : Option String :=
  if (trim s).isEmpty then none else some (trim s)

end Text
end ReviewDesk
