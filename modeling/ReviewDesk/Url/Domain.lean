import ReviewDesk.Text.Split
import ReviewDesk.Url.Domain.Direction
import ReviewDesk.Url.Domain.Joining
import ReviewDesk.Url.Domain.Label
import ReviewDesk.Url.Domain.Mapping

/-!
Domains. The characters of a domain are mapped and composed; then every label is read, those in
ASCII form included, and the domain is written with its labels in ASCII form. A domain with a label
that breaks a rule has no such form.
-/

namespace ReviewDesk
namespace Url

/-- Characters that no domain may hold. -/
def isForbidden (c : Char) : Bool :=
  c.toNat ≤ 0x20 || c.toNat == 0x7f ||
    ['%', '#', '/', ':', '<', '>', '?', '@', '[', '\\', ']', '^', '|'].contains c

def isAscii (c : Char) : Bool :=
  c.toNat < 0x80

/-- A label as it is read, and in ASCII form. -/
structure Label where
  chars : List Char
  ascii : List Char

/-- A label that has other than ASCII characters may do so: it does not begin with a mark, its
joiners stand where they may, and it is not too long to be written. -/
def isFit (label : List Char) : Bool :=
  !label.head?.any Text.isMark && joinersFit [] label && label.length ≤ 1000

/-- What begins a label in ASCII form. -/
def asciiMark : List Char := ['x', 'n', '-', '-']

/-- The label that an ASCII form stands for, if it would be written in that form. -/
def Label.ofAscii? (form : List Char) : Option Label := do
  if !form.all isAscii || form.getLast? = some '-' || 2004 < form.length then none
  let label ← decodeLabel? (form.drop asciiMark.length)
  if label.all isPlain && Text.composed label = label && !label.any isForbidden && isFit label then
    some ⟨label, form⟩
  else none

/-- The label with these characters, which are mapped and composed. -/
def Label.ofChars? (label : List Char) : Option Label :=
  if label.any isForbidden then none
  else if asciiMark.isPrefixOf label then Label.ofAscii? label
  else if label.all isAscii then some ⟨label, label⟩
  else if isFit label then some ⟨label, asciiMark ++ encodeLabel label⟩
  else none

/-- A domain in which both directions occur has labels of one direction each. -/
def directionsFit (labels : List Label) : Bool :=
  !labels.any (hasRight ·.chars) || labels.all (isOneWay ·.chars)

/-- The ASCII form of a domain. -/
def asciiDomain? (cs : List Char) : Option (List Char) := do
  let mapped ← cs.mapM mapped?
  let labels ← (Text.splitChars '.' (Text.composed mapped.flatten)).mapM Label.ofChars?
  if directionsFit labels then some (['.'].intercalate (labels.map Label.ascii)) else none

end Url
end ReviewDesk
