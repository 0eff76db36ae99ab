import ReviewDesk.Text.Hexadecimal
import ReviewDesk.Text.Utf8

/-!
Percent encoding. A character outside ASCII is always encoded, as its UTF-8 bytes; the sets say
which ASCII characters are.
-/

namespace ReviewDesk
namespace Url

/-- Whether an ASCII character has to be encoded. -/
abbrev EncodeSet := Char → Bool

namespace EncodeSet

def controls : EncodeSet := fun c => c.toNat < 0x20 || c.toNat == 0x7f

/-- More characters than in a smaller set. -/
def plus (set : EncodeSet) (more : List Char) : EncodeSet := fun c => set c || more.contains c

def fragment : EncodeSet := controls.plus [' ', '"', '<', '>', '\x60']

def query : EncodeSet := controls.plus [' ', '"', '#', '<', '>']

def specialQuery : EncodeSet := query.plus ['\x27']

def path : EncodeSet := fragment.plus ['#', '?', '\x7b', '\x7d']

def segment : EncodeSet := path.plus ['/', '%']

def specialSegment : EncodeSet := segment.plus ['\\']

def userinfo : EncodeSet := path.plus ['/', ':', ';', '=', '@', '[', '\\', ']', '^', '|']

end EncodeSet

def upperHex (n : Nat) : Char :=
  (Nat.digitChar n).toUpper

def percentByte (b : UInt8) : List Char :=
  ['%', upperHex (b.toNat / 16), upperHex (b.toNat % 16)]

def encodeChar (set : EncodeSet) (c : Char) : List Char :=
  if c.toNat < 0x80 && !set c then [c] else (String.utf8EncodeChar c).flatMap percentByte

def encode (set : EncodeSet) (cs : List Char) : List Char :=
  cs.flatMap (encodeChar set)

/-- The bytes that a text stands for; a percent sign without two digits stands for itself. -/
def decodeBytes : List Char → List UInt8
  | [] => []
  | '%' :: a :: b :: rest =>
    match Text.hexDigit? a, Text.hexDigit? b with
    | some high, some low => UInt8.ofNat (high * 16 + low) :: decodeBytes rest
    | _, _ => String.utf8EncodeChar '%' ++ decodeBytes (a :: b :: rest)
  | c :: rest => String.utf8EncodeChar c ++ decodeBytes rest
termination_by cs => cs.length

/-- The text that a percent-encoded text stands for. -/
def decode? (cs : List Char) : Option String :=
  Text.ofUtf8? (decodeBytes cs)

/-- A character of a form value: a plus for a space, letters, digits and four marks as they are. -/
def formChar (c : Char) : List Char :=
  if c = ' ' then ['+']
  else if c.isAlphanum || c ∈ ['*', '-', '.', '_'] then [c]
  else (String.utf8EncodeChar c).flatMap percentByte

def formText (s : String) : List Char :=
  s.toList.flatMap formChar

/-- The pairs of a form, joined by ampersands. -/
def formPairs (pairs : List (String × String)) : List Char :=
  ['&'].intercalate (pairs.map fun (key, value) => formText key ++ ['='] ++ formText value)

end Url
end ReviewDesk
