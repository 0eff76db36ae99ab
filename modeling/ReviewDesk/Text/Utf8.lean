/-!
Reading bytes as UTF-8. Every maximal run of bytes that starts a character but does not finish it
is read as one replacement character; so is every byte that starts none.
-/

namespace ReviewDesk
namespace Text

def replacement : Char := Char.ofNat 0xfffd

/-- What the first byte of a character promises: the payload bits it carries and the bounds of each
byte that has to follow. -/
def leadByte (b : UInt8) : Option (Nat × List (UInt8 × UInt8)) :=
  if b < 0x80 then some (b.toNat, [])
  else if b < 0xc2 then none
  else if b < 0xe0 then some (b.toNat - 0xc0, [(0x80, 0xbf)])
  else if b == 0xe0 then some (0, [(0xa0, 0xbf), (0x80, 0xbf)])
  else if b == 0xed then some (0xd, [(0x80, 0x9f), (0x80, 0xbf)])
  else if b < 0xf0 then some (b.toNat - 0xe0, [(0x80, 0xbf), (0x80, 0xbf)])
  else if b == 0xf0 then some (0, [(0x90, 0xbf), (0x80, 0xbf), (0x80, 0xbf)])
  else if b < 0xf4 then some (b.toNat - 0xf0, [(0x80, 0xbf), (0x80, 0xbf), (0x80, 0xbf)])
  else if b == 0xf4 then some (4, [(0x80, 0x8f), (0x80, 0xbf), (0x80, 0xbf)])
  else none

/-- Takes the bytes that have to follow. The flag tells whether all of them were there; the number
counts those that were. -/
def continuation : List (UInt8 × UInt8) → Nat → List UInt8 → Bool × Nat × Nat
  | [], code, _ => (true, code, 0)
  | _ :: _, code, [] => (false, code, 0)
  | (low, high) :: bounds, code, b :: rest =>
    if low ≤ b && b ≤ high then
      let (whole, code, taken) := continuation bounds (code * 64 + (b.toNat - 0x80)) rest
      (whole, code, taken + 1)
    else (false, code, 0)

/-- Reads at most `fuel` characters; the number of bytes is enough for all of them. -/
def utf8Chars : Nat → List UInt8 → List Char
  | 0, _ => []
  | _ + 1, [] => []
  | fuel + 1, b :: rest =>
    match leadByte b with
    | none => replacement :: utf8Chars fuel rest
    | some (code, bounds) =>
      let (whole, code, taken) := continuation bounds code rest
      (if whole then Char.ofNat code else replacement) :: utf8Chars fuel (rest.drop taken)

/-- The text that the bytes stand for, with what is no UTF-8 replaced. -/
def ofUtf8 (bytes : List UInt8) : String :=
  String.ofList (utf8Chars bytes.length bytes)

/-- The text that the bytes stand for, absent when some of them are no UTF-8. -/
def ofUtf8? (bytes : List UInt8) : Option String :=
  let s := ofUtf8 bytes
  if s.toUTF8.toList == bytes then some s else none

end Text
end ReviewDesk
