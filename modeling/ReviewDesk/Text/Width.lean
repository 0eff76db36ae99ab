import ReviewDesk.Text.Pictograph

/-!
The room that a text takes in cells of equal width. Most characters take one cell wherever they
stand; some take less or more because of what follows them, as the parts of a joined picture or a
ligature do. A text is therefore measured from its end.
-/

namespace ReviewDesk
namespace Text

/-- Inclusive ranges of code points that take two cells, in increasing order. -/
def wide : List (Nat × Nat) := [
  (0x1100, 0x115f), (0x231a, 0x231b), (0x2329, 0x232a), (0x23e9, 0x23ec), (0x23f0, 0x23f0),
  (0x23f3, 0x23f3), (0x25fd, 0x25fe), (0x2614, 0x2615), (0x2630, 0x2637), (0x2648, 0x2653),
  (0x267f, 0x267f), (0x268a, 0x268f), (0x2693, 0x2693), (0x26a1, 0x26a1), (0x26aa, 0x26ab),
  (0x26bd, 0x26be), (0x26c4, 0x26c5), (0x26ce, 0x26ce), (0x26d4, 0x26d4), (0x26ea, 0x26ea),
  (0x26f2, 0x26f3), (0x26f5, 0x26f5), (0x26fa, 0x26fa), (0x26fd, 0x26fd), (0x2705, 0x2705),
  (0x270a, 0x270b), (0x2728, 0x2728), (0x274c, 0x274c), (0x274e, 0x274e), (0x2753, 0x2755),
  (0x2757, 0x2757), (0x2795, 0x2797), (0x27b0, 0x27b0), (0x27bf, 0x27bf), (0x2b1b, 0x2b1c),
  (0x2b50, 0x2b50), (0x2b55, 0x2b55), (0x2e80, 0x3029), (0x302e, 0x303e), (0x3041, 0x3096),
  (0x309b, 0x3247), (0x3250, 0xa4c6), (0xa960, 0xa97c), (0xac00, 0xd7a3), (0xf900, 0xfaff),
  (0xfe10, 0xfe19), (0xfe30, 0xfe6b), (0xff01, 0xff60), (0xffe0, 0xffe6), (0x16fe0, 0x16fe3),
  (0x16ff0, 0x1b2fb), (0x1d300, 0x1d356), (0x1d360, 0x1d376), (0x1f004, 0x1f004),
  (0x1f0cf, 0x1f0cf), (0x1f18e, 0x1f18e), (0x1f191, 0x1f19a), (0x1f200, 0x1f320),
  (0x1f32d, 0x1f335), (0x1f337, 0x1f37c), (0x1f37e, 0x1f393), (0x1f3a0, 0x1f3ca),
  (0x1f3cf, 0x1f3d3), (0x1f3e0, 0x1f3f0), (0x1f3f4, 0x1f3f4), (0x1f3f8, 0x1f43e),
  (0x1f440, 0x1f440), (0x1f442, 0x1f4fc), (0x1f4ff, 0x1f53d), (0x1f54b, 0x1f54e),
  (0x1f550, 0x1f567), (0x1f57a, 0x1f57a), (0x1f595, 0x1f596), (0x1f5a4, 0x1f5a4),
  (0x1f5fb, 0x1f64f), (0x1f680, 0x1f6c5), (0x1f6cc, 0x1f6cc), (0x1f6d0, 0x1f6d2),
  (0x1f6d5, 0x1f6df), (0x1f6eb, 0x1f6ec), (0x1f6f4, 0x1f6fc), (0x1f7e0, 0x1f7f0),
  (0x1f90c, 0x1f93a), (0x1f93c, 0x1f945), (0x1f947, 0x1f9ff), (0x1fa70, 0x1faf8),
  (0x20000, 0x3fffd)]

/-- Wide pictures that can also be asked for as a character of one cell. -/
def narrowed : List (Nat × Nat) := [
  (0x231a, 0x231b), (0x23e9, 0x23ea), (0x23f0, 0x23f0), (0x23f3, 0x23f3), (0x25fd, 0x25fe),
  (0x2614, 0x2615), (0x2648, 0x2653), (0x267f, 0x267f), (0x2693, 0x2693), (0x26a1, 0x26a1),
  (0x26aa, 0x26ab), (0x26bd, 0x26be), (0x26c4, 0x26c5), (0x26d4, 0x26d4), (0x26ea, 0x26ea),
  (0x26f2, 0x26f3), (0x26f5, 0x26f5), (0x26fa, 0x26fa), (0x26fd, 0x26fd), (0x2753, 0x2753),
  (0x2757, 0x2757), (0x2b1b, 0x2b1c), (0x2b50, 0x2b50), (0x2b55, 0x2b55), (0x1f004, 0x1f004),
  (0x1f30d, 0x1f30f), (0x1f315, 0x1f315), (0x1f31c, 0x1f31c), (0x1f378, 0x1f378),
  (0x1f393, 0x1f393), (0x1f3a7, 0x1f3a7), (0x1f3ac, 0x1f3ae), (0x1f3c2, 0x1f3c2),
  (0x1f3c4, 0x1f3c4), (0x1f3c6, 0x1f3c6), (0x1f3ca, 0x1f3ca), (0x1f3e0, 0x1f3e0),
  (0x1f3ed, 0x1f3ed), (0x1f408, 0x1f408), (0x1f415, 0x1f415), (0x1f41f, 0x1f41f),
  (0x1f426, 0x1f426), (0x1f442, 0x1f442), (0x1f446, 0x1f449), (0x1f44d, 0x1f44e),
  (0x1f453, 0x1f453), (0x1f46a, 0x1f46a), (0x1f47d, 0x1f47d), (0x1f4a3, 0x1f4a3),
  (0x1f4b0, 0x1f4b0), (0x1f4b3, 0x1f4b3), (0x1f4bb, 0x1f4bb), (0x1f4bf, 0x1f4bf),
  (0x1f4cb, 0x1f4cb), (0x1f4da, 0x1f4da), (0x1f4df, 0x1f4df), (0x1f4e4, 0x1f4e6),
  (0x1f4ea, 0x1f4ed), (0x1f4f7, 0x1f4f7), (0x1f4f9, 0x1f4fb), (0x1f508, 0x1f508),
  (0x1f50d, 0x1f50d), (0x1f512, 0x1f513), (0x1f550, 0x1f567), (0x1f610, 0x1f610),
  (0x1f687, 0x1f687), (0x1f68d, 0x1f68d), (0x1f691, 0x1f691), (0x1f694, 0x1f694),
  (0x1f698, 0x1f698), (0x1f6ad, 0x1f6ad), (0x1f6b2, 0x1f6b2), (0x1f6b9, 0x1f6ba),
  (0x1f6bc, 0x1f6bc)]

def isWide (c : Char) : Bool :=
  decide (0x1100 ≤ c.toNat) && inRanges wide c.toNat

/-- Vowels and trailing consonants of the Korean script share the cells of the letter before
them. -/
def isKoreanTail (n : Nat) : Bool :=
  (0x1160 ≤ n && n ≤ 0x11ff) || (0xd7b0 ≤ n && n ≤ 0xd7c6) || (0xd7cb ≤ n && n ≤ 0xd7fb)

/-- The cells that a character takes by itself. Marks and ignorable characters take none, and
neither do some signs that are written across what follows. -/
def ownColumns (c : Char) : Nat :=
  let n := c.toNat
  if n ≤ 0xa0 || n == 0x2d7f then 1
  else if n == 0x115f || n == 0x17a4 then 2
  else if n == 0x17d8 then 3
  else if isGraphemeExtend c || isIgnorable c || isKoreanTail n ||
      [0x605, 0x70f, 0x890, 0x891, 0x8e2, 0xa8fa].contains n then 0
  else if isWide c then 2
  else 1

/-- A picture even when nothing asks for one. -/
def isPicture (c : Char) : Bool :=
  isPictograph c && isWide c &&
    !([0x3030, 0x303d, 0x3297, 0x3299, 0x1f202, 0x1f237].contains c.toNat)

/-- A picture when one is asked for. -/
def canBePicture (c : Char) : Bool :=
  c.isDigit || c == '#' || c == '*' || isPictograph c

/-- Khmer letters that can be written below another one without taking room. -/
def subscriptLetters : List (Nat × Nat) := [
  (0x1780, 0x1782), (0x1784, 0x1787), (0x1789, 0x178c), (0x178e, 0x1793), (0x1795, 0x1798),
  (0x179b, 0x179d), (0x17a0, 0x17a0), (0x17a2, 0x17a2), (0x17a7, 0x17a7), (0x17ab, 0x17ac),
  (0x17af, 0x17af)]

/-- The characters that a ligature can end in, and what else can change the room that a character
before it takes. -/
inductive Follower where
  | plain
  | picture
  | skinTone
  /-- A joiner and a picture. -/
  | joinedPicture
  | alef
  | lamed (joined : Bool)
  | subscriptLetter
  | ya (joined : Bool)
  | joinedYaSign
  | orkhonI (joined : Bool)
  | tifinagh (joined : Bool)
  | tifinaghJoiner
  | lisuTone
  | kiratE
  | kiratAi
deriving DecidableEq

namespace Follower

/-- A ligature is not disturbed by marks that are ignored. -/
def isLigature : Follower → Bool
  | .plain | .picture | .skinTone | .joinedPicture | .alef => false
  | _ => true

def join : Follower → Follower
  | .lamed _ => .lamed true
  | .ya _ => .ya true
  | .orkhonI _ => .orkhonI true
  | .tifinagh _ => .tifinagh true
  | f => f

/-- What a character is for the one before it. -/
def ofChar (c : Char) : Follower :=
  let n := c.toNat
  if isSkinTone c then .skinTone
  else if isPicture c then .picture
  else if [0x622, 0x623, 0x625, 0x627, 0x671, 0x672, 0x673, 0x675, 0x773, 0x774].contains n ||
      (0x870 ≤ n && n ≤ 0x882) then .alef
  else if n == 0x5dc then .lamed false
  else if inRanges subscriptLetters n then .subscriptLetter
  else if n == 0x1a10 then .ya false
  else if n == 0x10c03 then .orkhonI false
  else if (0x2d31 ≤ n && n ≤ 0x2d65) || n == 0x2d6f then .tifinagh false
  else if n == 0xa4fc || n == 0xa4fd then .lisuTone
  else if n == 0x16d67 then .kiratE
  else if n == 0x16d68 then .kiratAi
  else .plain

end Follower

/-- What follows a character: the thing itself, and a selector between the two. -/
structure Following where
  kind : Follower := .plain
  asPicture : Bool := false
  asText : Bool := false

def isLam (n : Nat) : Bool :=
  n == 0x644 || (0x6b5 ≤ n && n ≤ 0x6b8) || n == 0x76a || n == 0x8a6 || n == 0x8c7

/-- Marks that are ignored. -/
def isIgnorableMark (c : Char) : Bool :=
  isIgnorable c && isGraphemeExtend c && c ≠ nonJoiner

/-- The cells that a character adds to those of a ligature or a joined picture after it, when it
belongs to it. -/
def joinedColumns? (c : Char) (after : Follower) : Option (Int × Follower) :=
  let n := c.toNat
  if after.isLigature && c = joiner then some (0, after.join)
  else if after.isLigature && isIgnorableMark c then some (0, after)
  else
    match after with
    | .alef =>
      if isLam n then some (0, .plain)
      else if ownColumns c = 0 && c ≠ joiner && c ≠ nonJoiner then some (0, .alef)
      else none
    | .lamed true => if n == 0x5d0 then some (0, .plain) else none
    | .subscriptLetter => if n == 0x17d2 then some (-1, .plain) else none
    | .ya true => if n == 0x1a17 then some (0, .joinedYaSign) else none
    | .joinedYaSign => if n == 0x1a15 then some (0, .plain) else none
    | .orkhonI true => if n == 0x10c32 then some (0, .plain) else none
    | .tifinagh joined =>
      if n == 0x2d7f then some (1, .tifinaghJoiner)
      else if joined && Follower.ofChar c = .tifinagh false then some (0, .plain)
      else none
    | .tifinaghJoiner =>
      if Follower.ofChar c = .tifinagh false then some (-1, .plain) else none
    | .lisuTone => if 0xa4f8 ≤ n && n ≤ 0xa4fb then some (0, .plain) else none
    | .kiratE =>
      if n == 0x16d63 || n == 0x16d69 then some (0, .plain)
      else if n == 0x16d67 then some (0, .kiratAi)
      else if n == 0x16d68 then some (1, .kiratE)
      else none
    | .kiratAi => if n == 0x16d63 then some (0, .plain) else none
    | .skinTone =>
      if takesSkinTone c then some (0, .picture)
      else if c = joiner then some (0, .joinedPicture)
      else none
    | .picture => if c = joiner then some (0, .joinedPicture) else none
    | .joinedPicture =>
      if isSkinTone c then some (0, .skinTone)
      else if isPicture c then some (0, .picture)
      else none
    | _ => none

/-- The cells that a character adds to a text, and what it is for the character before it. -/
def addedColumns (c : Char) (after : Following) : Int × Following :=
  if after.asPicture && canBePicture c then
    (if after.kind = .joinedPicture then 0 else 2, { kind := .picture })
  else if c.toNat ≤ 0xa0 then (1, {})
  else if c = pictureSelector then
    (0, { kind := if after.kind.isLigature || after.kind = .alef || after.kind = .joinedPicture
            then after.kind else .plain
          asPicture := true })
  else if c = textSelector then
    (0, { kind := if after.kind.isLigature || after.kind = .alef then after.kind else .plain
          asText := true })
  else if after.asText && inRanges narrowed c.toNat then (1, {})
  else
    match joinedColumns? c after.kind with
    | some (columns, kind) => (columns, { kind := kind })
    | none => (ownColumns c, { kind := Follower.ofChar c })

/-- The cells that a text takes when it stands on one line. -/
def columns (cs : List Char) : Nat :=
  (cs.foldr (fun c (sum, after) =>
    let (more, after) := addedColumns c after
    (sum + more, after)) ((0, {}) : Int × Following)).1.toNat

end Text
end ReviewDesk
