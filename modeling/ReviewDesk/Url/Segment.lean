import ReviewDesk.Text.Split
import ReviewDesk.Url.Percent

/-!
Segments of a path, and how they are added to it. Dots move about in the path; a drive letter stands
at its beginning and is never left.
-/

namespace ReviewDesk
namespace Url

/-- Characters that are dropped wherever they stand. -/
def isDropped (c : Char) : Bool :=
  c == '\t' || c == '\n' || c == '\r'

/-- The characters of a text that count. -/
def keep (cs : List Char) : List Char :=
  cs.filter fun c => !isDropped c

/-- A text after some of its characters that count. -/
def dropKept : Nat → List Char → List Char
  | 0, cs => cs
  | _ + 1, [] => []
  | n + 1, c :: cs => if isDropped c then dropKept (n + 1) cs else dropKept n cs

def lowerText (cs : List Char) : String :=
  String.ofList (cs.map Char.toLower)

def isSingleDot (segment : List Char) : Bool :=
  [".", "%2e"].contains (lowerText segment)

def isDoubleDot (segment : List Char) : Bool :=
  ["..", "%2e.", ".%2e", "%2e%2e"].contains (lowerText segment)

/-- A letter with a colon or a bar names a drive. -/
def isDrive : List Char → Bool
  | [letter, mark] => letter.isAlpha && (mark == ':' || mark == '|')
  | _ => false

/-- Whether a segment is a drive letter, or one with a backslash after it. -/
def beginsWithDrive (segment : String) : Bool :=
  isDrive (segment.toList.take 2) && (segment.toList.drop 2).head?.all (· == '\\')

/-- One segment up, but never up from a drive. -/
def parent (path : List String) : List String :=
  if path.getLast?.any beginsWithDrive then path else path.dropLast

/-- The first segment of a local path. A drive is written with a colon even if it was spelt with a
bar; dropped characters after the colon divide the drive from what follows. -/
def localHead (set : EncodeSet) (segment : List Char) : List String :=
  let drive := (keep segment).take 2
  let rest := dropKept 2 segment
  let driveText := String.ofList (drive.take 1 ++ [':'])
  if !isDrive drive then [String.ofList (encode set (keep segment))]
  else if (keep rest).isEmpty then [driveText]
  else if drive.getLast? = some ':' ∧ rest.head?.any isDropped then
    [driveText, String.ofList (encode set (keep rest))]
  else [String.ofList (encode set (keep segment))]

/-- Adds a segment to a path. A dot stays where it is and two dots go one up; either leaves an empty
segment when it is the last. -/
def pushSegment (scheme : String) (set : EncodeSet) (path : List String) (segment : List Char)
    (last : Bool) : List String :=
  let stop := if last then [""] else []
  let encoded := encode set (keep segment)
  if isDoubleDot encoded then parent path ++ stop
  else if isSingleDot encoded then path ++ stop
  else if scheme = "file" ∧ path.isEmpty then localHead set segment
  else path ++ [String.ofList encoded]

/-- Leading empty segments that a local path does not keep. -/
def dropEmptyFront : List String → List String
  | "" :: b :: rest => dropEmptyFront (b :: rest)
  | segments => segments

/-- A path with as many empty segments in front as its scheme allows. -/
def settle (scheme : String) (path : List String) : List String :=
  if scheme = "file" then dropEmptyFront path else path

end Url
end ReviewDesk
