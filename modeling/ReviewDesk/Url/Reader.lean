import ReviewDesk.Text.Blank
import ReviewDesk.Url.Basic
import ReviewDesk.Url.Segment

/-!
Reading an address of the web. Nothing stands for what is missing but the slash that begins the path
of a scheme known to have one.
-/

namespace ReviewDesk
namespace Url

inductive Fault where
  | relative
  | emptyHost
  | invalidDomain
  | invalidPort
  | invalidAddress4
  | invalidAddress6
  | invalidHostCharacter
deriving DecidableEq

def Fault.message : Fault → String
  | .relative => "relative URL without a base"
  | .emptyHost => "empty host"
  | .invalidDomain => "invalid international domain name"
  | .invalidPort => "invalid port number"
  | .invalidAddress4 => "invalid IPv4 address"
  | .invalidAddress6 => "invalid IPv6 address"
  | .invalidHostCharacter => "invalid domain character"

/-- The scheme before the first colon, with what follows the colon. -/
def takeScheme? (cs : List Char) : Option (String × List Char) :=
  let isSchemeChar (c : Char) : Bool := c.isAlphanum || ['+', '-', '.'].contains c || isDropped c
  let scheme := keep (cs.takeWhile isSchemeChar)
  match scheme.head?, cs.dropWhile isSchemeChar with
  | some c, ':' :: rest => if c.isAlpha then some (lowerText scheme, rest) else none
  | _, _ => none

/-- Slashes divide a path; so do backslashes where the scheme is a special one. -/
def isSlash (special : Bool) (c : Char) : Bool :=
  c == '/' || (special && c == '\\')

/-- The segments of the text of a path. -/
def splitPath (special : Bool) (cs : List Char) : List (List Char) :=
  Text.splitChars '/' (cs.map fun c => if isSlash special c then '/' else c)

/-- Adds the segments of a text to a path. -/
def readSegments (scheme : String) : List String → List (List Char) → List String
  | path, [] => path
  | path, segment :: rest =>
    readSegments scheme (pushSegment scheme .path path segment rest.isEmpty) rest

/-- Whether the segments lead to a drive at the beginning of the path. -/
def reachesDrive (scheme : String) : List String → List (List Char) → Bool
  | _, [] => false
  | path, segment :: rest =>
    (path.isEmpty && isDrive (keep segment)) ||
      reachesDrive scheme (pushSegment scheme .path path segment rest.isEmpty) rest

/-- What follows the slash that begins a path. -/
def dropSlash (special : Bool) (cs : List Char) : List Char :=
  if (keep cs).head?.any (isSlash special) then dropKept 1 cs else cs

/-- The path that a text spells. Nothing is no path, unless the scheme is special. -/
def readPath (scheme : String) (cs : List Char) : List String :=
  let special := isSpecialScheme scheme
  if (keep cs).isEmpty && !special then []
  else readSegments scheme [] (splitPath special (dropSlash special cs))

/-- What stands before and after the last of a character. -/
def splitLast (separator : Char) (cs : List Char) : Option (List Char × List Char) :=
  if cs.contains separator then
    let after := (cs.reverse.takeWhile (· ≠ separator)).reverse
    some (cs.take (cs.length - after.length - 1), after)
  else none

/-- The host and the text of the port; a colon between brackets belongs to the host. -/
def splitPort (brackets : Bool) : List Char → List Char × Option (List Char)
  | [] => ([], none)
  | c :: rest =>
    if c = ':' ∧ !brackets then ([], some rest)
    else
      let brackets := if c = '[' then true else if c = ']' then false else brackets
      let (host, port) := splitPort brackets rest
      (c :: host, port)

def readAddress6 (cs : List Char) : Except Fault Host :=
  if cs.getLast? = some ']' then
    match address6? (cs.drop 1).dropLast with
    | some words => .ok (.address6 words)
    | none => .error .invalidAddress6
  else .error .invalidAddress6

/-- A host that is a domain or an address. -/
def readDomain (cs : List Char) : Except Fault Host :=
  match (decode? cs).bind (asciiDomain? ·.toList) with
  | none => .error .invalidDomain
  | some [] => .error .emptyHost
  | some domain =>
    if endsInNumber domain then
      match address4? domain with
      | some value => .ok (.address4 value)
      | none => .error .invalidAddress4
    else .ok (.name (String.ofList domain))

def isInvalidInHost (c : Char) : Bool :=
  ['\x00', '\t', '\n', '\r', ' ', '#', '/', ':', '<', '>', '?', '@', '[', '\\', ']', '^',
    '|'].contains c

def readHost (special : Bool) (cs : List Char) : Except Fault Host :=
  if cs.head? = some '[' then readAddress6 cs
  else if special then readDomain cs
  else if cs.any isInvalidInHost then .error .invalidHostCharacter
  else .ok (.name (String.ofList (encode .controls cs)))

/-- A port; none is given by no digits, or by the digits of the default one. -/
def readPort (scheme : String) (cs : List Char) : Except Fault (Option Nat) :=
  if cs.isEmpty then .ok none
  else
    match (Decimal.digitsOnly? cs).filter (· < 65536) with
    | some port => .ok (if defaultPort scheme = some port then none else some port)
    | none => .error .invalidPort

/-- Who is asked, with what is left of the text from a backslash in the place of the port. -/
def readAuthority (scheme : String) (cs : List Char) (last : Bool) :
    Except Fault (Authority × List Char) := do
  let special := isSpecialScheme scheme
  let (user, hostPort) := (splitLast '@' cs).getD ([], cs)
  if cs.head? = some '@' ∧ user.isEmpty ∧ hostPort.isEmpty ∧ !last then
    .error .emptyHost
  let username := user.takeWhile (· ≠ ':')
  let password := (user.dropWhile (· ≠ ':')).drop 1
  let (hostChars, port) := splitPort false hostPort
  if hostChars.isEmpty ∧ (special ∨ port.isSome ∨ !username.isEmpty ∨ !password.isEmpty) then
    .error .emptyHost
  let host ← if hostChars.isEmpty then pure none else some <$> readHost special hostChars
  let afterColon := port.getD []
  let port ← readPort scheme (afterColon.takeWhile (· ≠ '\\'))
  let authority := {
    username := String.ofList (encode .userinfo username)
    password := String.ofList (encode .userinfo password)
    host := host
    port := port }
  return (authority, afterColon.dropWhile (· ≠ '\\'))

/-- A local host is no host. -/
def readLocalHost (cs : List Char) : Except Fault (Option Host) :=
  if cs.isEmpty then .ok none
  else (readHost true cs).map fun host => if host = .name "localhost" then none else some host

/-- The host and the path of a local address. A drive in the place of the host begins the path, and
a path that begins with a drive has no host. -/
def readLocal (scheme : String) (cs : List Char) : Except Fault (Option Host × List String) := do
  let afterSlashes := (keep cs).drop 2
  let hostChars := afterSlashes.takeWhile fun c => !isSlash true c
  if ((keep cs).takeWhile (isSlash true)).length < 2 then
    return (none, readPath scheme cs)
  else if isDrive hostChars then
    return (none, readPath scheme (dropKept 2 cs))
  else
    let rest := dropKept (2 + hostChars.length) cs
    match ← readLocalHost hostChars with
    | none => return (none, readSegments scheme [] (splitPath true rest))
    | some host =>
      let segments := splitPath true (dropSlash true rest)
      return (if reachesDrive scheme [] segments then none else some host,
        readSegments scheme [] segments)

/-- A text up to a mark, with what follows the mark. -/
def splitMark (mark : Char) (cs : List Char) : List Char × Option (List Char) :=
  (cs.takeWhile (· ≠ mark), match cs.dropWhile (· ≠ mark) with
    | [] => none
    | _ :: rest => some rest)

/-- Two slashes that begin a path could be taken for those that begin an authority. -/
def isGuarded (path : List String) : Bool :=
  path.head? = some "" && 2 ≤ path.length

/-- The authority and the path that follow the scheme; whether they end the address. -/
def readHierarchy (scheme : String) (cs : List Char) (last : Bool) :
    Except Fault (Option Authority × Path) := do
  let special := isSpecialScheme scheme
  let kept := keep cs
  let slashes := (kept.takeWhile (isSlash special)).length
  if scheme = "file" then
    let (host, path) ← readLocal scheme cs
    return (some { host := host }, .rooted false (settle scheme path))
  else if special ∨ 2 ≤ slashes then
    let start := if special then slashes else 2
    let authorityChars := (kept.drop start).takeWhile fun c => !isSlash special c
    let stop := start + authorityChars.length
    let (authority, left) ← readAuthority scheme authorityChars (last && kept.length == stop)
    return (some authority, .rooted false (readPath scheme (dropKept (stop - left.length) cs)))
  else if slashes = 1 then
    let path := readPath scheme cs
    return (none, .rooted (isGuarded path) path)
  else return (none, .bare (String.ofList (encode .controls kept)))

/-- The address that a text spells. -/
def parse (s : String) : Except Fault Url := do
  match takeScheme? (Text.strip (·.toNat ≤ 0x20) s.toList) with
  | none => .error .relative
  | some (scheme, rest) =>
    let (rest, fragment) := splitMark '#' rest
    let (rest, query) := splitMark '?' rest
    let (authority, path) ← readHierarchy scheme rest (query.isNone && fragment.isNone)
    let querySet := if isSpecialScheme scheme then EncodeSet.specialQuery else .query
    return {
      scheme := scheme
      authority := authority
      path := path
      query := query.map fun cs => String.ofList (encode querySet (keep cs))
      fragment := fragment.map fun cs => String.ofList (encode .fragment (keep cs)) }

end Url
end ReviewDesk
