import ReviewDesk.Text.Quoted
import ReviewDesk.Url.Reader

/-!
Addresses below a base address: segments are added to its path and pairs to its query.
-/

namespace ReviewDesk
namespace Url

/-- Why a text is no base address. -/
inductive BaseFault where
  | invalid (text : String) (cause : Fault)
  | pathless (text : String)
deriving DecidableEq

/-- The fault and its cause. -/
def BaseFault.chain : BaseFault → List String
  | .invalid text cause => ["invalid API base URL " ++ Text.quoted text, cause.message]
  | .pathless text => ["API base URL " ++ Text.quoted text ++ " cannot carry a path"]

/-- The base address that a text spells, blanks around it aside. -/
def parseBase (text : String) : Except BaseFault Url :=
  match parse (Text.trim text) with
  | .error cause => .error (.invalid text cause)
  | .ok base =>
    match base.path with
    | .rooted _ _ => .ok base
    | .bare _ => .error (.pathless text)

/-- A path without an empty segment at its end. The root stays. -/
def dropEmptyLast (path : List String) : List String :=
  if 2 ≤ path.length ∧ path.getLast? = some "" then path.dropLast else path

/-- In a segment the marks that would divide the path are encoded. -/
def segmentSet (scheme : String) : EncodeSet :=
  if isSpecialScheme scheme then .specialSegment else .segment

/-- Adds one segment; a lone dot or two dots add none. -/
def appendSegment (scheme : String) (path : List String) (segment : String) : List String :=
  if segment = "." ∨ segment = ".." then path
  else
    let path := if path = [""] then [] else path
    settle scheme (pushSegment scheme (segmentSet scheme) path segment.toList true)

def Path.extend (scheme : String) (segments : List String) : Path → Path
  | .rooted guarded path =>
    .rooted guarded (segments.foldl (appendSegment scheme) (dropEmptyLast path))
  | .bare text => .bare text

/-- Adds pairs to a query; none leave it alone. -/
def extendQuery (query : Option String) (pairs : List (String × String)) : Option String :=
  if pairs.isEmpty then query
  else
    let before := query.getD ""
    some (before ++ (if before.isEmpty then "" else "&") ++ String.ofList (formPairs pairs))

def endpoint (base : Url) (segments : List String) (pairs : List (String × String)) : Url :=
  { base with
    path := base.path.extend base.scheme segments
    query := extendQuery base.query pairs }

end Url
end ReviewDesk
