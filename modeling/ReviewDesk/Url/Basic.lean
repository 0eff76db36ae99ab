import ReviewDesk.Url.Address
import ReviewDesk.Url.Domain

/-!
Addresses of the web: their parts, and their text.
-/

namespace ReviewDesk

namespace Url

inductive Host where
  | name (text : String)
  | address4 (value : Nat)
  | address6 (words : List Nat)
deriving DecidableEq

def Host.text : Host → String
  | .name text => text
  | .address4 value => String.ofList (address4Text value)
  | .address6 words => String.ofList (address6Text words)

/-- Who is asked: a host that may be missing, with what stands around it. -/
structure Authority where
  username : String := ""
  password : String := ""
  host : Option Host
  port : Option Nat := none
deriving DecidableEq

/-- Segments after slashes, or a text that has no structure. A guard keeps slashes that begin a path
apart from those that begin an authority. -/
inductive Path where
  | rooted (guarded : Bool) (segments : List String)
  | bare (text : String)
deriving DecidableEq

end Url

structure Url where
  scheme : String
  authority : Option Url.Authority
  path : Url.Path
  query : Option String
  fragment : Option String
deriving DecidableEq

namespace Url

def specialSchemes : List String := ["http", "https", "ws", "wss", "ftp", "file"]

def isSpecialScheme (scheme : String) : Bool :=
  specialSchemes.contains scheme

/-- The port that needs no mention. -/
def defaultPort (scheme : String) : Option Nat :=
  [("http", 80), ("ws", 80), ("https", 443), ("wss", 443), ("ftp", 21)].lookup scheme

def hostText? (u : Url) : Option String :=
  (u.authority.bind (·.host)).map Host.text

def Authority.text (a : Authority) : String :=
  let user :=
    if a.username.isEmpty && a.password.isEmpty then ""
    else a.username ++ (if a.password.isEmpty then "" else ":" ++ a.password) ++ "@"
  user ++ a.host.elim "" Host.text ++ a.port.elim "" fun n => ":" ++ toString n

def segmentsText (segments : List String) : String :=
  String.join (segments.map ("/" ++ ·))

def Path.text : Path → String
  | .rooted _ segments => segmentsText segments
  | .bare text => text

def Path.guardText : Path → String
  | .rooted true _ => "/."
  | _ => ""

/-- The path and the query, as they are sent to a server. -/
def target (u : Url) : String :=
  u.path.text ++ u.query.elim "" ("?" ++ ·)

def text (u : Url) : String :=
  u.scheme ++ ":" ++ u.authority.elim "" ("//" ++ ·.text) ++ u.path.guardText ++ u.target ++
    u.fragment.elim "" ("#" ++ ·)

end Url
end ReviewDesk
