import ReviewDesk.Fault
import ReviewDesk.Text.Utf8
import ReviewDesk.Url.Endpoint

/-!
Requests and answers between the desk and a server. A server is what it answers to the requests that
were sent so far; one that cannot be reached answers none. A request goes out over the web only, and
goes on to another address where an answer says so; the desk keeps a log of what it asked for, and
what was sent for that follows from it.
-/

namespace ReviewDesk
namespace Http

structure Request where
  method : String
  url : Url
  body : Option Json

/-- Headers that the desk sets. -/
def Request.headers (r : Request) : List (String × String) :=
  [("accept", "application/json")] ++
    if r.body.isSome then [("content-type", "application/json")] else []

/-- What stands for the address in the first line of the request. A request for a connection names
only who is asked. -/
def Request.target (r : Request) : String :=
  match r.method, r.url.authority with
  | "CONNECT", some authority => ({ authority with username := "", password := "" }).text
  | _, _ => r.url.target

structure Response where
  status : UInt16
  bytes : List UInt8
  /-- The address that it sends the request on to, if it names one. -/
  location : Option Url := none

/-- Answers to the requests sent so far, the last one first; nothing when the connection fails. -/
abbrev Server := List Request → Option Response

def unreachable : Server := fun _ => none

/-- Gives the answers in order, one for each request. -/
def scripted (answers : List Response) : Server := fun requests =>
  answers[requests.length - 1]?

/-- The usual words for a status. -/
def reason? (status : UInt16) : Option String :=
  [ (100, "Continue"), (101, "Switching Protocols"), (102, "Processing"), (200, "OK"),
    (201, "Created"), (202, "Accepted"), (203, "Non Authoritative Information"),
    (204, "No Content"), (205, "Reset Content"), (206, "Partial Content"), (207, "Multi-Status"),
    (208, "Already Reported"), (226, "IM Used"), (300, "Multiple Choices"),
    (301, "Moved Permanently"), (302, "Found"), (303, "See Other"), (304, "Not Modified"),
    (305, "Use Proxy"), (307, "Temporary Redirect"), (308, "Permanent Redirect"),
    (400, "Bad Request"), (401, "Unauthorized"), (402, "Payment Required"), (403, "Forbidden"),
    (404, "Not Found"), (405, "Method Not Allowed"), (406, "Not Acceptable"),
    (407, "Proxy Authentication Required"), (408, "Request Timeout"), (409, "Conflict"),
    (410, "Gone"), (411, "Length Required"), (412, "Precondition Failed"),
    (413, "Payload Too Large"), (414, "URI Too Long"), (415, "Unsupported Media Type"),
    (416, "Range Not Satisfiable"), (417, "Expectation Failed"), (418, "I'm a teapot"),
    (421, "Misdirected Request"), (422, "Unprocessable Entity"), (423, "Locked"),
    (424, "Failed Dependency"), (425, "Too Early"), (426, "Upgrade Required"),
    (428, "Precondition Required"), (429, "Too Many Requests"),
    (431, "Request Header Fields Too Large"), (451, "Unavailable For Legal Reasons"),
    (500, "Internal Server Error"), (501, "Not Implemented"), (502, "Bad Gateway"),
    (503, "Service Unavailable"), (504, "Gateway Timeout"), (505, "HTTP Version Not Supported"),
    (506, "Variant Also Negotiates"), (507, "Insufficient Storage"), (508, "Loop Detected"),
    (510, "Not Extended"), (511, "Network Authentication Required") ].lookup status

namespace Response

def isSuccess (r : Response) : Bool :=
  200 ≤ r.status && r.status < 300

/-- The answer ends the exchange: its status has three digits, and it does not announce another
answer. A switch of protocols is not followed, so nothing comes after it either. -/
def isFinal (r : Response) : Bool :=
  r.status = 101 || (200 ≤ r.status && r.status < 1000)

/-- Whether bytes that follow the headers belong to the answer. -/
def carriesBody (method : String) (r : Response) : Bool :=
  !(r.status = 101 || r.status = 204 || r.status = 304 || method = "HEAD" ||
    (method = "CONNECT" && r.isSuccess))

/-- The answer as it is received: without the bytes that are not its own. -/
def received (method : String) (r : Response) : Response :=
  if r.carriesBody method then r else { r with bytes := [] }

def text (r : Response) : String :=
  Text.ofUtf8 r.bytes

/-- The document of an answer. No content and a blank body are `null`. -/
def document (r : Response) : Except TransportFault Json :=
  if !r.isSuccess then .error (.ofStatus r.status (reason? r.status) r.text)
  else if (Text.trimToOption r.text).isNone then .ok .null
  else
    match Json.parse? r.text with
    | some value => .ok value
    | none => .error (.decode "invalid JSON body: malformed document")

end Response

def connectionFault (url : Url) : TransportFault :=
  .network ("error sending request for url (" ++ url.text ++ ")")

/-- Requests are sent by two schemes only. -/
def schemeFault (url : Url) : TransportFault :=
  .network ("builder error for url (" ++ url.text ++ ")")

def redirectFault (url : Url) : TransportFault :=
  .network ("error following redirect for url (" ++ url.text ++ ")")

def isWeb (url : Url) : Bool :=
  url.scheme = "http" || url.scheme = "https"

/-- The request that an answer sends on: the same one for the other address, or one that only asks
for what is there. -/
def Request.movedBy? (r : Request) (answer : Response) : Option Request :=
  answer.location.bind fun url =>
    if answer.status = 307 ∨ answer.status = 308 then some { r with url := url }
    else if answer.status = 303 then
      some ⟨if r.method = "HEAD" then "HEAD" else "GET", url, none⟩
    else if answer.status = 301 ∨ answer.status = 302 then
      some (if r.method = "POST" then ⟨"GET", url, none⟩ else { r with url := url })
    else none

/-- How often a request goes on to another address. -/
def maxMoves : Nat := 10

/-- Sends a request, and goes on with it that many times at most. An answer that is not final is
none. What was sent before and what was sent then, the last one first. -/
def follow (server : Server) : Nat → Request → List Request →
    Except TransportFault Response × List Request
  | moves, request, sent =>
    let sent := request :: sent
    match (server sent).filter (·.isFinal) with
    | none => (.error (connectionFault request.url), sent)
    | some answer =>
      match moves, request.movedBy? answer with
      | _, none => (.ok (answer.received request.method), sent)
      | 0, some _ => (.error (redirectFault request.url), sent)
      | moves + 1, some next =>
        if isWeb next.url then follow server moves next sent
        else (.error (schemeFault next.url), sent)

def deliver (server : Server) (request : Request) (sent : List Request) :
    Except TransportFault Response × List Request :=
  if isWeb request.url then follow server maxMoves request sent
  else (.error (schemeFault request.url), sent)

/-- What was sent for the requests of a log, the last one first as in the log. -/
def sent (server : Server) : List Request → List Request
  | [] => []
  | request :: log => (deliver server request (sent server log)).2

/-- What a request comes to after those of a log. -/
def reply (server : Server) (request : Request) (log : List Request) :
    Except TransportFault Response :=
  (deliver server request (sent server log)).1

/-- Makes one request and keeps it in the log. -/
def exchange (server : Server) (request : Request) (log : List Request) :
    Except TransportFault Json × List Request :=
  ((reply server request log).bind Response.document, request :: log)

end Http
end ReviewDesk
