import ReviewDesk.Http.Exchange
import ReviewDesk.Item.Decoding
import ReviewDesk.Session.Service

/-!
The review queue as a service behind a base address.
-/

namespace ReviewDesk
namespace Http

/-- Where requests go: a server and a base address. -/
structure Client where
  server : Server
  base : Url

namespace Client

def send (c : Client) (method : String) (segments : List String) (query : List (String × String))
    (body : Option Json) (log : List Request) : Except TransportFault Json × List Request :=
  exchange c.server ⟨method, c.base.endpoint segments query, body⟩ log

def queuePath : List String := ["review", "image-queries"]

def decodeAs {α : Type} (decode : Json → Except DecodeFault α)
    (answer : Except TransportFault Json) : Except TransportFault α :=
  match answer with
  | .error fault => .error fault
  | .ok value =>
    match decode value with
    | .ok result => .ok result
    | .error fault => .error (.decode fault.message)

/-- The queue; its state is the log of requests, the last one first. -/
def service (c : Client) : Service (List Request) where
  list filter log :=
    let (answer, log) := c.send "GET" queuePath filter.query none log
    (decodeAs Page.decode answer, log)
  get id log :=
    let (answer, log) := c.send "GET" (queuePath ++ [id]) [] none log
    (decodeAs Item.decode answer, log)
  submit id submission log :=
    let (answer, log) := c.send "POST" (queuePath ++ [id, "label"]) [] (some submission.toJson) log
    (decodeAs Item.decode answer, log)

end Client
end Http
end ReviewDesk
