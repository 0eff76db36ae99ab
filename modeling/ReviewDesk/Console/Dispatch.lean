import ReviewDesk.Session.Service

/-!
Requests that the console has sent off, and the answers that come back.
-/

namespace ReviewDesk

/-- A request on its way. -/
inductive Dispatch where
  | load (ticket : LoadTicket)
  | select (ticket : SelectTicket)
  | submit (ticket : SubmitTicket)
deriving DecidableEq

/-- The answer to a request. -/
inductive Arrival where
  | page (ticket : LoadTicket) (answer : Except TransportFault Page)
  | detail (ticket : SelectTicket) (answer : Except TransportFault Item)
  | saved (ticket : SubmitTicket) (answer : Except TransportFault Item)

namespace Arrival

/-- The request that is answered. -/
def request : Arrival → Dispatch
  | .page ticket _ => .load ticket
  | .detail ticket _ => .select ticket
  | .saved ticket _ => .submit ticket

def isFault : Arrival → Bool
  | .page _ (.error _) => true
  | .detail _ (.error _) => true
  | .saved _ (.error _) => true
  | _ => false

end Arrival

/-- Makes the request. -/
def Dispatch.perform {σ : Type} (service : Service σ) (state : σ) : Dispatch → Arrival × σ
  | .load ticket =>
    let (answer, state) := service.list ticket.filter state
    (.page ticket answer, state)
  | .select ticket =>
    let (answer, state) := service.get ticket.id state
    (.detail ticket answer, state)
  | .submit ticket =>
    let (answer, state) := service.submit ticket.id ticket.submission state
    (.saved ticket answer, state)

namespace Session

/-- Takes in a page: what is to be sent off again, and what is to be told. -/
def onPage (s : Session) (ticket : LoadTicket) (answer : Except TransportFault Page) :
    Session × List Dispatch × Option String :=
  let (s, outcome) := s.onQueueResult ticket answer
  match outcome with
  | .accepted => (s, [], none)
  | .stale => (s, [], none)
  | .failed fault => (s, [], some ("Queue load failed: " ++ fault.describe))
  | .reissue next =>
    (s, [.load next],
      some ("Offset past the end, reloading from " ++ toString next.filter.offset.toNat))

def onDetail (s : Session) (ticket : SelectTicket) (answer : Except TransportFault Item) :
    Session × List Dispatch × Option String :=
  let (s, outcome) := s.onDetailResult ticket answer
  match outcome with
  | .applied => (s, [], none)
  | .stale => (s, [], none)
  | .vanished => (s, [], some (ticket.id ++ " left the queue before it loaded"))
  | .failed fault => (s, [], some ("Could not load " ++ ticket.id ++ ": " ++ fault.describe))

def onSaved (s : Session) (ticket : SubmitTicket) (answer : Except TransportFault Item) :
    Session × List Dispatch × Option String :=
  let (s, reload) := s.onSubmitResult answer
  match reload, answer with
  | some reload, _ =>
    (s, [.load reload], some ("Saved " ++ ticket.id ++ " as " ++ ticket.submission.label))
  | none, .error fault => (s, [], some ("Save failed: " ++ fault.describe))
  | none, .ok _ => (s, [], none)

def receive (s : Session) : Arrival → Session × List Dispatch × Option String
  | .page ticket answer => s.onPage ticket answer
  | .detail ticket answer => s.onDetail ticket answer
  | .saved ticket answer => s.onSaved ticket answer

end Session
end ReviewDesk
