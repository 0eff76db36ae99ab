import ReviewDesk.Session.Basic

/-!
The service that answers requests, and sessions that wait for each answer. A service changes a state
of its own with every request; that state shows what was asked.
-/

namespace ReviewDesk

structure Service (σ : Type) where
  list : Filter → σ → Except TransportFault Page × σ
  get : String → σ → Except TransportFault Item × σ
  submit : String → Submission → σ → Except TransportFault Item × σ

variable {σ : Type}

/-- Asks until the answer needs no correction. A correction is never corrected. -/
def Queue.drive (service : Service σ) (q : Queue) (ticket : LoadTicket) (state : σ) :
    LoadOutcome × Queue × σ :=
  let reply := service.list ticket.filter state
  match h : q.applyLoad ticket reply.1 with
  | (q', .reissue next) =>
    have := corrective_of_applyLoad_reissue h
    Queue.drive service q' next reply.2
  | (q', outcome) => (outcome, q', reply.2)
termination_by if ticket.corrective then 0 else 1
decreasing_by simp [this.1, this.2]

def Queue.load (service : Service σ) (q : Queue) (filter : Filter) (state : σ) :
    LoadOutcome × Queue × σ :=
  let (q, ticket) := q.beginLoad filter
  q.drive service ticket state

def Selection.select (service : Service σ) (s : Selection) (id : String) (state : σ) :
    SelectOutcome × Selection × σ :=
  let (s, ticket) := s.beginSelect id
  let (answer, state) := service.get id state
  let (s, outcome) := s.applySelect ticket answer
  (outcome, s, state)

namespace Session

/-- Takes over what a driven load left behind. -/
def afterLoad (s : Session) (result : LoadOutcome × Queue × σ) : LoadOutcome × Session × σ :=
  let (outcome, queue, state) := result
  let s := { s with queue := queue }
  (outcome, if outcome = .accepted then s.reconcile else s, state)

def loadNow (service : Service σ) (s : Session) (filter : Filter) (state : σ) :
    LoadOutcome × Session × σ :=
  s.afterLoad (s.queue.load service filter state)

def selectNow (service : Service σ) (s : Session) (id : String) (state : σ) :
    SelectOutcome × Session × σ :=
  let (outcome, selection, state) := s.selection.select service id state
  let s := { s with selection := selection }
  (outcome, if outcome = .applied then s.prefill else s, state)

def submitNow (service : Service σ) (s : Session) (state : σ) :
    Except SubmitFault Item × Session × σ :=
  match s.beginSubmit with
  | (s, .error fault) => (.error (.form fault), s, state)
  | (s, .ok ticket) =>
    let (answer, state) := service.submit ticket.id ticket.submission state
    match answer, s.onSubmitResult answer with
    | .error fault, (s, _) => (.error (.transport fault), s, state)
    | .ok item, (s, none) => (.ok item, s, state)
    | .ok item, (s, some reload) =>
      let (_, s, state) := s.afterLoad (s.queue.drive service reload state)
      (.ok item, s, state)

end Session

/-- A request as it was made. -/
inductive Request where
  | list (filter : Filter)
  | get (id : String)
  | submit (id : String) (submission : Submission)
deriving DecidableEq

/-- Answers prepared in advance, and the requests made so far, the last one first. -/
structure Script where
  pages : List (Except TransportFault Page)
  items : List (Except TransportFault Item)
  asked : List Request := []

namespace Script

def exhausted : TransportFault := .network "unscripted"

/-- The next prepared answer, or a fault when there is none. -/
def draw {α : Type} : List (Except TransportFault α) → Except TransportFault α ×
    List (Except TransportFault α)
  | [] => (.error exhausted, [])
  | answer :: rest => (answer, rest)

def drawItem (request : Request) (script : Script) : Except TransportFault Item × Script :=
  let (answer, items) := draw script.items
  (answer, { script with items := items, asked := request :: script.asked })

/-- Lists are answered from the pages, all else from the items, both in order. -/
def service : Service Script where
  list filter script :=
    let (answer, pages) := draw script.pages
    (answer, { script with pages := pages, asked := .list filter :: script.asked })
  get id := drawItem (.get id)
  submit id submission := drawItem (.submit id submission)

end Script
end ReviewDesk
