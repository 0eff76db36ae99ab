import ReviewDesk.Proofs.Session.Operation

/-!
Operations that wait for their answers, and the handlers of answers that come by themselves.
`Handled` and `SubmitHandled` say how a load and a submission go when every request is made in turn
and its answer handed in; the operations that wait come to the same. The state of a service can hold
what it was asked, so where the states agree for every service, the same requests were made in the
same order.
-/

namespace ReviewDesk

variable {σ : Type}

namespace Session

variable {service : Service σ}

/-- A load is under way: the service is asked for what the ticket asks for and the answer is handed
in, and then again for the correction that it gives cause for, until there is none. -/
inductive Handled (service : Service σ) :
    Session → LoadTicket → σ → LoadOutcome → Session → σ → Prop where
  | settled {s s' : Session} {ticket : LoadTicket} {state : σ} {outcome : LoadOutcome}
      (answered : s.onQueueResult ticket (service.list ticket.filter state).1 = (s', outcome))
      (ended : ∀ next, outcome ≠ .reissue next) :
      Handled service s ticket state outcome s' (service.list ticket.filter state).2
  | asksAgain {s s' last : Session} {ticket next : LoadTicket} {state state' : σ}
      {outcome : LoadOutcome}
      (answered : s.onQueueResult ticket (service.list ticket.filter state).1 =
        (s', .reissue next))
      (rest : Handled service s' next (service.list ticket.filter state).2 outcome last state') :
      Handled service s ticket state outcome last state'

theorem Handled.unique {s last last' : Session} {ticket : LoadTicket} {state state' state'' : σ}
    {outcome outcome' : LoadOutcome} (one : Handled service s ticket state outcome last state')
    (two : Handled service s ticket state outcome' last' state'') :
    (outcome, last, state') = (outcome', last', state'') := by
  induction one with
  | settled answered ended =>
      cases two with
      | settled answered' =>
          rw [answered] at answered'
          cases answered'
          rfl
      | asksAgain answered' =>
          rw [answered] at answered'
          cases answered'
          exact (ended _ rfl).elim
  | asksAgain answered _ ih =>
      cases two with
      | settled answered' ended =>
          rw [answered] at answered'
          cases answered'
          exact (ended _ rfl).elim
      | asksAgain answered' rest =>
          rw [answered] at answered'
          cases answered'
          exact ih rest

/-- A driven load is handled, and its last answer is followed by what the handler does after it. -/
theorem handled_drive (service : Service σ) (q : Queue) (ticket : LoadTicket) (state : σ)
    (s : Session) (here : s.queue = q) :
    let (outcome, last, state') := s.afterLoad (q.drive service ticket state)
    Handled service s ticket state outcome last state' := by
  induction q, ticket, state using Queue.drive.induct service generalizing s with
  | case1 q ticket state reply q' next past _ ih =>
      subst here
      have answered : s.onQueueResult ticket reply.1 = ({ s with queue := q' }, .reissue next) := by
        simp [onQueueResult, past]
      rw [Queue.drive_of_reissue service past]
      exact .asksAgain answered (ih { s with queue := q' } rfl)
  | case2 q ticket state reply q' outcome settled answered =>
      subst here
      rw [Queue.drive_of_settled service settled answered]
      exact .settled (by simp [onQueueResult, answered, reply]) settled

/-- A submission goes its way: it is refused by the form, or the answer is handed in, and if the
label was saved, the load that this asks for is handled, whatever becomes of it. -/
inductive SubmitHandled (service : Service σ) (s : Session) (state : σ) :
    Except SubmitFault Item → Session → σ → Prop where
  | refused {s' : Session} {fault : FormFault} (begun : s.beginSubmit = (s', .error fault)) :
      SubmitHandled service s state (.error (.form fault)) s' state
  | failed {begun s' : Session} {ticket : SubmitTicket} {fault : TransportFault} {state' : σ}
      (sent : s.beginSubmit = (begun, .ok ticket))
      (answered : service.submit ticket.id ticket.submission state = (.error fault, state'))
      (taken : begun.onSubmitResult (.error fault) = (s', none)) :
      SubmitHandled service s state (.error (.transport fault)) s' state'
  | saved {begun s' last : Session} {ticket : SubmitTicket} {item : Item} {state' state'' : σ}
      {reload : LoadTicket} {outcome : LoadOutcome}
      (sent : s.beginSubmit = (begun, .ok ticket))
      (answered : service.submit ticket.id ticket.submission state = (.ok item, state'))
      (taken : begun.onSubmitResult (.ok item) = (s', some reload))
      (reloaded : Handled service s' reload state' outcome last state'') :
      SubmitHandled service s state (.ok item) last state''

theorem SubmitHandled.submitNow_eq {s last : Session} {state state' : σ}
    {result : Except SubmitFault Item} (handled : SubmitHandled service s state result last state') :
    s.submitNow service state = (result, last, state') := by
  cases handled with
  | refused begun => simp only [submitNow, begun]
  | failed sent answered taken => simp only [submitNow, sent, answered, taken]
  | @saved _ s' _ _ _ between _ reload outcome sent answered taken reloaded =>
      have driven : s'.afterLoad (s'.queue.drive service reload between) =
          (outcome, last, state') :=
        (handled_drive service s'.queue reload between s' rfl).unique reloaded
      simp only [submitNow, sent, answered, taken, driven]

theorem submitHandled_submitNow (service : Service σ) (s : Session) (state : σ) :
    let (result, last, state') := s.submitNow service state
    SubmitHandled service s state result last state' := by
  cases begun : s.beginSubmit with
  | mk s' result =>
      cases result with
      | error fault =>
          simp only [submitNow, begun]
          exact .refused begun
      | ok ticket =>
          cases answered : service.submit ticket.id ticket.submission state with
          | mk answer state' =>
              cases answer with
              | error fault =>
                  simp only [submitNow, begun, answered]
                  exact .failed begun answered rfl
              | ok item =>
                  cases taken : s'.onSubmitResult (.ok item) with
                  | mk saved reload =>
                      cases reload with
                      | none => cases congrArg Prod.snd taken
                      | some reload =>
                          have reloaded := handled_drive service saved.queue reload state' saved rfl
                          simp only [submitNow, begun, answered, taken]
                          exact .saved begun answered taken reloaded

theorem handled_loadNow (service : Service σ) (s : Session) (filter : Filter) (state : σ) :
    let (outcome, last, state') := s.loadNow service filter state
    Handled service (s.beginLoad filter).1 (s.beginLoad filter).2 state outcome last state' :=
  handled_drive service _ (s.beginLoad filter).2 state (s.beginLoad filter).1 rfl

/-- Operations that wait for their answers leave the session and the service as handling every
answer by itself does, and come to the same outcome. A submission comes to the item that was saved,
or to the fault of the form or of the request, however its reload ends. -/
theorem awaited_operations_are_handled (service : Service σ) (s : Session) (filter : Filter)
    (id : String) (state : σ) :
    (∀ outcome last state', s.loadNow service filter state = (outcome, last, state') ↔
      Handled service (s.beginLoad filter).1 (s.beginLoad filter).2 state outcome last state') ∧
    (let (begun, ticket) := s.beginSelect id
      let (answer, state') := service.get ticket.id state
      let (last, outcome) := begun.onDetailResult ticket answer
      s.selectNow service id state = (outcome, last, state')) ∧
    (∀ result last state', s.submitNow service state = (result, last, state') ↔
      SubmitHandled service s state result last state') := by
  refine ⟨fun outcome last state' => ?_, ?_, fun result last state' => ?_⟩
  · have now := handled_loadNow service s filter state
    constructor
    · intro same
      rw [same] at now
      exact now
    · intro handled
      exact now.unique handled
  · rfl
  · constructor
    · intro same
      have now := submitHandled_submitNow service s state
      rw [same] at now
      exact now
    · exact SubmitHandled.submitNow_eq

end Session
end ReviewDesk
