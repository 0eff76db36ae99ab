import ReviewDesk.Proofs.Session.History
import ReviewDesk.Session.Service

/-!
Operations on a session and runs of them. An operation that waits for its answers leaves the session
as the actions that it consists of would, so a property that every step keeps holds after every run.
-/

namespace ReviewDesk

variable {σ : Type}

namespace Queue

theorem drive_of_reissue (service : Service σ) {q q' : Queue} {ticket next : LoadTicket}
    {state : σ}
    (past : q.applyLoad ticket (service.list ticket.filter state).1 = (q', .reissue next)) :
    q.drive service ticket state =
      q'.drive service next (service.list ticket.filter state).2 := by
  rw [Queue.drive]
  split
  · rename_i eq
    rw [past] at eq
    cases eq
    rfl
  · rename_i other eq
    rw [past] at eq
    cases eq
    exact (other next rfl).elim

theorem drive_of_settled (service : Service σ) {q q' : Queue} {ticket : LoadTicket}
    {outcome : LoadOutcome} {state : σ} (settled : ∀ next, outcome ≠ .reissue next)
    (answered : q.applyLoad ticket (service.list ticket.filter state).1 = (q', outcome)) :
    q.drive service ticket state = (outcome, q', (service.list ticket.filter state).2) := by
  rw [Queue.drive]
  split
  · rename_i next eq
    rw [answered] at eq
    cases eq
    exact (settled next rfl).elim
  · rename_i eq
    rw [answered] at eq
    cases eq
    rfl

end Queue

namespace Session

/-- An operation on a session. One that waits for its answers names the state in which the service
is asked. -/
inductive Event (σ : Type) where
  | action (a : Action)
  | refresh
  | nextPage
  | prevPage
  | setDetector (detector : Option String)
  | togglePending
  | stepLimit (grow : Bool)
  | chooseLabel (index : Nat)
  | loadNow (filter : Filter) (state : σ)
  | selectNow (id : String) (state : σ)
  | submitNow (state : σ)

def perform (service : Service σ) (s : Session) : Event σ → Session
  | .action a => s.act a
  | .refresh => s.refresh.1
  | .nextPage => s.nextPage.1
  | .prevPage => s.prevPage.1
  | .setDetector detector => (s.setDetector detector).1
  | .togglePending => s.togglePending.1
  | .stepLimit grow => (s.stepLimit grow).1
  | .chooseLabel index => (s.chooseLabel index).1
  | .loadNow filter state => (s.loadNow service filter state).2.1
  | .selectNow id state => (s.selectNow service id state).2.1
  | .submitNow state => (s.submitNow service state).2.1

/-- The answers that a driven load takes in, one after the other. -/
def drivenPages (service : Service σ) (q : Queue) (ticket : LoadTicket) (state : σ) :
    List Action :=
  let reply := service.list ticket.filter state
  .page ticket reply.1 ::
    match h : q.applyLoad ticket reply.1 with
    | (q', .reissue next) =>
      have := Queue.corrective_of_applyLoad_reissue h
      drivenPages service q' next reply.2
    | _ => []
termination_by if ticket.corrective then 0 else 1
decreasing_by simp [this.1, this.2]

/-- The actions that an operation consists of. -/
def Event.actions (service : Service σ) (s : Session) : Event σ → List Action
  | .action a => [a]
  | .refresh => [.load s.refresh.2.filter]
  | .nextPage => (s.nextPage.2.map fun ticket => .load ticket.filter).toList
  | .prevPage => (s.prevPage.2.map fun ticket => .load ticket.filter).toList
  | .setDetector detector => [.load (s.setDetector detector).2.filter]
  | .togglePending => [.load s.togglePending.2.filter]
  | .stepLimit grow => ((s.stepLimit grow).2.map fun ticket => .load ticket.filter).toList
  | .chooseLabel index => [.edit (s.chooseLabel index).1.form]
  | .loadNow filter state =>
    let (s, ticket) := s.beginLoad filter
    .load filter :: drivenPages service s.queue ticket state
  | .selectNow id state => [.select id, .detail (s.beginSelect id).2 (service.get id state).1]
  | .submitNow state =>
    .submit ::
      match s.beginSubmit with
      | (_, .error _) => []
      | (s, .ok ticket) =>
        let reply := service.submit ticket.id ticket.submission state
        .saved ticket reply.1 ::
          match s.onSubmitResult reply.1 with
          | (_, none) => []
          | (s, some reload) => drivenPages service s.queue reload reply.2

namespace History

/-- An operation can happen unless it brings an answer that was not asked for. -/
def Allows (h : History) : Event σ → Prop
  | .action a => h.Admits a
  | _ => True

instance (h : History) : DecidablePred (h.Allows (σ := σ)) := fun e =>
  match e with
  | .action a => inferInstanceAs (Decidable (h.Admits a))
  | .refresh => .isTrue trivial
  | .nextPage => .isTrue trivial
  | .prevPage => .isTrue trivial
  | .setDetector _ => .isTrue trivial
  | .togglePending => .isTrue trivial
  | .stepLimit _ => .isTrue trivial
  | .chooseLabel _ => .isTrue trivial
  | .loadNow _ _ => .isTrue trivial
  | .selectNow _ _ => .isTrue trivial
  | .submitNow _ => .isTrue trivial

/-- Goes on with an operation; one that is not allowed cannot happen. -/
def perform (service : Service σ) (h : History) (e : Event σ) : History :=
  if h.Allows e then
    ⟨h.session.perform service e, (h.acts (e.actions service h.session)).journal⟩
  else h

theorem drivenPages_of_reissue (service : Service σ) {q q' : Queue} {ticket next : LoadTicket}
    {state : σ}
    (past : q.applyLoad ticket (service.list ticket.filter state).1 = (q', .reissue next)) :
    drivenPages service q ticket state =
      .page ticket (service.list ticket.filter state).1 ::
        drivenPages service q' next (service.list ticket.filter state).2 := by
  rw [drivenPages]
  split
  · rename_i eq
    rw [past] at eq
    cases eq
    rfl
  · rename_i other
    exact (other q' next past).elim

theorem drivenPages_of_settled (service : Service σ) {q q' : Queue} {ticket : LoadTicket}
    {outcome : LoadOutcome} {state : σ} (settled : ∀ next, outcome ≠ .reissue next)
    (answered : q.applyLoad ticket (service.list ticket.filter state).1 = (q', outcome)) :
    drivenPages service q ticket state = [.page ticket (service.list ticket.filter state).1] := by
  rw [drivenPages]
  split
  · rename_i next eq
    rw [answered] at eq
    cases eq
    exact (settled next rfl).elim
  · rfl

/-- A driven load leaves the session as its answers leave it, taken in one after the other. -/
theorem acts_drivenPages (service : Service σ) (q : Queue) (ticket : LoadTicket) (state : σ)
    (h : History) (here : h.session.queue = q) (issued : ticket ∈ h.journal.loads) :
    (h.acts (drivenPages service q ticket state)).session =
      (h.session.afterLoad (q.drive service ticket state)).2.1 := by
  induction q, ticket, state using Queue.drive.induct service generalizing h with
  | case1 q ticket state reply q' next past _ ih =>
      subst here
      have answered : h.act (.page ticket reply.1) =
          ⟨{ h.session with queue := q' },
            .loadAsked next :: .pageCame ticket reply.1 (.reissue next) :: h.journal⟩ := by
        rw [act_of_admits (show h.Admits (.page ticket reply.1) from issued)]
        simp [Session.act, entries, onQueueResult, past, LoadOutcome.next?]
      rw [drivenPages_of_reissue service past, Queue.drive_of_reissue service past, acts_cons,
        answered, ih _ rfl (by simp [Journal.loads, Entry.load?])]
      rfl
  | case2 q ticket state reply q' outcome settled answered =>
      subst here
      rw [drivenPages_of_settled service (fun next eq => settled next eq) answered,
        Queue.drive_of_settled service (fun next eq => settled next eq) answered, acts_cons,
        act_of_admits (show h.Admits (.page ticket reply.1) from issued)]
      simp [Session.act, onQueueResult, answered, afterLoad]

/-- A page that is turned to is loaded, and otherwise nothing happens. -/
theorem acts_loadAt (h : History) (enabled : Bool) (offset : UInt64) :
    let step : Session × Option LoadTicket :=
      if enabled then
        let (s, ticket) := h.session.loadAt offset
        (s, some ticket)
      else (h.session, none)
    (h.acts (step.2.map fun ticket => .load ticket.filter).toList).session = step.1 := by
  cases enabled with
  | true => rfl
  | false => rfl

theorem acts_stepLimit (h : History) (grow : Bool) :
    (h.acts ((h.session.stepLimit grow).2.map fun ticket => .load ticket.filter).toList).session =
      (h.session.stepLimit grow).1 := by
  cases stepped : steppedLimit h.session.queue.filter.limit grow with
  | none => simp only [stepLimit, stepped]; rfl
  | some limit => simp only [stepLimit, stepped]; rfl

theorem acts_chooseLabel (h : History) (index : Nat) :
    (h.act (.edit (h.session.chooseLabel index).1.form)).session =
      (h.session.chooseLabel index).1 := by
  unfold chooseLabel
  cases h.session.labels[index]? with
  | none => rfl
  | some label => rfl

theorem acts_selectNow (service : Service σ) (h : History) (id : String) (state : σ) :
    (h.acts (Event.actions service h.session (.selectNow id state))).session =
      (h.session.selectNow service id state).2.1 := by
  let begun := h.act (.select id)
  have asked : begun.Admits
      (.detail (h.session.beginSelect id).2 (service.get id state).1) :=
    List.mem_cons_self
  rw [Event.actions, acts_cons, acts_cons, acts_nil, act_of_admits asked]
  rfl

-- The saved label asks for a reload, so the answer is followed by those of a driven load.
theorem acts_submitNow (service : Service σ) (h : History) (state : σ) :
    (h.acts (Event.actions service h.session (.submitNow state))).session =
      (h.session.submitNow service state).2.1 := by
  cases begun : h.session.beginSubmit with
  | mk s result =>
      have submitted : h.act .submit =
          ⟨s, (result.toOption.map Entry.submitAsked).toList ++ h.journal⟩ := by
        simp [act, Admits, Session.act, entries, begun]
      cases result with
      | error fault => simp [Event.actions, submitNow, begun, submitted]
      | ok ticket =>
          generalize sent : service.submit ticket.id ticket.submission state = reply
          obtain ⟨answer, state'⟩ := reply
          have asked : (h.act .submit).Admits (.saved ticket answer) := by
            simp [submitted, Admits, Journal.submits, Entry.submit?, Except.toOption]
          have saved : (h.act .submit).act (.saved ticket answer) =
              ⟨(s.onSubmitResult answer).1, s.entries (.saved ticket answer) ++
                (h.act .submit).journal⟩ := by
            rw [act_of_admits asked, submitted]
            rfl
          cases answer with
          | error fault =>
              simp [Event.actions, submitNow, begun, sent, saved, onSubmitResult]
          | ok item =>
              have reloads : (s.onSubmitResult (.ok item)).2.isSome := rfl
              cases reloaded : s.onSubmitResult (.ok item) with
              | mk s' reload =>
                  rw [reloaded] at reloads
                  obtain ⟨ticket', rfl⟩ := Option.isSome_iff_exists.mp reloads
                  have issued : ticket' ∈ ((h.act .submit).act
                      (.saved ticket (.ok item))).journal.loads := by
                    simp [saved, entries, reloaded, Journal.loads, Entry.load?]
                  have here : ((h.act .submit).act (.saved ticket (.ok item))).session = s' := by
                    rw [saved, reloaded]
                  simp only [Event.actions, submitNow, begun, sent, reloaded, acts_cons]
                  rw [acts_drivenPages service s'.queue ticket' state' _ (by rw [here]) issued,
                    here]

/-- The actions of an operation leave the session that the operation leaves. -/
theorem session_acts_actions (service : Service σ) (h : History) (e : Event σ)
    (allowed : h.Allows e) :
    (h.acts (e.actions service h.session)).session = h.session.perform service e := by
  cases e with
  | action a =>
      rw [Event.actions, acts_cons, acts_nil, act_of_admits allowed]
      rfl
  | refresh | setDetector detector | togglePending => rfl
  | nextPage => exact h.acts_loadAt h.session.queue.paging.nextEnabled h.session.queue.paging.next
  | prevPage => exact h.acts_loadAt h.session.queue.paging.prevEnabled h.session.queue.paging.prev
  | stepLimit grow => exact h.acts_stepLimit grow
  | chooseLabel index => exact h.acts_chooseLabel index
  | loadNow filter state =>
      have issued : (h.session.beginLoad filter).2 ∈ (h.act (.load filter)).journal.loads :=
        List.mem_cons_self
      exact acts_drivenPages service _ _ state (h.act (.load filter)) rfl issued
  | selectNow id state => exact acts_selectNow service h id state
  | submitNow state => exact acts_submitNow service h state

theorem perform_eq_acts (service : Service σ) (h : History) (e : Event σ) :
    h.perform service e = h.acts (e.actions service h.session) := by
  by_cases allowed : h.Allows e
  · rw [perform, if_pos allowed, ← session_acts_actions service h e allowed]
  · rw [perform, if_neg allowed]
    cases e with
    | action a => exact (if_neg allowed).symm
    | _ => exact (allowed trivial).elim

def run (service : Service σ) (h : History) (events : List (Event σ)) : History :=
  events.foldl (perform service) h

theorem run_actions (service : Service σ) (h : History) (actions : List Action) :
    h.run service (actions.map .action) = h.acts actions := by
  induction actions generalizing h with
  | nil => rfl
  | cons a actions ih =>
      have first : h.perform service (.action a) = h.act a := perform_eq_acts service h (.action a)
      rw [List.map_cons, acts_cons, ← first]
      exact ih _

theorem run_keeps {P : Session → Journal → Prop} (invariant : Invariant P) (service : Service σ)
    (h : History) (events : List (Event σ)) (holds : P h.session h.journal) :
    P (h.run service events).session (h.run service events).journal := by
  induction events generalizing h with
  | nil => exact holds
  | cons e rest ih =>
      refine ih (h.perform service e) ?_
      rw [perform_eq_acts]
      exact acts_keeps invariant h _ holds

end History
end Session
end ReviewDesk
