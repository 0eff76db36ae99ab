import ReviewDesk.Http.Client
import ReviewDesk.Proofs.Http.Sending
import ReviewDesk.Proofs.Session.Correction

/-!
Loads of the queue as the server sees them, and the submission of a label, which ends with one. A
load is one request, or two if the first answer is an empty page past the end, the second one being
for the last page; and the queue that drives a load comes to what the last of these requests is
answered.
-/

namespace ReviewDesk

/-- The items of a page, no more than were asked for. -/
def Filter.taken (filter : Filter) (page : Page) : List Item :=
  page.items.take filter.limit.toNat

namespace Http.Client

def listRequest (c : Client) (filter : Filter) : Request :=
  ⟨"GET", c.base.endpoint queuePath filter.query, none⟩

def itemRequest (c : Client) (id : String) : Request :=
  ⟨"GET", c.base.endpoint (queuePath ++ [id]) [], none⟩

def labelRequest (c : Client) (id : String) (submission : Submission) : Request :=
  ⟨"POST", c.base.endpoint (queuePath ++ [id, "label"]) [], some submission.toJson⟩

/-- The answer is an empty page past the end of a queue with that total. -/
structure PastEnd (filter : Filter) (answer : Except TransportFault Page) (total : UInt64) :
    Prop where
  empty : answer = .ok ⟨[], total⟩
  started : 0 < filter.offset
  past : total ≤ filter.offset

/-- A load after the requests of a log: the log after it, the filter of its last request, and the
items that this was answered. -/
inductive Loads (c : Client) (filter : Filter) (log : List Request) :
    List Request → Filter → Except TransportFault (List Item) → Prop
  | once (within : ∀ total, ¬PastEnd filter (c.service.list filter log).1 total) :
      Loads c filter log (c.listRequest filter :: log) filter
        ((c.service.list filter log).1.map filter.taken)
  | corrected {total : UInt64} {last : Filter}
      (past : PastEnd filter (c.service.list filter log).1 total)
      (correction : last = Queue.lastPage filter total) :
      Loads c filter log (c.listRequest last :: c.listRequest filter :: log) last
        ((c.service.list last (c.listRequest filter :: log)).1.map last.taken)

variable {c : Client} {filter last : Filter} {log log' : List Request}
  {result : Except TransportFault (List Item)}

theorem exists_loads (c : Client) (filter : Filter) (log : List Request) :
    ∃ log' last result, Loads c filter log log' last result := by
  by_cases past : ∃ total, PastEnd filter (c.service.list filter log).1 total
  · obtain ⟨total, past⟩ := past
    exact ⟨_, _, _, .corrected past rfl⟩
  · exact ⟨_, _, _, .once fun total here => past ⟨total, here⟩⟩

/-- What begins with the first item never lies past the end. -/
theorem loads_of_start {answer : Except TransportFault Page} (start : filter.offset = 0)
    (answered : (c.service.list filter log).1 = answer) :
    Loads c filter log (c.listRequest filter :: log) filter (answer.map filter.taken) := by
  rw [← answered]
  refine .once fun total past => ?_
  have started := past.started
  rw [start] at started
  exact absurd started (by decide)

/-- Nothing but the web answers. -/
theorem loads_of_other (other : isWeb c.base = false) (filter : Filter) (log : List Request) :
    Loads c filter log (c.listRequest filter :: log) filter
      (.error (schemeFault (c.listRequest filter).url)) := by
  have unsent : isWeb (c.listRequest filter).url = false := other
  have failed : (c.service.list filter log).1 =
      .error (schemeFault (c.listRequest filter).url) := by
    have silent : reply c.server (c.listRequest filter) log = .error (schemeFault _) :=
      reply_of_other unsent
    rw [listRequest] at silent ⊢
    simp only [service, send, exchange, silent]
    rfl
  have loads : Loads c filter log (c.listRequest filter :: log) filter
      ((c.service.list filter log).1.map filter.taken) := by
    refine .once fun total past => ?_
    have empty := past.empty
    rw [failed] at empty
    cases empty
  rwa [failed] at loads

/-- What a load asks for are pages. -/
theorem Loads.forall_requests {P : Request → Prop} (loads : Loads c filter log log' last result)
    (list : ∀ f, P (c.listRequest f)) (before : ∀ r ∈ log, P r) : ∀ r ∈ log', P r := by
  cases loads with
  | once => exact List.forall_mem_cons.mpr ⟨list _, before⟩
  | corrected => exact List.forall_mem_cons.mpr ⟨list _, List.forall_mem_cons.mpr ⟨list _, before⟩⟩

theorem Loads.suffix (loads : Loads c filter log log' last result) : log <:+ log' := by
  cases loads with
  | once => exact List.suffix_cons _ _
  | corrected => exact (List.suffix_cons _ _).trans (List.suffix_cons _ _)

theorem Loads.length_lt (loads : Loads c filter log log' last result) :
    log.length < log'.length := by
  cases loads with
  | once => exact Nat.lt_succ_self _
  | corrected => exact Nat.lt_add_of_pos_right Nat.two_pos

theorem Loads.posts_eq (loads : Loads c filter log log' last result) : posts log' = posts log := by
  cases loads <;> rfl

end Http.Client

namespace Queue

open Http (Client)

variable {c : Client} {filter last : Filter} {log log' : List Http.Request}
  {result : Except TransportFault (List Item)}

/-- The outcome of a load that came to that. -/
def outcomeOf : Except TransportFault (List Item) → LoadOutcome
  | .ok _ => .accepted
  | .error fault => .failed fault

/-- The queue holds what a load came to; after a failure it holds no items. -/
structure Holds (q : Queue) (filter : Filter) (result : Except TransportFault (List Item)) :
    Prop where
  filter : q.filter = filter
  items : q.items = result.toOption.getD []

theorem pastEnd_issue (q : Queue) {answer : Except TransportFault Page} {total : UInt64} :
    (q.issue filter false).1.PastEnd (q.issue filter false).2 answer total ↔
      Client.PastEnd filter answer total :=
  ⟨fun past => ⟨past.empty, past.started, past.past⟩,
    fun past => ⟨rfl, rfl, past.empty, past.started, past.past⟩⟩

theorem applyLoad_within {q : Queue} {ticket : LoadTicket} {answer : Except TransportFault Page}
    (latest : ticket.seq = q.issued) (within : ∀ total, ¬q.PastEnd ticket answer total) :
    (q.applyLoad ticket answer).2 = outcomeOf (answer.map ticket.filter.taken) ∧
      (q.applyLoad ticket answer).1.Holds q.filter (answer.map ticket.filter.taken) := by
  have current : ¬ticket.seq ≠ q.issued := not_not.mpr latest
  cases answer with
  | error fault =>
      rw [applyLoad, if_neg current]
      exact ⟨rfl, rfl, rfl⟩
  | ok page =>
      have fits : ¬overshoots ticket page = true := by
        intro overshot
        obtain ⟨empty, started, past, plain⟩ := overshoots_iff.mp overshot
        exact within page.total ⟨latest, plain, by rw [← empty], started, past⟩
      rw [applyLoad, if_neg current]
      dsimp only
      rw [if_neg fits]
      exact ⟨rfl, rfl, rfl⟩

/-- A load that needs no correction is driven to its end by one request. -/
theorem drive_of_within (c : Client) (log : List Http.Request) {q : Queue} {ticket : LoadTicket}
    (latest : ticket.seq = q.issued)
    (within : ∀ total, ¬q.PastEnd ticket (c.service.list ticket.filter log).1 total) :
    ∃ q', q.drive c.service ticket log =
        (outcomeOf ((c.service.list ticket.filter log).1.map ticket.filter.taken), q',
          c.listRequest ticket.filter :: log) ∧
      q'.Holds q.filter ((c.service.list ticket.filter log).1.map ticket.filter.taken) := by
  have decided := decided_of_latest latest within
  obtain ⟨outcome, holds⟩ := applyLoad_within latest within
  refine ⟨_, ?_, holds⟩
  rw [drive_of_decided c.service decided, outcome]
  rfl

/-- A queue that drives a load makes its requests and holds what it came to. -/
theorem drive_of_loads (loads : Client.Loads c filter log log' last result) (q : Queue) :
    ∃ q', (q.issue filter false).1.drive c.service (q.issue filter false).2 log =
        (outcomeOf result, q', log') ∧
      q'.Holds last result := by
  cases loads with
  | once within =>
      exact drive_of_within c log rfl fun total past => within total ((pastEnd_issue q).mp past)
  | @corrected total _ past correction =>
      subst correction
      have reissued := applyLoad_pastEnd ((pastEnd_issue q).mpr past)
      generalize issued : (q.issue filter false).1.issue (lastPage filter total) true = correction
        at reissued
      obtain ⟨q', next⟩ := correction
      cases issued
      rw [drive_of_reissue c.service reissued]
      -- a correction is never corrected
      exact drive_of_within c (c.listRequest filter :: log) rfl fun _ past' => nomatch past'.plain

end Queue

namespace Session

open Http (Client)

theorem prefill_queue (s : Session) (shown : Bool) :
    (if shown then s.prefill else s).queue = s.queue := by
  split
  · unfold prefill
    split <;> rfl
  · rfl

/-- A saved label leaves the page to be loaded again, by the filter that it was loaded by. -/
theorem onSubmitResult_queue (s : Session) (saved : Item) :
    ∃ s', s.onSubmitResult (.ok saved) = (s', some (s.queue.issue s.queue.filter false).2) ∧
      s'.queue = (s.queue.issue s.queue.filter false).1 := by
  have reload (next : Session) (same : next.queue = s.queue) :
      ∃ s', (next.refresh.1, some next.refresh.2) =
          (s', some (s.queue.issue s.queue.filter false).2) ∧
        s'.queue = (s.queue.issue s.queue.filter false).1 := by
    rw [← same]
    exact ⟨_, rfl, rfl⟩
  exact reload _ (prefill_queue _ _)

theorem afterLoad_queue (s : Session) (outcome : LoadOutcome) (q : Queue)
    (log : List Http.Request) :
    ∃ s', s.afterLoad (outcome, q, log) = (outcome, s', log) ∧ s'.queue = q := by
  refine ⟨_, rfl, ?_⟩
  split <;> rfl

variable {c : Client} {log : List Http.Request} {id : String} {submission : Submission}

theorem submitNow_of_invalid (c : Client) (log : List Http.Request) {s : Session}
    {fault : FormFault} (invalid : s.form.validate s.selection.current = .error fault) :
    ∃ s', s.submitNow c.service log = (.error (.form fault), s', log) := by
  simp only [submitNow, beginSubmit, LabelForm.beginSubmit, invalid]
  exact ⟨_, rfl⟩

theorem submitNow_of_failed {s : Session} {fault : TransportFault}
    (current : s.selection.current = some id)
    (valid : s.form.validate (some id) = .ok submission)
    (failed : (c.service.submit id submission log).1 = .error fault) :
    ∃ s', s.submitNow c.service log =
      (.error (.transport fault), s', c.labelRequest id submission :: log) := by
  simp only [submitNow, beginSubmit, LabelForm.beginSubmit, current, valid,
    Option.getD_some, failed]
  exact ⟨_, rfl⟩

theorem submitNow_of_saved {s : Session} {log' : List Http.Request} {last : Filter} {saved : Item}
    {result : Except TransportFault (List Item)} (current : s.selection.current = some id)
    (valid : s.form.validate (some id) = .ok submission)
    (answered : (c.service.submit id submission log).1 = .ok saved)
    (reloads : c.Loads s.queue.filter (c.labelRequest id submission :: log) log' last result) :
    ∃ s', s.submitNow c.service log = (.ok saved, s', log') ∧ s'.queue.Holds last result := by
  obtain ⟨s', taken, queue⟩ :=
    onSubmitResult_queue { s with form := { s.form with status := .submitting } } saved
  obtain ⟨q, driven, holds⟩ := Queue.drive_of_loads reloads s.queue
  obtain ⟨last, after, here⟩ := afterLoad_queue s' (Queue.outcomeOf result) q log'
  refine ⟨last, ?_, here ▸ holds⟩
  have driven' : s'.queue.drive c.service (s.queue.issue s.queue.filter false).2
      (c.service.submit id submission log).2 = (Queue.outcomeOf result, q, log') := by
    rw [queue]
    exact driven
  simp only [submitNow, beginSubmit, LabelForm.beginSubmit, current, valid,
    Option.getD_some, answered, taken, driven', after]

end Session
end ReviewDesk
