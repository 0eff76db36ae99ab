import ReviewDesk.Proofs.Console.Submitting

/-!
What the screen waits for is on its way. Of the requests that are numbered, the one with the last
number is outstanding exactly as long as the session waits for it; every place that issues a number
either sends the request off or stops waiting.
-/

namespace ReviewDesk

open Session (Entry)

namespace Dispatch

def loadNumber? : Dispatch → Option Nat
  | .load ticket => some ticket.seq
  | _ => none

def selectNumber? : Dispatch → Option Nat
  | .select ticket => some ticket.seq
  | _ => none

/-- No request has a number above `issued`, and those with that number are the one that is awaited,
or none. -/
structure Awaits (number? : Dispatch → Option Nat) (issued : Nat) (awaited : Option Dispatch)
    (outbox : List Dispatch) : Prop where
  bounded : ∀ request ∈ outbox, ∀ n, number? request = some n → n ≤ issued
  latest : outbox.filter (number? · = some issued) = awaited.toList

namespace Awaits

variable {number? : Dispatch → Option Nat} {issued : Nat} {awaited : Option Dispatch}
  {outbox : List Dispatch} {request : Dispatch}

theorem empty : Awaits number? 0 none [] where
  bounded request member := by cases member
  latest := rfl

/-- With a new number nothing is awaited until it is sent off. -/
theorem retired (h : Awaits number? issued awaited outbox) :
    Awaits number? (issued + 1) none outbox where
  bounded request member n number := Nat.le_succ_of_le (h.bounded request member n number)
  latest := by
    refine List.filter_eq_nil_iff.mpr fun request member number => ?_
    have bound := h.bounded request member _ (of_decide_eq_true number)
    omega

theorem sent (h : Awaits number? issued none outbox) (number : number? request = some issued) :
    Awaits number? issued (some request) (outbox ++ [request]) where
  bounded other member n numbered := by
    rcases List.mem_append.mp member with old | new
    · exact h.bounded other old n numbered
    · rw [List.mem_singleton.mp new, number] at numbered
      cases numbered
      exact Nat.le_refl _
  latest := by
    rw [List.filter_append, h.latest]
    simp [number]

theorem sent_other (h : Awaits number? issued awaited outbox) (number : number? request = none) :
    Awaits number? issued awaited (outbox ++ [request]) where
  bounded other member n numbered := by
    rcases List.mem_append.mp member with old | new
    · exact h.bounded other old n numbered
    · rw [List.mem_singleton.mp new, number] at numbered
      cases numbered
  latest := by
    rw [List.filter_append, h.latest]
    simp [number]

/-- The answer with the last number is the one that is awaited. -/
theorem answered (h : Awaits number? issued awaited outbox) (member : request ∈ outbox)
    (number : number? request = some issued) :
    Awaits number? issued none (outbox.erase request) where
  bounded other member' := h.bounded other (List.mem_of_mem_erase member')
  latest := by
    have found : request ∈ outbox.filter (number? · = some issued) :=
      List.mem_filter.mpr ⟨member, decide_eq_true number⟩
    rw [← List.erase_filter]
    rw [h.latest] at found ⊢
    cases awaited with
    | none => cases found
    | some expected => simp [List.mem_singleton.mp found]

theorem answered_other (h : Awaits number? issued awaited outbox) (request : Dispatch)
    (number : number? request ≠ some issued) :
    Awaits number? issued awaited (outbox.erase request) where
  bounded other member := h.bounded other (List.mem_of_mem_erase member)
  latest := by
    have absent : request ∉ outbox.filter (number? · = some issued) := fun found =>
      number (of_decide_eq_true (List.mem_filter.mp found).2)
    rw [← List.erase_filter, List.erase_of_not_mem absent, h.latest]

end Awaits

end Dispatch

namespace Session

/-- A queue that is loading waits for the load with the last number and its own filter. -/
def PageAwaited (s : Session) (outbox : List Dispatch) : Prop :=
  ∃ corrective, Dispatch.Awaits Dispatch.loadNumber? s.queue.issued
    (if s.queue.status = .loading then
      some (.load ⟨s.queue.issued, s.queue.filter, corrective⟩)
    else none) outbox

def DetailAwaited (s : Session) (outbox : List Dispatch) : Prop :=
  Dispatch.Awaits Dispatch.selectNumber? s.selection.issued
    (s.selection.pending.map fun id => .select ⟨s.selection.issued, id⟩) outbox

end Session

namespace Console

open Session (PageAwaited DetailAwaited)

theorem pageAwaited_invariant : Invariant PageAwaited := by
  intro s outbox entries s' step awaited holds
  obtain ⟨corrective, awaits⟩ := holds
  have came {ticket answer outcome} (member : .pageCame ticket answer outcome ∈ entries) :
      .load ticket ∈ outbox := awaited (.pageCame ticket answer outcome) member
  cases step with
  | load filter => exact ⟨false, awaits.retired.sent rfl⟩
  | pageStale ticket answer superseded =>
      refine ⟨corrective, awaits.answered_other (.load ticket) ?_⟩
      simpa [Dispatch.loadNumber?] using superseded
  | pageFailed ticket fault latest =>
      exact ⟨corrective, awaits.answered (came List.mem_cons_self) (congrArg some latest)⟩
  | pagePast ticket page next latest past corrected =>
      subst corrected
      have answered := awaits.answered (came (List.mem_cons_of_mem _ List.mem_cons_self))
        (congrArg some latest)
      exact ⟨true, answered.retired.sent rfl⟩
  | pageAccepted ticket page latest past =>
      exact ⟨corrective, awaits.answered (came List.mem_cons_self) (congrArg some latest)⟩
  | select id => exact ⟨corrective, awaits.sent_other rfl⟩
  | submitSent => exact ⟨corrective, awaits.sent_other rfl⟩
  | submitRefused | edit => exact ⟨corrective, awaits⟩
  | detailStale ticket | detailVanished ticket | detailFailed ticket | detailApplied ticket =>
      exact ⟨corrective, awaits.answered_other (.select ticket) nofun⟩
  | saveFailed ticket => exact ⟨corrective, awaits.answered_other (.submit ticket) nofun⟩
  | savedElsewhere ticket | savedShown ticket | savedAwaited ticket =>
      -- The answer to the label makes room in the outbox, and the page is loaded again.
      have answered := awaits.answered_other (.submit ticket) nofun
      exact ⟨false, answered.retired.sent rfl⟩

theorem detailAwaited_invariant : Invariant DetailAwaited := by
  intro s outbox entries s' step awaited awaits
  have came {ticket answer outcome} (member : .detailCame ticket answer outcome ∈ entries) :
      .select ticket ∈ outbox := awaited (.detailCame ticket answer outcome) member
  cases step with
  | select id => exact awaits.retired.sent rfl
  | detailStale ticket answer superseded =>
      refine awaits.answered_other (.select ticket) ?_
      simpa [Dispatch.selectNumber?] using superseded
  | detailVanished ticket answer latest | detailFailed ticket fault latest
  | detailApplied ticket item latest =>
      exact awaits.answered (came List.mem_cons_self) (congrArg some latest)
  | load | submitSent => exact awaits.sent_other rfl
  | pageStale ticket | pageFailed ticket =>
      exact awaits.answered_other (.load ticket) nofun
  | saveFailed ticket => exact awaits.answered_other (.submit ticket) nofun
  | pagePast ticket =>
      have answered := awaits.answered_other (.load ticket) nofun
      exact answered.sent_other rfl
  | pageAccepted ticket page =>
      have answered := awaits.answered_other (.load ticket) nofun
      rw [DetailAwaited, s.selection.reconcile_issued, s.selection.reconcile_pending]
      exact answered
  | submitRefused | edit => exact awaits
  | savedElsewhere ticket | savedShown ticket =>
      have answered := awaits.answered_other (.submit ticket) nofun
      exact answered.sent_other rfl
  | savedAwaited ticket =>
      -- The number moves on and nothing is asked: the item on its way is no longer waited for.
      have answered := awaits.answered_other (.submit ticket) nofun
      exact answered.retired.sent_other rfl

/-- Over every run from the first load on: the queue is loading exactly while one load with the last
number is outstanding, an item is being fetched exactly while one request for it with the last
number is, and a label that is being saved is on its way. -/
theorem waits_for_what_is_outstanding (filter : Filter) (labels : List String)
    (user : Option String) (target : String × DataFormat) (disk : Disk) (events : List Event) :
    let c := (start filter labels user target disk).run events
    let queue := c.session.queue
    let selection := c.session.selection
    let loads := c.outbox.filter (·.loadNumber? = some queue.issued)
    let details := c.outbox.filter (·.selectNumber? = some selection.issued)
    (∀ ticket, .load ticket ∈ c.outbox → ticket.seq ≤ queue.issued) ∧
    (∀ ticket, .select ticket ∈ c.outbox → ticket.seq ≤ selection.issued) ∧
    (queue.status = .loading ↔
      ∃ corrective, loads = [.load ⟨queue.issued, queue.filter, corrective⟩]) ∧
    (queue.status ≠ .loading ↔ loads = []) ∧
    (∀ id, selection.pending = some id ↔ details = [.select ⟨selection.issued, id⟩]) ∧
    (selection.pending = none ↔ details = []) ∧
    (c.session.form.status = .submitting → ∃ ticket, .submit ticket ∈ c.outbox) := by
  intro c queue selection loads details
  obtain ⟨corrective, page⟩ : PageAwaited c.session c.outbox :=
    run_keeps pageAwaited_invariant _ events ⟨false, Dispatch.Awaits.empty.retired.sent rfl⟩
  have detail : DetailAwaited c.session c.outbox :=
    run_keeps detailAwaited_invariant _ events (Dispatch.Awaits.empty.sent_other rfl)
  have loads_are : loads = (if queue.status = .loading then
      some (Dispatch.load ⟨queue.issued, queue.filter, corrective⟩) else none).toList := page.latest
  have details_are : details =
      (selection.pending.map fun id => Dispatch.select ⟨selection.issued, id⟩).toList :=
    detail.latest
  refine ⟨?_, ?_, ?_, ?_, ?_, ?_, ?_⟩
  · intro ticket member
    exact page.bounded _ member _ rfl
  · intro ticket member
    exact detail.bounded _ member _ rfl
  · rw [loads_are]
    by_cases loading : queue.status = .loading
    · simp [loading]
    · simp [loading]
  · rw [loads_are]
    by_cases loading : queue.status = .loading
    · simp [loading]
    · simp [loading]
  · intro id
    rw [details_are]
    cases pending : selection.pending with
    | none => simp
    | some other => simp
  · rw [details_are]
    simp
  · intro busy
    have counted := (start filter labels user target disk).run_submitting events nofun busy
    obtain ⟨request, member, submit⟩ := List.countP_pos_iff.mp counted
    cases request with
    | submit ticket => exact ⟨ticket, member⟩
    | load ticket | select ticket => cases submit

end Console
end ReviewDesk
