import Mathlib.Data.List.DropRight
import ReviewDesk.Proofs.Session.Steady

/-!
Loads of a queue that does not change. A load that begins before the end, or at the start, brings
what stands there; one that begins past the end is corrected and brings the last items. So a page
stays empty only when the whole queue is.
-/

namespace ReviewDesk

variable {σ : Type}

/-- The service with the queue behind it: every list is answered by a page of the queue. -/
def SteadyQueue.serve (q : SteadyQueue) (service : Service σ) : Service σ :=
  { service with list := fun filter state => (.ok (q.page filter), (service.list filter state).2) }

namespace SteadyQueue

theorem lastPage_offset (q : SteadyQueue) (filter : Filter) :
    (Queue.lastPage filter q.total).offset.toNat = q.items.length - filter.limit.toNat := by
  rw [Queue.lastPage, saturatingSub_toNat, total_toNat]

/-- The last page holds the last items, as many as it has room for. -/
theorem page_lastPage (q : SteadyQueue) (filter : Filter) :
    (q.page (Queue.lastPage filter q.total)).items =
      q.items.rtake (min filter.limit.toNat q.items.length) := by
  have start : q.items.length - min filter.limit.toNat q.items.length =
      q.items.length - filter.limit.toNat := by
    omega
  rw [page, lastPage_offset, List.rtake, start]
  apply List.take_of_length_le
  rw [List.length_drop]
  change _ ≤ filter.limit.toNat
  omega

end SteadyQueue

namespace Queue

variable {q : SteadyQueue} {queue : Queue} {ticket : LoadTicket}

theorem applyLoad_page (latest : ticket.seq = queue.issued)
    (shown : overshoots ticket (q.page ticket.filter) = false) :
    queue.applyLoad ticket (.ok (q.page ticket.filter)) =
      ({ queue with
        items := (q.page ticket.filter).items, total := q.total, status := .ready }, .accepted) := by
  have kept : (q.page ticket.filter).items.take ticket.filter.limit.toNat =
      (q.page ticket.filter).items :=
    List.take_of_length_le (List.length_take_le _ _)
  simp only [applyLoad, latest, shown, kept, ne_eq, not_true_eq_false, if_false,
    Bool.false_eq_true]
  rfl

variable (service : Service σ)
  (answers : ∀ filter state, (service.list filter state).1 = .ok (q.page filter))
include answers

theorem drive_of_shown (latest : ticket.seq = queue.issued)
    (shown : overshoots ticket (q.page ticket.filter) = false) (state : σ) :
    queue.drive service ticket state =
      (.accepted, { queue with
        items := (q.page ticket.filter).items, total := q.total, status := .ready },
        (service.list ticket.filter state).2) := by
  refine drive_of_settled service nofun ?_
  rw [answers]
  exact applyLoad_page latest shown

/-- Past the end the last page is asked for, and that settles it. -/
theorem drive_of_overshot (latest : ticket.seq = queue.issued)
    (overshot : overshoots ticket (q.page ticket.filter) = true) (state : σ) :
    let last := lastPage ticket.filter q.total
    queue.drive service ticket state =
      (.accepted, ⟨last, (q.page last).items, q.total, .ready, queue.issued + 1⟩,
        (service.list last (service.list ticket.filter state).2).2) := by
  intro last
  obtain ⟨empty, started, past, plain⟩ := overshoots_iff.mp overshot
  have answer : (service.list ticket.filter state).1 = .ok ⟨[], q.total⟩ := by
    rw [answers, ← empty]
    rfl
  have corrected : overshoots (queue.issue last true).2 (q.page last) = false := by
    simp [overshoots, issue]
  rw [drive_of_reissue service (applyLoad_pastEnd ⟨latest, plain, answer, started, past⟩)]
  exact drive_of_shown service answers rfl corrected _

end Queue

namespace Session

theorem loadNow_of_accepted {service : Service σ} {s : Session} {filter : Filter} {state after : σ}
    {queue : Queue}
    (driven : (s.queue.issue filter false).1.drive service (s.queue.issue filter false).2 state =
      (.accepted, queue, after)) :
    s.loadNow service filter state =
      (.accepted,
        { s with queue := queue, selection := s.selection.reconcile queue.items }, after) := by
  have load : s.loadNow service filter state = s.afterLoad
      ((s.queue.issue filter false).1.drive service (s.queue.issue filter false).2 state) := rfl
  rw [load, driven]
  rfl

/-- From any session, a load of a queue that does not change is accepted: at once, with the items
from the offset on, if some stand there or the load begins at the start; and otherwise after one
more request, with the last items. -/
theorem load_lands_on_items (q : SteadyQueue) (service : Service σ) (pendingOnly : Bool)
    (detector : Option String) (limit offset : UInt64) (s : Session) (state : σ) :
    let filter := Filter.normalized pendingOnly detector limit offset
    let size := filter.limit.toNat
    let (outcome, s', after, asked) := s.loadNow (q.serve service).noting filter (state, [])
    s.loadNow (q.serve service) filter state = (outcome, s', after) ∧
    outcome = .accepted ∧ s'.queue.status = .ready ∧ s'.queue.total = q.total ∧
    (offset.toNat < q.items.length ∨ offset = 0 →
      asked = [.list filter] ∧ s'.queue.filter = filter ∧
      s'.queue.items = (q.items.drop offset.toNat).take size) ∧
    (¬(offset.toNat < q.items.length ∨ offset = 0) →
      asked = [.list filter, .list s'.queue.filter] ∧
      s'.queue.filter = { filter with offset := s'.queue.filter.offset } ∧
      s'.queue.filter.offset.toNat = q.items.length - size ∧
      s'.queue.items = q.items.rtake (min size q.items.length)) ∧
    (s'.queue.items = [] → q.items = []) := by
  intro filter size
  have pos : 0 < size := Filter.normalized_limit_pos pendingOnly detector limit offset
  have start : offset = 0 ↔ offset.toNat = 0 := UInt64.toNat_inj.symm
  let ticket : LoadTicket := ⟨s.queue.issued + 1, filter, false⟩
  have beyond : Queue.overshoots ticket (q.page filter) = true ↔
      0 < offset.toNat ∧ q.items.length ≤ offset.toNat := by
    rw [SteadyQueue.overshoots_page_iff ticket pos]
    exact ⟨fun past => ⟨past.1, past.2.1⟩, fun past => ⟨past.1, past.2, rfl⟩⟩
  have noted := fun filter state => (rfl :
    ((q.serve service).noting.list filter state).1 = .ok (q.page filter))
  have served := fun filter state => (rfl :
    ((q.serve service).list filter state).1 = .ok (q.page filter))
  rw [start]
  cases overshot : Queue.overshoots ticket (q.page filter) with
  | false =>
      have within : ¬(0 < offset.toNat ∧ q.items.length ≤ offset.toNat) := by
        rw [← beyond, overshot]
        exact Bool.false_ne_true
      rw [loadNow_of_accepted (Queue.drive_of_shown _ noted rfl overshot (state, [])),
        loadNow_of_accepted (Queue.drive_of_shown _ served rfl overshot state)]
      refine ⟨rfl, rfl, rfl, rfl, fun _ => ⟨rfl, rfl, rfl⟩, fun past => ?_, fun empty => ?_⟩
      · omega
      · have length := (SteadyQueue.page_eq_nil_iff pos).mp empty
        change q.items.length ≤ offset.toNat at length
        exact List.length_eq_zero_iff.mp (by omega)
  | true =>
      have past := beyond.mp overshot
      have last := q.page_lastPage filter
      rw [loadNow_of_accepted (Queue.drive_of_overshot _ noted rfl overshot (state, [])),
        loadNow_of_accepted (Queue.drive_of_overshot _ served rfl overshot state)]
      refine ⟨rfl, rfl, rfl, rfl, fun within => ?_, fun _ => ?_, fun empty => ?_⟩
      · omega
      · exact ⟨rfl, rfl, q.lastPage_offset filter, last⟩
      · have length := congrArg List.length (last.symm.trans empty)
        rw [List.rtake, List.length_drop, List.length_nil] at length
        exact List.length_eq_zero_iff.mp (by omega)

end Session
end ReviewDesk
