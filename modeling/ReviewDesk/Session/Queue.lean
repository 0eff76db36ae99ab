import ReviewDesk.Fault
import ReviewDesk.Filter
import ReviewDesk.Item.Basic
import ReviewDesk.Paging

/-!
The page of the queue that is shown. Every load gets a ticket with the next number; only the answer
to the last ticket counts. An empty page past the end is corrected once, by a ticket that is marked
so. Tickets are numbered without an end. A counter of 64 bits gives the same numbers as long as
fewer than 2^64 tickets were issued.
-/

namespace ReviewDesk

structure LoadTicket where
  /-- A word where fewer than 2^64 loads were asked for. -/
  seq : Nat
  filter : Filter
  corrective : Bool
deriving DecidableEq

inductive QueueStatus where
  | idle
  | loading
  | ready
  | failed (fault : TransportFault)
deriving DecidableEq

inductive LoadOutcome where
  | accepted
  | stale
  | failed (fault : TransportFault)
  | reissue (next : LoadTicket)
deriving DecidableEq

structure Queue where
  filter : Filter := {}
  items : List Item := []
  total : UInt64 := 0
  status : QueueStatus := .idle
  /-- The number of the last ticket, which is how many there were. -/
  issued : Nat := 0
deriving DecidableEq

namespace Queue

def paging (q : Queue) : Paging :=
  ⟨q.filter.offset, q.filter.limit, q.total⟩

def isLoading (q : Queue) : Bool :=
  q.status = .loading

def issue (q : Queue) (filter : Filter) (corrective : Bool) : Queue × LoadTicket :=
  ({ q with filter := filter, status := .loading, issued := q.issued + 1 },
    ⟨q.issued + 1, filter, corrective⟩)

def beginLoad (q : Queue) (filter : Filter) : Queue × LoadTicket :=
  q.issue filter false

def reload (q : Queue) : Queue × LoadTicket :=
  q.issue q.filter false

/-- The page is empty and lies past the end, and was not already asked for as a correction. -/
def overshoots (ticket : LoadTicket) (page : Page) : Bool :=
  page.items.isEmpty && 0 < ticket.filter.offset && page.total ≤ ticket.filter.offset &&
    !ticket.corrective

/-- The filter of the last page of a queue with that total. -/
def lastPage (filter : Filter) (total : UInt64) : Filter :=
  { filter with offset := saturatingSub total filter.limit }

def applyLoad (q : Queue) (ticket : LoadTicket) (answer : Except TransportFault Page) :
    Queue × LoadOutcome :=
  if ticket.seq ≠ q.issued then (q, .stale)
  else
    match answer with
    | .error fault =>
      ({ q with items := [], total := 0, status := .failed fault }, .failed fault)
    | .ok page =>
      if overshoots ticket page then
        let (q, next) := q.issue (lastPage ticket.filter page.total) true
        (q, .reissue next)
      else
        ({ q with
            items := page.items.take ticket.filter.limit.toNat
            total := page.total
            status := .ready }, .accepted)

/-- Only a ticket that is no correction is corrected, and what replaces it is one. -/
theorem corrective_of_applyLoad_reissue {q q' : Queue} {ticket next : LoadTicket}
    {answer : Except TransportFault Page}
    (h : q.applyLoad ticket answer = (q', .reissue next)) :
    ticket.corrective = false ∧ next.corrective = true := by
  unfold applyLoad at h
  split at h
  · simp at h
  · split at h
    · simp at h
    · split at h
      · rename_i page ho
        simp only [issue, Prod.mk.injEq, LoadOutcome.reissue.injEq] at h
        simp only [overshoots, Bool.and_eq_true, Bool.not_eq_true'] at ho
        exact ⟨ho.2, by rw [← h.2]⟩
      · simp at h

end Queue
end ReviewDesk
