import Mathlib.Data.List.Perm.Subperm
import ReviewDesk.Proofs.Paging
import ReviewDesk.Proofs.Session.Latest

/-!
A load that lies past the end is corrected once, whatever the service answers and however often an
answer is handed in. The correction asks for the last page and is never corrected itself, so a load
that is driven to its end makes two requests at most.
-/

namespace ReviewDesk

variable {σ : Type}

theorem Filter.normalized_limit_pos (pendingOnly : Bool) (detector : Option String)
    (limit offset : UInt64) : 0 < (normalized pendingOnly detector limit offset).limit.toNat := by
  by_cases zero : limit = 0
  · simp [normalized, zero]
  · have nonzero : limit.toNat ≠ 0 := fun same => zero (UInt64.toNat_inj.mp same)
    simpa [normalized, zero] using Nat.pos_of_ne_zero nonzero

/-- The load has come to its end. -/
def LoadOutcome.Decided (outcome : LoadOutcome) : Prop :=
  outcome = .accepted ∨ ∃ fault, outcome = .failed fault

theorem LoadOutcome.Decided.not_reissue {outcome : LoadOutcome} (decided : outcome.Decided)
    (next : LoadTicket) : outcome ≠ .reissue next := by
  rintro rfl
  obtain accepted | ⟨_, failed⟩ := decided
  · cases accepted
  · cases failed

/-- The same service, which notes what it is asked, the last request at the end. -/
def Service.noting (service : Service σ) : Service (σ × List Request) where
  list filter state :=
    let (answer, after) := service.list filter state.1
    (answer, after, state.2 ++ [.list filter])
  get id state :=
    let (answer, after) := service.get id state.1
    (answer, after, state.2 ++ [.get id])
  submit id submission state :=
    let (answer, after) := service.submit id submission state.1
    (answer, after, state.2 ++ [.submit id submission])

namespace Queue

/-- The answer to the latest ticket is an empty page past the end of a queue with that total, and
the ticket is no correction. -/
structure PastEnd (q : Queue) (ticket : LoadTicket) (answer : Except TransportFault Page)
    (total : UInt64) : Prop where
  latest : ticket.seq = q.issued
  plain : ticket.corrective = false
  empty : answer = .ok ⟨[], total⟩
  started : 0 < ticket.filter.offset
  past : total ≤ ticket.filter.offset

/-- The ticket that is issued instead, and the queue that waits for its answer. -/
structure Correction (q : Queue) (ticket : LoadTicket) (total : UInt64) (q' : Queue)
    (next : LoadTicket) : Prop where
  seq : next.seq = q.issued + 1
  corrective : next.corrective = true
  filter : next.filter = { ticket.filter with offset := next.filter.offset }
  offset : next.filter.offset.toNat = total.toNat - ticket.filter.limit.toNat
  queue : q' = { q with filter := next.filter, status := .loading, issued := next.seq }

variable {q q' : Queue} {ticket next : LoadTicket} {answer : Except TransportFault Page}
  {total : UInt64}

theorem PastEnd.total_unique {total' : UInt64} (one : q.PastEnd ticket answer total)
    (two : q.PastEnd ticket answer total') : total = total' := by
  have same := one.empty.symm.trans two.empty
  cases same
  rfl

theorem applyLoad_stale (answer : Except TransportFault Page) (superseded : ticket.seq ≠ q.issued) :
    q.applyLoad ticket answer = (q, .stale) :=
  if_pos superseded

theorem overshoots_iff {page : Page} :
    overshoots ticket page = true ↔ page.items = [] ∧ 0 < ticket.filter.offset ∧
      page.total ≤ ticket.filter.offset ∧ ticket.corrective = false := by
  simp [overshoots, and_assoc]

theorem correction_issue (q : Queue) (ticket : LoadTicket) (total : UInt64) :
    q.Correction ticket total (q.issue (lastPage ticket.filter total) true).1
      (q.issue (lastPage ticket.filter total) true).2 :=
  ⟨rfl, rfl, rfl, saturatingSub_toNat total ticket.filter.limit, rfl⟩

theorem Correction.eq_issue (correction : q.Correction ticket total q' next) :
    (q', next) = q.issue (lastPage ticket.filter total) true := by
  obtain ⟨seq, corrective, filter, offset, queue⟩ := correction
  have same : next.filter.offset = saturatingSub total ticket.filter.limit := by
    apply UInt64.toNat_inj.mp
    rw [offset, saturatingSub_toNat]
  rw [same] at filter
  obtain ⟨number, asked, mark⟩ := next
  dsimp only at seq corrective filter queue
  subst seq corrective filter queue
  rfl

theorem Correction.nearer (past : q.PastEnd ticket answer total)
    (correction : q.Correction ticket total q' next) (some : 0 < ticket.filter.limit.toNat) :
    next.filter.offset < ticket.filter.offset := by
  have started := UInt64.lt_iff_toNat_lt.mp past.started
  have bound := UInt64.le_iff_toNat_le.mp past.past
  apply UInt64.lt_iff_toNat_lt.mpr
  rw [correction.offset]
  change 0 < _ at started
  omega

theorem applyLoad_pastEnd (past : q.PastEnd ticket answer total) :
    q.applyLoad ticket answer =
      ((q.issue (lastPage ticket.filter total) true).1,
        .reissue (q.issue (lastPage ticket.filter total) true).2) := by
  obtain ⟨latest, plain, rfl, started, past⟩ := past
  have overshot : overshoots ticket ⟨[], total⟩ = true :=
    overshoots_iff.mpr ⟨rfl, started, past, plain⟩
  simp [applyLoad, latest, overshot]

theorem decided_of_latest (latest : ticket.seq = q.issued)
    (within : ∀ total, ¬q.PastEnd ticket answer total) :
    (q.applyLoad ticket answer).2.Decided := by
  cases answer with
  | error fault => exact .inr ⟨fault, by simp [applyLoad, latest]⟩
  | ok page =>
      cases overshot : overshoots ticket page with
      | false => exact .inl (by simp [applyLoad, latest, overshot])
      | true =>
          obtain ⟨empty, started, past, plain⟩ := overshoots_iff.mp overshot
          exact (within page.total ⟨latest, plain, by rw [← empty], started, past⟩).elim

theorem applyLoad_reissue_iff :
    q.applyLoad ticket answer = (q', .reissue next) ↔
      ∃ total, q.PastEnd ticket answer total ∧ q.Correction ticket total q' next := by
  constructor
  · intro reissued
    by_cases some : ∃ total, q.PastEnd ticket answer total
    · obtain ⟨total, past⟩ := some
      rw [applyLoad_pastEnd past] at reissued
      cases reissued
      exact ⟨total, past, correction_issue q ticket total⟩
    · have latest : ticket.seq = q.issued := Decidable.not_not.mp fun superseded => by
        rw [applyLoad_stale answer superseded] at reissued
        cases reissued
      have decided := decided_of_latest latest fun total past => some ⟨total, past⟩
      rw [reissued] at decided
      exact (decided.not_reissue next rfl).elim
  · rintro ⟨total, past, correction⟩
    rw [applyLoad_pastEnd past, ← correction.eq_issue]

/-- How a driven load ends, given the first answer: after one request, and after a second one, for
the correction, if that answer lies past the end. -/
structure Settles (q : Queue) (ticket : LoadTicket) (answer : Except TransportFault Page)
    (outcome : LoadOutcome) (asked : List Request) : Prop where
  decided : outcome.Decided
  once : (∀ total, ¬q.PastEnd ticket answer total) → asked = [.list ticket.filter]
  twice : ∀ total, q.PastEnd ticket answer total → ∃ q' next, q.Correction ticket total q' next ∧
    asked = [.list ticket.filter, .list next.filter]

theorem drive_of_decided (service : Service σ) {state : σ}
    (decided : (q.applyLoad ticket (service.list ticket.filter state).1).2.Decided) :
    q.drive service ticket state =
      ((q.applyLoad ticket (service.list ticket.filter state).1).2,
        (q.applyLoad ticket (service.list ticket.filter state).1).1,
        (service.list ticket.filter state).2) :=
  drive_of_settled service decided.not_reissue rfl

theorem drive_settles (service : Service σ) (latest : ticket.seq = q.issued) (state : σ) :
    let (outcome, q', after, asked) := q.drive service.noting ticket (state, [])
    q.drive service ticket state = (outcome, q', after) ∧
      q.Settles ticket (service.list ticket.filter state).1 outcome asked := by
  by_cases corrected : ∃ total, q.PastEnd ticket (service.list ticket.filter state).1 total
  · obtain ⟨total, past⟩ := corrected
    have correction := correction_issue q ticket total
    have again := applyLoad_pastEnd past
    generalize (q.issue (lastPage ticket.filter total) true).1 = q' at correction again
    generalize (q.issue (lastPage ticket.filter total) true).2 = next at correction again
    have latest' : next.seq = q'.issued := by rw [correction.queue]
    -- The correction is the latest ticket now, and no correction is corrected.
    have decided : (q'.applyLoad next
        (service.list next.filter (service.list ticket.filter state).2).1).2.Decided :=
      decided_of_latest latest' fun total' past' => by
        simpa [correction.corrective] using past'.plain
    rw [drive_of_reissue service again, drive_of_reissue service.noting again,
      drive_of_decided service decided, drive_of_decided service.noting decided]
    refine ⟨rfl, decided, fun within => (within total past).elim, fun total' past' => ?_⟩
    exact ⟨q', next, past.total_unique past' ▸ correction, rfl⟩
  · have decided := decided_of_latest latest fun total past => corrected ⟨total, past⟩
    rw [drive_of_decided service decided, drive_of_decided service.noting decided]
    exact ⟨rfl, decided, fun _ => rfl, fun total past => (corrected ⟨total, past⟩).elim⟩

end Queue

namespace Session

namespace Entry

def loaded? : Entry → Option LoadTicket
  | .pageCame ticket _ _ => some ticket
  | _ => none

/-- The ticket whose answer gave cause for a correction. -/
def corrected? : Entry → Option LoadTicket
  | .pageCame ticket _ (.reissue _) => some ticket
  | _ => none

end Entry

namespace Journal

def loaded (j : Journal) : List LoadTicket := j.filterMap Entry.loaded?

/-- The tickets that were corrected, as often as they were. -/
def corrected (j : Journal) : List LoadTicket := j.filterMap Entry.corrected?

/-- The tickets of the loads that were begun, corrections left out. -/
def begun (j : Journal) : List LoadTicket := j.loads.filter (!·.corrective)

end Journal

/-- Loads that were corrected were begun and are superseded, so none is corrected again; and the
queue waits as long as nothing came for its number. -/
structure Corrections (q : Queue) (j : Journal) : Prop where
  superseded : ∀ ticket ∈ j.corrected, ticket.seq < q.issued
  begun : ∀ ticket ∈ j.corrected, ticket ∈ j.begun
  once : j.corrected.Nodup
  waits : j.loads ≠ [] → (∀ ticket ∈ j.loaded, ticket.seq ≠ q.issued) → q.status = .loading

namespace Corrections

variable {q q' : Queue} {j : Journal} {entries : List Entry}

theorem recorded (inv : Corrections q j) (same : Journal.corrected (entries ++ j) = j.corrected)
    (begun : j.begun ⊆ Journal.begun (entries ++ j)) (issued : q.issued ≤ q'.issued)
    (waits : Journal.loads (entries ++ j) ≠ [] →
      (∀ ticket ∈ Journal.loaded (entries ++ j), ticket.seq ≠ q'.issued) → q'.status = .loading) :
    Corrections q' (entries ++ j) where
  superseded := by
    rw [same]
    exact fun ticket member => Nat.lt_of_lt_of_le (inv.superseded ticket member) issued
  begun := by
    rw [same]
    exact fun ticket member => begun (inv.begun ticket member)
  once := by
    rw [same]
    exact inv.once
  waits := waits

/-- A load that is corrected is superseded by its correction. -/
theorem corrects {ticket : LoadTicket} {page : Page} (inv : Corrections q j)
    (asked : ticket ∈ j.loads) (latest : ticket.seq = q.issued) (plain : ticket.corrective = false)
    (filter : Filter) :
    Corrections (q.issue filter true).1
      (.loadAsked (q.issue filter true).2 ::
        .pageCame ticket (.ok page) (.reissue (q.issue filter true).2) :: j) where
  superseded other member := by
    change other.seq < q.issued + 1
    rcases List.mem_cons.mp member with rfl | earlier
    · omega
    · have bound := inv.superseded other earlier
      omega
  begun other member := by
    change other ∈ j.begun
    rcases List.mem_cons.mp member with rfl | earlier
    · exact List.mem_filter.mpr ⟨asked, by simp [plain]⟩
    · exact inv.begun other earlier
  once := by
    refine List.nodup_cons.mpr ⟨fun before => ?_, inv.once⟩
    have bound := inv.superseded ticket before
    omega
  waits _ _ := rfl

end Corrections

theorem corrections_invariant :
    History.Invariant fun s j => Corrections s.queue j := by
  intro s j entries s' step backed inv
  cases step with
  | load filter | savedElsewhere | savedShown | savedAwaited =>
      exact inv.recorded rfl (List.subset_cons_self _ _) (Nat.le_succ _) fun _ _ => rfl
  | pagePast ticket page next latest past corrected =>
      have asked : ticket ∈ j.loads := backed _ (List.mem_cons_of_mem _ List.mem_cons_self)
      obtain ⟨-, -, -, plain⟩ := Queue.overshoots_iff.mp past
      subst corrected
      exact inv.corrects asked latest plain _
  | pageStale ticket answer superseded =>
      exact inv.recorded rfl (List.Subset.refl _) (Nat.le_refl _) fun some none =>
        inv.waits some fun other member => none other (List.mem_cons_of_mem _ member)
  | pageFailed ticket fault latest =>
      exact inv.recorded rfl (List.Subset.refl _) (Nat.le_refl _) fun _ none =>
        (none ticket List.mem_cons_self latest).elim
  | pageAccepted ticket page latest =>
      exact inv.recorded rfl (List.Subset.refl _) (Nat.le_refl _) fun _ none =>
        (none ticket List.mem_cons_self latest).elim
  | select | detailStale | detailVanished | detailFailed | detailApplied | submitRefused |
    submitSent | saveFailed | edit =>
      exact inv.recorded rfl (List.Subset.refl _) (Nat.le_refl _) inv.waits

/-- The answer to the latest load gives cause for a correction just when it lies past the end and
the load is no correction; the correction asks for the last page, which lies before. Driven to its
end, a load takes a second request just then, and no third. Over every run: a load that was
corrected is outdated, whatever comes for it, so no more corrections were made than loads were
begun. -/
theorem corrected_once_per_load (service : Service σ) (filter : Filter) (labels : List String)
    (user : Option String) (events : List (Event σ)) :
    (∀ (q q' : Queue) ticket answer next, q.applyLoad ticket answer = (q', .reissue next) ↔
      ∃ total, q.PastEnd ticket answer total ∧ q.Correction ticket total q' next) ∧
    (∀ (q q' : Queue) ticket answer next, q.applyLoad ticket answer = (q', .reissue next) →
      ∀ pendingOnly detector limit offset,
        ticket.filter = .normalized pendingOnly detector limit offset →
          next.filter.offset < ticket.filter.offset) ∧
    (∀ (q q' : Queue) ticket answer next, ticket.corrective = true →
      q.applyLoad ticket answer ≠ (q', .reissue next)) ∧
    (∀ (q : Queue) ticket state, ticket.seq = q.issued →
      let (outcome, q', after, asked) := q.drive service.noting ticket (state, [])
      q.drive service ticket state = (outcome, q', after) ∧
        q.Settles ticket (service.list ticket.filter state).1 outcome asked) ∧
    (∀ (q : Queue) filter state,
      let (begun, ticket) := q.beginLoad filter
      let (outcome, q', after, asked) := q.load service.noting filter (state, [])
      q.load service filter state = (outcome, q', after) ∧
        begun.Settles ticket (service.list filter state).1 outcome asked) ∧
    let h := (History.start filter labels user).run service events
    let q := h.session.queue
    (∀ ticket ∈ h.journal.loads, ticket.seq = q.issued →
      (∀ came ∈ h.journal.loaded, came.seq ≠ ticket.seq) → q.status = .loading) ∧
    (∀ ticket ∈ h.journal.corrected, ∀ answer, q.applyLoad ticket answer = (q, .stale)) ∧
    h.journal.corrected.Nodup ∧
    h.journal.corrected.length ≤ h.journal.begun.length := by
  refine ⟨fun _ _ _ _ _ => Queue.applyLoad_reissue_iff, ?_, ?_, ?_, ?_, ?_⟩
  · intro q q' ticket answer next reissued pendingOnly detector limit offset normal
    obtain ⟨total, past, correction⟩ := Queue.applyLoad_reissue_iff.mp reissued
    refine correction.nearer past ?_
    rw [normal]
    exact Filter.normalized_limit_pos pendingOnly detector limit offset
  · intro q q' ticket answer next corrective reissued
    obtain ⟨total, past, -⟩ := Queue.applyLoad_reissue_iff.mp reissued
    simpa [corrective] using past.plain
  · intro q ticket state latest
    exact Queue.drive_settles service latest state
  · intro q filter state
    exact Queue.drive_settles service rfl state
  · intro h q
    have inv : Corrections q h.journal :=
      History.run_keeps corrections_invariant service _ events
        ⟨nofun, nofun, List.nodup_nil, fun some => (some rfl).elim⟩
    refine ⟨?_, ?_, inv.once, ?_⟩
    · intro ticket asked latest none
      exact inv.waits (List.ne_nil_of_mem asked) (latest ▸ none)
    · intro ticket corrected answer
      exact Queue.applyLoad_stale answer (Nat.ne_of_lt (inv.superseded ticket corrected))
    · exact (inv.once.subperm inv.begun).length_le

end Session
end ReviewDesk
