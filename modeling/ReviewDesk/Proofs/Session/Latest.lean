import ReviewDesk.Proofs.Session.Operation

/-!
Of the requests of each kind only the one with the highest number decides what a session shows. An
answer to an earlier one changes nothing, so what such answers carry does not matter. Corrections
and reloads are requests like any other.
-/

namespace ReviewDesk

variable {σ : Type}

namespace Session

/-- No ticket for a load has a higher number. -/
def Journal.Latest (j : Journal) (ticket : LoadTicket) : Prop :=
  ticket ∈ j.loads ∧ ∀ other ∈ j.loads, other.seq ≤ ticket.seq

@[simp] theorem Journal.loads_append (j k : Journal) : loads (j ++ k) = j.loads ++ k.loads :=
  List.filterMap_append

@[simp] theorem Journal.selects_append (j k : Journal) :
    selects (j ++ k) = j.selects ++ k.selects :=
  List.filterMap_append

@[simp] theorem Journal.submits_append (j k : Journal) :
    submits (j ++ k) = j.submits ++ k.submits :=
  List.filterMap_append

/-- The ticket with the number of the queue asked for what the queue asks for, and what the queue
shows is an answer to it. -/
structure PageOfLatest (q : Queue) (j : Journal) : Prop where
  numbered : ∀ ticket ∈ j.loads, ticket.seq ≤ q.issued
  filtered : ∀ ticket ∈ j.loads, ticket.seq = q.issued → ticket.filter = q.filter
  ready : q.status = .ready → ∃ ticket ∈ j.loads, ticket.seq = q.issued ∧
    ∃ page, .pageCame ticket (.ok page) .accepted ∈ j ∧ q.items = ticket.kept page ∧
      q.total = page.total
  failed : ∀ fault, q.status = .failed fault → q.items = [] ∧ q.total = 0 ∧
    ∃ ticket ∈ j.loads, ticket.seq = q.issued ∧
      .pageCame ticket (.error fault) (.failed fault) ∈ j

namespace PageOfLatest

variable {q : Queue} {j : Journal} {entries : List Entry}

/-- A ticket with the number of the queue is the latest. -/
theorem latest (inv : PageOfLatest q j) {ticket : LoadTicket} (issued : ticket ∈ j.loads)
    (h : ticket.seq = q.issued) : j.Latest ticket :=
  ⟨issued, fun other member => h ▸ inv.numbered other member⟩

theorem superseded (inv : PageOfLatest q j) {ticket : LoadTicket} (issued : ticket ∈ j.loads)
    (h : ¬j.Latest ticket) : ticket.seq ≠ q.issued :=
  fun same => h (inv.latest issued same)

/-- Entries that issue no load leave what is known of the queue. -/
theorem recorded (inv : PageOfLatest q j) (same : Journal.loads (entries ++ j) = j.loads) :
    PageOfLatest q (entries ++ j) where
  numbered := by rw [same]; exact inv.numbered
  filtered := by rw [same]; exact inv.filtered
  ready h := by
    obtain ⟨ticket, issued, number, page, came, shown⟩ := inv.ready h
    rw [same]
    exact ⟨ticket, issued, number, page, List.mem_append_right entries came, shown⟩
  failed fault h := by
    obtain ⟨items, total, ticket, issued, number, came⟩ := inv.failed fault h
    rw [same]
    exact ⟨items, total, ticket, issued, number, List.mem_append_right entries came⟩

/-- A new ticket has the highest number, and the queue waits for its answer. -/
theorem issued (inv : PageOfLatest q j) (filter : Filter) (corrective : Bool)
    (next : Journal.loads (entries ++ j) = (q.issue filter corrective).2 :: j.loads) :
    PageOfLatest (q.issue filter corrective).1 (entries ++ j) where
  numbered := by
    rw [next]
    intro ticket member
    rcases List.mem_cons.mp member with rfl | earlier
    · exact Nat.le_refl _
    · exact Nat.le_succ_of_le (inv.numbered ticket earlier)
  filtered := by
    rw [next]
    intro ticket member number
    rcases List.mem_cons.mp member with rfl | earlier
    · rfl
    · have bound := inv.numbered ticket earlier
      change ticket.seq = q.issued + 1 at number
      omega
  ready := nofun
  failed := nofun

end PageOfLatest

theorem pageOfLatest_invariant :
    History.Invariant fun s j => PageOfLatest s.queue j := by
  intro s j entries s' step backed inv
  cases step with
  | load filter => exact inv.issued filter false rfl
  | pagePast ticket page next latest past corrected =>
      refine inv.issued _ true ?_
      rw [corrected]
      rfl
  | savedElsewhere | savedShown | savedAwaited => exact inv.issued s.queue.filter false rfl
  | pageFailed ticket fault latest =>
      have issued : ticket ∈ j.loads := backed _ List.mem_cons_self
      exact ⟨inv.numbered, inv.filtered, nofun, fun fault' same => by
        cases same
        exact ⟨rfl, rfl, ticket, issued, latest, List.mem_cons_self⟩⟩
  | pageAccepted ticket page latest =>
      have issued : ticket ∈ j.loads := backed _ List.mem_cons_self
      exact ⟨inv.numbered, inv.filtered,
        fun _ => ⟨ticket, issued, latest, page, List.mem_cons_self, rfl, rfl⟩, nofun⟩
  | select | pageStale | detailStale | detailVanished | detailFailed | detailApplied |
    submitRefused | submitSent | saveFailed | edit => exact inv.recorded rfl

theorem select_numbers_invariant :
    History.Invariant fun s j => ∀ ticket ∈ j.selects, ticket.seq ≤ s.selection.issued := by
  intro s j entries s' step _ inv
  cases step with
  | select id =>
      intro ticket member
      rcases List.mem_cons.mp member with rfl | earlier
      · exact Nat.le_refl _
      · exact Nat.le_succ_of_le (inv ticket earlier)
  | savedAwaited => exact fun ticket member => Nat.le_succ_of_le (inv ticket member)
  | pageAccepted =>
      intro ticket member
      rw [Selection.reconcile_issued]
      exact inv ticket member
  | load | pagePast | pageFailed | pageStale | detailStale | detailVanished | detailFailed |
    detailApplied | submitRefused | submitSent | saveFailed | savedElsewhere | savedShown |
    edit => exact inv

namespace History

/-- Two histories with the same session and the same tickets on record. -/
structure Alike (h h' : History) : Prop where
  session : h.session = h'.session
  loads : h.journal.loads = h'.journal.loads
  selects : h.journal.selects = h'.journal.selects
  submits : h.journal.submits = h'.journal.submits

namespace Alike

variable {h h' h'' : History}

theorem refl (h : History) : h.Alike h := ⟨rfl, rfl, rfl, rfl⟩

theorem symm (alike : h.Alike h') : h'.Alike h :=
  ⟨alike.session.symm, alike.loads.symm, alike.selects.symm, alike.submits.symm⟩

theorem trans (first : h.Alike h') (second : h'.Alike h'') : h.Alike h'' :=
  ⟨first.session.trans second.session, first.loads.trans second.loads,
    first.selects.trans second.selects, first.submits.trans second.submits⟩

theorem admits_iff (alike : h.Alike h') (a : Action) : h.Admits a ↔ h'.Admits a := by
  cases a with
  | page ticket _ => simp only [Admits, alike.loads]
  | detail ticket _ => simp only [Admits, alike.selects]
  | saved ticket _ => simp only [Admits, alike.submits]
  | load | select | submit | edit => exact Iff.rfl

theorem act (alike : h.Alike h') (a : Action) : (h.act a).Alike (h'.act a) := by
  by_cases admitted : h.Admits a
  · rw [act_of_admits admitted, act_of_admits ((alike.admits_iff a).mp admitted), alike.session]
    refine ⟨rfl, ?_, ?_, ?_⟩
    · simp only [Journal.loads_append, alike.loads]
    · simp only [Journal.selects_append, alike.selects]
    · simp only [Journal.submits_append, alike.submits]
  · rw [History.act, if_neg admitted, History.act, if_neg (mt (alike.admits_iff a).mpr admitted)]
    exact alike

theorem acts (alike : h.Alike h') (actions : List Action) :
    (h.acts actions).Alike (h'.acts actions) := by
  induction actions generalizing h h' with
  | nil => exact alike
  | cons a rest ih => exact ih (alike.act a)

theorem perform (service : Service σ) (alike : h.Alike h') (e : Event σ) :
    (h.perform service e).Alike (h'.perform service e) := by
  rw [perform_eq_acts, perform_eq_acts, alike.session]
  exact alike.acts _

end Alike

/-- An answer to a superseded load is put on record, and that is all. -/
theorem alike_stale_page (service : Service σ) (h : History) (ticket : LoadTicket)
    (answer : Except TransportFault Page) (superseded : ticket.seq ≠ h.session.queue.issued) :
    (h.perform service (.action (.page ticket answer))).Alike h := by
  rw [perform_eq_acts]
  change (h.act (.page ticket answer)).Alike h
  by_cases admitted : h.Admits (.page ticket answer)
  · rw [act_of_admits admitted, Session.act, entries,
      h.session.onQueueResult_stale ticket answer superseded]
    exact ⟨rfl, rfl, rfl, rfl⟩
  · rw [act, if_neg admitted]
    exact .refl h

theorem alike_stale_detail (service : Service σ) (h : History) (ticket : SelectTicket)
    (answer : Except TransportFault Item) (superseded : ticket.seq ≠ h.session.selection.issued) :
    (h.perform service (.action (.detail ticket answer))).Alike h := by
  rw [perform_eq_acts]
  change (h.act (.detail ticket answer)).Alike h
  by_cases admitted : h.Admits (.detail ticket answer)
  · rw [act_of_admits admitted, Session.act, entries,
      h.session.onDetailResult_stale ticket answer superseded]
    exact ⟨rfl, rfl, rfl, rfl⟩
  · rw [act, if_neg admitted]
    exact .refl h

/-- Two runs that differ only in what superseded answers carry. -/
inductive DifferInStale (service : Service σ) : History → List (Event σ) → List (Event σ) → Prop
  | nil (h : History) : DifferInStale service h [] []
  | same {h : History} {rest rest' : List (Event σ)} (e : Event σ)
      (later : DifferInStale service (h.perform service e) rest rest') :
      DifferInStale service h (e :: rest) (e :: rest')
  | page {h : History} {rest rest' : List (Event σ)} (ticket : LoadTicket)
      (answer answer' : Except TransportFault Page)
      (superseded : ticket.seq ≠ h.session.queue.issued)
      (later : DifferInStale service (h.perform service (.action (.page ticket answer)))
        rest rest') :
      DifferInStale service h (.action (.page ticket answer) :: rest)
        (.action (.page ticket answer') :: rest')
  | detail {h : History} {rest rest' : List (Event σ)} (ticket : SelectTicket)
      (answer answer' : Except TransportFault Item)
      (superseded : ticket.seq ≠ h.session.selection.issued)
      (later : DifferInStale service (h.perform service (.action (.detail ticket answer)))
        rest rest') :
      DifferInStale service h (.action (.detail ticket answer) :: rest)
        (.action (.detail ticket answer') :: rest')

theorem DifferInStale.alike {service : Service σ} {h h' : History} {events events' : List (Event σ)}
    (differ : DifferInStale service h events events') (alike : h.Alike h') :
    (h.run service events).Alike (h'.run service events') := by
  induction differ generalizing h' with
  | nil => exact alike
  | same e _ ih => exact ih (alike.perform service e)
  | @page h _ _ ticket answer answer' superseded _ ih =>
      have superseded' : ticket.seq ≠ h'.session.queue.issued := alike.session ▸ superseded
      have before := alike_stale_page service h ticket answer superseded
      have after := alike_stale_page service h' ticket answer' superseded'
      exact ih ((before.trans alike).trans after.symm)
  | @detail h _ _ ticket answer answer' superseded _ ih =>
      have superseded' : ticket.seq ≠ h'.session.selection.issued := alike.session ▸ superseded
      have before := alike_stale_detail service h ticket answer superseded
      have after := alike_stale_detail service h' ticket answer' superseded'
      exact ih ((before.trans alike).trans after.symm)

end History

/-- Over every run: an answer to a request that is not the latest of its kind is outdated and
changes nothing, so what such answers carry does not matter; and what is shown of the queue comes
from an answer to the latest load. -/
theorem latest_request_decides (service : Service σ) (filter : Filter) (labels : List String)
    (user : Option String) (events : List (Event σ)) :
    let start := History.start filter labels user
    let h := start.run service events
    let s := h.session
    (∀ ticket ∈ h.journal.loads, ¬h.journal.Latest ticket →
      ∀ answer, s.onQueueResult ticket answer = (s, .stale)) ∧
    (∀ ticket ∈ h.journal.selects, ticket.seq ≤ s.selection.issued ∧
      (ticket.seq < s.selection.issued →
        ∀ answer, s.onDetailResult ticket answer = (s, .stale))) ∧
    (∀ events', start.DifferInStale service events events' →
      (start.run service events').session = s) ∧
    (s.queue.status = .ready → ∃ ticket page, h.journal.Latest ticket ∧
      .pageCame ticket (.ok page) .accepted ∈ h.journal ∧
      s.queue.filter = ticket.filter ∧
      s.queue.items = page.items.take (min page.items.length s.queue.filter.limit.toNat) ∧
      s.queue.total = page.total ∧
      s.queue.items.length ≤ s.queue.filter.limit.toNat) ∧
    (∀ fault, s.queue.status = .failed fault → s.queue.items = [] ∧ s.queue.total = 0 ∧
      ∃ ticket, h.journal.Latest ticket ∧
        .pageCame ticket (.error fault) (.failed fault) ∈ h.journal) := by
  intro start h s
  have inv : PageOfLatest s.queue h.journal :=
    History.run_keeps pageOfLatest_invariant service start events ⟨nofun, nofun, nofun, nofun⟩
  have numbered : ∀ ticket ∈ h.journal.selects, ticket.seq ≤ s.selection.issued :=
    History.run_keeps select_numbers_invariant service start events nofun
  refine ⟨?_, ?_, ?_, ?_, ?_⟩
  · intro ticket issued other answer
    exact s.onQueueResult_stale ticket answer (inv.superseded issued other)
  · intro ticket issued
    refine ⟨numbered ticket issued, fun earlier answer => ?_⟩
    exact s.onDetailResult_stale ticket answer (Nat.ne_of_lt earlier)
  · intro events' differ
    exact (differ.alike (.refl start)).session.symm
  · intro status
    obtain ⟨ticket, issued, number, page, came, items, total⟩ := inv.ready status
    have filtered := inv.filtered ticket issued number
    refine ⟨ticket, page, inv.latest issued number, came, filtered.symm, ?_, total, ?_⟩
    · rw [items, ← filtered, LoadTicket.kept, List.take_eq_take_iff]
      omega
    · rw [items, ← filtered]
      exact List.length_take_le _ _
  · intro fault status
    obtain ⟨items, total, ticket, issued, number, came⟩ := inv.failed fault status
    exact ⟨items, total, ticket, inv.latest issued number, came⟩

end Session
end ReviewDesk
