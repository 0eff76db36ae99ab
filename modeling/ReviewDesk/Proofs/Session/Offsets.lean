import ReviewDesk.CommandLine.Reader
import ReviewDesk.Console.Screen
import ReviewDesk.Proofs.Exact
import ReviewDesk.Proofs.Session.Numbered

/-!
Offsets, limits and totals in a session. Whatever is computed with them is exact where it is given,
and all of it is given but the number of the page at the last offset of all, with one item to a page.
A session there cannot be shown.
-/

namespace ReviewDesk

variable {σ : Type}

namespace Session

open Exact

/-- The change of the page size, if the place where the new page begins is a word. -/
def stepLimit? (s : Session) (grow : Bool) : Option (Session × Option LoadTicket) :=
  let current := s.queue.filter
  match steppedLimit current.limit grow with
  | none => some (s, none)
  | some limit => do
    let number ← div? current.offset limit
    let offset ← mul? number limit
    let (s, ticket) :=
      s.beginLoad (.normalized current.pendingOnly current.detector limit offset)
    return (s, some ticket)

variable (s : Session)

theorem paging_pageSize_toNat :
    s.queue.paging.pageSize.toNat = max s.queue.filter.limit.toNat 1 :=
  s.queue.paging.pageSize_toNat

theorem paging_page?_eq_some_iff {page : UInt64} :
    s.queue.paging.page? = some page ↔
      page.toNat = s.queue.filter.offset.toNat / max s.queue.filter.limit.toNat 1 + 1 := by
  rw [Paging.page?_eq_some_iff, s.paging_pageSize_toNat]
  rfl

theorem paging_pages_toNat :
    s.queue.paging.pages.toNat =
      max 1 ((s.queue.total.toNat + max s.queue.filter.limit.toNat 1 - 1) /
        max s.queue.filter.limit.toNat 1) := by
  rw [Paging.pages_toNat, s.paging_pageSize_toNat]
  rfl

theorem stepLimit?_eq (grow : Bool) : s.stepLimit? grow = some (s.stepLimit grow) := by
  cases stepped : steppedLimit s.queue.filter.limit grow with
  | none => simp only [stepLimit?, stepLimit, stepped]
  | some limit =>
      have pos : 0 < limit.toNat := UInt64.lt_iff_toNat_lt.mp (follows_of_steppedLimit stepped).2
      have fits : (s.queue.filter.offset / limit).toNat * limit.toNat < UInt64.size := by
        rw [UInt64.toNat_div]
        exact Nat.lt_of_le_of_lt (Nat.div_mul_le_self _ _) s.queue.filter.offset.toNat_lt
      simp only [stepLimit?, stepLimit, stepped, div?_of_pos pos, Option.bind_eq_bind,
        Option.bind_some, mul?_of_lt fits]
      rfl

theorem nextPage_isSome : s.nextPage.2.isSome = s.queue.paging.nextEnabled := by
  cases enabled : s.queue.paging.nextEnabled with
  | true | false => simp [nextPage, enabled]

theorem prevPage_isSome : s.prevPage.2.isSome = s.queue.paging.prevEnabled := by
  cases enabled : s.queue.paging.prevEnabled with
  | true | false => simp [prevPage, enabled]

/-- What a view says of the pages has no sum in it that is cut off. -/
theorem pages_of_view? {view : View} (shown : s.view? = some view) :
    view.pageLabel =
        "page " ++
          toString (s.queue.filter.offset.toNat / max s.queue.filter.limit.toNat 1 + 1) ++ "/" ++
          toString (max 1 ((s.queue.total.toNat + max s.queue.filter.limit.toNat 1 - 1) /
            max s.queue.filter.limit.toNat 1)) ∧
      view.nextEnabled = s.nextPage.2.isSome ∧ view.prevEnabled = s.prevPage.2.isSome := by
  obtain ⟨page, numbered, rfl⟩ := view?_eq_some_iff.mp shown
  rw [← s.paging_page?_eq_some_iff.mp numbered, ← s.paging_pages_toNat]
  exact ⟨rfl, s.nextPage_isSome.symm, s.prevPage_isSome.symm⟩

variable {s} {ticket next : LoadTicket}

theorem nextPage_eq_none_iff :
    s.nextPage.2 = none ↔
      s.queue.total.toNat ≤ s.queue.filter.offset.toNat + s.queue.filter.limit.toNat := by
  have enabled := s.queue.paging.nextEnabled_iff
  rw [nextPage]
  split
  · rename_i more
    exact ⟨fun none => (Option.some_ne_none _ none).elim,
      fun past => (Nat.not_lt.mpr past (enabled.mp more)).elim⟩
  · rename_i last
    exact ⟨fun _ => Nat.le_of_not_lt (mt enabled.mpr last), fun _ => rfl⟩

/-- The sum of an offset and a limit is cut off only where there is no next page. -/
theorem offset_of_nextPage (turned : s.nextPage.2 = some ticket) :
    ticket.filter.offset.toNat =
      s.queue.filter.offset.toNat + s.queue.filter.limit.toNat := by
  have bound : s.queue.total.toNat < UInt64.size := s.queue.total.toNat_lt
  rw [nextPage] at turned
  split at turned
  · rename_i more
    have within : s.queue.filter.offset.toNat + s.queue.filter.limit.toNat <
        s.queue.total.toNat := s.queue.paging.nextEnabled_iff.mp more
    have fits : s.queue.filter.offset.toNat + s.queue.filter.limit.toNat ≤ UInt64.size - 1 := by
      omega
    cases turned
    exact s.queue.paging.next_toNat.trans (Nat.min_eq_left fits)
  · cases turned

theorem prevPage_eq_none_iff : s.prevPage.2 = none ↔ s.queue.filter.offset = 0 := by
  have enabled : s.queue.paging.prevEnabled = true ↔ 0 < s.queue.filter.offset.toNat :=
    s.queue.paging.prevEnabled_iff
  rw [← UInt64.toNat_inj, prevPage]
  change _ ↔ s.queue.filter.offset.toNat = 0
  split
  · rename_i started
    exact ⟨fun none => (Option.some_ne_none _ none).elim,
      fun first => (Nat.ne_of_gt (enabled.mp started) first).elim⟩
  · rename_i first
    exact ⟨fun _ => Nat.eq_zero_of_not_pos (mt enabled.mpr first), fun _ => rfl⟩

theorem offset_of_prevPage (turned : s.prevPage.2 = some ticket) :
    ticket.filter.offset.toNat =
      s.queue.filter.offset.toNat - s.queue.filter.limit.toNat := by
  rw [prevPage] at turned
  split at turned
  · cases turned
    exact s.queue.paging.prev_toNat
  · cases turned

theorem offset_of_reissue {answer : Except TransportFault Page}
    (reissued : (s.onQueueResult ticket answer).2 = .reissue next) :
    ∃ total, answer = .ok ⟨[], total⟩ ∧
      next.filter.offset.toNat = total.toNat - ticket.filter.limit.toNat := by
  have applied : s.queue.applyLoad ticket answer =
      ((s.queue.applyLoad ticket answer).1, .reissue next) := Prod.ext rfl reissued
  obtain ⟨total, past, correction⟩ := Queue.applyLoad_reissue_iff.mp applied
  exact ⟨total, past.empty, correction.offset⟩

/-- Tickets for loads are counted. -/
theorem issued_invariant :
    History.Invariant fun s j => s.queue.issued = j.loads.length := by
  intro s j entries s' step _ counted
  cases step with
  | load | savedElsewhere | savedShown | savedAwaited => exact congrArg Nat.succ counted
  | pagePast ticket page next latest past corrected =>
      subst corrected
      exact congrArg Nat.succ counted
  | pageStale | pageFailed | pageAccepted | select | detailStale | detailVanished |
    detailFailed | detailApplied | submitRefused | submitSent | saveFailed | edit => exact counted

/-- In every session, whatever its filter and its total, the number of the page, the number of pages,
the view and the change of the page size are those of exact arithmetic, and pages are turned and
corrected by exact sums and differences. For one filter alone the number is no word, and there is
neither a number nor a view: with one item to a page, at the last offset of all. A run comes to that
filter only if the limit and the offset on the command line say so, or if it is told to load it. A
ticket's number is how many loads were asked for. -/
theorem offset_arithmetic_exact_iff (service : Service σ) (o : Options) :
    (∀ s : Session,
      let f := s.queue.filter
      let total := s.queue.total
      let size := max f.limit.toNat 1
      let number := f.offset.toNat / size + 1
      let count := max 1 ((total.toNat + size - 1) / size)
      (f.Numbered ↔ number < UInt64.size) ∧
      (f.Numbered ↔ ¬(f.limit ≤ 1 ∧ f.offset.toNat + 1 = UInt64.size)) ∧
      (∀ page, s.queue.paging.page? = some page ↔ page.toNat = number) ∧
      (s.queue.paging.page? = none ↔ ¬f.Numbered) ∧
      (s.queue.paging.pages? = some s.queue.paging.pages ∧ s.queue.paging.pages.toNat = count) ∧
      (s.view? = none ↔ ¬f.Numbered) ∧
      (∀ view, s.view? = some view →
        view.pageLabel = "page " ++ toString number ++ "/" ++ toString count ∧
        view.nextEnabled = s.nextPage.2.isSome ∧ view.prevEnabled = s.prevPage.2.isSome) ∧
      (∀ grow, s.stepLimit? grow = some (s.stepLimit grow)) ∧
      (s.nextPage.2 = none ↔ total.toNat ≤ f.offset.toNat + f.limit.toNat) ∧
      (∀ ticket, s.nextPage.2 = some ticket →
        ticket.filter.offset.toNat = f.offset.toNat + f.limit.toNat) ∧
      (s.prevPage.2 = none ↔ f.offset = 0) ∧
      (∀ ticket, s.prevPage.2 = some ticket →
        ticket.filter.offset.toNat = f.offset.toNat - f.limit.toNat) ∧
      ∀ ticket answer next, (s.onQueueResult ticket answer).2 = .reissue next →
        ∃ total, answer = .ok ⟨[], total⟩ ∧
          next.filter.offset.toNat = total.toNat - ticket.filter.limit.toNat) ∧
    let start := History.start o.filter o.labels o.user
    ((∀ events : List (Event σ), (∀ e ∈ events, e.Asks Filter.Numbered) →
        let s := (start.run service events).session
        ∃ view page, s.view? = some view ∧ s.queue.paging.page? = some page ∧ 1 ≤ page) ↔
      ¬(o.limit ≤ 1 ∧ o.offset.toNat + 1 = UInt64.size)) ∧
    ∀ events, let h := start.run service events
      h.session.queue.issued = h.journal.loads.length := by
  refine ⟨fun s => ⟨.rfl, Filter.numbered_iff, fun _ => s.paging_page?_eq_some_iff,
    page?_eq_none_iff, ⟨s.queue.paging.pages?_eq, s.paging_pages_toNat⟩,
    view?_eq_none_iff_not_numbered, fun _ => s.pages_of_view?, s.stepLimit?_eq,
    nextPage_eq_none_iff, fun _ => offset_of_nextPage, prevPage_eq_none_iff,
    fun _ => offset_of_prevPage, fun _ _ _ => offset_of_reissue⟩, ?_⟩
  intro start
  constructor
  · rw [← Filter.numbered_normalized_iff o.pendingOnly o.detector o.limit o.offset]
    constructor
    · intro shown
      obtain ⟨view, -, first, -⟩ := shown [] (List.forall_mem_nil _)
      exact exists_view_iff.mp ⟨view, first⟩
    · intro numbered events asked s
      have begun : LoadsHave Filter.Numbered start.session start.journal := ⟨numbered, nofun⟩
      have kept : s.queue.filter.Numbered :=
        (History.run_keeps_loadsHave Filter.inherited_numbered service asked begun).filter
      obtain ⟨view, shown⟩ := exists_view_iff.mpr kept
      obtain ⟨page, found, -⟩ := view?_eq_some_iff.mp shown
      refine ⟨view, page, shown, found, ?_⟩
      rw [UInt64.le_iff_toNat_le, s.paging_page?_eq_some_iff.mp found]
      exact Nat.le_add_left 1 _
  · intro events
    exact History.run_keeps issued_invariant service _ events rfl

theorem start_session_filter (filter : Filter) (labels : List String) (user : Option String)
    (target : String × DataFormat) (disk : Disk) :
    (Console.start filter labels user target disk).session.queue.filter = filter := rfl

/-- The last offset of all with one item to a page, as the command line gives it. The first screen
cannot be drawn. -/
theorem last_offset_has_no_number :
    ∃ o, Options.parse [] ["--limit", "1", "--offset", "18446744073709551615"] = .ok o ∧
      let s := start o.filter o.labels o.user
      s.queue.paging.page? = none ∧ s.view? = none ∧
      s.queue.filter.offset.toNat / max s.queue.filter.limit.toNat 1 + 1 =
        18446744073709551616 ∧
      ∀ target disk, (Console.start o.filter o.labels o.user target disk).draw? = none := by
  refine ⟨_, rfl, rfl, rfl, rfl, fun target disk => ?_⟩
  rw [Console.draw?, Option.map_eq_none_iff, view?_eq_none_iff_not_numbered, start_session_filter]
  decide

end Session
end ReviewDesk
