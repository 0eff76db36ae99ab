import ReviewDesk.Proofs.Paging
import ReviewDesk.Proofs.Session.Operation

/-!
The open item is one of the page accepted last, whatever is asked and in whatever order the answers
come. A failed load empties the page but not what counts as visible, so the items shown are either
none or those of that page.
-/

namespace ReviewDesk

variable {σ : Type}

namespace Selection

/-- What a page leaves of an open item: it stays as it is when it is on the page, and is closed
otherwise. -/
structure KeptBy (before : Selection) (items : List Item) (after : Selection) : Prop where
  stays : (∃ item ∈ items, before.current = some item.id) →
    after.current = before.current ∧ after.detail = before.detail
  closes : (¬∃ item ∈ items, before.current = some item.id) →
    after.current = none ∧ after.detail = none

theorem keptBy_reconcile {s : Selection} (items : List Item)
    (closed : s.current = none → s.detail = none) : s.KeptBy items (s.reconcile items) := by
  rcases s.reconcile_cases items with ⟨seen, same⟩ | ⟨id, shown, gone, cleared⟩
  · rw [same]
    refine ⟨fun _ => ⟨rfl, rfl⟩, fun absent => ?_⟩
    cases shown : s.current with
    | none => exact ⟨rfl, closed shown⟩
    | some id =>
        obtain ⟨item, member, rfl⟩ := List.mem_map.mp (seen id shown)
        exact (absent ⟨item, member, shown⟩).elim
  · rw [cleared]
    refine ⟨?_, fun _ => ⟨rfl, rfl⟩⟩
    rintro ⟨item, member, open'⟩
    rw [shown] at open'
    cases open'
    exact (gone (List.mem_map_of_mem member)).elim

end Selection

namespace Session

namespace Journal

/-- The items of the page accepted last, as they were kept. -/
def kept : Journal → List Item
  | [] => []
  | .pageCame ticket (.ok page) .accepted :: _ => ticket.kept page
  | _ :: earlier => kept earlier

/-- Every item that was fetched is the one that was asked for. -/
def Truthful (j : Journal) : Prop :=
  ∀ ticket item outcome, .detailCame ticket (.ok item) outcome ∈ j → item.id = ticket.id

theorem Truthful.earlier {entries : List Entry} {j : Journal} (h : Truthful (entries ++ j)) :
    j.Truthful := fun ticket item outcome member =>
  h ticket item outcome (List.mem_append_right entries member)

end Journal

/-- Where the open item stands among what was put on record. -/
structure OpenItem (s : Session) (j : Journal) : Prop where
  visible_kept : s.selection.visible = j.kept.map Item.id
  current_visible : ∀ id, s.selection.current = some id → id ∈ s.selection.visible
  current_detail : s.selection.current.isSome = s.selection.detail.isSome
  detail_current : j.Truthful → s.selection.detail.map Item.id = s.selection.current
  items_kept : s.queue.items = [] ∨ s.queue.items = j.kept

namespace OpenItem

variable {s s' : Session} {j : Journal} {entries : List Entry}

theorem closed (inv : OpenItem s j) (h : s.selection.current = none) :
    s.selection.detail = none := by
  have same := inv.current_detail
  rw [h] at same
  exact Option.isNone_iff_eq_none.mp (by simpa using same.symm)

/-- Nothing is lost when neither the items nor the open item nor what is visible changes. -/
theorem unmoved (inv : OpenItem s j) (kept : Journal.kept (entries ++ j) = j.kept)
    (visible : s'.selection.visible = s.selection.visible)
    (current : s'.selection.current = s.selection.current)
    (detail : s'.selection.detail = s.selection.detail)
    (items : s'.queue.items = [] ∨ s'.queue.items = s.queue.items) :
    OpenItem s' (entries ++ j) where
  visible_kept := by rw [visible, kept, inv.visible_kept]
  current_visible := by rw [visible, current]; exact inv.current_visible
  current_detail := by rw [current, detail, inv.current_detail]
  detail_current truthful := by rw [current, detail, inv.detail_current truthful.earlier]
  items_kept := by
    rw [kept]
    rcases items with none | same
    · exact .inl none
    · rw [same]
      exact inv.items_kept

/-- A saved item that takes the place of the open one has its id. -/
theorem echoed (inv : OpenItem s j) (item : Item) (kept : Journal.kept (entries ++ j) = j.kept)
    (shown : s.selection.current = some item.id)
    (visible : s'.selection.visible = s.selection.visible)
    (current : s'.selection.current = s.selection.current)
    (detail : s'.selection.detail = some item) (items : s'.queue.items = s.queue.items) :
    OpenItem s' (entries ++ j) where
  visible_kept := by rw [visible, kept, inv.visible_kept]
  current_visible := by rw [visible, current]; exact inv.current_visible
  current_detail := by rw [current, detail, shown]; rfl
  detail_current _ := by rw [current, detail, shown]; rfl
  items_kept := by rw [kept, items]; exact inv.items_kept

theorem accepted (inv : OpenItem s j) (ticket : LoadTicket) (page : Page) :
    OpenItem
      { s with
        queue := { s.queue with
          items := ticket.kept page, total := page.total, status := .ready }
        selection := s.selection.reconcile (ticket.kept page) }
      ([.pageCame ticket (.ok page) .accepted] ++ j) := by
  rcases s.selection.reconcile_cases (ticket.kept page) with ⟨seen, same⟩ | ⟨id, _, _, cleared⟩
  · rw [same]
    exact ⟨rfl, seen, inv.current_detail, fun truthful => inv.detail_current truthful.earlier,
      .inr rfl⟩
  · rw [cleared]
    exact ⟨rfl, nofun, rfl, fun _ => rfl, .inr rfl⟩

theorem applied (inv : OpenItem s j) (ticket : SelectTicket) (item : Item)
    (seen : ticket.id ∈ s.selection.visible) :
    OpenItem
      { s with
        selection := { s.selection with
          pending := none, current := some ticket.id, detail := some item, fault := none }
        form := s.form.prefill item }
      ([.detailCame ticket (.ok item) .applied] ++ j) where
  visible_kept := inv.visible_kept
  current_visible := by
    rintro _ ⟨⟩
    exact seen
  current_detail := rfl
  detail_current truthful := congrArg some (truthful ticket item .applied List.mem_cons_self)
  items_kept := inv.items_kept

end OpenItem

theorem openItem_invariant : History.Invariant OpenItem := by
  intro s j entries s' step _ inv
  cases step with
  | load | select | detailStale | detailVanished | detailFailed | pagePast |
    submitRefused | submitSent | saveFailed | savedElsewhere | edit =>
      exact inv.unmoved rfl rfl rfl rfl (.inr rfl)
  | pageStale ticket answer => exact inv.unmoved (by cases answer <;> rfl) rfl rfl rfl (.inr rfl)
  -- The items are emptied, but what is visible stays that of the page accepted last.
  | pageFailed => exact inv.unmoved rfl rfl rfl rfl (.inl rfl)
  | pageAccepted ticket page => exact inv.accepted ticket page
  | detailApplied ticket item _ seen => exact inv.applied ticket item seen
  | savedShown ticket item shown => exact inv.echoed item rfl shown rfl rfl rfl rfl
  | savedAwaited ticket item shown => exact inv.echoed item rfl shown rfl rfl rfl rfl

theorem openItem_start (filter : Filter) (labels : List String) (user : Option String) :
    OpenItem (.start filter labels user) [] :=
  ⟨rfl, nofun, rfl, fun _ => rfl, .inl rfl⟩

/-- An accepted answer carries a page, whose items are kept and decide on the open item. -/
theorem onQueueResult_accepted {s s' : Session} {ticket : LoadTicket}
    {answer : Except TransportFault Page}
    (h : s.onQueueResult ticket answer = (s', .accepted)) :
    ∃ page, answer = .ok page ∧ s'.queue.items = ticket.kept page ∧
      s'.selection = s.selection.reconcile (ticket.kept page) := by
  have step := s.step_page ticket answer
  simp only [entries, act, h, LoadOutcome.next?] at step
  cases step with
  | pageAccepted _ page => exact ⟨page, rfl, rfl, rfl⟩

theorem onQueueResult_not_accepted {s s' : Session} {ticket : LoadTicket}
    {answer : Except TransportFault Page} {outcome : LoadOutcome}
    (h : s.onQueueResult ticket answer = (s', outcome)) (other : outcome ≠ .accepted) :
    s'.selection = s.selection := by
  simp only [onQueueResult, Prod.mk.injEq] at h
  rw [h.2, if_neg other] at h
  rw [← h.1]

theorem afterLoad_selection (s : Session) (outcome : LoadOutcome) (q : Queue) (state : σ) :
    (s.afterLoad (outcome, q, state)).2.1.selection =
      if outcome = .accepted then s.selection.reconcile q.items else s.selection := by
  simp only [afterLoad]
  split <;> rfl

/-- Rows are shown for the items of a page that has some. -/
theorem rows_of_body {s : Session} {rows : List View.Row}
    (shown : View.Body.ofSession s = .rows rows) :
    s.queue.items ≠ [] ∧ rows = s.queue.items.map (View.Row.ofItem s.selection.current) := by
  unfold View.Body.ofSession at shown
  split at shown
  case h_5 failed loading idle ready =>
      cases shown
      refine ⟨fun none => ?_, rfl⟩
      cases status : s.queue.status with
      | failed fault => exact failed fault status
      | loading => exact loading status none
      | idle => exact idle status none
      | ready => exact ready status none
  all_goals cases shown

theorem OpenItem.rows_kept {s : Session} {j : Journal} (inv : OpenItem s j) {rows : List View.Row}
    (shown : View.Body.ofSession s = .rows rows) :
    rows = j.kept.map (View.Row.ofItem s.selection.current) := by
  obtain ⟨some, rfl⟩ := rows_of_body shown
  rw [inv.items_kept.resolve_left some]

/-- Over every run: the open item is on the page accepted last, it has a detail, and the detail is
its own if the service answers with what was asked for; only an accepted page closes it, when it is
not among the items that are kept; and when rows are shown, they are those items, and the row of the
open item is the one that is marked. -/
theorem open_item_follows_pages (service : Service σ) (filter : Filter) (labels : List String)
    (user : Option String) (events : List (Event σ)) :
    let h := (History.start filter labels user).run service events
    let s := h.session
    (∀ id, s.selection.current = some id → ∃ item ∈ h.journal.kept, item.id = id) ∧
    (s.selection.current.isSome ↔ s.selection.detail.isSome) ∧
    (h.journal.Truthful → s.selection.detail.map Item.id = s.selection.current) ∧
    (∀ ticket answer,
      let (s', outcome) := s.onQueueResult ticket answer
      (outcome = .accepted → ∃ page, answer = .ok page ∧ s'.queue.items = ticket.kept page ∧
        s.selection.KeptBy (ticket.kept page) s'.selection) ∧
      (outcome ≠ .accepted → s'.selection = s.selection)) ∧
    (∀ (q : Queue) ticket state,
      let (outcome, q', state') := q.drive service ticket state
      let s' := (s.afterLoad (outcome, q', state')).2.1
      (outcome = .accepted → s.selection.KeptBy q'.items s'.selection) ∧
      (outcome ≠ .accepted → s'.selection = s.selection)) ∧
    (∀ view, s.view? = some view → view.body = .ofSession s) ∧
    (∀ rows, View.Body.ofSession s = .rows rows →
      rows.map View.Row.id = h.journal.kept.map Item.id ∧
      (∀ row ∈ rows, row.selected = true ↔ s.selection.current = some row.id) ∧
      (∀ id, s.selection.current = some id →
        ∃ row ∈ rows, row.id = id ∧ row.selected = true)) := by
  intro h s
  have inv : OpenItem s h.journal :=
    History.run_keeps openItem_invariant service _ events (openItem_start filter labels user)
  have on_page : ∀ id, s.selection.current = some id → ∃ item ∈ h.journal.kept, item.id = id := by
    intro id shown
    have seen := inv.current_visible id shown
    rw [inv.visible_kept] at seen
    exact List.mem_map.mp seen
  refine ⟨on_page, ?_, inv.detail_current, ?_, ?_, fun view => body_of_view?, ?_⟩
  · rw [inv.current_detail]
  · intro ticket answer
    generalize result : s.onQueueResult ticket answer = r
    obtain ⟨s', outcome⟩ := r
    refine ⟨?_, fun other => onQueueResult_not_accepted result other⟩
    rintro rfl
    obtain ⟨page, rfl, items, selection⟩ := onQueueResult_accepted result
    refine ⟨page, rfl, items, ?_⟩
    rw [selection]
    exact Selection.keptBy_reconcile _ inv.closed
  · intro q ticket state
    generalize q.drive service ticket state = r
    obtain ⟨outcome, q', state'⟩ := r
    refine ⟨fun accepted => ?_, fun other => ?_⟩
    · rw [afterLoad_selection, if_pos accepted]
      exact Selection.keptBy_reconcile _ inv.closed
    · rw [afterLoad_selection, if_neg other]
  · intro rows shown
    rw [inv.rows_kept shown]
    refine ⟨by simp [View.Row.ofItem], ?_, ?_⟩
    · intro row member
      obtain ⟨item, _, rfl⟩ := List.mem_map.mp member
      simp [View.Row.ofItem]
    · intro id current
      obtain ⟨item, member, rfl⟩ := on_page id current
      exact ⟨_, List.mem_map_of_mem member, rfl, by simp [View.Row.ofItem, current]⟩

/-- An item of a page of two is opened, and the page is asked for again. -/
def openedEvents : List (Event Script) :=
  [.refresh, .action (.page ⟨1, {}, false⟩ (.ok ⟨[{ id := "a" }, { id := "b" }], 2⟩)),
    .action (.select "a"), .action (.detail ⟨1, "a"⟩ (.ok { id := "a" })), .refresh]

/-- A page that has the item keeps it open, and one that has it no more closes it. -/
theorem opened_item_is_kept_or_closed :
    let h := (History.start {} [] none).run Script.service openedEvents
    let answer := fun items : List Item => h.session.onQueueResult ⟨2, {}, false⟩ (.ok ⟨items, 2⟩)
    h.session.selection.current = some "a" ∧ (∃ item ∈ h.journal.kept, item.id = "a") ∧
      (∃ s, answer [{ id := "b" }, { id := "a" }] = (s, .accepted) ∧
        s.selection.current = some "a" ∧ s.selection.detail = some { id := "a" }) ∧
      ∃ s, answer [{ id := "b" }] = (s, .accepted) ∧
        s.selection.current = none ∧ s.selection.detail = none := by
  intro h answer
  obtain ⟨onPage, -, -, answers, -⟩ :=
    open_item_follows_pages Script.service {} [] none openedEvents
  have shown : h.session.selection.current = some "a" := by decide
  have detail : h.session.selection.detail = some { id := "a" } := by decide
  refine ⟨shown, onPage "a" shown, ?kept, ?closed⟩
  case kept =>
    obtain ⟨page, same, -, kept⟩ :=
      (answers ⟨2, {}, false⟩ (.ok ⟨[{ id := "b" }, { id := "a" }], 2⟩)).1 (by decide)
    cases same
    have stays := kept.stays ⟨{ id := "a" }, by decide, shown⟩
    exact ⟨_, Prod.ext rfl (by decide), stays.1.trans shown, stays.2.trans detail⟩
  case closed =>
    obtain ⟨page, same, -, kept⟩ :=
      (answers ⟨2, {}, false⟩ (.ok ⟨[{ id := "b" }], 2⟩)).1 (by decide)
    cases same
    exact ⟨_, Prod.ext rfl (by decide), kept.closes (by decide)⟩

end Session
end ReviewDesk
