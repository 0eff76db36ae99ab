import ReviewDesk.Proofs.Session.Record

/-!
What a saved item does to the screen. While it is open it stays as it was saved until something
newer takes its place: neither the reload that it causes nor a detail of it that was asked for
before does. A saved item that is not open leaves a detail of it on its way, though, and that one is
shown when it comes, older as it is.
-/

namespace ReviewDesk

variable {σ : Type}

/-- The texts of a form that has taken over an item: the label is left to be given, and whoever was
named before stays if the item names nobody. -/
structure LabelForm.FilledFrom (item : Item) (before after : LabelForm) : Prop where
  label : after.label = ""
  confidence : after.confidence =
    match item.humanConfidence with
    | some x => Decimal.Style.plain.text x
    | none => ""
  notes : after.notes =
    match item.humanNotes with
    | some text => text
    | none => ""
  user : after.user =
    match item.humanUser with
    | some user => if user = "" then before.user else user
    | none => before.user
  count : after.count =
    match item.count with
    | some n => toString n.toInt
    | none => ""
  focus : after.focus = before.focus

theorem LabelForm.filledFrom_prefill (f : LabelForm) (status : FormStatus) (item : Item) :
    f.FilledFrom item ({ f with status := status }.prefill item) where
  label := rfl
  confidence := by
    rw [prefill]
    cases item.humanConfidence <;> rfl
  notes := by
    rw [prefill]
    cases item.humanNotes <;> rfl
  user := by
    rw [prefill]
    cases item.humanUser with
    | none => rfl
    | some user => by_cases empty : user = "" <;> simp [Option.filter, empty]
  count := by
    rw [prefill]
    cases item.count <;> rfl
  focus := rfl

namespace Session

variable {later earlier : Journal} {ticket : SubmitTicket} {item : Item}

/-- A saved item that is open is shown and taken over into the form, and the page is asked for
again. -/
theorem onSubmitResult_open {s : Session} (shown : s.selection.current = some item.id) :
    s.onSubmitResult (.ok item) =
      ({ s with
          queue := (s.queue.issue s.queue.filter false).1
          selection := (s.selection.applySubmitted item).1
          form := { s.form with status := .saved }.prefill item },
        some (s.queue.issue s.queue.filter false).2) := by
  obtain ⟨taken, -, detail, -⟩ := Selection.applySubmitted_open shown
  simp [onSubmitResult, taken, detail, prefill, refresh, beginLoad, Queue.beginLoad,
    LabelForm.applySubmit]

/-- A detail asked for before an item was saved and shown after it: its ticket had the highest
number all the while. If it is the item's own, the item was not open while it was fetched, and if it
is the first answer to its ticket, it was being fetched when the item was saved. -/
theorem older_of_applied {fetch : SelectTicket} {answer : Except TransportFault Item}
    (faithful : Journal.Faithful
      (.detailCame fetch answer .applied :: (later ++ .savedCame ticket (.ok item) :: earlier)))
    (asked : fetch ∈ earlier.selects) :
    fetch.seq = earlier.selection.issued ∧
      ¬(earlier.selection.current = some item.id ∧ earlier.selection.pending = some item.id) ∧
      (fetch ∉ earlier.answered → earlier.selection.pending = some fetch.id) := by
  have latest := (turn_of_fits faithful.1).latest_of_applied
  have after_saved := faithful.2.issued_le
  have saved := faithful.2.of_append
  have at_saved := (turn_of_fits saved.1).issued_le
  have fetches := saved.2.fetches
  have bound := fetches.numbered fetch asked
  have number : fetch.seq = earlier.selection.issued := by omega
  refine ⟨number, ?_, fun unanswered => ?_⟩
  · rintro ⟨shown, awaited⟩
    have overtaken := (Selection.applySubmitted_open shown).2.2.2 awaited
    change (earlier.selection.applySubmitted item).1.issued ≤ _ at after_saved
    omega
  · exact (fetches.pending_iff fetch.id).mpr ⟨fetch, asked, rfl, number, unanswered⟩

/-- What takes the place of an item that was saved while it was open: a detail that was asked for
since, the detail of another item that was being fetched, a page without the item, or the item saved
again. The earlier entries are those before it was saved. -/
inductive Displaces (earlier : Journal) (item : Item) : Entry → Prop where
  | newer (fetch : SelectTicket) (answer : Except TransportFault Item)
      (since : fetch ∉ earlier.selects) :
      Displaces earlier item (.detailCame fetch answer .applied)
  | other (fetch : SelectTicket) (answer : Except TransportFault Item)
      (different : fetch.id ≠ item.id) (latest : fetch.seq = earlier.selection.issued)
      (pending : earlier.selection.pending = some fetch.id) :
      Displaces earlier item (.detailCame fetch answer .applied)
  | gone (ticket : LoadTicket) (page : Page) (absent : item.id ∉ (ticket.kept page).map Item.id) :
      Displaces earlier item (.pageCame ticket (.ok page) .accepted)
  | again (ticket : SubmitTicket) (saved : Item) (same : saved.id = item.id) :
      Displaces earlier item (.savedCame ticket (.ok saved))

/-- A page leaves an open item that is on it as it is. -/
theorem reconcile_of_mem {s : Selection} {items : List Item} {id : String}
    (shown : s.current = some id) (member : id ∈ items.map Item.id) :
    (s.reconcile items).current = s.current ∧ (s.reconcile items).detail = s.detail := by
  rcases s.reconcile_cases items with ⟨_, same⟩ | ⟨other, open', gone, _⟩
  · rw [same]
    exact ⟨rfl, rfl⟩
  · rw [shown] at open'
    cases open'
    exact (gone member).elim

/-- One entry more leaves a saved item open with what was saved, unless it displaces it. -/
theorem stays_of_not_displaces {entry : Entry}
    (faithful : Journal.Faithful (entry :: (later ++ .savedCame ticket (.ok item) :: earlier)))
    (once : (Journal.answered
      (entry :: (later ++ .savedCame ticket (.ok item) :: earlier))).Nodup)
    (shown : earlier.selection.current = some item.id)
    (kept : ¬Displaces earlier item entry)
    (stays : let s := Journal.selection (later ++ .savedCame ticket (.ok item) :: earlier)
      s.current = some item.id ∧ s.detail = some item) :
    let s := Journal.selection (entry :: (later ++ .savedCame ticket (.ok item) :: earlier))
    s.current = some item.id ∧ s.detail = some item := by
  have turn := turn_of_fits faithful.1
  generalize Journal.selection
    (entry :: (later ++ .savedCame ticket (.ok item) :: earlier)) = s at turn
  cases turn with
  | asked | outdated | missed | aside => exact stays
  | opened fetch answer =>
      have asked : fetch ∈ earlier.selects := Decidable.not_not.mp fun since =>
        kept (.newer fetch _ since)
      obtain ⟨number, ahead, pending⟩ := older_of_applied faithful asked
      have unanswered : fetch ∉ earlier.answered := by
        have first := (List.nodup_cons.mp once).1
        rw [List.filterMap_append] at first
        exact fun member => first (List.mem_append_right _ member)
      -- The ticket is older than the saved item, so it was awaited then, and not for this item.
      by_cases own : fetch.id = item.id
      · exact (ahead ⟨shown, own ▸ pending unanswered⟩).elim
      · exact (kept (.other fetch _ own number (pending unanswered))).elim
  | paged load page =>
      have member : item.id ∈ (load.kept page).map Item.id :=
        Decidable.not_not.mp fun absent => kept (.gone load page absent)
      obtain ⟨current, detail⟩ := reconcile_of_mem stays.1 member
      exact ⟨current.trans stays.1, detail.trans stays.2⟩
  | echoed again saved open' | overtaken again saved open' =>
      have same : saved.id = item.id := Option.some.inj (open'.symm.trans stays.1)
      exact (kept (.again again saved same)).elim

theorem stays_until_displaced
    (faithful : Journal.Faithful (later ++ .savedCame ticket (.ok item) :: earlier))
    (once : (Journal.answered (later ++ .savedCame ticket (.ok item) :: earlier)).Nodup)
    (shown : earlier.selection.current = some item.id)
    (kept : ∀ entry ∈ later, ¬Displaces earlier item entry) :
    let s := Journal.selection (later ++ .savedCame ticket (.ok item) :: earlier)
    s.current = some item.id ∧ s.detail = some item := by
  induction later with
  | nil =>
      obtain ⟨-, current, detail, -⟩ := Selection.applySubmitted_open shown
      exact ⟨current, detail⟩
  | cons entry later ih =>
      obtain ⟨last, before⟩ := List.forall_mem_cons.mp kept
      have once' : (Journal.answered (later ++ .savedCame ticket (.ok item) :: earlier)).Nodup :=
        once.sublist ((List.sublist_cons_self entry _).filterMap Entry.answered?)
      exact stays_of_not_displaces faithful once shown last (ih faithful.2 once' before)

/-- A detail of a saved item that was asked for before it was saved and is shown after it: either it
had come before, or it was on its way while the item was not open. -/
theorem awaited_of_older {fetch : SelectTicket} {answer : Except TransportFault Item}
    (faithful : Journal.Faithful (later ++ .savedCame ticket (.ok item) :: earlier))
    (asked : fetch ∈ earlier.selects) (own : fetch.id = item.id)
    (shown : .detailCame fetch answer .applied ∈ later) :
    fetch ∈ earlier.answered ∨
      (earlier.selection.pending = some item.id ∧ earlier.selection.current ≠ some item.id) := by
  obtain ⟨newer, older, rfl⟩ := List.append_of_mem shown
  rw [List.append_assoc] at faithful
  obtain ⟨-, ahead, pending⟩ := older_of_applied faithful.of_append asked
  by_cases answered : fetch ∈ earlier.answered
  · exact .inl answered
  · have awaited : earlier.selection.pending = some item.id := own ▸ pending answered
    exact .inr ⟨awaited, fun current => ahead ⟨current, awaited⟩⟩

/-- Requests, and answers that bring nothing to show. -/
inductive Entry.Barren : Entry → Prop where
  | loadAsked (ticket : LoadTicket) : Barren (.loadAsked ticket)
  | selectAsked (ticket : SelectTicket) : Barren (.selectAsked ticket)
  | submitAsked (ticket : SubmitTicket) : Barren (.submitAsked ticket)
  | pageCame (ticket : LoadTicket) (answer : Except TransportFault Page) (outcome : LoadOutcome)
      (unaccepted : outcome ≠ .accepted) : Barren (.pageCame ticket answer outcome)
  | detailCame (ticket : SelectTicket) (answer : Except TransportFault Item)
      (outcome : SelectOutcome) (unapplied : outcome ≠ .applied) :
      Barren (.detailCame ticket answer outcome)
  | savedCame (ticket : SubmitTicket) (fault : TransportFault) :
      Barren (.savedCame ticket (.error fault))

theorem Step.open_of_barren {s s' : Session} {entries : List Entry} (step : s.Step entries s')
    (barren : ∀ entry ∈ entries, entry.Barren) :
    s'.selection.current = s.selection.current ∧ s'.selection.detail = s.selection.detail := by
  cases step with
  | load | pageStale | pageFailed | pagePast | select | detailStale | detailVanished |
    detailFailed | submitRefused | submitSent | saveFailed | savedElsewhere | edit =>
      exact ⟨rfl, rfl⟩
  | pageAccepted =>
      cases barren _ List.mem_cons_self with
      | pageCame _ _ _ unaccepted => exact (unaccepted rfl).elim
  | detailApplied =>
      cases barren _ List.mem_cons_self with
      | detailCame _ _ _ unapplied => exact (unapplied rfl).elim
  | savedShown | savedAwaited => cases barren _ (List.mem_cons_of_mem _ List.mem_cons_self)

/-- Over every run: an item that is saved while it is open is shown as it was saved, the texts of the
form are those of the item, and the page is asked for again; and if no detail comes twice, it stays so
until a detail that was asked for since or one of another item comes, or a page without it, or it is
saved again. Requests, and answers that are late, failed or corrected, change nothing. -/
theorem echo_stays_until_displaced (service : Service σ) (filter : Filter) (labels : List String)
    (user : Option String) (events : List (Event σ)) :
    let h := (History.start filter labels user).run service events
    let s := h.session
    h.journal.selection = s.selection ∧
    (∀ item s' reload, s.selection.current = some item.id →
      s.onSubmitResult (.ok item) = (s', reload) →
      s'.selection.current = some item.id ∧ s'.selection.detail = some item ∧
      s.form.FilledFrom item s'.form ∧ s'.form.status = .saved ∧
      ∃ ticket, reload = some ticket ∧ ticket.corrective = false ∧
        ticket.filter = s.queue.filter ∧ s'.queue.filter = s.queue.filter ∧
        ticket.seq = s'.queue.issued ∧ s'.queue.status = .loading) ∧
    (h.journal.answered.Nodup → ∀ (later earlier : Journal) ticket item,
      h.journal = later ++ .savedCame ticket (.ok item) :: earlier →
      earlier.selection.current = some item.id →
      (∀ entry ∈ later, ¬Displaces earlier item entry) →
        s.selection.current = some item.id ∧ s.selection.detail = some item) ∧
    (∀ a, (∀ entry ∈ s.entries a, entry.Barren) →
      (s.act a).selection.current = s.selection.current ∧
      (s.act a).selection.detail = s.selection.detail) := by
  intro h s
  obtain ⟨same, faithful⟩ : s.selection = h.journal.selection ∧ h.journal.Faithful :=
    History.run_keeps faithful_invariant service _ events ⟨rfl, trivial⟩
  refine ⟨same.symm, ?_, ?_, ?_⟩
  · intro item s' reload shown saved
    obtain ⟨-, current, detail, -⟩ := Selection.applySubmitted_open shown
    rw [s.onSubmitResult_open shown] at saved
    cases saved
    exact ⟨current, detail, s.form.filledFrom_prefill .saved item, rfl, _, rfl, rfl, rfl, rfl, rfl,
      rfl⟩
  · intro once later earlier ticket item split shown kept
    rw [split] at faithful once same
    rw [same]
    exact stays_until_displaced faithful once shown kept
  · intro a barren
    exact (s.step_act a).open_of_barren barren

/-- An item with a label, of which its reviewer was half sure. -/
def labeledItem : Item where
  id := "x"
  humanLabel := some "YES"
  humanConfidence := Decimal.Binary64.parse? "0.5"
  humanUser := some "bo"
  humanNotes := some "dim light"
  count := some 4

/-- A label is on its way to be saved. -/
def submittedEvents : List (Event Script) :=
  [.refresh, .action (.page ⟨1, {}, false⟩ (.ok ⟨[{ id := "x" }], 1⟩)),
    .action (.select "x"), .action (.detail ⟨1, "x"⟩ (.ok { id := "x" })), .chooseLabel 0,
    .action .submit]

/-- The label is saved, the form is changed, and the reload fails. -/
def failedReloadEvents : List (Event Script) :=
  submittedEvents ++
    [.action (.saved ⟨"x", { label := "YES" }⟩ (.ok labeledItem)), .action (.edit {}),
      .action (.page ⟨2, {}, false⟩ (.error (.network "down")))]

theorem echo_stays_through_failed_reload :
    let before := ((History.start {} ["YES"] none).run Script.service submittedEvents).session
    let h := (History.start {} ["YES"] none).run Script.service failedReloadEvents
    (∃ saved reload, before.onSubmitResult (.ok labeledItem) = (saved, reload) ∧
      before.form.label = "YES" ∧ before.form.status = .submitting ∧
      saved.form.label = "" ∧ saved.form.confidence = "0.5" ∧ saved.form.notes = "dim light" ∧
      saved.form.user = "bo" ∧ saved.form.count = "4" ∧ saved.form.status = .saved) ∧
    h.session.queue.status = .failed (.network "down") ∧ h.session.selection.current = some "x" ∧
      h.session.selection.detail = some labeledItem := by
  intro before h
  constructor
  · obtain ⟨-, takes, -⟩ :=
      echo_stays_until_displaced Script.service {} ["YES"] none submittedEvents
    generalize result : before.onSubmitResult (.ok labeledItem) = r
    obtain ⟨saved, reload⟩ := r
    obtain ⟨-, -, filled, status, -⟩ := takes labeledItem saved reload (by decide) result
    exact ⟨saved, reload, rfl, by decide, by decide, filled.label,
      filled.confidence.trans (by decide +kernel), filled.notes, filled.user.trans (by decide),
      filled.count.trans (by decide), status⟩
  refine ⟨by decide, ?_⟩
  refine (echo_stays_until_displaced Script.service {} ["YES"] none failedReloadEvents).2.2.1 ?once
    [.pageCame ⟨2, {}, false⟩ (.error (.network "down")) (.failed (.network "down")),
      .loadAsked ⟨2, {}, false⟩] _ ⟨"x", { label := "YES" }⟩ labeledItem rfl ?shown ?kept
  case once => decide
  case shown => decide
  case kept =>
    rintro entry member displaced
    cases displaced with
    | newer | other | gone | again => simp at member

namespace History

variable {s : Session} {j : Journal}

theorem act_load (filter : Filter) :
    (⟨s, j⟩ : History).act (.load filter) =
      ⟨{ s with queue := (s.queue.issue filter false).1 },
        .loadAsked (s.queue.issue filter false).2 :: j⟩ := rfl

theorem act_page {ticket : LoadTicket} {page : Page} (asked : ticket ∈ j.loads)
    (latest : ticket.seq = s.queue.issued) (within : Queue.overshoots ticket page = false) :
    (⟨s, j⟩ : History).act (.page ticket (.ok page)) =
      ⟨{ s with
          queue := { s.queue with
            items := ticket.kept page, total := page.total, status := .ready }
          selection := s.selection.reconcile (ticket.kept page) },
        .pageCame ticket (.ok page) .accepted :: j⟩ := by
  rw [act_of_admits (h := ⟨s, j⟩) (a := .page ticket (.ok page)) asked]
  simp [Session.act, entries, onQueueResult, Queue.applyLoad, latest, within, reconcile,
    LoadTicket.kept, LoadOutcome.next?]

theorem act_detail {ticket : SelectTicket} (item : Item) (asked : ticket ∈ j.selects)
    (latest : ticket.seq = s.selection.issued) (seen : ticket.id ∈ s.selection.visible) :
    (⟨s, j⟩ : History).act (.detail ticket (.ok item)) =
      ⟨{ s with
          selection := { s.selection with
            pending := none, current := some ticket.id, detail := some item, fault := none }
          form := s.form.prefill item },
        .detailCame ticket (.ok item) .applied :: j⟩ := by
  rw [act_of_admits (h := ⟨s, j⟩) (a := .detail ticket (.ok item)) asked]
  simp [Session.act, entries, onDetailResult, Selection.applySelect_applied item latest seen,
    prefill]

theorem act_saved_elsewhere {ticket : SubmitTicket} {item : Item} (sent : ticket ∈ j.submits)
    (closed : s.selection.current ≠ some item.id) :
    (⟨s, j⟩ : History).act (.saved ticket (.ok item)) =
      ⟨{ s with
          queue := (s.queue.issue s.queue.filter false).1
          form := { s.form with status := .saved } },
        .loadAsked (s.queue.issue s.queue.filter false).2 ::
          .savedCame ticket (.ok item) :: j⟩ := by
  rw [act_of_admits (h := ⟨s, j⟩) (a := .saved ticket (.ok item)) sent]
  simp [Session.act, entries, onSubmitResult, Selection.applySubmitted_elsewhere closed, refresh,
    beginLoad, Queue.beginLoad, LabelForm.applySubmit]

theorem shows_older {fetch : SelectTicket} {ticket : SubmitTicket} {item : Item}
    (asked : fetch ∈ j.selects) (own : fetch.id = item.id)
    (latest : fetch.seq = s.selection.issued) (sent : ticket ∈ j.submits)
    (closed : s.selection.current ≠ some item.id) (old : Item) :
    ∃ actions later,
      ((⟨s, j⟩ : History).acts actions).journal = later ++ .savedCame ticket (.ok item) :: j ∧
      Journal.answered later = [fetch] ∧ .detailCame fetch (.ok old) .applied ∈ later ∧
      ((⟨s, j⟩ : History).acts actions).session.selection.detail = some old := by
  -- The item is saved, a page that holds it is loaded, and then the detail comes.
  let load : LoadTicket := ⟨s.queue.issued + 2, {}, false⟩
  let page : Page := ⟨[item], 1⟩
  have seen : fetch.id ∈ (s.selection.reconcile [item]).visible := by
    rw [Selection.reconcile_visible, own]
    exact List.mem_cons_self
  have last : fetch.seq = (s.selection.reconcile [item]).issued := by
    rw [Selection.reconcile_issued]
    exact latest
  refine ⟨[.saved ticket (.ok item), .load {}, .page load (.ok page), .detail fetch (.ok old)],
    [.detailCame fetch (.ok old) .applied, .pageCame load (.ok page) .accepted, .loadAsked load,
      .loadAsked (s.queue.issue s.queue.filter false).2], ?_⟩
  rw [acts_cons, act_saved_elsewhere sent closed, acts_cons, act_load, acts_cons,
    act_page List.mem_cons_self rfl rfl, acts_cons, act_detail, acts_nil]
  · exact ⟨rfl, rfl, List.mem_cons_self, rfl⟩
  · exact asked
  · exact last
  · exact seen

end History

/-- Over every run: a detail of a saved item that was asked for before is shown after it only if it
had come before as well, or if the item was being fetched but not open when it was saved. Where no
detail comes twice, just that condition lets the older detail be shown. -/
theorem older_detail_shown_iff (service : Service σ) (filter : Filter) (labels : List String)
    (user : Option String) (events : List (Event σ)) :
    let h := (History.start filter labels user).run service events
    let s := h.session
    h.journal.selection = s.selection ∧
    (∀ (later earlier : Journal) ticket item,
      h.journal = later ++ .savedCame ticket (.ok item) :: earlier →
      ∀ fetch ∈ earlier.selects, fetch.id = item.id →
      ∀ answer, .detailCame fetch answer .applied ∈ later →
        fetch ∈ earlier.answered ∨
          (earlier.selection.pending = some item.id ∧
            earlier.selection.current ≠ some item.id)) ∧
    (h.journal.answered.Nodup → ∀ ticket ∈ h.journal.submits, ∀ item,
      (∃ (events' : List (Event σ)) (later : Journal),
        let h' := h.run service events'
        h'.journal = later ++ .savedCame ticket (.ok item) :: h.journal ∧
        h'.journal.answered.Nodup ∧
        ∃ fetch ∈ h.journal.selects, fetch.id = item.id ∧
          ∃ answer, .detailCame fetch answer .applied ∈ later) ↔
      s.selection.pending = some item.id ∧ s.selection.current ≠ some item.id) := by
  intro h s
  obtain ⟨same, faithful⟩ : s.selection = h.journal.selection ∧ h.journal.Faithful :=
    History.run_keeps faithful_invariant service _ events ⟨rfl, trivial⟩
  refine ⟨same.symm, ?_, fun once ticket sent item => ⟨?_, ?_⟩⟩
  · intro later earlier ticket item split fetch asked own answer shown
    exact awaited_of_older (split ▸ faithful) asked own shown
  · rintro ⟨events', later, split, once', fetch, asked, own, answer, shown⟩
    have faithful' : Journal.Faithful (h.run service events').journal :=
      (History.run_keeps faithful_invariant service h events' ⟨same, faithful⟩).2
    rw [split] at faithful' once'
    rw [same]
    refine (awaited_of_older faithful' asked own shown).resolve_left fun answered => ?_
    have came : fetch ∈ Journal.answered later := List.mem_filterMap.mpr ⟨_, shown, rfl⟩
    rw [Journal.answered_append] at once'
    exact (List.nodup_append.mp once').2.2 fetch came fetch answered rfl
  · rintro ⟨pending, closed⟩
    obtain ⟨fetch, asked, own, latest, unanswered⟩ :=
      (faithful.fetches.pending_iff item.id).mp (same ▸ pending)
    obtain ⟨actions, later, split, came, shown, -⟩ :=
      History.shows_older asked own (same ▸ latest) sent closed item
    refine ⟨actions.map .action, later, ?_⟩
    rw [History.run_actions]
    refine ⟨split, ?_, fetch, asked, own, _, shown⟩
    rw [split, Journal.answered_append, came]
    exact List.nodup_cons.mpr ⟨unanswered, once⟩

/-- The label of an item is sent off, another item is opened, and while the first is fetched anew
its label is saved. The detail that comes then does not know of the label, and is shown. -/
theorem older_detail_shown_after_save :
    let old : Item := { id := "x" }
    let saved : Item := { id := "x", humanLabel := some "YES" }
    let label : SubmitTicket := ⟨"x", { label := "YES" }⟩
    let h := (History.start {} ["YES"] none).run Script.service
      [.refresh, .action (.page ⟨1, {}, false⟩ (.ok ⟨[old, { id := "y" }], 2⟩)),
        .action (.select "x"), .action (.detail ⟨1, "x"⟩ (.ok old)),
        .chooseLabel 0, .action .submit,
        .action (.select "y"), .action (.detail ⟨2, "y"⟩ (.ok { id := "y" })),
        .action (.select "x"), .action (.saved label (.ok saved)),
        .action (.detail ⟨3, "x"⟩ (.ok old))]
    h.journal.answered.Nodup ∧ h.session.selection.detail = some old ∧
      ∃ later earlier : Journal, h.journal = later ++ .savedCame label (.ok saved) :: earlier ∧
        label.id = saved.id ∧ ⟨3, "x"⟩ ∈ earlier.selects ∧
        .detailCame ⟨3, "x"⟩ (.ok old) .applied ∈ later := by
  refine ⟨by decide, by decide, [.detailCame ⟨3, "x"⟩ (.ok { id := "x" }) .applied,
    .loadAsked ⟨2, {}, false⟩], _, rfl, rfl, ?_, List.mem_cons_self⟩
  decide

end Session
end ReviewDesk
