import ReviewDesk.Session.Basic

/-!
A session changes by actions, and each action leaves entries in a journal: which ticket was issued,
and which answer came with which outcome. `Step` lists every way in which an action can end; what a
session keeps over a run is proved one case at a time from it.
-/

namespace ReviewDesk

/-- The items of a page that are kept: no more than were asked for. -/
def LoadTicket.kept (ticket : LoadTicket) (page : Page) : List Item :=
  page.items.take ticket.filter.limit.toNat

/-- The ticket that an answer gives cause to issue. -/
def LoadOutcome.next? : LoadOutcome → Option LoadTicket
  | .reissue next => some next
  | _ => none

namespace Selection

/-- A page closes the open item when it is not on it, and otherwise changes only what is visible. -/
theorem reconcile_cases (s : Selection) (items : List Item) :
    ((∀ id, s.current = some id → id ∈ items.map Item.id) ∧
      s.reconcile items = { s with visible := items.map Item.id }) ∨
    (∃ id, s.current = some id ∧ id ∉ items.map Item.id ∧
      s.reconcile items =
        { s with
          visible := items.map Item.id, current := none, detail := none, fault := none }) := by
  cases shown : s.current with
  | none => exact .inl ⟨by simp, by simp [reconcile, shown]⟩
  | some id =>
      by_cases member : id ∈ items.map Item.id
      · refine .inl ⟨?_, ?_⟩
        · rintro _ ⟨⟩
          exact member
        · simp only [reconcile, shown, if_pos member]
      · refine .inr ⟨id, rfl, member, ?_⟩
        simp only [reconcile, shown, if_neg member, clear]

theorem reconcile_visible (s : Selection) (items : List Item) :
    (s.reconcile items).visible = items.map Item.id := by
  rcases s.reconcile_cases items with ⟨_, same⟩ | ⟨_, _, _, cleared⟩
  · rw [same]
  · rw [cleared]

theorem reconcile_issued (s : Selection) (items : List Item) :
    (s.reconcile items).issued = s.issued := by
  rcases s.reconcile_cases items with ⟨_, same⟩ | ⟨_, _, _, cleared⟩
  · rw [same]
  · rw [cleared]

theorem reconcile_pending (s : Selection) (items : List Item) :
    (s.reconcile items).pending = s.pending := by
  rcases s.reconcile_cases items with ⟨_, same⟩ | ⟨_, _, _, cleared⟩
  · rw [same]
  · rw [cleared]

end Selection

namespace Session

/-- What can happen to a session. The form may be changed at will. -/
inductive Action where
  | load (filter : Filter)
  | page (ticket : LoadTicket) (answer : Except TransportFault Page)
  | select (id : String)
  | detail (ticket : SelectTicket) (answer : Except TransportFault Item)
  | submit
  | saved (ticket : SubmitTicket) (answer : Except TransportFault Item)
  | edit (form : LabelForm)

/-- What is put on record: tickets that were issued, and answers that came. -/
inductive Entry where
  | loadAsked (ticket : LoadTicket)
  | pageCame (ticket : LoadTicket) (answer : Except TransportFault Page) (outcome : LoadOutcome)
  | selectAsked (ticket : SelectTicket)
  | detailCame (ticket : SelectTicket) (answer : Except TransportFault Item)
      (outcome : SelectOutcome)
  | submitAsked (ticket : SubmitTicket)
  | savedCame (ticket : SubmitTicket) (answer : Except TransportFault Item)

def act (s : Session) : Action → Session
  | .load filter => (s.beginLoad filter).1
  | .page ticket answer => (s.onQueueResult ticket answer).1
  | .select id => (s.beginSelect id).1
  | .detail ticket answer => (s.onDetailResult ticket answer).1
  | .submit => s.beginSubmit.1
  | .saved _ answer => (s.onSubmitResult answer).1
  | .edit form => { s with form := form }

/-- The entries of an action, the newest first. -/
def entries (s : Session) : Action → List Entry
  | .load filter => [.loadAsked (s.beginLoad filter).2]
  | .page ticket answer =>
    let outcome := (s.onQueueResult ticket answer).2
    (outcome.next?.map .loadAsked).toList ++ [.pageCame ticket answer outcome]
  | .select id => [.selectAsked (s.beginSelect id).2]
  | .detail ticket answer => [.detailCame ticket answer (s.onDetailResult ticket answer).2]
  | .submit => (s.beginSubmit.2.toOption.map .submitAsked).toList
  | .saved ticket answer =>
    ((s.onSubmitResult answer).2.map .loadAsked).toList ++ [.savedCame ticket answer]
  | .edit _ => []

/-- The ways in which an action can end: the entries it leaves, and the session after it. -/
inductive Step (s : Session) : List Entry → Session → Prop where
  | load (filter : Filter) :
      Step s [.loadAsked (s.queue.issue filter false).2]
        { s with queue := (s.queue.issue filter false).1 }
  | pageStale (ticket : LoadTicket) (answer : Except TransportFault Page)
      (superseded : ticket.seq ≠ s.queue.issued) :
      Step s [.pageCame ticket answer .stale] s
  | pageFailed (ticket : LoadTicket) (fault : TransportFault)
      (latest : ticket.seq = s.queue.issued) :
      Step s [.pageCame ticket (.error fault) (.failed fault)]
        { s with queue := { s.queue with items := [], total := 0, status := .failed fault } }
  | pagePast (ticket : LoadTicket) (page : Page) (next : LoadTicket)
      (latest : ticket.seq = s.queue.issued) (past : Queue.overshoots ticket page = true)
      (corrected : next = (s.queue.issue (Queue.lastPage ticket.filter page.total) true).2) :
      Step s [.loadAsked next, .pageCame ticket (.ok page) (.reissue next)]
        { s with queue := (s.queue.issue (Queue.lastPage ticket.filter page.total) true).1 }
  | pageAccepted (ticket : LoadTicket) (page : Page)
      (latest : ticket.seq = s.queue.issued) (past : Queue.overshoots ticket page = false) :
      Step s [.pageCame ticket (.ok page) .accepted]
        { s with
          queue := { s.queue with
            items := ticket.kept page, total := page.total, status := .ready }
          selection := s.selection.reconcile (ticket.kept page) }
  | select (id : String) :
      Step s [.selectAsked (s.selection.beginSelect id).2]
        { s with selection := (s.selection.beginSelect id).1 }
  | detailStale (ticket : SelectTicket) (answer : Except TransportFault Item)
      (superseded : ticket.seq ≠ s.selection.issued) :
      Step s [.detailCame ticket answer .stale] s
  | detailVanished (ticket : SelectTicket) (answer : Except TransportFault Item)
      (latest : ticket.seq = s.selection.issued) (gone : ticket.id ∉ s.selection.visible) :
      Step s [.detailCame ticket answer .vanished]
        { s with selection := { s.selection with pending := none } }
  | detailFailed (ticket : SelectTicket) (fault : TransportFault)
      (latest : ticket.seq = s.selection.issued) (seen : ticket.id ∈ s.selection.visible) :
      Step s [.detailCame ticket (.error fault) (.failed fault)]
        { s with selection := { s.selection with pending := none, fault := some fault } }
  | detailApplied (ticket : SelectTicket) (item : Item)
      (latest : ticket.seq = s.selection.issued) (seen : ticket.id ∈ s.selection.visible) :
      Step s [.detailCame ticket (.ok item) .applied]
        { s with
          selection := { s.selection with
            pending := none, current := some ticket.id, detail := some item, fault := none }
          form := s.form.prefill item }
  | submitRefused (fault : FormFault)
      (invalid : s.form.validate s.selection.current = .error fault) :
      Step s [] { s with form := { s.form with status := .invalid fault } }
  | submitSent (submission : Submission)
      (valid : s.form.validate s.selection.current = .ok submission) :
      Step s [.submitAsked ⟨s.selection.current.getD "", submission⟩]
        { s with form := { s.form with status := .submitting } }
  | saveFailed (ticket : SubmitTicket) (fault : TransportFault) :
      Step s [.savedCame ticket (.error fault)]
        { s with form := { s.form with status := .failed fault } }
  | savedElsewhere (ticket : SubmitTicket) (item : Item)
      (closed : s.selection.current ≠ some item.id) :
      Step s [.loadAsked (s.queue.issue s.queue.filter false).2, .savedCame ticket (.ok item)]
        { s with
          queue := (s.queue.issue s.queue.filter false).1
          form := { s.form with status := .saved } }
  | savedShown (ticket : SubmitTicket) (item : Item)
      (shown : s.selection.current = some item.id) (settled : s.selection.pending ≠ some item.id) :
      Step s [.loadAsked (s.queue.issue s.queue.filter false).2, .savedCame ticket (.ok item)]
        { s with
          queue := (s.queue.issue s.queue.filter false).1
          selection := { s.selection with detail := some item, fault := none }
          form := { s.form with status := .saved }.prefill item }
  | savedAwaited (ticket : SubmitTicket) (item : Item)
      (shown : s.selection.current = some item.id) (awaited : s.selection.pending = some item.id) :
      Step s [.loadAsked (s.queue.issue s.queue.filter false).2, .savedCame ticket (.ok item)]
        { s with
          queue := (s.queue.issue s.queue.filter false).1
          selection := { s.selection with
            issued := s.selection.issued + 1, pending := none, detail := some item, fault := none }
          form := { s.form with status := .saved }.prefill item }
  | edit (form : LabelForm) : Step s [] { s with form := form }

theorem onQueueResult_stale (s : Session) (ticket : LoadTicket)
    (answer : Except TransportFault Page) (superseded : ticket.seq ≠ s.queue.issued) :
    s.onQueueResult ticket answer = (s, .stale) := by
  simp [onQueueResult, Queue.applyLoad, superseded]

theorem onDetailResult_stale (s : Session) (ticket : SelectTicket)
    (answer : Except TransportFault Item) (superseded : ticket.seq ≠ s.selection.issued) :
    s.onDetailResult ticket answer = (s, .stale) := by
  simp [onDetailResult, Selection.applySelect, superseded]

theorem step_page (s : Session) (ticket : LoadTicket) (answer : Except TransportFault Page) :
    s.Step (s.entries (.page ticket answer)) (s.act (.page ticket answer)) := by
  by_cases latest : ticket.seq = s.queue.issued
  · cases answer with
    | error fault =>
        simpa [entries, act, onQueueResult, Queue.applyLoad, latest, LoadOutcome.next?] using
          Step.pageFailed ticket fault latest
    | ok page =>
        cases past : Queue.overshoots ticket page with
        | true =>
            simpa [entries, act, onQueueResult, Queue.applyLoad, latest, past,
              LoadOutcome.next?] using Step.pagePast ticket page _ latest past rfl
        | false =>
            simpa [entries, act, onQueueResult, Queue.applyLoad, latest, past, reconcile,
              LoadOutcome.next?, LoadTicket.kept] using Step.pageAccepted ticket page latest past
  · simp only [entries, act, s.onQueueResult_stale ticket answer latest]
    exact .pageStale ticket answer latest

theorem step_detail (s : Session) (ticket : SelectTicket) (answer : Except TransportFault Item) :
    s.Step (s.entries (.detail ticket answer)) (s.act (.detail ticket answer)) := by
  by_cases latest : ticket.seq = s.selection.issued
  · by_cases seen : ticket.id ∈ s.selection.visible
    · cases answer with
      | error fault =>
          simpa [entries, act, onDetailResult, Selection.applySelect, latest, seen] using
            Step.detailFailed ticket fault latest seen
      | ok item =>
          simpa [entries, act, onDetailResult, Selection.applySelect, latest, seen, prefill] using
            Step.detailApplied ticket item latest seen
    · simpa [entries, act, onDetailResult, Selection.applySelect, latest, seen] using
        Step.detailVanished ticket answer latest seen
  · simp only [entries, act, s.onDetailResult_stale ticket answer latest]
    exact .detailStale ticket answer latest

theorem step_submit (s : Session) : s.Step (s.entries .submit) (s.act .submit) := by
  cases read : s.form.validate s.selection.current with
  | error fault =>
      simpa [entries, act, beginSubmit, LabelForm.beginSubmit, read, Except.toOption] using
        Step.submitRefused fault read
  | ok submission =>
      simpa [entries, act, beginSubmit, LabelForm.beginSubmit, read, Except.toOption] using
        Step.submitSent submission read

theorem step_saved (s : Session) (ticket : SubmitTicket) (answer : Except TransportFault Item) :
    s.Step (s.entries (.saved ticket answer)) (s.act (.saved ticket answer)) := by
  cases answer with
  | error fault => exact .saveFailed ticket fault
  | ok item =>
      by_cases shown : s.selection.current = some item.id
      · by_cases awaited : s.selection.pending = some item.id
        · simpa [entries, act, onSubmitResult, Selection.applySubmitted, shown, awaited, refresh,
            beginLoad, Queue.beginLoad, prefill, LabelForm.applySubmit] using
            Step.savedAwaited ticket item shown awaited
        · simpa [entries, act, onSubmitResult, Selection.applySubmitted, shown, awaited, refresh,
            beginLoad, Queue.beginLoad, prefill, LabelForm.applySubmit] using
            Step.savedShown ticket item shown awaited
      · simpa [entries, act, onSubmitResult, Selection.applySubmitted, shown, refresh,
          beginLoad, Queue.beginLoad, LabelForm.applySubmit] using
          Step.savedElsewhere ticket item shown

theorem step_act (s : Session) (a : Action) : s.Step (s.entries a) (s.act a) := by
  cases a with
  | load filter => exact .load filter
  | page ticket answer => exact s.step_page ticket answer
  | select id => exact .select id
  | detail ticket answer => exact s.step_detail ticket answer
  | submit => exact s.step_submit
  | saved ticket answer => exact s.step_saved ticket answer
  | edit form => exact .edit form

/-- What holds of every ticket issued, and of the answer if the action is one, holds of every
entry. -/
theorem forall_mem_entries {P : Entry → Prop} (s : Session) (a : Action)
    (load : ∀ ticket, P (.loadAsked ticket)) (select : ∀ ticket, P (.selectAsked ticket))
    (submit : ∀ ticket, P (.submitAsked ticket))
    (page : ∀ ticket answer outcome, a = .page ticket answer → P (.pageCame ticket answer outcome))
    (detail : ∀ ticket answer outcome, a = .detail ticket answer →
      P (.detailCame ticket answer outcome))
    (saved : ∀ ticket answer, a = .saved ticket answer → P (.savedCame ticket answer)) :
    ∀ entry ∈ s.entries a, P entry := by
  intro entry member
  cases a with
  | edit form => cases member
  | load filter =>
      rw [List.mem_singleton.mp member]
      exact load _
  | select id =>
      rw [List.mem_singleton.mp member]
      exact select _
  | submit =>
      obtain ⟨ticket, -, rfl⟩ := Option.map_eq_some_iff.mp (Option.mem_toList.mp member)
      exact submit ticket
  | detail ticket answer =>
      rw [List.mem_singleton.mp member]
      exact detail _ _ _ rfl
  | page ticket answer =>
      rcases List.mem_append.mp member with issued | came
      · obtain ⟨next, -, rfl⟩ := Option.map_eq_some_iff.mp (Option.mem_toList.mp issued)
        exact load next
      · rw [List.mem_singleton.mp came]
        exact page _ _ _ rfl
  | saved ticket answer =>
      rcases List.mem_append.mp member with issued | came
      · obtain ⟨next, -, rfl⟩ := Option.map_eq_some_iff.mp (Option.mem_toList.mp issued)
        exact load next
      · rw [List.mem_singleton.mp came]
        exact saved _ _ rfl

end Session
end ReviewDesk
