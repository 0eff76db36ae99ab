import ReviewDesk.Proofs.Session.Latest

/-!
The selection as the journal tells it. Every entry turns it in one of a few ways, so what was open
and what was being fetched when an entry was put on record can still be said later. Of the details
that were asked for, only the last one can be on its way to the screen.
-/

namespace ReviewDesk

namespace Selection

variable {s : Selection} {ticket : SelectTicket} {item : Item}

theorem applySelect_stale (answer : Except TransportFault Item)
    (superseded : ticket.seq ≠ s.issued) : s.applySelect ticket answer = (s, .stale) :=
  if_pos superseded

theorem applySelect_vanished (answer : Except TransportFault Item) (latest : ticket.seq = s.issued)
    (gone : ticket.id ∉ s.visible) :
    s.applySelect ticket answer = ({ s with pending := none }, .vanished) := by
  simp [applySelect, latest, gone]

theorem applySelect_failed (fault : TransportFault) (latest : ticket.seq = s.issued)
    (seen : ticket.id ∈ s.visible) :
    s.applySelect ticket (.error fault) =
      ({ s with pending := none, fault := some fault }, .failed fault) := by
  simp [applySelect, latest, seen]

theorem applySelect_applied (item : Item) (latest : ticket.seq = s.issued)
    (seen : ticket.id ∈ s.visible) :
    s.applySelect ticket (.ok item) =
      ({ s with pending := none, current := some ticket.id, detail := some item, fault := none },
        .applied) := by
  simp [applySelect, latest, seen]

theorem applySubmitted_elsewhere (closed : s.current ≠ some item.id) :
    s.applySubmitted item = (s, false) :=
  if_pos closed

theorem applySubmitted_settled (shown : s.current = some item.id)
    (settled : s.pending ≠ some item.id) :
    s.applySubmitted item = ({ s with detail := some item, fault := none }, true) := by
  simp [applySubmitted, shown, settled]

theorem applySubmitted_awaited (shown : s.current = some item.id)
    (awaited : s.pending = some item.id) :
    s.applySubmitted item =
      ({ s with issued := s.issued + 1, pending := none, detail := some item, fault := none },
        true) := by
  simp [applySubmitted, shown, awaited]

/-- A saved item takes the place of the open one, and a detail of it that is on its way is
outdated by it. -/
theorem applySubmitted_open (shown : s.current = some item.id) :
    (s.applySubmitted item).2 = true ∧ (s.applySubmitted item).1.current = some item.id ∧
      (s.applySubmitted item).1.detail = some item ∧
      (s.pending = some item.id → (s.applySubmitted item).1.issued = s.issued + 1) := by
  by_cases awaited : s.pending = some item.id
  · rw [applySubmitted_awaited shown awaited]
    exact ⟨rfl, shown, rfl, fun _ => rfl⟩
  · rw [applySubmitted_settled shown awaited]
    exact ⟨rfl, shown, rfl, fun pending => (awaited pending).elim⟩

end Selection

namespace Session

namespace Entry

/-- The ticket whose answer came. -/
def answered? : Entry → Option SelectTicket
  | .detailCame ticket _ _ => some ticket
  | _ => none

/-- What an entry makes of the selection. -/
def turn (s : Selection) : Entry → Selection
  | .selectAsked ticket => (s.beginSelect ticket.id).1
  | .detailCame ticket answer _ => (s.applySelect ticket answer).1
  | .pageCame ticket (.ok page) .accepted => s.reconcile (ticket.kept page)
  | .savedCame _ (.ok item) => (s.applySubmitted item).1
  | _ => s

end Entry

namespace Journal

/-- The selection after all that is on record. -/
def selection : Journal → Selection
  | [] => {}
  | entry :: earlier => entry.turn (selection earlier)

/-- The tickets whose details came, the last one first. -/
def answered (j : Journal) : List SelectTicket := j.filterMap Entry.answered?

@[simp] theorem answered_append (j k : Journal) : answered (j ++ k) = j.answered ++ k.answered :=
  List.filterMap_append

end Journal

/-- The entry can come next: a ticket for a detail has the next number, and a detail that came was
asked for and is told with the outcome that it has. -/
def Entry.Fits (earlier : Journal) : Entry → Prop
  | .selectAsked ticket => ticket.seq = earlier.selection.issued + 1
  | .detailCame ticket answer outcome =>
    ticket ∈ earlier.selects ∧ (earlier.selection.applySelect ticket answer).2 = outcome
  | _ => True

/-- Every entry could come when it did. -/
def Journal.Faithful : Journal → Prop
  | [] => True
  | entry :: earlier => entry.Fits earlier ∧ Faithful earlier

theorem faithful_invariant :
    History.Invariant fun s j => s.selection = j.selection ∧ j.Faithful := by
  rintro ⟨queue, selection, form, labels⟩ j entries s' step backed ⟨same, faithful⟩
  dsimp only at same
  subst same
  cases step with
  | load | pageFailed | pagePast | submitSent | saveFailed =>
      exact ⟨rfl, by simp [Journal.Faithful, Entry.Fits, faithful]⟩
  | submitRefused | edit => exact ⟨rfl, faithful⟩
  | pageStale ticket answer =>
      refine ⟨?_, trivial, faithful⟩
      cases answer with
      | ok | error => rfl
  | pageAccepted => exact ⟨rfl, trivial, faithful⟩
  | select id => exact ⟨rfl, rfl, faithful⟩
  | detailStale ticket answer superseded =>
      have outcome := Selection.applySelect_stale answer superseded
      exact ⟨(congrArg Prod.fst outcome).symm,
        ⟨backed _ List.mem_cons_self, congrArg Prod.snd outcome⟩, faithful⟩
  | detailVanished ticket answer latest gone =>
      have outcome := Selection.applySelect_vanished answer latest gone
      exact ⟨(congrArg Prod.fst outcome).symm,
        ⟨backed _ List.mem_cons_self, congrArg Prod.snd outcome⟩, faithful⟩
  | detailFailed ticket fault latest seen =>
      have outcome := Selection.applySelect_failed fault latest seen
      exact ⟨(congrArg Prod.fst outcome).symm,
        ⟨backed _ List.mem_cons_self, congrArg Prod.snd outcome⟩, faithful⟩
  | detailApplied ticket item latest seen =>
      have outcome := Selection.applySelect_applied item latest seen
      exact ⟨(congrArg Prod.fst outcome).symm,
        ⟨backed _ List.mem_cons_self, congrArg Prod.snd outcome⟩, faithful⟩
  | savedElsewhere ticket item closed =>
      have outcome := Selection.applySubmitted_elsewhere closed
      exact ⟨(congrArg Prod.fst outcome).symm, trivial, trivial, faithful⟩
  | savedShown ticket item shown settled =>
      have outcome := Selection.applySubmitted_settled shown settled
      exact ⟨(congrArg Prod.fst outcome).symm, trivial, trivial, faithful⟩
  | savedAwaited ticket item shown awaited =>
      have outcome := Selection.applySubmitted_awaited shown awaited
      exact ⟨(congrArg Prod.fst outcome).symm, trivial, trivial, faithful⟩

/-- The ways in which an entry that fits turns the selection. -/
inductive Turn (s : Selection) : Entry → Selection → Prop where
  | asked (id : String) : Turn s (.selectAsked (s.beginSelect id).2) (s.beginSelect id).1
  | outdated (ticket : SelectTicket) (answer : Except TransportFault Item)
      (superseded : ticket.seq ≠ s.issued) : Turn s (.detailCame ticket answer .stale) s
  | missed (ticket : SelectTicket) (answer : Except TransportFault Item) (outcome : SelectOutcome)
      (fault : Option TransportFault) (latest : ticket.seq = s.issued)
      (unopened : outcome ≠ .applied) :
      Turn s (.detailCame ticket answer outcome) { s with pending := none, fault := fault }
  | opened (ticket : SelectTicket) (item : Item) (latest : ticket.seq = s.issued) :
      Turn s (.detailCame ticket (.ok item) .applied)
        { s with
          pending := none, current := some ticket.id, detail := some item, fault := none }
  | paged (ticket : LoadTicket) (page : Page) :
      Turn s (.pageCame ticket (.ok page) .accepted) (s.reconcile (ticket.kept page))
  | echoed (ticket : SubmitTicket) (item : Item) (shown : s.current = some item.id)
      (settled : s.pending ≠ some item.id) :
      Turn s (.savedCame ticket (.ok item)) { s with detail := some item, fault := none }
  | overtaken (ticket : SubmitTicket) (item : Item) (shown : s.current = some item.id)
      (awaited : s.pending = some item.id) :
      Turn s (.savedCame ticket (.ok item))
        { s with
          issued := s.issued + 1, pending := none, detail := some item, fault := none }
  | aside (entry : Entry) (unasked : entry.select? = none) (unanswered : entry.answered? = none) :
      Turn s entry s

theorem turn_of_fits {j : Journal} {entry : Entry} (fits : entry.Fits j) :
    Turn j.selection entry (Journal.selection (entry :: j)) := by
  cases entry with
  | loadAsked | submitAsked => exact .aside _ rfl rfl
  | selectAsked ticket =>
      obtain ⟨seq, id⟩ := ticket
      cases fits
      exact .asked id
  | pageCame ticket answer outcome =>
      cases answer with
      | error fault => exact .aside _ rfl rfl
      | ok page =>
          cases outcome with
          | accepted => exact .paged ticket page
          | stale | failed | reissue => exact .aside _ rfl rfl
  | detailCame ticket answer outcome =>
      obtain ⟨-, rfl⟩ := fits
      rw [Journal.selection, Entry.turn]
      by_cases latest : ticket.seq = j.selection.issued
      · by_cases seen : ticket.id ∈ j.selection.visible
        · cases answer with
          | error fault =>
              rw [Selection.applySelect_failed fault latest seen]
              exact .missed ticket _ _ _ latest nofun
          | ok item =>
              rw [Selection.applySelect_applied item latest seen]
              exact .opened ticket item latest
        · rw [Selection.applySelect_vanished answer latest seen]
          exact .missed ticket answer _ _ latest nofun
      · rw [Selection.applySelect_stale answer latest]
        exact .outdated ticket answer latest
  | savedCame ticket answer =>
      cases answer with
      | error fault => exact .aside _ rfl rfl
      | ok item =>
          rw [Journal.selection, Entry.turn]
          by_cases shown : j.selection.current = some item.id
          · by_cases awaited : j.selection.pending = some item.id
            · rw [Selection.applySubmitted_awaited shown awaited]
              exact .overtaken ticket item shown awaited
            · rw [Selection.applySubmitted_settled shown awaited]
              exact .echoed ticket item shown awaited
          · rw [Selection.applySubmitted_elsewhere shown]
            exact .aside _ rfl rfl

/-- Where the tickets for details stand: they have numbers of their own, and an item is being
fetched when the ticket with the highest number is one for it and is not answered yet. -/
structure Fetches (j : Journal) : Prop where
  numbered : ∀ ticket ∈ j.selects, ticket.seq ≤ j.selection.issued
  unique : ∀ ticket ∈ j.selects, ∀ other ∈ j.selects, ticket.seq = other.seq → ticket = other
  asked : ∀ ticket ∈ j.answered, ticket ∈ j.selects
  pending_iff : ∀ id, j.selection.pending = some id ↔
    ∃ ticket ∈ j.selects, ticket.id = id ∧ ticket.seq = j.selection.issued ∧
      ticket ∉ j.answered

namespace Fetches

variable {j : Journal} {entry : Entry}

/-- Nothing is new about the tickets. -/
theorem unmoved (inv : Fetches j) (selects : Journal.selects (entry :: j) = j.selects)
    (answered : Journal.answered (entry :: j) = j.answered)
    (issued : (Journal.selection (entry :: j)).issued = j.selection.issued)
    (pending : (Journal.selection (entry :: j)).pending = j.selection.pending) :
    Fetches (entry :: j) := by
  constructor
  · rw [selects, issued]
    exact inv.numbered
  · rw [selects]
    exact inv.unique
  · rw [selects, answered]
    exact inv.asked
  · rw [selects, answered, issued, pending]
    exact inv.pending_iff

/-- A new ticket is the one that is waited for. -/
theorem asks (inv : Fetches j) (ticket : SelectTicket)
    (next : ticket.seq = j.selection.issued + 1) : Fetches (.selectAsked ticket :: j) where
  numbered other member := by
    change other.seq ≤ j.selection.issued + 1
    rcases List.mem_cons.mp member with rfl | earlier
    · omega
    · have bound := inv.numbered other earlier
      omega
  unique one first two second same := by
    rcases List.mem_cons.mp first with new | old
    · rcases List.mem_cons.mp second with new' | old'
      · exact new.trans new'.symm
      · have bound := inv.numbered two old'
        rw [← same, new, next] at bound
        omega
    · rcases List.mem_cons.mp second with new' | old'
      · have bound := inv.numbered one old
        rw [same, new', next] at bound
        omega
      · exact inv.unique one old two old' same
  asked other member := List.mem_cons_of_mem _ (inv.asked other member)
  pending_iff id := by
    change some ticket.id = some id ↔ ∃ other ∈ ticket :: j.selects, other.id = id ∧
      other.seq = j.selection.issued + 1 ∧ other ∉ j.answered
    constructor
    · rintro ⟨⟩
      refine ⟨ticket, List.mem_cons_self, rfl, next, fun answered => ?_⟩
      have bound := inv.numbered ticket (inv.asked ticket answered)
      omega
    · rintro ⟨other, member, rfl, number, -⟩
      rcases List.mem_cons.mp member with rfl | earlier
      · rfl
      · have bound := inv.numbered other earlier
        omega

variable {ticket : SelectTicket} {answer : Except TransportFault Item} {outcome : SelectOutcome}

/-- Once the last ticket is answered, nothing is waited for. -/
theorem settles (inv : Fetches j) (asked : ticket ∈ j.selects)
    (latest : ticket.seq = j.selection.issued)
    (issued : (Journal.selection (.detailCame ticket answer outcome :: j)).issued =
      j.selection.issued)
    (pending : (Journal.selection (.detailCame ticket answer outcome :: j)).pending = none) :
    Fetches (.detailCame ticket answer outcome :: j) where
  numbered := by
    rw [issued]
    exact inv.numbered
  unique := inv.unique
  asked other member := by
    rcases List.mem_cons.mp member with rfl | earlier
    · exact asked
    · exact inv.asked other earlier
  pending_iff id := by
    rw [issued, pending]
    refine ⟨nofun, ?_⟩
    rintro ⟨other, member, -, number, unanswered⟩
    have same : other = ticket := inv.unique other member ticket asked (number.trans latest.symm)
    exact (unanswered (same ▸ List.mem_cons_self)).elim

/-- An outdated answer is not the one that is waited for. -/
theorem ignores (inv : Fetches j) (asked : ticket ∈ j.selects)
    (superseded : ticket.seq ≠ j.selection.issued)
    (same : Journal.selection (.detailCame ticket answer outcome :: j) = j.selection) :
    Fetches (.detailCame ticket answer outcome :: j) where
  numbered := by
    rw [same]
    exact inv.numbered
  unique := inv.unique
  asked other member := by
    rcases List.mem_cons.mp member with rfl | earlier
    · exact asked
    · exact inv.asked other earlier
  pending_iff id := by
    rw [same, inv.pending_iff]
    refine exists_congr fun other => and_congr_right fun _ => and_congr_right fun _ =>
      and_congr_right fun number => ?_
    change other ∉ j.answered ↔ other ∉ ticket :: j.answered
    have different : other ≠ ticket := fun eq => superseded (eq ▸ number)
    simp [different]

/-- No ticket has the number that a saved item takes, so nothing is waited for. -/
theorem overtakes (inv : Fetches j) (selects : Journal.selects (entry :: j) = j.selects)
    (answered : Journal.answered (entry :: j) = j.answered)
    (issued : (Journal.selection (entry :: j)).issued = j.selection.issued + 1)
    (pending : (Journal.selection (entry :: j)).pending = none) : Fetches (entry :: j) := by
  constructor
  · rw [selects, issued]
    exact fun other member => Nat.le_succ_of_le (inv.numbered other member)
  · rw [selects]
    exact inv.unique
  · rw [selects, answered]
    exact inv.asked
  · rw [selects, issued, pending]
    refine fun id => ⟨nofun, ?_⟩
    rintro ⟨other, member, -, number, -⟩
    have bound := inv.numbered other member
    omega

end Fetches

theorem Journal.Faithful.fetches {j : Journal} (faithful : j.Faithful) : Fetches j := by
  induction j with
  | nil => exact ⟨nofun, nofun, nofun, by simp [selection, selects]⟩
  | cons entry j ih =>
      have inv := ih faithful.2
      have turn := turn_of_fits faithful.1
      have fits := faithful.1
      generalize after : selection (entry :: j) = s at turn
      cases turn with
      | asked id => exact inv.asks _ rfl
      | outdated ticket answer superseded => exact inv.ignores fits.1 superseded after
      | missed ticket answer outcome fault latest =>
          exact inv.settles fits.1 latest (by rw [after]) (by rw [after])
      | opened ticket item latest =>
          exact inv.settles fits.1 latest (by rw [after]) (by rw [after])
      | paged ticket page =>
          exact inv.unmoved rfl rfl (by rw [after, Selection.reconcile_issued])
            (by rw [after, Selection.reconcile_pending])
      | echoed => exact inv.unmoved rfl rfl (by rw [after]) (by rw [after])
      | overtaken => exact inv.overtakes rfl rfl (by rw [after]) (by rw [after])
      | aside _ unasked unanswered =>
          refine inv.unmoved ?_ ?_ (by rw [after]) (by rw [after])
          · exact List.filterMap_cons_none unasked
          · exact List.filterMap_cons_none unanswered

theorem Turn.issued_le {s s' : Selection} {entry : Entry} (turn : Turn s entry s') :
    s.issued ≤ s'.issued := by
  cases turn with
  | paged => exact Nat.le_of_eq (Selection.reconcile_issued _ _).symm
  | asked | overtaken => exact Nat.le_succ _
  | outdated | missed | opened | echoed | aside => exact Nat.le_refl _

theorem Turn.latest_of_applied {s s' : Selection} {ticket : SelectTicket}
    {answer : Except TransportFault Item} (turn : Turn s (.detailCame ticket answer .applied) s') :
    ticket.seq = s.issued := by
  cases turn with
  | opened _ _ latest => exact latest
  | missed _ _ _ _ _ unopened => exact (unopened rfl).elim
  | aside _ _ unanswered => cases unanswered

namespace Journal.Faithful

variable {j k : Journal}

theorem of_append (faithful : Faithful (k ++ j)) : j.Faithful := by
  induction k with
  | nil => exact faithful
  | cons entry k ih => exact ih faithful.2

theorem issued_le (faithful : Faithful (k ++ j)) :
    j.selection.issued ≤ (selection (k ++ j)).issued := by
  induction k with
  | nil => exact Nat.le_refl _
  | cons entry k ih => exact Nat.le_trans (ih faithful.2) (turn_of_fits faithful.1).issued_le

end Journal.Faithful

end Session
end ReviewDesk
