import ReviewDesk.Proofs.Console.Run
import ReviewDesk.Proofs.Console.TableRow
import ReviewDesk.Proofs.Session.Numbered
import ReviewDesk.Proofs.Session.OpenItem

/-!
The cursor of the console. It stays on a row whatever happens, since only a synchronization takes
over other rows and moves the cursor among them. Between two answers the rows on the board are those
that are shown, so Enter and a click open the row that is seen, which is one of the page accepted
last.
-/

namespace ReviewDesk

namespace View

/-- The ids of the rows that are shown, from the top. -/
def shownIds (v : View) : List String :=
  match v.body with
  | .rows rows => rows.map Row.id
  | _ => []

variable {s s' : Session} {v v' : View}

theorem shownIds_of_view? (shown : s.view? = some v) :
    v.shownIds =
      match s.queue.status with
      | .failed _ => []
      | _ => s.queue.items.map Item.id := by
  rw [shownIds, Session.body_of_view? shown, Body.ofSession.eq_def]
  cases s.queue.status <;> cases s.queue.items <;> simp [Row.ofItem]

theorem mem_items_of_mem_shownIds {id : String} (shown : s.view? = some v)
    (member : id ∈ v.shownIds) : id ∈ s.queue.items.map Item.id := by
  rw [shownIds_of_view? shown] at member
  split at member
  · cases member
  · exact member

/-- A request for a page leaves the rows on the screen, and may bring back those of a page before
a failure. -/
theorem shownIds_issue {filter : Filter} (asked : s'.queue = (s.queue.issue filter false).1)
    (shown : s.view? = some v) (shown' : s'.view? = some v') :
    v.shownIds = [] ∨ v'.shownIds = v.shownIds := by
  rw [shownIds_of_view? shown, shownIds_of_view? shown', asked]
  cases s.queue.status with
  | failed fault => exact .inl rfl
  | idle | loading | ready => exact .inr rfl

end View

namespace Board

/-- The cursor is on a row, or on top where there are none. -/
def OnRow (b : Board) : Prop :=
  b.rowIds = [] ∧ b.cursor = 0 ∨ b.cursor < b.rowIds.length

/-- The table marks the row under the cursor, if there is one. -/
def Marked (b : Board) : Prop :=
  b.rowIds = [] ∧ b.cursor = 0 ∧ b.selectedRow = none ∨
    b.cursor < b.rowIds.length ∧ b.selectedRow = some b.cursor

theorem Marked.onRow {b : Board} (marked : b.Marked) : b.OnRow :=
  marked.imp (fun top => ⟨top.1, top.2.1⟩) And.left

/-- The rows stay, and the cursor stays among them. -/
structure Moves (b b' : Board) : Prop where
  rows : b'.rowIds = b.rowIds
  onRow : b.OnRow → b'.OnRow

theorem Moves.still {b b' : Board} (rows : b'.rowIds = b.rowIds) (cursor : b'.cursor = b.cursor) :
    b.Moves b' where
  rows := rows
  onRow on := by
    rw [OnRow, rows, cursor]
    exact on

variable (b : Board) (view : View)

theorem sync_of_empty (empty : view.shownIds = []) :
    b.sync view = { b with rowIds := [], cursor := 0, selectedRow := none, firstRow := 0 } :=
  if_pos (List.isEmpty_iff.mpr empty)

theorem sync_of_rows (rows : view.shownIds ≠ []) :
    let cursor := min b.cursor (view.shownIds.length - 1)
    b.sync view = { b with
      rowIds := view.shownIds, cursor := cursor, selectedRow := some cursor } :=
  if_neg (mt List.isEmpty_iff.mp rows)

theorem sync_rowIds : (b.sync view).rowIds = view.shownIds := by
  by_cases empty : view.shownIds = []
  · rw [b.sync_of_empty view empty, empty]
  · rw [b.sync_of_rows view empty]

theorem marked_sync : (b.sync view).Marked := by
  by_cases empty : view.shownIds = []
  · rw [b.sync_of_empty view empty]
    exact .inl ⟨rfl, rfl, rfl⟩
  · have some := List.length_pos_iff.mpr empty
    rw [b.sync_of_rows view empty]
    right
    dsimp only
    refine ⟨?_, rfl⟩
    omega

theorem rowIds_show : b.show.rowIds = b.rowIds := by
  unfold Board.show
  split <;> rfl

theorem selectedRow_show : b.show.selectedRow = b.selectedRow := by
  unfold Board.show
  split <;> rfl

theorem Marked.show {b : Board} (marked : b.Marked) : b.show.Marked := by
  unfold Board.show
  split <;> exact marked

/-- Rows that are those of the board already are marked where the cursor is. -/
theorem sync_selectedRow_of_same {b : Board} {view : View} (same : b.rowIds = view.shownIds)
    (on : b.cursor < b.rowIds.length) : (b.sync view).selectedRow = some b.cursor := by
  have rows : view.shownIds ≠ [] := by
    rw [← same]
    exact List.ne_nil_of_length_pos (Nat.zero_lt_of_lt on)
  rw [b.sync_of_rows view rows, ← same]
  exact congrArg some (by omega)

end Board

/-- A page that is accepted is taken over; any other answer to a load leaves the items or takes them
away. -/
theorem Queue.items_applyLoad (q : Queue) (ticket : LoadTicket)
    (answer : Except TransportFault Page) :
    let result := q.applyLoad ticket answer
    result.2 ≠ .accepted ∧ (result.1.items = [] ∨ result.1.items = q.items) ∨
      ∃ page, answer = .ok page ∧ result.2 = .accepted ∧ result.1.items = ticket.kept page := by
  unfold applyLoad
  split
  · exact .inl ⟨nofun, .inr rfl⟩
  · cases answer with
    | error fault => exact .inl ⟨nofun, .inl rfl⟩
    | ok page =>
        dsimp only
        split
        · exact .inl ⟨nofun, .inr rfl⟩
        · exact .inr ⟨page, rfl, rfl, rfl⟩

namespace Session

theorem queue_onQueueResult (s : Session) (ticket : LoadTicket)
    (answer : Except TransportFault Page) :
    (s.onQueueResult ticket answer).1.queue = (s.queue.applyLoad ticket answer).1 := by
  unfold onQueueResult
  dsimp only
  split
  · rfl
  · rfl

/-- Only the answer to a load changes the items. -/
theorem items_act (s : Session) {a : Action} (other : ∀ ticket answer, a ≠ .page ticket answer) :
    (s.act a).queue.items = s.queue.items := by
  have silent : ∀ entry ∈ s.entries a, ∀ ticket answer outcome,
      entry ≠ .pageCame ticket answer outcome := by
    apply forall_mem_entries (P := fun entry => ∀ ticket answer outcome,
      entry ≠ .pageCame ticket answer outcome) s a
    case page => exact fun ticket answer _ came => (other ticket answer came).elim
    all_goals
      intros
      exact Entry.noConfusion
  have step := s.step_act a
  generalize s.entries a = entries at silent step
  generalize s.act a = s' at step
  cases step with
  | pageStale | pageFailed | pageAccepted =>
      exact (silent _ List.mem_cons_self _ _ _ rfl).elim
  | pagePast => exact (silent _ (List.mem_cons_of_mem _ List.mem_cons_self) _ _ _ rfl).elim
  | _ => rfl

end Session

namespace Console

variable (c : Console)

theorem Browsing.moves {c c' : Console} (browsing : c.Browsing c') : c.board.Moves c'.board := by
  cases browsing with
  | cursor row inside =>
      refine ⟨rfl, fun on => ?_⟩
      rcases inside with below | up
      · exact .inr below
      · rcases on with ⟨none, top⟩ | below
        · rw [top] at up
          exact .inl ⟨none, Nat.le_zero.mp up⟩
        · exact .inr (Nat.lt_of_le_of_lt up below)
  | _ => exact .still rfl rfl

theorem Command.moves {c c' : Console} (command : c.Command c') : c.board.Moves c'.board := by
  cases command with
  | browsing browsing => exact browsing.moves
  | select _ same | clear same | submitted _ _ same | refused _ _ same =>
      rw [same]
      exact .still rfl rfl

theorem Typing.moves {c c' : Console} (typing : c.Typing c') : c.board.Moves c'.board := by
  cases typing with
  | board b settles | asked b settles => exact .still settles.rows settles.cursor
  | form f calm => exact .still rfl rfl

theorem moves_press (key : KeyPress) : c.board.Moves (c.route key).1.board := by
  rcases c.press_cases key with typing | ⟨-, command⟩
  · exact typing.moves
  · exact command.moves

theorem moves_click (x y : UInt16) : c.board.Moves (c.click x y).board := by
  rcases c.click_cases x y with same | ⟨index, id, found, opened⟩
  · rw [same]
    exact .still rfl rfl
  · rw [opened]
    have inside := Board.getElem?_of_rowAt? found
    exact ⟨rfl, fun _ => .inr (List.getElem?_eq_some_iff.mp inside).1⟩

theorem Does.session_eq {c c' : Console} {a : Session.Action} (does : c.Does c' (some a)) :
    c'.session = c.session.act a := by
  cases does with
  | action _ session _ => exact session

/-- Nothing but an answer does more to the page than ask for another one, by a filter made from its
own. -/
theorem queue_step {e : Event} (other : ∀ arrival, e ≠ .deliver arrival) :
    (c.step e).session.queue = c.session.queue ∨
      ∃ filter, c.session.queue.filter.Makes filter ∧
        (c.step e).session.queue = (c.session.queue.issue filter false).1 := by
  cases c.step_comes e with
  | browses _ _ browses =>
      cases browses with
      | nothing does =>
          cases does with
          | nothing session _ => exact .inl (by rw [session])
      | load filter made does => exact .inr ⟨filter, made, by rw [does.session_eq]; rfl⟩
      | edit form _ does => exact .inl (by rw [does.session_eq]; rfl)
  | selects _ _ id does => exact .inl (by rw [does.session_eq]; rfl)
  | clears _ does => exact .inl (by rw [does.session_eq]; rfl)
  | submits _ _ does => exact .inl (by rw [does.session_eq]; rfl)
  | answered arrival came _ _ => exact (other arrival came).elim

/-- The items of the page that an event brings, if it is accepted. -/
def Event.page? (c : Console) : Event → Option (List Item)
  | .deliver (.page ticket (.ok page)) =>
    if .load ticket ∈ c.outbox ∧ (c.session.onQueueResult ticket (.ok page)).2 = .accepted then
      some (ticket.kept page)
    else none
  | _ => none

/-- The items of the page accepted last in a run, or those that were there before. -/
def lastPage (c : Console) (page : List Item) : List Event → List Item
  | [] => page
  | e :: rest => (c.step e).lastPage ((e.page? c).getD page) rest

theorem page?_of_not_outstanding {arrival : Arrival} (unknown : arrival.request ∉ c.outbox) :
    (Event.deliver arrival).page? c = none := by
  cases arrival with
  | page ticket answer =>
      cases answer with
      | ok page => exact if_neg (fun known => unknown known.1)
      | error fault => rfl
  | detail ticket answer | saved ticket answer => rfl

theorem items_deliver (arrival : Arrival) : (c.deliver arrival).session.queue.items = [] ∨
    (c.deliver arrival).session.queue.items =
      ((Event.deliver arrival).page? c).getD c.session.queue.items := by
  by_cases outstanding : arrival.request ∈ c.outbox
  · rw [(c.does_deliver arrival outstanding).session_eq]
    cases arrival with
    | page ticket answer =>
        rw [Arrival.action, Session.act, Session.queue_onQueueResult]
        rcases c.session.queue.items_applyLoad ticket answer with
          ⟨refused, same⟩ | ⟨page, rfl, accepted, kept⟩
        · have none : (Event.deliver (.page ticket answer)).page? c = none := by
            cases answer with
            | ok page => exact if_neg (fun known => refused known.2)
            | error fault => rfl
          rw [none]
          exact same
        · have some : (Event.deliver (.page ticket (.ok page))).page? c =
              some (ticket.kept page) := if_pos ⟨outstanding, accepted⟩
          rw [some]
          exact .inr kept
    | detail ticket answer => exact .inr (c.session.items_act (by rintro _ _ ⟨⟩))
    | saved ticket answer => exact .inr (c.session.items_act (by rintro _ _ ⟨⟩))
  · rw [c.page?_of_not_outstanding outstanding, deliver, if_neg outstanding]
    exact .inr rfl

theorem items_step (e : Event) : (c.step e).session.queue.items = [] ∨
    (c.step e).session.queue.items = (e.page? c).getD c.session.queue.items := by
  have still (other : ∀ arrival, e ≠ .deliver arrival) :
      (c.step e).session.queue.items = c.session.queue.items := by
    rcases c.queue_step other with same | ⟨filter, -, asked⟩
    · rw [same]
    · rw [asked]
      rfl
  cases e with
  | deliver arrival => exact c.items_deliver arrival
  | press | commandKey | filterKey | editKey | click | sync | draw =>
      exact .inr (still (fun _ => nofun))

/-- Whether the board has the rows of the session after the event, when it had them before or not. -/
def Event.refreshes (c : Console) (fresh : Bool) : Event → Bool
  | .deliver _ => false
  | .sync => c.session.view?.isSome
  | .draw => c.session.view?.isSome
  | _ => fresh

/-- No answer has come since the board took over the rows. -/
def upToDate (c : Console) (fresh : Bool) : List Event → Bool
  | [] => fresh
  | e :: rest => (c.step e).upToDate (e.refreshes c fresh) rest

/-- The rows on the board are those of the view that there is, or there are none. -/
def ShowsRows (c : Console) : Prop :=
  c.board.rowIds = [] ∨ ∃ view, c.session.view? = some view ∧ c.board.rowIds = view.shownIds

/-- Where the board stands beside the page that was accepted last. -/
structure Tracks (c : Console) (page : List Item) (fresh : Bool) : Prop where
  onRow : c.board.OnRow
  items : c.session.queue.items = [] ∨ c.session.queue.items = page
  rows : fresh = true → c.ShowsRows

variable {c} {page : List Item} {fresh : Bool}

theorem Tracks.items_step (tracks : c.Tracks page fresh) (e : Event) :
    (c.step e).session.queue.items = [] ∨
      (c.step e).session.queue.items = (e.page? c).getD page := by
  rcases c.items_step e with none | same
  · exact .inl none
  · rw [same]
    cases e.page? c with
    | some items => exact .inr rfl
    | none => exact tracks.items

/-- A page that is asked for has a view if the page before has one. -/
theorem exists_view_step {e : Event} (other : ∀ arrival, e ≠ .deliver arrival) {view : View}
    (shown : c.session.view? = some view) : ∃ next, (c.step e).session.view? = some next := by
  have numbered := Session.exists_view_iff.mp ⟨view, shown⟩
  rw [Session.exists_view_iff]
  rcases c.queue_step other with same | ⟨filter, made, asked⟩
  · rw [same]
    exact numbered
  · rw [asked]
    exact Filter.inherited_numbered made numbered

/-- An event that leaves the rows of the board leaves those that are shown, unless it is an
answer. -/
theorem ShowsRows.step (shows : c.ShowsRows) {e : Event} (other : ∀ arrival, e ≠ .deliver arrival)
    (still : (c.step e).board.rowIds = c.board.rowIds) : (c.step e).ShowsRows := by
  rw [ShowsRows, still]
  rcases shows with none | ⟨view, shown, same⟩
  · exact .inl none
  obtain ⟨next, shown'⟩ := exists_view_step other shown
  have rows : view.shownIds = [] ∨ next.shownIds = view.shownIds := by
    rcases c.queue_step other with queue | ⟨filter, -, asked⟩
    · rw [View.shownIds_of_view? shown, View.shownIds_of_view? shown', queue]
      exact .inr rfl
    · exact View.shownIds_issue asked shown shown'
  rw [same]
  exact rows.imp id fun kept => ⟨next, shown', kept.symm⟩

theorem Tracks.moved (tracks : c.Tracks page fresh) {e : Event}
    (other : ∀ arrival, e ≠ .deliver arrival) (moves : c.board.Moves (c.step e).board) :
    (c.step e).Tracks ((e.page? c).getD page) fresh where
  onRow := moves.onRow tracks.onRow
  items := tracks.items_step e
  rows current := (tracks.rows current).step other moves.rows

/-- After an event that takes over the rows, if there is a view of them. -/
theorem Tracks.taken (tracks : c.Tracks page fresh) {e : Event} {b : View → Board}
    (marked : ∀ view, (b view).Marked) (rows : ∀ view, (b view).rowIds = view.shownIds)
    (taken : c.session.view? = none ∧ c.step e = c ∨
      ∃ view, c.session.view? = some view ∧ c.step e = { c with board := b view }) :
    (c.step e).Tracks ((e.page? c).getD page) c.session.view?.isSome := by
  have items := tracks.items_step e
  rcases taken with ⟨none, same⟩ | ⟨view, shown, same⟩
  · rw [same] at items ⊢
    exact ⟨tracks.onRow, items, by simp [none]⟩
  · rw [same] at items ⊢
    exact ⟨(marked view).onRow, items, fun _ => .inr ⟨view, shown, rows view⟩⟩

theorem Tracks.step (tracks : c.Tracks page fresh) (e : Event) :
    (c.step e).Tracks ((e.page? c).getD page) (e.refreshes c fresh) := by
  cases e with
  | press key => exact tracks.moved (fun _ => nofun) (c.moves_press key)
  | commandKey key => exact tracks.moved (fun _ => nofun) (c.command_key key).moves
  | filterKey key => exact tracks.moved (fun _ => nofun) (c.typing_filterKey key).moves
  | editKey key => exact tracks.moved (fun _ => nofun) (c.typing_editKey key).moves
  | click x y => exact tracks.moved (fun _ => nofun) (c.moves_click x y)
  | deliver arrival =>
      have settles := c.settles_deliver arrival
      exact ⟨(Board.Moves.still settles.rows settles.cursor).onRow tracks.onRow,
        tracks.items_step _, nofun⟩
  | sync => exact tracks.taken c.board.marked_sync c.board.sync_rowIds c.step_sync
  | draw =>
      exact tracks.taken (fun view => (c.board.marked_sync view).show)
        (fun view => (Board.rowIds_show _).trans (c.board.sync_rowIds view)) c.step_draw

-- the page and the freshness change along the run, so the induction is over both
theorem Tracks.run (tracks : c.Tracks page fresh) (events : List Event) :
    (c.run events).Tracks (c.lastPage page events) (c.upToDate fresh events) := by
  induction events generalizing c page fresh with
  | nil => exact tracks
  | cons e rest ih => exact ih (tracks.step e)

theorem tracks_newBoard (c : Console) :
    { c with board := {} : Console }.Tracks c.session.queue.items true where
  onRow := .inl ⟨rfl, rfl⟩
  items := .inr rfl
  rows _ := .inl rfl

theorem sync?_shows {view : View} (shown : c.session.view? = some view) :
    ∃ next, c.sync? = some next ∧ next.session = c.session ∧ next.board.rowIds = view.shownIds ∧
      next.board.Marked :=
  ⟨_, congrArg (Option.map _) shown, rfl, c.board.sync_rowIds view, c.board.marked_sync view⟩

/-- The row of that id is marked when the console is drawn. -/
def Highlights (c : Console) (id : String) : Prop :=
  ∃ next picture row, c.draw? = some (next, picture) ∧ next.board.selectedRow = some row ∧
    next.board.rowIds[row]? = some id

/-- The second console is the first one with the item asked for: it is being fetched, the ticket for
it has the next number, and the request is sent off after all others. -/
structure Fetches (c : Console) (id : String) (next : Console) : Prop where
  pending : next.session.selection.pending = some id
  issued : next.session.selection.issued = c.session.selection.issued + 1
  outbox : next.outbox = c.outbox ++ [.select ⟨c.session.selection.issued + 1, id⟩]
  current : next.session.selection.current = c.session.selection.current
  detail : next.session.selection.detail = c.session.selection.detail
  visible : next.session.selection.visible = c.session.selection.visible
  fault : next.session.selection.fault = c.session.selection.fault
  queue : next.session.queue = c.session.queue
  form : next.session.form = c.session.form
  labels : next.session.labels = c.session.labels
  board : next.board = c.board
  disk : next.disk = c.disk

theorem fetches_select (c : Console) (id : String) : c.Fetches id (c.select id) :=
  ⟨rfl, rfl, rfl, rfl, rfl, rfl, rfl, rfl, rfl, rfl, rfl, rfl⟩

theorem Tracks.mem_page (tracks : c.Tracks page true) {row : Nat} {id : String}
    (found : c.board.rowIds[row]? = some id) : id ∈ page.map Item.id := by
  have member := List.mem_of_getElem? found
  rcases tracks.rows rfl with none | ⟨view, shown, same⟩
  · rw [none] at member
    cases member
  · rw [same] at member
    have known := View.mem_items_of_mem_shownIds shown member
    rcases tracks.items with gone | kept
    · rw [gone] at known
      cases known
    · rwa [kept] at known

theorem ShowsRows.highlights (shows : c.ShowsRows) {id : String}
    (found : c.board.rowIds[c.board.cursor]? = some id) : c.Highlights id := by
  have on := (List.getElem?_eq_some_iff.mp found).1
  rcases shows with none | ⟨view, shown, same⟩
  · rw [none] at on
    cases on
  · refine ⟨_, _, c.board.cursor, congrArg (Option.map _) shown, ?_, ?_⟩
    · exact (Board.selectedRow_show _).trans (Board.sync_selectedRow_of_same same on)
    · have rows : (c.board.sync view).show.rowIds = c.board.rowIds :=
        (Board.rowIds_show _).trans ((c.board.sync_rowIds view).trans same.symm)
      dsimp only
      rw [rows]
      exact found

theorem Tracks.enter (tracks : c.Tracks page true) {key : KeyPress} (code : key.code = .enter) :
    c.board.rowIds = [] ∧ c.handleKey key = c ∨
      ∃ id, c.Highlights id ∧ id ∈ page.map Item.id ∧ c.Fetches id (c.handleKey key) := by
  rw [c.handleKey_enter code]
  rcases c.openRow_cases with ⟨found, same⟩ | ⟨id, found, opened⟩
  · rw [List.getElem?_eq_none_iff] at found
    have top := tracks.onRow.resolve_right (Nat.not_lt_of_le found)
    exact .inl ⟨top.1, same⟩
  · refine .inr ⟨id, (tracks.rows rfl).highlights found, tracks.mem_page found, ?_⟩
    rw [opened]
    exact c.fetches_select id

/-- Whatever happens to a console with a new board, the cursor stays on a row, and where there is a
view, the board takes over the rows of it and marks the one under the cursor. As long as no answer has
come since, Enter asks for the item whose row is marked, and a click for the one whose line it is on;
both are of the page accepted last. -/
theorem shown_row_is_opened (c : Console) (events : List Event) :
    let start := { c with board := {} }
    let now := start.run events
    let page := start.lastPage c.session.queue.items events
    (∀ view, now.session.view? = some view → ∃ next, now.sync? = some next ∧
      next.session = now.session ∧ next.board.rowIds = view.shownIds ∧ next.board.Marked) ∧
    (now.board.OnRow ∧ ∀ key, (now.handleKey key).board.OnRow) ∧
    (start.upToDate true events = true →
      (∀ key, key.code = .enter →
        now.board.rowIds = [] ∧ now.handleKey key = now ∨
          ∃ id, now.Highlights id ∧ id ∈ page.map Item.id ∧ now.Fetches id (now.handleKey key)) ∧
      ∀ x y index id, now.board.rowAt? x y = some (index, id) → id ∈ page.map Item.id ∧
        ((now.board.helpMode || now.board.filterMode || now.board.editing) = false →
          { now with board := { now.board with cursor := index } }.Fetches id (now.click x y))) ∧
    ∀ (b : Board) (area : Rect), b.tableArea = some area → area.Fits → ∀ x y index id,
      b.rowAt? x y = some (index, id) ↔ area.Covers x y ∧
        (∃ row, row + 3 < area.height.toNat ∧ y.toNat = area.y.toNat + 2 + row ∧
          index = b.firstRow + row) ∧ b.rowIds[index]? = some id := by
  intro start now page
  have tracks : now.Tracks page (start.upToDate true events) := c.tracks_newBoard.run events
  refine ⟨fun view shown => sync?_shows shown,
    ⟨tracks.onRow, fun key => (now.command_key key).moves.onRow tracks.onRow⟩,
    fun current => ?_, fun b area shown fits => Board.rowAt?_eq_some_iff shown fits⟩
  rw [current] at tracks
  refine ⟨fun key code => tracks.enter code, fun x y index id found =>
    ⟨tracks.mem_page (Board.getElem?_of_rowAt? found), fun commands => ?_⟩⟩
  have opened : now.click x y =
      { now with board := { now.board with cursor := index } }.select id := by
    simp [click, commands, found]
  rw [opened]
  exact fetches_select _ id

/-- A page of two rows came, and the cursor was moved down. -/
def movedDown : List Event :=
  [.deliver (.page ⟨1, {}, false⟩ (.ok ⟨[{ id := "a" }, { id := "b" }], 2⟩)), .sync,
    .commandKey { code := .char 'j' }]

theorem second_row_is_opened :
    let start := Console.start {} [] none ("a.csv", .csv) {}
    let now := start.run movedDown
    let next := now.handleKey { code := .enter }
    start.upToDate true movedDown = true ∧ now.board.rowIds = ["a", "b"] ∧ now.board.cursor = 1 ∧
      (∃ id, now.Highlights id ∧ id ∈ ["a", "b"] ∧ now.Fetches id next) ∧
      next.session.selection.pending = some "b" ∧ next.outbox = [.select ⟨1, "b"⟩] := by
  intro start now next
  have current : start.upToDate true movedDown = true := by decide +kernel
  have rows : now.board.rowIds = ["a", "b"] := by decide +kernel
  refine ⟨current, rows, by decide +kernel, ?_, by decide +kernel, by decide +kernel⟩
  obtain ⟨-, -, opens, -⟩ := shown_row_is_opened start movedDown
  rcases (opens current).1 { code := .enter } rfl with ⟨none, -⟩ | opened
  · have filled : ["a", "b"] = [] := rows.symm.trans none
    cases filled
  · exact opened

end Console
end ReviewDesk
