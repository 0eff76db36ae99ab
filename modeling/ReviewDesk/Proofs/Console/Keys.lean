import ReviewDesk.Console.Screen
import ReviewDesk.Proofs.Session.Filters

/-!
What a key or a click can come to. Each handler of the console is opened here once. A command moves
the cursor, opens a mode, leaves a notice, makes a request or changes the form; a key that is typed
only closes modes, changes a text, or asks for a page. What all of them keep is read off one case at
a time.
-/

namespace ReviewDesk

theorem LabelForm.status_set (f : LabelForm) (field : FormField) (text : String) :
    (f.set field text).status = f.status := by
  cases field <;> rfl

namespace Console

/-- The ways in which a command can end that opens no item and neither clears nor sends the form. A
load asks for a filter that is made from that of the page. -/
inductive Browsing (c : Console) : Console → Prop where
  | still : Browsing c c
  | cursor (row : Nat) (inside : row < c.board.rowIds.length ∨ row ≤ c.board.cursor) :
      Browsing c { c with board := { c.board with cursor := row } }
  | help : Browsing c { c with board := { c.board with helpMode := true } }
  | filter : Browsing c c.startFilter
  | edit : Browsing c { c with board := { c.board with editing := true } }
  | notice (disk : Disk) (notice : Notice) :
      Browsing c { c with disk := disk, board := c.board.push notice }
  | load (filter : Filter) (made : c.session.queue.filter.Makes filter) :
      Browsing c (c.load (c.session.beginLoad filter))
  | form (f : LabelForm → LabelForm)
      (calm : (f c.session.form).status = c.session.form.status) : Browsing c (c.mapForm f)

/-- The ways in which a command can end. -/
inductive Command (c c' : Console) : Prop where
  | browsing (browsing : c.Browsing c')
  | select (id : String) (same : c' = c.select id)
  | clear (same : c' = c.mapForm LabelForm.clear)
  | submitted (form : LabelForm) (ticket : SubmitTicket)
      (same : c' = (c.mapForm fun _ => form).send (.submit ticket))
  | refused (form : LabelForm) (text : String) (same : c' = (c.mapForm fun _ => form).warn text)

variable (c : Console)

theorem browsing_cursorDown : c.Browsing c.cursorDown := by
  unfold cursorDown
  split
  case isTrue room => exact .cursor _ (.inl room)
  case isFalse => exact .still

theorem browsing_cursorUp : c.Browsing c.cursorUp :=
  .cursor _ (.inr (Nat.sub_le ..))

theorem browsing_nextPage : c.Browsing c.nextPage := by
  unfold nextPage Session.nextPage
  split
  case isTrue more => exact .load _ (.forward c.session.queue.total (of_decide_eq_true more))
  case isFalse => exact .notice c.disk ⟨_, false⟩

theorem browsing_prevPage : c.Browsing c.prevPage := by
  unfold prevPage Session.prevPage
  split
  case isTrue started => exact .load _ (.back (of_decide_eq_true started))
  case isFalse => exact .notice c.disk ⟨_, false⟩

theorem browsing_stepLimit (grow : Bool) : c.Browsing (c.stepLimit grow) := by
  cases stepped : Session.steppedLimit c.session.queue.filter.limit grow with
  | none =>
      simp only [stepLimit, Session.stepLimit, stepped, loadOr]
      exact .still
  | some limit =>
      simp only [stepLimit, Session.stepLimit, stepped, loadOr]
      exact .load _ (.resized grow limit stepped)

theorem browsing_chooseLabel (digit : Char) : c.Browsing (c.chooseLabel digit) := by
  unfold chooseLabel Session.chooseLabel
  cases c.session.labels[digit.toNat - '1'.toNat]? with
  | none => exact .notice c.disk ⟨_, true⟩
  | some label => exact .form (fun form => { form with label := label }) rfl

theorem browsing_exportPage : c.Browsing c.exportPage := by
  unfold exportPage
  split
  · exact .notice _ ⟨_, false⟩
  · exact .notice c.disk ⟨_, true⟩

/-- Of the letters only `c` clears the form and only `s` sends it. -/
theorem browsing_letter {letter : Char} (clear : letter ≠ 'c') (save : letter ≠ 's') :
    c.Browsing (c.handleChar letter) := by
  unfold handleChar
  split
  case h_1 => exact c.browsing_cursorDown
  case h_2 => exact c.browsing_cursorUp
  case h_3 => exact c.browsing_nextPage
  case h_4 => exact c.browsing_prevPage
  case h_5 => exact .load _ .again
  case h_6 => exact .load _ (.anew ..)
  case h_7 => exact .filter
  case h_8 | h_9 | h_10 | h_11 => exact c.browsing_stepLimit _
  case h_12 => exact .edit
  case h_13 => exact (save rfl).elim
  case h_14 => exact (clear rfl).elim
  case h_15 => exact c.browsing_exportPage
  case h_16 => exact .help
  case h_17 =>
      split
      · exact c.browsing_chooseLabel letter
      · exact .still

theorem browsing_key (key : KeyPress) (letter : ∀ letter, key.code ≠ .char letter)
    (enter : key.code ≠ .enter) : c.Browsing (c.handleKey key) := by
  unfold handleKey
  split
  · exact .still
  · cases code : key.code with
    | char other => exact (letter other code).elim
    | enter => exact (enter code).elim
    | down => exact c.browsing_cursorDown
    | up => exact c.browsing_cursorUp
    | pageDown => exact c.browsing_nextPage
    | pageUp => exact c.browsing_prevPage
    | tab => exact .form LabelForm.focusNext rfl
    | escape | backspace | left => exact .still

theorem openRow_cases : c.board.rowIds[c.board.cursor]? = none ∧ c.openRow = c ∨
    ∃ id, c.board.rowIds[c.board.cursor]? = some id ∧ c.openRow = c.select id := by
  unfold openRow
  cases row : c.board.rowIds[c.board.cursor]? with
  | none => exact .inl ⟨rfl, rfl⟩
  | some id => exact .inr ⟨id, rfl, rfl⟩

theorem command_openRow : c.Command c.openRow := by
  rcases c.openRow_cases with ⟨-, same⟩ | ⟨id, -, opened⟩
  · rw [same]
    exact .browsing .still
  · exact .select id opened

theorem command_submit : c.Command c.submit := by
  unfold submit Session.beginSubmit
  split
  · exact .browsing (.notice c.disk ⟨_, false⟩)
  · generalize c.session.form.beginSubmit c.session.selection.current = result
    obtain ⟨form, ticket⟩ := result
    cases ticket with
    | ok ticket => exact .submitted form ticket rfl
    | error fault => exact .refused form fault.message rfl

theorem command_letter (letter : Char) : c.Command (c.handleChar letter) := by
  by_cases clear : letter = 'c'
  · subst clear
    exact .clear rfl
  · by_cases save : letter = 's'
    · subst save
      exact c.command_submit
    · exact .browsing (c.browsing_letter clear save)

theorem handleKey_of_quit {key : KeyPress} (quit : isQuit key = true) : c.handleKey key = c :=
  if_pos quit

theorem handleKey_char {key : KeyPress} {letter : Char} (code : key.code = .char letter)
    (goes : isQuit key = false) : c.handleKey key = c.handleChar letter := by
  rw [handleKey, if_neg (by simp [goes]), code]

theorem handleKey_enter {key : KeyPress} (code : key.code = .enter) :
    c.handleKey key = c.openRow := by
  have goes : isQuit key = false := by simp [isQuit, code]
  rw [handleKey, if_neg (by simp [goes]), code]

theorem command_key (key : KeyPress) : c.Command (c.handleKey key) := by
  by_cases quit : isQuit key = true
  · rw [c.handleKey_of_quit quit]
    exact .browsing .still
  · cases code : key.code with
    | char letter =>
        rw [c.handleKey_char code (Bool.eq_false_iff.mpr quit)]
        exact c.command_letter letter
    | enter =>
        rw [c.handleKey_enter code]
        exact c.command_openRow
    | escape | tab | backspace | up | down | left | pageUp | pageDown =>
        exact .browsing (c.browsing_key key (by simp [code]) (by simp [code]))

theorem route_of_commands
    (commands : (c.board.helpMode || c.board.filterMode || c.board.editing) = false)
    (key : KeyPress) : c.route key = (c.handleKey key, !isQuit key) := by
  simp only [Bool.or_eq_false_iff] at commands
  simp [route, commands]

end Console

/-- Modes may be closed; the rows and the cursor stay. -/
structure Board.Settles (b b' : Board) : Prop where
  rows : b'.rowIds = b.rowIds
  cursor : b'.cursor = b.cursor
  help : b'.helpMode = true → b.helpMode = true
  filter : b'.filterMode = true → b.filterMode = true
  edit : b'.editing = true → b.editing = true

theorem Board.Settles.refl (b : Board) : b.Settles b := ⟨rfl, rfl, id, id, id⟩

namespace Console

/-- The ways in which a key can end that is typed. -/
inductive Typing (c : Console) : Console → Prop where
  | board (b : Board) (settles : c.board.Settles b) : Typing c { c with board := b }
  | form (f : LabelForm → LabelForm)
      (calm : (f c.session.form).status = c.session.form.status) : Typing c (c.mapForm f)
  | asked (b : Board) (settles : c.board.Settles b) (filter : Filter)
      (made : c.session.queue.filter.Makes filter) :
      Typing c ({ c with board := b }.load (c.session.beginLoad filter))

variable (c : Console)

theorem typing_helpKey (key : KeyPress) : c.Typing (c.handleHelpKey key) := by
  unfold handleHelpKey
  split
  · exact .board _ ⟨rfl, rfl, nofun, id, id⟩
  · exact .board c.board (.refl c.board)

theorem typing_filterKey (key : KeyPress) : c.Typing (c.handleFilterKey key) := by
  unfold handleFilterKey
  split
  · exact .board _ ⟨rfl, rfl, id, nofun, id⟩
  · exact .asked { c.board with filterMode := false, filterInput := "" }
      ⟨rfl, rfl, id, nofun, id⟩ _ (.anew ..)
  · exact .board _ ⟨rfl, rfl, id, id, id⟩

theorem typing_editKey (key : KeyPress) : c.Typing (c.handleEditKey key) := by
  unfold handleEditKey
  split
  · exact .board _ ⟨rfl, rfl, id, id, nofun⟩
  · exact .board _ ⟨rfl, rfl, id, id, nofun⟩
  · exact .form LabelForm.focusNext rfl
  · exact .form _ (LabelForm.status_set ..)

theorem typing_press
    (typed : (c.board.helpMode || c.board.filterMode || c.board.editing) = true)
    (key : KeyPress) : c.Typing (c.route key).1 := by
  unfold route
  split
  · exact c.typing_helpKey key
  · split
    · exact c.typing_filterKey key
    · split
      · exact c.typing_editKey key
      · simp_all

/-- A key is typed in a mode, and a command where there is none. -/
theorem press_cases (key : KeyPress) : c.Typing (c.route key).1 ∨
    (c.board.helpMode || c.board.filterMode || c.board.editing) = false ∧
      c.Command (c.route key).1 := by
  cases mode : c.board.helpMode || c.board.filterMode || c.board.editing with
  | true => exact .inl (c.typing_press mode key)
  | false =>
      rw [c.route_of_commands mode]
      exact .inr ⟨rfl, c.command_key key⟩

/-- A click opens the row that is found at the cell. -/
theorem click_cases (x y : UInt16) : c.click x y = c ∨ ∃ index id,
    c.board.rowAt? x y = some (index, id) ∧
      c.click x y = { c with board := { c.board with cursor := index } }.select id := by
  unfold click
  split
  · exact .inl rfl
  · split
    case h_1 index id found => exact .inr ⟨index, id, found, rfl⟩
    case h_2 => exact .inl rfl

theorem settles_arrive (arrival : Arrival) : c.board.Settles (c.arrive arrival).board := by
  unfold arrive receive
  generalize c.session.receive arrival = r
  obtain ⟨s, requests, notice⟩ := r
  cases notice with
  | none => exact .refl c.board
  | some text => cases arrival.isFault <;> exact ⟨rfl, rfl, id, id, id⟩

end Console
end ReviewDesk
