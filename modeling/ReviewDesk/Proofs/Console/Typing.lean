import ReviewDesk.Proofs.Console.Modes

/-!
Typing. While a field of the form or the detector is typed no key is a command: what is typed is the
text before, with the strokes of the keys put on it one after the other, and nothing else comes of a
key until Enter ends the prompt and asks for a page with what was typed.
-/

namespace ReviewDesk

/-- What a key does to a text that is typed. -/
inductive Stroke where
  | append (c : Char)
  | dropLast
  | clear
deriving DecidableEq

def Stroke.apply (text : List Char) : Stroke → List Char
  | .append c => text ++ [c]
  | .dropLast => text.dropLast
  | .clear => []

namespace KeyPress

/-- Backspace drops the last character and Ctrl-u all of them. A character is put at the end unless
Ctrl or Alt is held. -/
def stroke? (key : KeyPress) : Option Stroke :=
  match key.code with
  | .backspace => some .dropLast
  | .char c =>
    if c = 'u' ∧ key.ctrl then some .clear
    else if key.ctrl ∨ key.alt then none
    else some (.append c)
  | _ => none

/-- The key ends typing. -/
def Ends (key : KeyPress) : Prop := key.code = .enter ∨ key.code = .escape

end KeyPress

/-- The text after the keys were typed. -/
def typed (text : String) (keys : List KeyPress) : String :=
  String.ofList ((keys.filterMap KeyPress.stroke?).foldl Stroke.apply text.toList)

namespace Console

theorem toList_editText (text : String) (key : KeyPress) :
    (editText text key).toList = (key.stroke?.elim text.toList (Stroke.apply text.toList)) := by
  unfold editText KeyPress.stroke?
  cases key.code with
  | backspace => exact String.toList_ofList
  | char c =>
      dsimp only
      split
      · rfl
      · split
        · rfl
        · exact String.toList_push ..
  | _ => rfl

theorem editText_of_stroke? {text : String} {key : KeyPress} (none : key.stroke? = none) :
    editText text key = text := by
  rw [← String.toList_inj, toList_editText, none]
  rfl

end Console

@[simp] theorem typed_nil (text : String) : typed text [] = text := String.ofList_toList

theorem typed_cons (text : String) (key : KeyPress) (rest : List KeyPress) :
    typed text (key :: rest) = typed (Console.editText text key) rest := by
  rw [typed, typed, List.filterMap_cons, Console.toList_editText]
  cases key.stroke? with
  | some stroke => rfl
  | none => rfl

namespace LabelForm

theorem get_set (f : LabelForm) (field other : FormField) (text : String) :
    (f.set field text).get other = if field = other then text else f.get other := by
  cases field <;> cases other <;> rfl

theorem get_focusNext (f : LabelForm) (field : FormField) : f.focusNext.get field = f.get field := by
  cases field <;> rfl

end LabelForm

namespace Console

/-- Nothing is sent off or written, and of the session only the texts of the form and its focus may
differ. -/
structure Quiet (c c' : Console) : Prop where
  outbox : c'.outbox = c.outbox
  disk : c'.disk = c.disk
  queue : c'.session.queue = c.session.queue
  selection : c'.session.selection = c.session.selection
  labels : c'.session.labels = c.session.labels
  status : c'.session.form.status = c.session.form.status

theorem Quiet.refl (c : Console) : c.Quiet c := ⟨rfl, rfl, rfl, rfl, rfl, rfl⟩

theorem Quiet.trans {c₁ c₂ c₃ : Console} (first : c₁.Quiet c₂) (second : c₂.Quiet c₃) :
    c₁.Quiet c₃ where
  outbox := second.outbox.trans first.outbox
  disk := second.disk.trans first.disk
  queue := second.queue.trans first.queue
  selection := second.selection.trans first.selection
  labels := second.labels.trans first.labels
  status := second.status.trans first.status

variable (c : Console)

theorem quiet_mapForm {f : LabelForm → LabelForm}
    (status : (f c.session.form).status = c.session.form.status) : c.Quiet (c.mapForm f) :=
  ⟨rfl, rfl, rfl, rfl, rfl, status⟩

theorem quiet_editKey (key : KeyPress) : c.Quiet (c.handleEditKey key) := by
  unfold handleEditKey
  split
  · exact ⟨rfl, rfl, rfl, rfl, rfl, rfl⟩
  · exact ⟨rfl, rfl, rfl, rfl, rfl, rfl⟩
  · exact c.quiet_mapForm rfl
  · exact c.quiet_mapForm (LabelForm.status_set ..)

/-- A key changes the text of the focused field, and only if it has a stroke. -/
theorem get_editKey (key : KeyPress) (field : FormField) :
    (c.handleEditKey key).session.form.get field =
      if c.session.form.focus = field then editText (c.session.form.get field) key
      else c.session.form.get field := by
  unfold handleEditKey
  split
  case h_1 code | h_2 code =>
      rw [editText_of_stroke? (by simp [KeyPress.stroke?, code]), ite_self]
  case h_3 code =>
      rw [editText_of_stroke? (by simp [KeyPress.stroke?, code]), ite_self]
      exact LabelForm.get_focusNext ..
  case h_4 =>
      change (LabelForm.set ..).get field = _
      rw [LabelForm.get_set]
      split
      case isTrue same => rw [same]
      case isFalse => rfl

theorem board_editKey {key : KeyPress} (goes : ¬key.Ends) :
    (c.handleEditKey key).board = c.board := by
  rw [KeyPress.Ends, not_or] at goes
  unfold handleEditKey
  split
  case h_1 code => exact (goes.2 code).elim
  case h_2 code => exact (goes.1 code).elim
  case h_3 | h_4 => rfl

/-- The keys that are pressed while the field is in focus. -/
def pressedAt (c : Console) (field : FormField) : List KeyPress → List KeyPress
  | [] => []
  | key :: rest =>
    (if c.session.form.focus = field then [key] else []) ++ (c.route key).1.pressedAt field rest

variable {c}

theorem route_editing (one : c.board.OneMode) (on : c.board.editing = true) (key : KeyPress) :
    c.route key = (c.handleEditKey key, true) := by
  obtain ⟨help, filter⟩ := one.of_editing on
  simp [route, help, filter, on]

theorem route_prompt (one : c.board.OneMode) (on : c.board.filterMode = true) (key : KeyPress) :
    c.route key = (c.handleFilterKey key, true) := by
  simp [route, one.of_filterMode on, on]

/-- Typing goes on over keys that do not end it, and each field gets the keys that are meant for
it. -/
theorem edit_run (one : c.board.OneMode) (on : c.board.editing = true) {keys : List KeyPress}
    (goes : ∀ key ∈ keys, ¬key.Ends) :
    (c.run (keys.map .press)).board = c.board ∧ c.Quiet (c.run (keys.map .press)) ∧
      ∀ field, (c.run (keys.map .press)).session.form.get field =
        typed (c.session.form.get field) (c.pressedAt field keys) := by
  induction keys generalizing c with
  | nil => exact ⟨rfl, .refl c, fun field => (typed_nil _).symm⟩
  | cons key rest ih =>
      obtain ⟨first, others⟩ := List.forall_mem_cons.mp goes
      have board := c.board_editKey first
      have here : c.step (.press key) = c.handleEditKey key :=
        congrArg Prod.fst (route_editing one on key)
      rw [List.map_cons, run_cons, here]
      -- the board is as before, so the next key is typed as well
      rw [← board] at one on
      obtain ⟨stays, quiet, texts⟩ := ih one on others
      refine ⟨stays.trans board, (c.quiet_editKey key).trans quiet, fun field => ?_⟩
      rw [texts field, c.get_editKey key field, pressedAt]
      change _ = typed _ (_ ++ (c.step (.press key)).pressedAt field rest)
      rw [here]
      split
      · exact (typed_cons ..).symm
      · rfl

/-- The console with that text in the prompt. -/
def prompting (c : Console) (text : String) : Console :=
  { c with board := { c.board with filterInput := text } }

theorem filterKey_of_not_ends {key : KeyPress} (goes : ¬key.Ends) :
    c.handleFilterKey key = c.prompting (editText c.board.filterInput key) := by
  rw [KeyPress.Ends, not_or] at goes
  unfold handleFilterKey
  split
  case h_1 code => exact (goes.2 code).elim
  case h_2 code => exact (goes.1 code).elim
  case h_3 => rfl

theorem prompt_run (one : c.board.OneMode) (on : c.board.filterMode = true) {keys : List KeyPress}
    (goes : ∀ key ∈ keys, ¬key.Ends) :
    c.run (keys.map .press) = c.prompting (typed c.board.filterInput keys) := by
  induction keys generalizing c with
  | nil =>
      rw [typed_nil]
      rfl
  | cons key rest ih =>
      obtain ⟨first, others⟩ := List.forall_mem_cons.mp goes
      have here : c.step (.press key) = c.prompting (editText c.board.filterInput key) := by
        rw [step, route_prompt one on, filterKey_of_not_ends first]
      have after : (c.prompting (editText c.board.filterInput key)).run (rest.map .press) =
          (c.prompting (editText c.board.filterInput key)).prompting
            (typed (editText c.board.filterInput key) rest) := ih one on others
      rw [List.map_cons, run_cons, here, after, typed_cons]
      rfl

/-- The one request that is made is a load with that filter. -/
structure AsksFor (c : Console) (filter : Filter) (c' : Console) : Prop where
  session : c'.session = (c.session.beginLoad filter).1
  disk : c'.disk = c.disk
  outbox : ∃ ticket : LoadTicket, ticket.filter = filter ∧ c'.outbox = c.outbox ++ [.load ticket]

theorem asksFor_load (c : Console) (board : Board) (filter : Filter) :
    c.AsksFor filter ({ c with board := board }.load (c.session.beginLoad filter)) :=
  ⟨rfl, rfl, (c.session.beginLoad filter).2, rfl, rfl⟩

theorem setDetector_of_tidy {s : Session} (tidy : s.queue.filter.Tidy) (text : String) :
    s.setDetector (some text) = s.beginLoad
      { s.queue.filter with detector := Text.trimToOption text, offset := 0 } := by
  have limit : s.queue.filter.limit ≠ 0 := by
    intro none
    have least := tidy.limit
    rw [none] at least
    cases least
  rw [Session.setDetector, Filter.normalized, if_neg limit, Option.bind_some]

theorem asksFor_enter (tidy : c.session.queue.filter.Tidy) {key : KeyPress}
    (code : key.code = .enter) : c.AsksFor
      { c.session.queue.filter with
        detector := Text.trimToOption c.board.filterInput, offset := 0 } (c.handleFilterKey key) := by
  unfold handleFilterKey
  rw [code]
  dsimp only
  rw [setDetector_of_tidy tidy]
  exact c.asksFor_load _ _

theorem filterKey_of_not_enter {key : KeyPress} (other : key.code ≠ .enter) :
    ∃ board, c.handleFilterKey key = { c with board := board } := by
  unfold handleFilterKey
  split
  case h_1 => exact ⟨_, rfl⟩
  case h_2 code => exact (other code).elim
  case h_3 => exact ⟨_, rfl⟩

theorem handleKey_slash (c : Console) {key : KeyPress} (code : key.code = .char '/') :
    c.handleKey key = c.startFilter :=
  c.handleKey_char code (by simp [isQuit, code])

/-- A prompt that is left with the text that it was opened with asks for the same detector. -/
theorem asksFor_reopened (tidy : c.session.queue.filter.Tidy)
    (commands : (c.board.helpMode || c.board.filterMode || c.board.editing) = false)
    {slash enter : KeyPress} {keys : List KeyPress} (opens : slash.code = .char '/')
    (goes : ∀ key ∈ keys, ¬key.Ends) (confirms : enter.code = .enter)
    (same : typed (c.session.queue.filter.detector.getD "") keys =
      c.session.queue.filter.detector.getD "") :
    c.AsksFor { c.session.queue.filter with offset := 0 }
      (c.run ((slash :: (keys ++ [enter])).map .press)) := by
  have opened : c.step (.press slash) = c.startFilter := by
    rw [step, c.route_of_commands commands, c.handleKey_slash opens]
  have one : c.startFilter.board.OneMode := (Command.browsing .filter).oneMode commands
  have prompt : c.startFilter.run (keys.map .press) = c.startFilter := by
    rw [prompt_run one rfl goes]
    exact congrArg c.startFilter.prompting same
  have trimmed : ∀ id ∈ c.session.queue.filter.detector, Text.Trimmed id := by
    intro id named
    obtain ⟨counts, own⟩ := tidy.detector id named
    exact ⟨fun none => counts ((Text.trim_eq_empty_iff id).mp (own.trans none)), own⟩
  have kept : Text.trimToOption (c.session.queue.filter.detector.getD "") =
      c.session.queue.filter.detector := Text.trimToOption_getD trimmed
  have asks : c.startFilter.AsksFor { c.session.queue.filter with
      detector := Text.trimToOption (c.session.queue.filter.detector.getD ""), offset := 0 }
      (c.startFilter.handleFilterKey enter) := asksFor_enter (c := c.startFilter) tidy confirms
  rw [kept] at asks
  rw [List.map_cons, run_cons, opened, List.map_append, run_append, prompt]
  change c.AsksFor _ (c.startFilter.route enter).1
  rw [route_prompt one rfl]
  exact ⟨asks.session, asks.disk, asks.outbox⟩

/-- Two letters of commands, one with Ctrl, and another one in the next field. -/
def commandLetters : List KeyPress :=
  [{ code := .char 'q' }, { code := .char 'x', ctrl := true }, { code := .tab },
    { code := .char 's' }]

/-- The form is opened. -/
def formOpened : List Event := [.press { code := .char 'e' }]

end Console
end ReviewDesk
