import ReviewDesk.Proofs.Console.Keys

/-!
Runs of the console: keys in any mode, clicks, and answers to requests that are outstanding, in any
order. The outbox holds what was sent off and is not answered yet. Each event comes to one action of
the session at most, and the outbox follows the entries that the action leaves.
-/

namespace ReviewDesk

open Session (Action Entry)

namespace Session.Entry

/-- What an entry means for the requests that are outstanding. -/
def settle : Entry → List Dispatch → List Dispatch
  | .loadAsked ticket, outbox => outbox ++ [.load ticket]
  | .pageCame ticket _ _, outbox => outbox.erase (.load ticket)
  | .selectAsked ticket, outbox => outbox ++ [.select ticket]
  | .detailCame ticket _ _, outbox => outbox.erase (.select ticket)
  | .submitAsked ticket, outbox => outbox ++ [.submit ticket]
  | .savedCame ticket _, outbox => outbox.erase (.submit ticket)

/-- An entry about an answer answers a request that is outstanding. -/
def Awaited (outbox : List Dispatch) : Entry → Prop
  | .pageCame ticket _ _ => .load ticket ∈ outbox
  | .detailCame ticket _ _ => .select ticket ∈ outbox
  | .savedCame ticket _ => .submit ticket ∈ outbox
  | _ => True

end Session.Entry

namespace Console

/-- What can happen to a console. A key is read in the mode that the board is in, or by one of the
handlers whatever the mode. -/
inductive Event where
  | press (key : KeyPress)
  | commandKey (key : KeyPress)
  | filterKey (key : KeyPress)
  | editKey (key : KeyPress)
  | click (x y : UInt16)
  | deliver (arrival : Arrival)
  | sync
  | draw

/-- Takes in the answer to a request that is outstanding. There is no other answer. -/
def deliver (c : Console) (arrival : Arrival) : Console :=
  if arrival.request ∈ c.outbox then
    { c with outbox := c.outbox.erase arrival.request }.arrive arrival
  else c

theorem settles_deliver (c : Console) (arrival : Arrival) :
    c.board.Settles (c.deliver arrival).board := by
  unfold deliver
  split
  · exact { c with outbox := c.outbox.erase arrival.request : Console }.settles_arrive arrival
  · exact .refl c.board

/-- What an event comes to. A console that cannot show its page has stopped; it is left as it was. -/
def step (c : Console) : Event → Console
  | .press key => (c.route key).1
  | .commandKey key => c.handleKey key
  | .filterKey key => c.handleFilterKey key
  | .editKey key => c.handleEditKey key
  | .click x y => c.click x y
  | .deliver arrival => c.deliver arrival
  | .sync => c.sync?.getD c
  | .draw => (c.draw?.map Prod.fst).getD c

def run (c : Console) (events : List Event) : Console :=
  events.foldl step c

/-- A page that is taken over, or drawn, changes the board if there is a view of it. -/
theorem step_sync (c : Console) : c.session.view? = none ∧ c.step .sync = c ∨
    ∃ view, c.session.view? = some view ∧
      c.step .sync = { c with board := c.board.sync view } := by
  rw [step, sync?]
  cases shown : c.session.view? with
  | none => exact .inl ⟨rfl, rfl⟩
  | some view => exact .inr ⟨view, rfl, rfl⟩

theorem step_draw (c : Console) : c.session.view? = none ∧ c.step .draw = c ∨
    ∃ view, c.session.view? = some view ∧
      c.step .draw = { c with board := (c.board.sync view).show } := by
  rw [step, draw?]
  cases shown : c.session.view? with
  | none => exact .inl ⟨rfl, rfl⟩
  | some view => exact .inr ⟨view, rfl, rfl⟩

/-- The key of an event that is read as a command. -/
def Event.command? (c : Console) : Event → Option KeyPress
  | .commandKey key => some key
  | .press key =>
    if c.board.helpMode || c.board.filterMode || c.board.editing then none else some key
  | _ => none

/-- The event is the command with that letter. -/
def Event.Commands (c : Console) (e : Event) (letter : Char) : Prop :=
  ∃ key, e.command? c = some key ∧ isQuit key = false ∧ key.code = .char letter

/-- One console follows on another by an action of its session, or by none. -/
inductive Does (c c' : Console) : Option Action → Prop where
  | nothing (session : c'.session = c.session) (outbox : c'.outbox = c.outbox) : Does c c' none
  | action (a : Action) (session : c'.session = c.session.act a)
      (outbox : c'.outbox = (c.session.entries a).foldr Entry.settle c.outbox) :
      Does c c' (some a)

theorem does_load (c : Console) (filter : Filter) :
    c.Does (c.load (c.session.beginLoad filter)) (some (.load filter)) :=
  .action _ rfl rfl

theorem does_select (c : Console) (id : String) : c.Does (c.select id) (some (.select id)) :=
  .action _ rfl rfl

/-- The label that is being saved, if any, is not touched: a page is asked for by a filter that is made
from that of the page, or the form is changed and its status is not, or nothing is done. -/
inductive Browses (c c' : Console) : Prop where
  | nothing (does : c.Does c' none)
  | load (filter : Filter) (made : c.session.queue.filter.Makes filter)
      (does : c.Does c' (some (.load filter)))
  | edit (form : LabelForm) (calm : form.status = c.session.form.status)
      (does : c.Does c' (some (.edit form)))

theorem Browsing.browses {c c' : Console} (browsing : c.Browsing c') : c.Browses c' := by
  cases browsing with
  | load filter made => exact .load filter made (c.does_load filter)
  | form f calm => exact .edit (f c.session.form) calm (.action _ rfl rfl)
  | _ => exact .nothing (.nothing rfl rfl)

theorem Typing.browses {c c' : Console} (typing : c.Typing c') : c.Browses c' := by
  cases typing with
  | board b settles => exact .nothing (.nothing rfl rfl)
  | form f calm => exact .edit (f c.session.form) calm (.action _ rfl rfl)
  | asked b settles filter made => exact .load filter made (.action _ rfl rfl)

theorem does_submit (c : Console) (free : c.session.form.status ≠ .submitting) :
    c.Does c.submit (some .submit) := by
  rw [submit, if_neg free]
  cases begun : c.session.beginSubmit with
  | mk s result =>
      cases result with
      | error fault =>
          exact .action _ (by simp [Session.act, begun, warn])
            (by simp [Session.entries, begun, warn, Except.toOption])
      | ok ticket =>
          exact .action _ (by simp [Session.act, begun, send])
            (by simp [Session.entries, begun, send, Except.toOption, Entry.settle])

end Console

def Arrival.action : Arrival → Action
  | .page ticket answer => .page ticket answer
  | .detail ticket answer => .detail ticket answer
  | .saved ticket answer => .saved ticket answer

theorem Arrival.eq_of_action {arrival other : Arrival} (same : arrival.action = other.action) :
    arrival = other := by
  cases arrival <;> cases other <;> cases same <;> rfl

theorem Session.receive_session (s : Session) (arrival : Arrival) :
    (s.receive arrival).1 = s.act arrival.action := by
  cases arrival with
  | page ticket answer =>
      simp only [receive, onPage, act, Arrival.action]
      split <;> rfl
  | detail ticket answer =>
      simp only [receive, onDetail, act, Arrival.action]
      split <;> rfl
  | saved ticket answer =>
      simp only [receive, onSaved, act, Arrival.action]
      split <;> rfl

/-- The entries of an answer take its request out of the outbox and put in what it asks for. -/
theorem Session.settle_receive (s : Session) (arrival : Arrival) (outbox : List Dispatch) :
    (s.entries arrival.action).foldr Entry.settle outbox =
      outbox.erase arrival.request ++ (s.receive arrival).2.1 := by
  cases arrival with
  | page ticket answer =>
      generalize result : s.onQueueResult ticket answer = r
      obtain ⟨s', outcome⟩ := r
      cases outcome <;>
        simp [receive, onPage, entries, result, Arrival.action, Arrival.request, Entry.settle,
          LoadOutcome.next?]
  | detail ticket answer =>
      generalize result : s.onDetailResult ticket answer = r
      obtain ⟨s', outcome⟩ := r
      cases outcome <;>
        simp [receive, onDetail, entries, result, Arrival.action, Arrival.request, Entry.settle]
  | saved ticket answer =>
      generalize result : s.onSubmitResult answer = r
      obtain ⟨s', reload⟩ := r
      cases reload with
      | none =>
          cases answer <;>
            simp [receive, onSaved, entries, result, Arrival.action, Arrival.request,
              Entry.settle]
      | some reload =>
          simp [receive, onSaved, entries, result, Arrival.action, Arrival.request, Entry.settle]

namespace Console

theorem does_arrive (c : Console) (arrival : Arrival) :
    (c.arrive arrival).session = c.session.act arrival.action ∧
      (c.arrive arrival).outbox = c.outbox ++ (c.session.receive arrival).2.1 := by
  rw [← Session.receive_session]
  unfold arrive receive
  generalize c.session.receive arrival = r
  obtain ⟨s, requests, notice⟩ := r
  cases notice with
  | none => exact ⟨rfl, rfl⟩
  | some text =>
      cases arrival.isFault with
      | true => exact ⟨rfl, rfl⟩
      | false => exact ⟨rfl, rfl⟩

theorem does_deliver (c : Console) (arrival : Arrival) (outstanding : arrival.request ∈ c.outbox) :
    c.Does (c.deliver arrival) (some arrival.action) := by
  obtain ⟨session, outbox⟩ :=
    { c with outbox := c.outbox.erase arrival.request : Console }.does_arrive arrival
  rw [deliver, if_pos outstanding]
  refine .action _ session ?_
  rw [outbox, Session.settle_receive]

/-- What an event comes to. Only the command `c` clears the form, and only the command `s` sends
it. -/
inductive Comes (c : Console) (e : Event) : Prop where
  | browses (clear : ¬e.Commands c 'c')
      (save : e.Commands c 's' → c.session.form.status = .submitting)
      (does : c.Browses (c.step e))
  | selects (clear : ¬e.Commands c 'c') (save : ¬e.Commands c 's') (id : String)
      (does : c.Does (c.step e) (some (.select id)))
  | clears (command : e.Commands c 'c')
      (does : c.Does (c.step e) (some (.edit c.session.form.clear)))
  | submits (command : e.Commands c 's') (free : c.session.form.status ≠ .submitting)
      (does : c.Does (c.step e) (some .submit))
  | answered (arrival : Arrival) (same : e = .deliver arrival)
      (outstanding : arrival.request ∈ c.outbox)
      (does : c.Does (c.step e) (some arrival.action))

theorem not_commands {c : Console} {e : Event} (other : e.command? c = none) (letter : Char) :
    ¬e.Commands c letter := by
  rintro ⟨key, command, _⟩
  rw [other] at command
  cases command

theorem commands_iff {c : Console} {e : Event} {key : KeyPress} (command : e.command? c = some key)
    (letter : Char) : e.Commands c letter ↔ isQuit key = false ∧ key.code = .char letter := by
  constructor
  · rintro ⟨key', command', means⟩
    rw [command] at command'
    cases command'
    exact means
  · exact fun means => ⟨key, command, means⟩

theorem comes_of_browses {c : Console} {e : Event} (silent : ∀ letter, ¬e.Commands c letter)
    (browses : c.Browses (c.step e)) : c.Comes e :=
  .browses (silent 'c') (fun save => (silent 's' save).elim) browses

theorem comes_letter (c : Console) (e : Event) (letter : Char)
    (commands : ∀ other, e.Commands c other ↔ letter = other)
    (step : c.step e = c.handleChar letter) : c.Comes e := by
  by_cases clear : letter = 'c'
  · subst clear
    exact .clears ((commands 'c').mpr rfl) (step ▸ .action _ rfl rfl)
  · by_cases save : letter = 's'
    · subst save
      have handled : c.step e = c.submit := step
      by_cases busy : c.session.form.status = .submitting
      · refine .browses (mt (commands 'c').mp clear) (fun _ => busy) (.nothing ?_)
        rw [handled, submit, if_pos busy]
        exact .nothing rfl rfl
      · exact .submits ((commands 's').mpr rfl) busy (handled ▸ c.does_submit busy)
    · exact .browses (mt (commands 'c').mp clear) (fun h => (save ((commands 's').mp h)).elim)
        (step ▸ (c.browsing_letter clear save).browses)

theorem comes_key (c : Console) (e : Event) (key : KeyPress) (command : e.command? c = some key)
    (step : c.step e = c.handleKey key) : c.Comes e := by
  have silent (h : isQuit key = true ∨ ∀ letter, key.code ≠ .char letter) (letter : Char) :
      ¬e.Commands c letter := by
    rw [commands_iff command]
    rintro ⟨goes, code⟩
    rcases h with quit | other
    · rw [quit] at goes
      cases goes
    · exact other letter code
  by_cases quit : isQuit key = true
  · refine comes_of_browses (silent (.inl quit)) ?_
    rw [step, c.handleKey_of_quit quit]
    exact .nothing (.nothing rfl rfl)
  · have goes : isQuit key = false := Bool.eq_false_iff.mpr quit
    cases code : key.code with
    | char letter =>
        rw [c.handleKey_char code goes] at step
        refine c.comes_letter e letter (fun other => ?_) step
        rw [commands_iff command, code]
        simp [goes]
    | enter =>
        have other := silent (.inr (by simp [code]))
        rw [c.handleKey_enter code] at step
        rcases c.openRow_cases with ⟨-, same⟩ | ⟨id, -, opened⟩
        · refine comes_of_browses other (.nothing ?_)
          rw [step, same]
          exact .nothing rfl rfl
        · refine .selects (other 'c') (other 's') id ?_
          rw [step, opened]
          exact c.does_select id
    | escape | tab | backspace | up | down | left | pageUp | pageDown =>
        have other := silent (.inr (by simp [code]))
        refine comes_of_browses other ?_
        rw [step]
        exact (c.browsing_key key (by simp [code]) (by simp [code])).browses

theorem comes_press (c : Console) (key : KeyPress) : c.Comes (.press key) := by
  by_cases typing : (c.board.helpMode || c.board.filterMode || c.board.editing) = true
  · have other := not_commands (c := c) (e := .press key) (if_pos typing)
    exact comes_of_browses other (c.typing_press typing key).browses
  · refine c.comes_key _ key (if_neg typing) ?_
    rw [step, c.route_of_commands (Bool.eq_false_iff.mpr typing)]

theorem comes_click (c : Console) (x y : UInt16) : c.Comes (.click x y) := by
  have other := not_commands (c := c) (e := .click x y) rfl
  rcases c.click_cases x y with same | ⟨index, id, -, opened⟩
  · refine comes_of_browses other (.nothing ?_)
    rw [step, same]
    exact .nothing rfl rfl
  · refine .selects (other 'c') (other 's') id ?_
    rw [step, opened]
    exact .action _ rfl rfl

theorem step_comes (c : Console) (e : Event) : c.Comes e := by
  cases e with
  | press key => exact c.comes_press key
  | commandKey key => exact c.comes_key _ key rfl rfl
  | click x y => exact c.comes_click x y
  | filterKey key => exact comes_of_browses (not_commands rfl) (c.typing_filterKey key).browses
  | editKey key => exact comes_of_browses (not_commands rfl) (c.typing_editKey key).browses
  | sync =>
      refine comes_of_browses (not_commands rfl) (.nothing ?_)
      rcases c.step_sync with ⟨-, same⟩ | ⟨view, -, same⟩ <;>
        exact .nothing (by rw [same]) (by rw [same])
  | draw =>
      refine comes_of_browses (not_commands rfl) (.nothing ?_)
      rcases c.step_draw with ⟨-, same⟩ | ⟨view, -, same⟩ <;>
        exact .nothing (by rw [same]) (by rw [same])
  | deliver arrival =>
      by_cases outstanding : arrival.request ∈ c.outbox
      · exact .answered arrival rfl outstanding (c.does_deliver arrival outstanding)
      · refine comes_of_browses (not_commands rfl) (.nothing ?_)
        rw [step, deliver, if_neg outstanding]
        exact .nothing rfl rfl

@[simp] theorem run_nil (c : Console) : c.run [] = c := rfl

@[simp] theorem run_append (c : Console) (before after : List Event) :
    c.run (before ++ after) = (c.run before).run after := List.foldl_append ..

@[simp] theorem run_cons (c : Console) (e : Event) (events : List Event) :
    c.run (e :: events) = (c.step e).run events := rfl

/-- A property of the session and the outbox that every step keeps. -/
def Invariant (P : Session → List Dispatch → Prop) : Prop :=
  ∀ (s : Session) (outbox : List Dispatch) (entries : List Entry) (s' : Session),
    s.Step entries s' → (∀ entry ∈ entries, entry.Awaited outbox) → P s outbox →
      P s' (entries.foldr Entry.settle outbox)

/-- Only an action that takes in an answer needs a request that is outstanding. -/
theorem awaited_of_outstanding (s : Session) {a : Action} {outbox : List Dispatch}
    (outstanding : ∀ arrival : Arrival, a = arrival.action → arrival.request ∈ outbox) :
    ∀ entry ∈ s.entries a, entry.Awaited outbox := by
  apply Session.forall_mem_entries (P := Entry.Awaited outbox) s a (fun _ => trivial)
    (fun _ => trivial) (fun _ => trivial)
  · intro ticket answer outcome came
    exact outstanding (.page ticket answer) came
  · intro ticket answer outcome came
    exact outstanding (.detail ticket answer) came
  · intro ticket answer came
    exact outstanding (.saved ticket answer) came

theorem keeps_of_does {P : Session → List Dispatch → Prop} (invariant : Invariant P)
    {c c' : Console} {a : Action} (does : c.Does c' (some a))
    (awaited : ∀ arrival : Arrival, a = arrival.action → arrival.request ∈ c.outbox)
    (holds : P c.session c.outbox) : P c'.session c'.outbox := by
  cases does with
  | action _ session outbox =>
      rw [session, outbox]
      exact invariant _ _ _ _ (c.session.step_act a) (awaited_of_outstanding c.session awaited) holds

theorem step_keeps {P : Session → List Dispatch → Prop} (invariant : Invariant P) (c : Console)
    (e : Event) (holds : P c.session c.outbox) : P (c.step e).session (c.step e).outbox := by
  have silent {a : Action} (other : ∀ arrival : Arrival, a ≠ arrival.action)
      (does : c.Does (c.step e) (some a)) : P (c.step e).session (c.step e).outbox :=
    keeps_of_does invariant does (fun arrival came => (other arrival came).elim) holds
  cases c.step_comes e with
  | browses _ _ browses =>
      cases browses with
      | nothing does =>
          cases does with
          | nothing session outbox =>
              rw [session, outbox]
              exact holds
      | load filter _ does => exact silent (by rintro ⟨⟩ <;> exact nofun) does
      | edit form _ does => exact silent (by rintro ⟨⟩ <;> exact nofun) does
  | selects _ _ id does => exact silent (by rintro ⟨⟩ <;> exact nofun) does
  | clears _ does => exact silent (by rintro ⟨⟩ <;> exact nofun) does
  | submits _ _ does => exact silent (by rintro ⟨⟩ <;> exact nofun) does
  | answered arrival _ outstanding does =>
      refine keeps_of_does invariant does (fun other came => ?_) holds
      rwa [← Arrival.eq_of_action came]

theorem run_keeps {P : Session → List Dispatch → Prop} (invariant : Invariant P) (c : Console)
    (events : List Event) (holds : P c.session c.outbox) :
    P (c.run events).session (c.run events).outbox := by
  induction events generalizing c with
  | nil => exact holds
  | cons e rest ih => exact ih (c.step e) (step_keeps invariant c e holds)

end Console
end ReviewDesk
