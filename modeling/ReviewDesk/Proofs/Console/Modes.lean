import ReviewDesk.Proofs.Console.Run
import ReviewDesk.Proofs.Session.Tidy

/-!
The modes that keys are read in. Where each key is read in the mode of the board, only a command opens
a mode, and there is no command while a mode is on; so there is one at most. And the filters that are
asked for are tidy throughout, since commands and corrections start from tidy ones.
-/

namespace ReviewDesk

namespace Board

/-- At most one of the modes is on. -/
def OneMode (b : Board) : Prop :=
  [b.helpMode, b.filterMode, b.editing].count true ≤ 1

instance (b : Board) : Decidable b.OneMode := inferInstanceAs (Decidable (_ ≤ _))

variable {b b' : Board}

theorem OneMode.settled (one : b.OneMode) (settles : b.Settles b') : b'.OneMode := by
  obtain ⟨-, -, help, filter, edit⟩ := settles
  -- there are six switches only, so all of their positions are tried
  unfold OneMode at one ⊢
  revert one help filter edit
  generalize b.helpMode = h, b.filterMode = f, b.editing = e
  generalize b'.helpMode = h', b'.filterMode = f', b'.editing = e'
  revert h f e h' f' e'
  decide

theorem OneMode.of_editing (one : b.OneMode) (on : b.editing = true) :
    b.helpMode = false ∧ b.filterMode = false := by
  unfold OneMode at one
  cases help : b.helpMode <;> cases filter : b.filterMode <;> simp_all

theorem OneMode.of_filterMode (one : b.OneMode) (on : b.filterMode = true) :
    b.helpMode = false := by
  unfold OneMode at one
  cases help : b.helpMode <;> simp_all

theorem OneMode.sync (one : b.OneMode) (view : View) : (b.sync view).OneMode := by
  unfold Board.sync
  dsimp only
  split <;> split <;> exact one

theorem OneMode.show (one : b.OneMode) : b.show.OneMode := by
  unfold Board.show
  split <;> exact one

end Board

namespace Console

variable {c c' : Console}

theorem Command.oneMode (command : c.Command c')
    (commands : (c.board.helpMode || c.board.filterMode || c.board.editing) = false) :
    c'.board.OneMode := by
  simp only [Bool.or_eq_false_iff] at commands
  obtain ⟨⟨help, filter⟩, edit⟩ := commands
  have none : c.board.OneMode := by simp [Board.OneMode, help, filter, edit]
  cases command with
  | browsing browsing =>
      cases browsing with
      | help | filter | edit => simp [Board.OneMode, startFilter, help, filter, edit]
      | _ => exact none
  | select _ same | clear same | submitted _ _ same | refused _ _ same =>
      rw [same]
      exact none

theorem Typing.oneMode (typing : c.Typing c') (one : c.board.OneMode) : c'.board.OneMode := by
  cases typing with
  | board b settles | asked b settles => exact one.settled settles
  | form f calm => exact one

theorem oneMode_press (one : c.board.OneMode) (key : KeyPress) : (c.route key).1.board.OneMode := by
  rcases c.press_cases key with typing | ⟨commands, command⟩
  · exact typing.oneMode one
  · exact command.oneMode commands

theorem oneMode_click (one : c.board.OneMode) (x y : UInt16) : (c.click x y).board.OneMode := by
  rcases c.click_cases x y with same | ⟨index, id, -, opened⟩
  · rw [same]
    exact one
  · rw [opened]
    exact one

end Console

/-- The filter of the page is tidy, and so are those of the loads that are outstanding. -/
structure Session.TidyRequests (s : Session) (outbox : List Dispatch) : Prop where
  filter : s.queue.filter.Tidy
  loads : ∀ ticket, .load ticket ∈ outbox → ticket.filter.Tidy

namespace Session

variable {s s' : Session} {outbox outbox' : List Dispatch} {entries : List Entry}

theorem TidyRequests.calm (tidy : TidyRequests s outbox)
    (same : s'.queue.filter = s.queue.filter)
    (sent : ∀ ticket, .load ticket ∈ outbox' → .load ticket ∈ outbox) :
    TidyRequests s' outbox' where
  filter := by
    rw [same]
    exact tidy.filter
  loads ticket member := tidy.loads ticket (sent ticket member)

theorem TidyRequests.asked (tidy : TidyRequests s outbox) {filter : Filter} (asks : filter.Tidy)
    (corrective : Bool) (queue : s'.queue = (s.queue.issue filter corrective).1)
    (sent : ∀ request ∈ outbox', request ∈ outbox ∨
      request = .load (s.queue.issue filter corrective).2) : TidyRequests s' outbox' where
  filter := by
    rw [queue]
    exact asks
  loads ticket member := by
    rcases sent _ member with before | new
    · exact tidy.loads ticket before
    · cases new
      exact asks

theorem mem_sent {sent other : Dispatch} (member : other ∈ outbox ++ [sent]) :
    other ∈ outbox ∨ other = sent := by
  rwa [List.mem_append, List.mem_singleton] at member

/-- A load that is outstanding afterwards was so before, or is one that was asked for. -/
theorem asked_of_mem_settled {ticket : LoadTicket}
    (member : .load ticket ∈ entries.foldr Entry.settle outbox) :
    .load ticket ∈ outbox ∨ .loadAsked ticket ∈ entries := by
  induction entries with
  | nil => exact .inl member
  | cons entry rest ih =>
      have later := fun before => (ih before).imp_right (List.mem_cons_of_mem entry)
      cases entry with
      | loadAsked other =>
          rcases mem_sent member with before | new
          · exact later before
          · cases new
            exact .inr List.mem_cons_self
      | selectAsked other | submitAsked other =>
          rcases mem_sent member with before | new
          · exact later before
          · cases new
      | pageCame | detailCame | savedCame => exact later (List.mem_of_mem_erase member)

theorem Step.keeps_tidyRequests (step : s.Step entries s')
    (awaited : ∀ entry ∈ entries, entry.Awaited outbox)
    (asked : ∀ ticket, entries = [.loadAsked ticket] → ticket.filter.Tidy)
    (tidy : TidyRequests s outbox) : TidyRequests s' (entries.foldr Entry.settle outbox) := by
  obtain ⟨filter, tickets⟩ := step.asks_tidy tidy.filter
    (fun ticket _ _ came => tidy.loads ticket (awaited _ came)) asked
  exact ⟨filter, fun ticket member =>
    (asked_of_mem_settled member).elim (tidy.loads ticket) (tickets ticket)⟩

end Session

namespace Console

variable {c c' : Console}

/-- One mode is on at most, and tidy filters are asked for. -/
structure Orderly (c : Console) : Prop where
  oneMode : c.board.OneMode
  requests : c.session.TidyRequests c.outbox

theorem tidy_load (tidy : c.session.TidyRequests c.outbox) {filter : Filter} (asks : filter.Tidy) :
    let next := c.load (c.session.beginLoad filter)
    next.session.TidyRequests next.outbox :=
  tidy.asked asks false rfl (fun _ => Session.mem_sent)

theorem tidy_send (tidy : c.session.TidyRequests c.outbox) {request : Dispatch}
    (other : ∀ ticket, request ≠ .load ticket)
    (same : c'.session.queue.filter = c.session.queue.filter)
    (sent : c'.outbox = c.outbox ++ [request]) : c'.session.TidyRequests c'.outbox := by
  refine tidy.calm same (fun ticket member => ?_)
  rw [sent] at member
  rcases Session.mem_sent member with before | new
  · exact before
  · exact (other ticket new.symm).elim

theorem tidy_select (tidy : c.session.TidyRequests c.outbox) (id : String) :
    (c.select id).session.TidyRequests (c.select id).outbox := by
  have other : ∀ ticket, Dispatch.select (c.session.beginSelect id).2 ≠ .load ticket := nofun
  exact tidy_send tidy other rfl rfl

theorem Browsing.tidy (browsing : c.Browsing c') (tidy : c.session.TidyRequests c.outbox) :
    c'.session.TidyRequests c'.outbox := by
  cases browsing with
  | load filter made => exact tidy_load tidy (Filter.inherited_tidy made tidy.filter)
  | _ => exact tidy.calm rfl (fun _ => id)

theorem Command.tidy (command : c.Command c') (tidy : c.session.TidyRequests c.outbox) :
    c'.session.TidyRequests c'.outbox := by
  cases command with
  | browsing browsing => exact browsing.tidy tidy
  | select id same =>
      rw [same]
      exact tidy_select tidy id
  | submitted form ticket same =>
      have other : ∀ load, Dispatch.submit ticket ≠ .load load := nofun
      rw [same]
      exact tidy_send tidy other rfl rfl
  | clear same | refused _ _ same =>
      rw [same]
      exact tidy.calm rfl (fun _ => id)

theorem Typing.tidy (typing : c.Typing c') (tidy : c.session.TidyRequests c.outbox) :
    c'.session.TidyRequests c'.outbox := by
  cases typing with
  | asked b settles filter made =>
      exact tidy.asked (Filter.inherited_tidy made tidy.filter) false rfl (fun _ => Session.mem_sent)
  | board | form => exact tidy.calm rfl (fun _ => id)

theorem tidy_press (tidy : c.session.TidyRequests c.outbox) (key : KeyPress) :
    (c.route key).1.session.TidyRequests (c.route key).1.outbox := by
  rcases c.press_cases key with typing | ⟨-, command⟩
  · exact typing.tidy tidy
  · exact command.tidy tidy

theorem tidy_click (tidy : c.session.TidyRequests c.outbox) (x y : UInt16) :
    (c.click x y).session.TidyRequests (c.click x y).outbox := by
  rcases c.click_cases x y with same | ⟨index, id, -, opened⟩
  · rw [same]
    exact tidy
  · rw [opened]
    exact tidy_select (c := { c with board := _ }) tidy id

theorem tidy_deliver (tidy : c.session.TidyRequests c.outbox) (arrival : Arrival) :
    (c.deliver arrival).session.TidyRequests (c.deliver arrival).outbox := by
  by_cases outstanding : arrival.request ∈ c.outbox
  · cases c.does_deliver arrival outstanding with
    | action _ session outbox =>
        rw [session, outbox]
        refine (c.session.step_act _).keeps_tidyRequests ?_ ?_ tidy
        · refine awaited_of_outstanding c.session (fun other came => ?_)
          rwa [← Arrival.eq_of_action came]
        · intro ticket lone
          have asks := Session.eq_load_of_entries lone
          cases arrival <;> cases asks
  · rw [deliver, if_neg outstanding]
    exact tidy

/-- Each key is read in the mode that the board is in. -/
def Event.Routed : Event → Prop
  | .commandKey _ => False
  | .filterKey _ => False
  | .editKey _ => False
  | _ => True

theorem Orderly.step (orderly : c.Orderly) {e : Event} (routed : e.Routed) : (c.step e).Orderly := by
  obtain ⟨one, tidy⟩ := orderly
  cases e with
  | press key => exact ⟨oneMode_press one key, tidy_press tidy key⟩
  | click x y => exact ⟨oneMode_click one x y, tidy_click tidy x y⟩
  | deliver arrival => exact ⟨one.settled (c.settles_deliver arrival), tidy_deliver tidy arrival⟩
  | sync =>
      rcases c.step_sync with ⟨-, same⟩ | ⟨view, -, same⟩
      · rw [same]
        exact ⟨one, tidy⟩
      · rw [same]
        exact ⟨one.sync view, tidy⟩
  | draw =>
      rcases c.step_draw with ⟨-, same⟩ | ⟨view, -, same⟩
      · rw [same]
        exact ⟨one, tidy⟩
      · rw [same]
        exact ⟨(one.sync view).show, tidy⟩
  | commandKey | filterKey | editKey => exact routed.elim

theorem Orderly.run (orderly : c.Orderly) {events : List Event} (routed : ∀ e ∈ events, e.Routed) :
    (c.run events).Orderly := by
  induction events generalizing c with
  | nil => exact orderly
  | cons e rest ih =>
      obtain ⟨first, others⟩ := List.forall_mem_cons.mp routed
      exact ih (orderly.step first) others

theorem orderly_start {filter : Filter} (tidy : filter.Tidy) (labels : List String)
    (user : Option String) (target : String × DataFormat) (disk : Disk) :
    (start filter labels user target disk).Orderly where
  oneMode := (by decide : ({} : Board).OneMode)
  requests := by
    let c : Console := { session := .start filter labels user, target, disk }
    have nothing : c.session.TidyRequests c.outbox := ⟨tidy, fun _ => nofun⟩
    exact tidy_load nothing tidy

end Console
end ReviewDesk
