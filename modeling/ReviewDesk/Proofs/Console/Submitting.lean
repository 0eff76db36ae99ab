import ReviewDesk.Proofs.Console.Run
import Mathlib.Data.List.Count

/-!
The labels that are on their way, counted event by event. Sending and answering move the count and
the status of the form together; clearing moves the status alone.
-/

namespace ReviewDesk

open Session (Action Entry)

def Dispatch.isSubmit : Dispatch → Bool
  | .submit _ => true
  | _ => false

namespace Session

def Submitting (s : Session) : Prop := s.form.status = .submitting

instance (s : Session) : Decidable s.Submitting :=
  inferInstanceAs (Decidable (s.form.status = .submitting))

theorem prefill_status (s : Session) : s.prefill.form.status = s.form.status := by
  unfold prefill
  cases s.selection.detail with
  | none => rfl
  | some item => rfl

theorem act_page_form (s : Session) (ticket : LoadTicket) (answer : Except TransportFault Page) :
    (s.act (.page ticket answer)).form = s.form := by
  simp only [act, onQueueResult]
  split
  · rfl
  · rfl

theorem act_detail_status (s : Session) (ticket : SelectTicket)
    (answer : Except TransportFault Item) :
    (s.act (.detail ticket answer)).form.status = s.form.status := by
  simp only [act, onDetailResult]
  split
  · rw [prefill_status]
  · rfl

/-- An answer ends the saving, whether or not the label was saved. -/
theorem act_saved_status (s : Session) (ticket : SubmitTicket)
    (answer : Except TransportFault Item) : ¬(s.act (.saved ticket answer)).Submitting := by
  cases answer with
  | error fault => exact nofun
  | ok item =>
      simp only [act, onSubmitResult, refresh, beginLoad, Submitting]
      split
      · rw [prefill_status]
        intro saving
        cases saving
      · intro saving
        cases saving

theorem act_submit_status (s : Session) :
    (s.act .submit).Submitting ↔ ∃ ticket, s.beginSubmit.2 = .ok ticket := by
  simp only [act, beginSubmit, LabelForm.beginSubmit, Submitting]
  cases s.form.validate s.selection.current with
  | error fault => simp
  | ok submission => simp

theorem countP_page (s : Session) (ticket : LoadTicket) (answer : Except TransportFault Page)
    (outbox : List Dispatch) :
    ((s.entries (.page ticket answer)).foldr Entry.settle outbox).countP Dispatch.isSubmit =
      outbox.countP Dispatch.isSubmit := by
  cases next : (s.onQueueResult ticket answer).2.next? with
  | none => simp [entries, next, Entry.settle, List.countP_erase, Dispatch.isSubmit]
  | some ticket => simp [entries, next, Entry.settle, List.countP_erase, Dispatch.isSubmit]

theorem countP_detail (s : Session) (ticket : SelectTicket) (answer : Except TransportFault Item)
    (outbox : List Dispatch) :
    ((s.entries (.detail ticket answer)).foldr Entry.settle outbox).countP Dispatch.isSubmit =
      outbox.countP Dispatch.isSubmit := by
  simp [entries, Entry.settle, List.countP_erase, Dispatch.isSubmit]

theorem countP_saved (s : Session) (ticket : SubmitTicket) (answer : Except TransportFault Item)
    {outbox : List Dispatch} (outstanding : .submit ticket ∈ outbox) :
    ((s.entries (.saved ticket answer)).foldr Entry.settle outbox).countP Dispatch.isSubmit + 1 =
      outbox.countP Dispatch.isSubmit := by
  have counted : 0 < outbox.countP Dispatch.isSubmit :=
    List.countP_pos_iff.mpr ⟨_, outstanding, rfl⟩
  cases next : (s.onSubmitResult answer).2 with
  | none =>
      simp [entries, next, Entry.settle, List.countP_erase, Dispatch.isSubmit, outstanding]
      omega
  | some ticket =>
      simp [entries, next, Entry.settle, List.countP_erase, Dispatch.isSubmit, outstanding]
      omega

end Session

namespace Console

variable {c c' : Console}

/-- The labels that are sent off and not answered yet. -/
def inFlight (c : Console) : Nat := c.outbox.countP Dispatch.isSubmit

/-- The command `s` sends a label off: none is being saved as far as the form knows, and what was
entered can be read. -/
def Event.Sends (c : Console) (e : Event) : Prop :=
  e.Commands c 's' ∧ ¬c.session.Submitting ∧ ∃ ticket, c.session.beginSubmit.2 = .ok ticket

/-- The answer to a label that is on its way. -/
def Event.Answers (c : Console) (e : Event) : Prop :=
  ∃ ticket answer, e = .deliver (.saved ticket answer) ∧ .submit ticket ∈ c.outbox

/-- What an event does to the saving of labels. -/
inductive Counts (c : Console) (e : Event) (c' : Console) : Prop where
  | clears (command : e.Commands c 'c') (free : ¬c'.session.Submitting)
      (same : c'.inFlight = c.inFlight)
  | sends (sends : e.Sends c) (busy : c'.session.Submitting) (more : c'.inFlight = c.inFlight + 1)
  | answers (answers : e.Answers c) (free : ¬c'.session.Submitting)
      (less : c'.inFlight + 1 = c.inFlight)
  | other (clear : ¬e.Commands c 'c') (send : ¬e.Sends c) (answer : ¬e.Answers c)
      (as_before : c'.session.Submitting ↔ c.session.Submitting) (same : c'.inFlight = c.inFlight)

theorem Event.Answers.not_commands {e : Event} (answers : e.Answers c) (letter : Char) :
    ¬e.Commands c letter := by
  obtain ⟨ticket, answer, rfl, -⟩ := answers
  exact Console.not_commands rfl letter

theorem Event.Commands.unique {e : Event} {letter other : Char} (command : e.Commands c letter)
    (command' : e.Commands c other) : letter = other := by
  obtain ⟨key, read, -, code⟩ := command
  obtain ⟨-, code'⟩ := (commands_iff read other).mp command'
  rw [code] at code'
  cases code'
  rfl

theorem Browses.same (browses : c.Browses c') :
    (c'.session.Submitting ↔ c.session.Submitting) ∧ c'.inFlight = c.inFlight := by
  cases browses with
  | nothing does =>
      cases does with
      | nothing session outbox => rw [session, inFlight, outbox]; exact ⟨Iff.rfl, rfl⟩
  | load filter _ does =>
      cases does with
      | action _ session outbox =>
          rw [session, inFlight, outbox]
          refine ⟨Iff.rfl, ?_⟩
          simp [Session.entries, Entry.settle, Dispatch.isSubmit, inFlight]
  | edit form calm does =>
      cases does with
      | action _ session outbox =>
          rw [session, inFlight, outbox]
          refine ⟨?_, rfl⟩
          rw [Session.Submitting, Session.Submitting, ← calm]
          rfl

theorem counts_submit {e : Event} (command : e.Commands c 's') (free : ¬c.session.Submitting)
    (answer : ¬e.Answers c) (does : c.Does c' (some .submit)) : c.Counts e c' := by
  cases does with
  | action _ session outbox =>
      have clear : ¬e.Commands c 'c' := fun clear => absurd (clear.unique command) (by decide)
      cases begun : c.session.beginSubmit.2 with
      | error fault =>
          refine .other clear ?_ answer ?_ ?_
          · rintro ⟨-, -, ticket, sent⟩
            rw [begun] at sent
            cases sent
          · rw [session, Session.act_submit_status, begun]
            simp [free]
          · rw [inFlight, outbox]
            simp [Session.entries, begun, Except.toOption, inFlight]
      | ok ticket =>
          refine .sends ⟨command, free, ticket, begun⟩ ?_ ?_
          · rw [session, Session.act_submit_status]
            exact ⟨ticket, begun⟩
          · rw [inFlight, outbox]
            simp [Session.entries, begun, Except.toOption, inFlight, Entry.settle,
              Dispatch.isSubmit]

theorem counts_answer (c : Console) (arrival : Arrival)
    (outstanding : arrival.request ∈ c.outbox) :
    c.Counts (.deliver arrival) (c.deliver arrival) := by
  have other (letter : Char) : ¬(Event.deliver arrival).Commands c letter :=
    not_commands rfl letter
  cases c.does_deliver arrival outstanding with
  | action _ session outbox =>
      cases arrival with
      | saved ticket answer =>
          refine .answers ⟨ticket, answer, rfl, outstanding⟩ ?_ ?_
          · rw [session]
            exact c.session.act_saved_status ticket answer
          · rw [inFlight, outbox]
            exact c.session.countP_saved ticket answer outstanding
      | page ticket answer =>
          refine .other (other 'c') (fun sends => other 's' sends.1) ?_ ?_ ?_
          · rintro ⟨_, _, same, -⟩
            cases same
          · rw [session, Session.Submitting, Arrival.action, Session.act_page_form]
            rfl
          · rw [inFlight, outbox]
            exact c.session.countP_page ticket answer c.outbox
      | detail ticket answer =>
          refine .other (other 'c') (fun sends => other 's' sends.1) ?_ ?_ ?_
          · rintro ⟨_, _, same, -⟩
            cases same
          · rw [session, Session.Submitting, Arrival.action, Session.act_detail_status]
            rfl
          · rw [inFlight, outbox]
            exact c.session.countP_detail ticket answer c.outbox

theorem step_counts (c : Console) (e : Event) : c.Counts e (c.step e) := by
  by_cases answer : e.Answers c
  · obtain ⟨ticket, answer, rfl, outstanding⟩ := answer
    exact c.counts_answer _ outstanding
  · cases c.step_comes e with
    | browses clear save does =>
        refine .other clear (fun sends => sends.2.1 (save sends.1)) answer does.same.1 does.same.2
    | selects clear save id does =>
        cases does with
        | action _ session outbox =>
            refine .other clear (fun sends => save sends.1) answer (by rw [session]; rfl) ?_
            simp [inFlight, outbox, Session.entries, Entry.settle, Dispatch.isSubmit]
    | clears command does =>
        cases does with
        | action _ session outbox =>
            refine .clears command (fun saving => ?_) ?_
            · rw [session] at saving
              cases saving
            · rw [inFlight, outbox]
              rfl
    | submits command free does => exact counts_submit command free answer does
    | answered arrival same outstanding does =>
        subst same
        exact c.counts_answer arrival outstanding

theorem Counts.of_sends {e : Event} (counts : c.Counts e c') (sends : e.Sends c) :
    c'.inFlight = c.inFlight + 1 := by
  cases counts with
  | clears command => exact absurd (command.unique sends.1) (by decide)
  | sends _ _ more => exact more
  | answers answers => exact (answers.not_commands 's' sends.1).elim
  | other _ send => exact (send sends).elim

theorem run_submitting (c : Console) (events : List Event)
    (backed : c.session.Submitting → 0 < c.inFlight) :
    (c.run events).session.Submitting → 0 < (c.run events).inFlight := by
  induction events generalizing c with
  | nil => exact backed
  | cons e rest ih =>
      apply ih
      intro busy
      cases c.step_counts e with
      | clears _ free => exact (free busy).elim
      | answers _ free => exact (free busy).elim
      | sends _ _ more => omega
      | other _ _ _ as_before same =>
          have before := backed (as_before.mp busy)
          omega

end Console
end ReviewDesk
