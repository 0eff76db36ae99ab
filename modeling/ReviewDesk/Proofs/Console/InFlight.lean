import ReviewDesk.Proofs.Console.Submitting
import Mathlib.Data.List.Induction

/-!
How many labels can be on their way at once. The form refuses a second one only as long as its
status says that the first is being saved, and clearing the form takes that back without calling the
label off. Apart from this there is never more than one.
-/

namespace ReviewDesk
namespace Console

variable {c c' : Console} {e : Event} {events : List Event}

/-- A label was cleared from the form on its way, and its answer has not come since. -/
def Abandoned (c : Console) (events : List Event) : Prop :=
  ∃ before clear between, events = before ++ clear :: between ∧
    (c.run before).session.Submitting ∧ clear.Commands (c.run before) 'c' ∧
    ∀ earlier answer later, between = earlier ++ answer :: later →
      ¬answer.Answers (c.run (before ++ clear :: earlier))

/-- A label is sent off while an abandoned one is still on its way. -/
def Resends (c : Console) (events : List Event) : Prop :=
  ∃ before send after, events = before ++ send :: after ∧
    c.Abandoned before ∧ send.Sends (c.run before)

/-- The last event of a run is the one singled out, or comes after it. -/
theorem split_concat_iff {before after : List Event} {mark last : Event} :
    events ++ [last] = before ++ mark :: after ↔
      (after = [] ∧ events = before ∧ last = mark) ∨
        ∃ rest, after = rest ++ [last] ∧ events = before ++ mark :: rest := by
  constructor
  · intro same
    rcases List.eq_nil_or_concat after with rfl | ⟨rest, other, rfl⟩
    · obtain ⟨before_same, tail⟩ := List.append_inj' same rfl
      cases tail
      exact .inl ⟨rfl, before_same, rfl⟩
    · have regrouped : events ++ [last] = (before ++ mark :: rest) ++ [other] := by
        simpa using same
      obtain ⟨before_same, tail⟩ := List.append_inj' regrouped rfl
      cases tail
      exact .inr ⟨rest, by simp, before_same⟩
  · rintro (⟨rfl, rfl, rfl⟩ | ⟨rest, rfl, rfl⟩)
    · rfl
    · simp

theorem abandoned_concat_iff :
    c.Abandoned (events ++ [e]) ↔
      ((c.run events).session.Submitting ∧ e.Commands (c.run events) 'c') ∨
        (c.Abandoned events ∧ ¬e.Answers (c.run events)) := by
  constructor
  · rintro ⟨before, clear, between, same, busy, command, unanswered⟩
    rcases split_concat_iff.mp same with ⟨-, rfl, rfl⟩ | ⟨rest, rfl, rfl⟩
    · exact .inl ⟨busy, command⟩
    · refine .inr ⟨⟨before, clear, rest, rfl, busy, command, ?_⟩, unanswered rest e [] rfl⟩
      intro earlier answer later split
      exact unanswered earlier answer (later ++ [e]) (by simp [split])
  · rintro (⟨busy, command⟩ | ⟨⟨before, clear, between, rfl, busy, command, unanswered⟩, other⟩)
    · exact ⟨events, e, [], rfl, busy, command, by simp⟩
    · refine ⟨before, clear, between ++ [e], by simp, busy, command, ?_⟩
      intro earlier answer later split
      rcases split_concat_iff.mp split with ⟨-, rfl, rfl⟩ | ⟨rest, -, same⟩
      · exact other
      · exact unanswered earlier answer rest same

theorem resends_concat_iff :
    c.Resends (events ++ [e]) ↔
      c.Resends events ∨ (c.Abandoned events ∧ e.Sends (c.run events)) := by
  constructor
  · rintro ⟨before, send, after, same, abandoned, sends⟩
    rcases split_concat_iff.mp same with ⟨-, rfl, rfl⟩ | ⟨rest, rfl, rfl⟩
    · exact .inr ⟨abandoned, sends⟩
    · exact .inl ⟨before, send, rest, rfl, abandoned, sends⟩
  · rintro (⟨before, send, after, rfl, abandoned, sends⟩ | ⟨abandoned, sends⟩)
    · exact ⟨before, send, after ++ [e], by simp, abandoned, sends⟩
    · exact ⟨events, e, [], rfl, abandoned, sends⟩

/-- The label on its way, if any, is either being saved as far as the form knows or abandoned. -/
structure OneInFlight (c : Console) (events : List Event) : Prop where
  known : (c.run events).session.Submitting ∨ c.Abandoned events → (c.run events).inFlight = 1
  none : ¬(c.run events).session.Submitting → ¬c.Abandoned events → (c.run events).inFlight = 0
  apart : (c.run events).session.Submitting → ¬c.Abandoned events

namespace OneInFlight

theorem le_one (one : c.OneInFlight events) : (c.run events).inFlight ≤ 1 := by
  by_cases known : (c.run events).session.Submitting ∨ c.Abandoned events
  · exact Nat.le_of_eq (one.known known)
  · rw [one.none (fun busy => known (.inl busy)) (fun abandoned => known (.inr abandoned))]
    exact Nat.zero_le 1

theorem concat (one : c.OneInFlight events)
    (fresh : ¬(c.Abandoned events ∧ e.Sends (c.run events))) : c.OneInFlight (events ++ [e]) := by
  have next : c.run (events ++ [e]) = (c.run events).step e := by simp
  have abandoned : c.Abandoned (events ++ [e]) ↔ _ := abandoned_concat_iff
  cases (c.run events).step_counts e with
  | clears command free same =>
      -- The count stays: a label that was being saved is an abandoned one from now on.
      have unanswered : ¬e.Answers (c.run events) := fun answers =>
        answers.not_commands 'c' command
      have taken_over : c.Abandoned (events ++ [e]) ↔
          (c.run events).session.Submitting ∨ c.Abandoned events := by
        rw [abandoned]
        simp [command, unanswered]
      rw [← next] at free same
      refine ⟨?_, ?_, fun busy => (free busy).elim⟩
      · rintro (busy | lost)
        · exact (free busy).elim
        · rw [same]
          exact one.known (taken_over.mp lost)
      · intro _ kept
        rw [taken_over, not_or] at kept
        rw [same]
        exact one.none kept.1 kept.2
  | sends sends busy more =>
      -- Nothing was on its way, since the form was free and no label was abandoned.
      have was_free := sends.2.1
      have none_lost : ¬c.Abandoned events := fun lost => fresh ⟨lost, sends⟩
      rw [← next] at busy more
      refine ⟨fun _ => ?_, fun free => (free busy).elim, fun _ lost => ?_⟩
      · rw [more, one.none was_free none_lost]
      · rw [abandoned] at lost
        rcases lost with ⟨was_busy, -⟩ | ⟨was_lost, -⟩
        · exact was_free was_busy
        · exact none_lost was_lost
  | answers answers free less =>
      -- There was only one label to answer, so none is left, abandoned or not.
      have none_lost : ¬c.Abandoned (events ++ [e]) := by
        rw [abandoned]
        rintro (⟨-, command⟩ | ⟨-, unanswered⟩)
        · exact answers.not_commands 'c' command
        · exact unanswered answers
      rw [← next] at free less
      refine ⟨?_, fun _ _ => ?_, fun busy => (free busy).elim⟩
      · rintro (busy | lost)
        · exact (free busy).elim
        · exact (none_lost lost).elim
      · have bound := one.le_one
        omega
  | other clear send answer as_before same =>
      have as_lost : c.Abandoned (events ++ [e]) ↔ c.Abandoned events := by
        rw [abandoned]
        simp [clear, answer]
      rw [← next] at as_before same
      refine ⟨?_, ?_, ?_⟩
      · rw [as_before, as_lost, same]
        exact one.known
      · rw [as_before, as_lost, same]
        exact one.none
      · rw [as_before, as_lost]
        exact one.apart

end OneInFlight

theorem oneInFlight_of_not_resends (idle : ¬c.session.Submitting) (empty : c.inFlight = 0)
    (fresh : ¬c.Resends events) : c.OneInFlight events := by
  induction events using List.reverseRecOn with
  | nil =>
      have none_lost : ¬c.Abandoned [] := by simp [Abandoned]
      refine ⟨?_, fun _ _ => empty, fun busy => (idle busy).elim⟩
      rintro (busy | lost)
      · exact (idle busy).elim
      · exact (none_lost lost).elim
  | append_singleton events e ih =>
      rw [resends_concat_iff, not_or] at fresh
      exact (ih fresh.1).concat fresh.2

/-- Where a label is sent off while another is abandoned, two are on their way. -/
theorem two_of_resends (idle : ¬c.session.Submitting) (empty : c.inFlight = 0)
    (resends : c.Resends events) : ∃ before, before <+: events ∧ (c.run before).inFlight = 2 := by
  induction events using List.reverseRecOn with
  | nil =>
      obtain ⟨before, send, after, same, -⟩ := resends
      simp at same
  | append_singleton events e ih =>
      by_cases earlier : c.Resends events
      · obtain ⟨before, within, two⟩ := ih earlier
        exact ⟨before, within.trans (List.prefix_append events [e]), two⟩
      · obtain ⟨abandoned, sends⟩ := (resends_concat_iff.mp resends).resolve_left earlier
        have one := (oneInFlight_of_not_resends idle empty earlier).known (.inr abandoned)
        refine ⟨events ++ [e], List.prefix_refl _, ?_⟩
        have more := ((c.run events).step_counts e).of_sends sends
        simp [more, one]

/-- Over every run from the first load on: never is more than one label on its way, unless one is
sent off while one that was cleared from the form is still unanswered. -/
theorem one_label_in_flight_iff (filter : Filter) (labels : List String) (user : Option String)
    (target : String × DataFormat) (disk : Disk) (events : List Event) :
    let c := start filter labels user target disk
    (∀ before, before <+: events → (c.run before).inFlight ≤ 1) ↔ ¬c.Resends events := by
  intro c
  have idle : ¬c.session.Submitting := nofun
  have empty : c.inFlight = 0 := rfl
  constructor
  · intro single resends
    obtain ⟨before, within, two⟩ := two_of_resends idle empty resends
    have bound := single before within
    omega
  · rintro fresh before ⟨after, rfl⟩
    refine (oneInFlight_of_not_resends idle empty ?_).le_one
    rintro ⟨earlier, send, later, rfl, resent⟩
    exact fresh ⟨earlier, send, later ++ after, by simp, resent⟩

/-- A label is sent off, cleared away, and sent off again before the first answer. -/
theorem two_labels_in_flight_after_clear :
    ((start {} ["YES"] none ("page.csv", .csv) {}).run
      [.deliver (.page ⟨1, {}, false⟩ (.ok ⟨[{ id := "a" }], 1⟩)), .sync,
        .press { code := .enter }, .deliver (.detail ⟨1, "a"⟩ (.ok { id := "a" })),
        .press { code := .char '1' }, .press { code := .char 's' }, .press { code := .char 'c' },
        .press { code := .char '1' }, .press { code := .char 's' }]).inFlight = 2 := by
  decide

end Console
end ReviewDesk
