import ReviewDesk.Proofs.CommandLine.Line
import ReviewDesk.Proofs.CommandLine.Needs

/-!
The chains of options that need one another: all of them end at the run without a screen, so that
a run with a screen is asked for nothing that it would not do.
-/

namespace ReviewDesk

namespace CommandLine

/-- The options for a run without a screen, each with the one that it needs. -/
def links : List (Key × Key) :=
  [(.select, .noTui), (.label, .select), (.confidence, .label), (.notes, .label), (.count, .label),
    (.resource, .noTui), (.resourceId, .resource), (.resourceBody, .resource),
    (.delete, .resourceId)]

/-- The run without a screen, and what can be asked of it. -/
def headless : List Key :=
  .noTui :: links.map Prod.fst

/-- No option is given without the one that it needs. -/
def Complete (given : List (Key × String)) : Prop :=
  ∀ link ∈ links, link.1 ∈ given.map Prod.fst → link.2 ∈ given.map Prod.fst

variable {given : List (Key × String)} {key other : Key}

theorem needs_eq_some_iff : key.needs = some other ↔ (key, other) ∈ links := by
  cases key <;> cases other <;> decide

namespace Reading

variable {r : Reading}

theorem has_iff_mem : r.has key = true ↔ key ∈ r.given.map Prod.fst := by
  simp only [has, List.any_eq_true, decide_eq_true_eq, List.mem_map]

theorem isComplete_iff : r.isComplete = true ↔ Complete r.given := by
  constructor
  · rintro complete ⟨key, other⟩ link present
    exact has_iff_mem.mp
      (has_of_needs complete (needs_eq_some_iff.mpr link) (has_iff_mem.mpr present))
  · intro complete
    refine List.all_eq_true.mpr fun ⟨key, value⟩ inside => ?_
    dsimp only
    split
    · rename_i other needs
      exact has_iff_mem.mpr
        (complete _ (needs_eq_some_iff.mp needs) (List.mem_map_of_mem inside))
    · rfl

theorem isComplete_after_iff : (after given).isComplete = true ↔ Complete given :=
  isComplete_iff

theorem isSome_value? : (r.value? key).isSome = r.has key := by
  rw [Bool.eq_iff_iff, has_iff, Option.isSome_iff_exists]

end Reading
end CommandLine

namespace Options

open CommandLine (Complete headless Key Reading Spelled WellGiven links)

variable {env : List (String × String)} {arguments : List String} {o : Options}

/-- Whether the options hold a wish for a run without a screen. -/
def wishes (o : Options) : Key → Bool
  | .noTui => o.noTui
  | .select => o.select.isSome
  | .label => o.label.isSome
  | .confidence => o.confidence.isSome
  | .notes => o.notes.isSome
  | .count => o.count.isSome
  | .resource => o.resource.isSome
  | .resourceId => o.resourceId.isSome
  | .resourceBody => o.resourceBody.isSome
  | .delete => o.delete
  | _ => false

/-- Neither the environment nor a default makes a wish. -/
theorem wishes_ofReading {r : Reading} {key : Key} (inside : key ∈ headless) :
    (ofReading env r).wishes key = r.has key := by
  cases key
  case noTui | delete => rfl
  case resource => exact Option.isSome_map.trans Reading.isSome_value?
  case select | label | confidence | notes | count | resourceId | resourceBody =>
    simp [wishes, ofReading, Key.variableName?, Reading.isSome_value?]
  all_goals exact absurd inside (by decide)

theorem parse_eq_read : parse env arguments = Reading.read {} arguments >>= fun given =>
    if (Reading.after given).isComplete then .ok (ofReading env (Reading.after given))
    else .error .missingRequired := by
  simp only [parse, Reading.read, bind_assoc]
  rfl

theorem parse_eq_ok_iff : parse env arguments = .ok o ↔
    ∃ given, Spelled arguments given ∧ WellGiven given ∧ Complete given ∧
      o = ofReading env (Reading.after given) := by
  rw [parse_eq_read, bind_eq_ok]
  constructor
  · rintro ⟨given, read, checked⟩
    obtain ⟨spelled, fine⟩ := Reading.read_eq_ok_iff.mp read
    split at checked
    · rename_i complete
      cases checked
      exact ⟨given, spelled, fine, Reading.isComplete_after_iff.mp complete, rfl⟩
    · cases checked
  · rintro ⟨given, spelled, fine, complete, rfl⟩
    refine ⟨given, Reading.read_eq_ok_iff.mpr ⟨spelled, fine⟩, ?_⟩
    rw [if_pos (Reading.isComplete_after_iff.mpr complete)]

theorem parse_eq_missing_iff : parse env arguments = .error .missingRequired ↔
    ∃ given, Spelled arguments given ∧ WellGiven given ∧ ¬Complete given := by
  rw [parse_eq_read, bind_eq_error]
  constructor
  · rintro (missing | ⟨given, read, checked⟩)
    · exact absurd missing Reading.unmissed_read
    obtain ⟨spelled, fine⟩ := Reading.read_eq_ok_iff.mp read
    split at checked
    · cases checked
    · rename_i incomplete
      exact ⟨given, spelled, fine, incomplete ∘ Reading.isComplete_after_iff.mpr⟩
  · rintro ⟨given, spelled, fine, incomplete⟩
    refine .inr ⟨given, Reading.read_eq_ok_iff.mpr ⟨spelled, fine⟩, ?_⟩
    rw [if_neg (incomplete ∘ Reading.isComplete_after_iff.mp)]

example : parse [] ["--label", "YES", "--select=iq_1"] = .error .missingRequired := by rfl

/-- Every wish comes with the one that it needs, and no wish is made of a run with a screen. -/
structure Chained (o : Options) : Prop where
  needed : ∀ link ∈ links, o.wishes link.1 → o.wishes link.2
  idle : o.noTui = false → ∀ link ∈ links, o.wishes link.1 = false

theorem noTui_of_wishes (needed : ∀ link ∈ links, o.wishes link.1 → o.wishes link.2) :
    ∀ link ∈ links, o.wishes link.1 → o.noTui = true := by
  simp only [links, List.forall_mem_cons] at needed
  obtain ⟨select, label, confidence, notes, count, resource, id, body, delete, -⟩ := needed
  simp only [links, List.forall_mem_cons]
  have label := select ∘ label
  have id := resource ∘ id
  exact ⟨select, label, label ∘ confidence, label ∘ notes, label ∘ count, resource, id,
    resource ∘ body, id ∘ delete, nofun⟩

theorem Chained.of_needed (needed : ∀ link ∈ links, o.wishes link.1 → o.wishes link.2) :
    o.Chained where
  needed := needed
  idle screen link inside := by
    rw [Bool.eq_false_iff]
    intro wished
    exact Bool.false_ne_true (screen.symm.trans (noTui_of_wishes needed link inside wished))

theorem wishes_iff_mem {given : List (Key × String)} {key : Key}
    (inside : key ∈ headless) :
    (ofReading env (Reading.after given)).wishes key = true ↔ key ∈ given.map Prod.fst := by
  rw [wishes_ofReading inside]
  exact Reading.has_iff_mem

/-- The ends of a link are the run without a screen and what is asked of it. -/
theorem mem_of_link {link : Key × Key} (inside : link ∈ links) :
    link.1 ∈ headless ∧ link.2 ∈ headless := by
  revert link
  decide

theorem chained_of_complete {given : List (Key × String)} (complete : Complete given) :
    (ofReading env (Reading.after given)).Chained := by
  refine .of_needed fun link inside wished => ?_
  obtain ⟨first, second⟩ := mem_of_link inside
  exact (wishes_iff_mem second).mpr (complete link inside ((wishes_iff_mem first).mp wished))

/-- Whatever stands on the command line, in any order and spelling: what is accepted asks nothing
of a run with a screen that such a run does not do, it asks for what the line spells only, and a
line with no fault but a missing option is refused for that. -/
theorem headless_wishes_need_no_tui (env : List (String × String)) (arguments : List String) :
    (∀ o, parse env arguments = .ok o →
      o.Chained ∧ ∃ given, Spelled arguments given ∧ WellGiven given ∧
        ∀ key ∈ headless, o.wishes key = true ↔ key ∈ given.map Prod.fst) ∧
    ((∃ o, parse env arguments = .ok o) ↔
      ∃ given, Spelled arguments given ∧ WellGiven given ∧ Complete given) ∧
    (parse env arguments = .error .missingRequired ↔
      ∃ given, Spelled arguments given ∧ WellGiven given ∧ ¬Complete given) := by
  refine ⟨fun o parsed => ?_, ?_, parse_eq_missing_iff⟩
  · obtain ⟨given, spelled, fine, complete, rfl⟩ := parse_eq_ok_iff.mp parsed
    exact ⟨chained_of_complete complete, given, spelled, fine, fun key => wishes_iff_mem⟩
  · constructor
    · rintro ⟨o, parsed⟩
      obtain ⟨given, spelled, fine, complete, -⟩ := parse_eq_ok_iff.mp parsed
      exact ⟨given, spelled, fine, complete⟩
    · rintro ⟨given, spelled, fine, complete⟩
      exact ⟨_, parse_eq_ok_iff.mpr ⟨given, spelled, fine, complete, rfl⟩⟩

end Options
end ReviewDesk
