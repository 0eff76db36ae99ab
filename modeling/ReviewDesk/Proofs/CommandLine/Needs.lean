import ReviewDesk.CommandLine.Reader
import ReviewDesk.Proofs.Except

/-!
Options that were read: each has what it needs, so a label comes with the item that it is for.
-/

namespace ReviewDesk

namespace CommandLine.Reading

variable {r : Reading} {key other : Key}

theorem has_iff : r.has key = true ↔ ∃ value, r.value? key = some value := by
  rw [← Option.isSome_iff_exists, value?, has]
  induction r.given with
  | nil => exact Iff.rfl
  | cons first rest ih =>
      obtain ⟨name, value⟩ := first
      rw [List.any_cons, List.lookup_cons]
      by_cases same : name = key
      · simp [same]
      · simp [same, beq_false_of_ne (Ne.symm same), ← ih]

theorem has_of_needs (complete : r.isComplete = true) (needs : key.needs = some other)
    (given : r.has key = true) : r.has other = true := by
  obtain ⟨⟨name, value⟩, inside, same⟩ := List.any_eq_true.mp given
  have served := List.all_eq_true.mp complete _ inside
  cases of_decide_eq_true same
  dsimp only at served
  rw [needs] at served
  exact served

end CommandLine.Reading

namespace Options

open CommandLine (Reading)

variable {env : List (String × String)} {arguments : List String} {o : Options}

theorem exists_reading (parsed : parse env arguments = .ok o) :
    ∃ r : Reading, r.isComplete = true ∧ o = ofReading env r := by
  obtain ⟨_, -, settled⟩ := bind_eq_ok.mp parsed
  obtain ⟨last, -, checked⟩ := bind_eq_ok.mp settled
  split at checked
  · rename_i complete
    exact ⟨last, complete, (Except.ok.inj checked).symm⟩
  · cases checked

/-- A label is given for an item only. -/
theorem select_of_label (parsed : parse env arguments = .ok o) {label : String}
    (labeled : o.label = some label) : ∃ id, o.select = some id := by
  obtain ⟨r, complete, rfl⟩ := exists_reading parsed
  have given : r.has .label = true := by
    apply Reading.has_iff.mpr
    refine ⟨label, ?_⟩
    simpa [ofReading, CommandLine.Key.variableName?] using labeled
  obtain ⟨id, selected⟩ := Reading.has_iff.mp (Reading.has_of_needs complete rfl given)
  exact ⟨id, by simp [ofReading, selected]⟩

end Options
end ReviewDesk
