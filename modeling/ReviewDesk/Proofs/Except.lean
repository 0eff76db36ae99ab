import Mathlib.Data.List.Forall2

/-!
Steps of which each may fail: they come to a result if every one of them does.
-/

namespace ReviewDesk

variable {α β ε : Type}

theorem bind_eq_ok {x : Except ε α} {f : α → Except ε β} {b : β} :
    x >>= f = .ok b ↔ ∃ a, x = .ok a ∧ f a = .ok b := by
  cases x with
  | error fault => exact ⟨nofun, fun ⟨_, failed, _⟩ => nomatch failed⟩
  | ok a =>
      constructor
      · intro rest
        exact ⟨a, rfl, rest⟩
      · rintro ⟨_, same, rest⟩
        cases same
        exact rest

theorem bind_eq_error {x : Except ε α} {f : α → Except ε β} {fault : ε} :
    x >>= f = .error fault ↔ x = .error fault ∨ ∃ a, x = .ok a ∧ f a = .error fault := by
  cases x with
  | error first =>
      constructor
      · intro same
        exact .inl (congrArg Except.error (Except.error.inj same))
      · rintro (same | ⟨_, succeeded, _⟩)
        · exact congrArg Except.error (Except.error.inj same)
        · cases succeeded
  | ok a =>
      constructor
      · intro rest
        exact .inr ⟨a, rfl, rest⟩
      · rintro (failed | ⟨_, same, rest⟩)
        · cases failed
        · cases same
          exact rest

theorem mapM_eq_ok {read : α → Except ε β} {typed : α → β → Prop} {xs : List α} {ys : List β}
    (reads : ∀ x ∈ xs, ∀ {y}, read x = .ok y ↔ typed x y) :
    xs.mapM read = .ok ys ↔ List.Forall₂ typed xs ys := by
  induction xs generalizing ys with
  | nil =>
      rw [List.mapM_nil, List.forall₂_nil_left_iff]
      exact ⟨fun same => (Except.ok.inj same).symm, fun same => same ▸ rfl⟩
  | cons x xs ih =>
      obtain ⟨head, tail⟩ := List.forall_mem_cons.mp reads
      rw [List.mapM_cons, List.forall₂_cons_left_iff, bind_eq_ok]
      constructor
      · rintro ⟨y, first, more⟩
        obtain ⟨ys', rest, same⟩ := bind_eq_ok.mp more
        cases same
        exact ⟨y, ys', head.mp first, (ih tail).mp rest, rfl⟩
      · rintro ⟨y, ys', first, rest, rfl⟩
        exact ⟨y, head.mpr first, bind_eq_ok.mpr ⟨ys', (ih tail).mpr rest, rfl⟩⟩

end ReviewDesk
