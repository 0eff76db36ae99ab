import ReviewDesk.Proofs.Session.PageSize

/-!
Which pages have a number. The last offset of all, with one item to a page, has none, and a session
at that place has no view. No filter is made into that one, so the first filter decides for a whole
run whether every page has its number.
-/

namespace ReviewDesk

namespace Filter

/-- There is a number for the page on which the filter begins. -/
def Numbered (f : Filter) : Prop :=
  f.offset.toNat / max f.limit.toNat 1 + 1 < UInt64.size

instance : DecidablePred Numbered := fun _ => Nat.decLt _ _

variable {f g : Filter}

theorem numbered_of_lt {total : UInt64} (before : f.offset < total) : f.Numbered := by
  have less := UInt64.lt_iff_toNat_lt.mp before
  have bound : total.toNat < UInt64.size := total.toNat_lt
  have quotient := Nat.div_le_self f.offset.toNat (max f.limit.toNat 1)
  rw [Numbered]
  omega

theorem numbered_of_two_le (limit : 2 ≤ f.limit.toNat) : f.Numbered := by
  have bound : f.offset.toNat < UInt64.size := f.offset.toNat_lt
  have wide : 2 < UInt64.size := by decide
  have quotient : f.offset.toNat / max f.limit.toNat 1 ≤ f.offset.toNat / 2 :=
    Nat.div_le_div_left (by omega) (by decide)
  rw [Numbered]
  omega

/-- Only the last offset of all has no number, and only where a page holds one item. -/
theorem numbered_iff : f.Numbered ↔ ¬(f.limit ≤ 1 ∧ f.offset.toNat + 1 = UInt64.size) := by
  rw [UInt64.le_iff_toNat_le]
  change _ ↔ ¬(f.limit.toNat ≤ 1 ∧ _)
  by_cases single : f.limit.toNat ≤ 1
  · have bound : f.offset.toNat < UInt64.size := f.offset.toNat_lt
    rw [Numbered, show max f.limit.toNat 1 = 1 by omega, Nat.div_one]
    omega
  · have numbered : f.Numbered := numbered_of_two_le (by omega)
    exact ⟨fun _ last => single last.1, fun _ => numbered⟩

theorem numbered_normalized_iff (pendingOnly : Bool) (detector : Option String)
    (limit offset : UInt64) :
    (normalized pendingOnly detector limit offset).Numbered ↔
      ¬(limit ≤ 1 ∧ offset.toNat + 1 = UInt64.size) := by
  have same : (if limit = 0 then 1 else limit) ≤ 1 ↔ limit ≤ 1 := by
    split
    · rename_i none
      subst none
      decide
    · rfl
  rw [numbered_iff, normalized, same]

theorem Numbered.sooner (numbered : f.Numbered) {offset : UInt64} (sooner : offset ≤ f.offset) :
    Numbered { f with offset := offset } := by
  have less := Nat.div_le_div_right (c := max f.limit.toNat 1) (UInt64.le_iff_toNat_le.mp sooner)
  rw [Numbered] at numbered ⊢
  exact Nat.lt_of_le_of_lt (Nat.succ_le_succ less) numbered

theorem mem_of_follows {grow : Bool} {old new : UInt64} (follows : Follows grow old new) :
    new ∈ limitChoices := by
  rw [Follows] at follows
  split at follows
  · refine follows.subset ?_
    cases grow with
    | true => exact List.mem_cons_of_mem _ List.mem_cons_self
    | false => exact List.mem_cons_self
  · rw [follows]
    decide

theorem two_le_of_choice {limit : UInt64} (choice : limit ∈ limitChoices) : 2 ≤ limit.toNat := by
  simp only [limitChoices, List.mem_cons, List.not_mem_nil, or_false] at choice
  rcases choice with rfl | rfl | rfl | rfl <;> decide

/-- No filter is made into the one that has no number. -/
theorem inherited_numbered : Inherited Numbered := by
  intro f g makes numbered
  cases makes with
  | again => exact numbered
  | forward total more => exact numbered_of_lt more
  | back started => exact numbered.sooner (saturatingSub_le _ _)
  | last total past => exact numbered.sooner (UInt64.le_trans (saturatingSub_le _ _) past)
  | anew pendingOnly detector =>
      have first : (normalized pendingOnly detector f.limit 0).offset < 1 :=
        show (0 : UInt64) < 1 by decide
      exact numbered_of_lt first
  | resized grow limit stepped =>
      have choice := mem_of_follows (Session.follows_of_steppedLimit stepped).1
      have two := two_le_of_choice choice
      refine numbered_of_two_le ?_
      rw [normalized]
      split
      · rename_i none
        subst none
        cases two
      · exact two

end Filter

namespace Session

open ReviewDesk.Filter (Numbered)

variable {s : Session}

theorem page?_eq_none_iff : s.queue.paging.page? = none ↔ ¬s.queue.filter.Numbered := by
  rw [Paging.page?_eq_none_iff, Paging.pageSize_toNat]
  exact Nat.not_lt.symm

theorem view?_eq_none_iff_not_numbered : s.view? = none ↔ ¬s.queue.filter.Numbered := by
  rw [view?_eq_none_iff, page?_eq_none_iff]

/-- A session has a view if its page has a number. -/
theorem exists_view_iff : (∃ view, s.view? = some view) ↔ s.queue.filter.Numbered := by
  rw [← Option.ne_none_iff_exists', ne_eq, view?_eq_none_iff_not_numbered, not_not]

end Session
end ReviewDesk
