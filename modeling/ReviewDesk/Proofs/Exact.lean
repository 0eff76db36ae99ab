import ReviewDesk.Proofs.Paging

/-!
Arithmetic on words that has a result only where it is exact: none where a product is no word, and
none for a division by zero. The number of pages is computed once more with it, one operation after
the other.
-/

namespace ReviewDesk

namespace Exact

/-- The word of a number, if there is one. -/
def word? (n : Nat) : Option UInt64 :=
  if n < UInt64.size then some (.ofNat n) else none

def mul? (a b : UInt64) : Option UInt64 := word? (a.toNat * b.toNat)

def div? (a b : UInt64) : Option UInt64 := if b = 0 then none else word? (a.toNat / b.toNat)

def mod? (a b : UInt64) : Option UInt64 := if b = 0 then none else word? (a.toNat % b.toNat)

variable {a b w : UInt64} {n : Nat}

theorem word?_eq_some_iff : word? n = some w ↔ w.toNat = n := by
  by_cases fits : n < UInt64.size
  · rw [word?, if_pos fits, Option.some.injEq, ← UInt64.toNat_inj, UInt64.toNat_ofNat_of_lt' fits]
    exact eq_comm
  · rw [word?, if_neg fits]
    refine ⟨nofun, fun same => (fits ?_).elim⟩
    rw [← same]
    exact w.toNat_lt

theorem mul?_of_lt (fits : a.toNat * b.toNat < UInt64.size) : mul? a b = some (a * b) := by
  rw [mul?, word?_eq_some_iff, UInt64.toNat_mul]
  exact Nat.mod_eq_of_lt fits

theorem div?_of_pos (pos : 0 < b.toNat) : div? a b = some (a / b) := by
  rw [div?, if_neg (UInt64.pos_iff_ne_zero.mp pos), word?_eq_some_iff, UInt64.toNat_div]

theorem mod?_of_pos (pos : 0 < b.toNat) : mod? a b = some (a % b) := by
  rw [mod?, if_neg (UInt64.pos_iff_ne_zero.mp pos), word?_eq_some_iff, UInt64.toNat_mod]

end Exact

namespace Paging

open Exact

/-- How many pages the total fills, at least one. -/
def pages? (p : Paging) : Option UInt64 := do
  let full ← div? p.total p.pageSize
  let rest ← mod? p.total p.pageSize
  let count ← if rest = 0 then some full else checkedAdd full 1
  return if count = 0 then 1 else count

theorem pages?_eq (p : Paging) : p.pages? = some p.pages := by
  rw [pages?, div?_of_pos p.pageSize_pos, mod?_of_pos p.pageSize_pos]
  by_cases even : p.total % p.pageSize = 0
  · simp [pages, even]
  · have fits : (p.total / p.pageSize).toNat + (1 : UInt64).toNat < UInt64.size := by
      rw [UInt64.toNat_div]
      exact p.full_succ_lt (mt p.remainder_eq_zero_iff.mpr even)
    have sum : checkedAdd (p.total / p.pageSize) 1 = some (p.total / p.pageSize + 1) :=
      if_pos fits
    simp [pages, even, sum]

end Paging
end ReviewDesk
