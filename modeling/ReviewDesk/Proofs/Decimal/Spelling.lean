import ReviewDesk.Proofs.Decimal.Whole

/-!
Which texts spell a number: a natural number is a row of digits, a plus before it or not; a share is
anything that is read as a finite number from zero to one.
-/

namespace ReviewDesk
namespace Decimal

/-- A row of digits, a plus before it or not, whose number lies below the bound. -/
def Spells (bound : Nat) (text : String) (n : Nat) : Prop :=
  ∃ digits, (text.toList = digits ∨ text.toList = '+' :: digits) ∧ digits ≠ [] ∧
    (∀ c ∈ digits, isDigit c = true) ∧ ofDigits digits = n ∧ n < bound

/-- The text spells a natural number of 64 bits. -/
def SpellsWord (text : String) : Prop :=
  ∃ n, Spells UInt64.size text n

/-- A finite number from zero to one. -/
structure Binary64.WithinOne (x : Binary64) : Prop where
  finite : x.isFinite = true
  zero_le : 0 ≤ x.units
  le_one : x.units ≤ Nat.pow 2 1074

/-- The text spells a number from zero to one. -/
def SpellsShare (text : String) : Prop :=
  ∃ x, Binary64.parse? text = some x ∧ x.WithinOne

theorem digitsOnly?_eq_some_iff {cs : List Char} {n : Nat} :
    digitsOnly? cs = some n ↔ cs ≠ [] ∧ (∀ c ∈ cs, isDigit c = true) ∧ ofDigits cs = n := by
  simp [digitsOnly?, and_assoc]

theorem filter_digitsOnly?_eq_some_iff {bound : Nat} {cs : List Char} {n : Nat} :
    (digitsOnly? cs).filter (· < bound) = some n ↔
      cs ≠ [] ∧ (∀ c ∈ cs, isDigit c = true) ∧ ofDigits cs = n ∧ n < bound := by
  rw [Option.filter_eq_some_iff, digitsOnly?_eq_some_iff]
  simp [and_assoc]

theorem natural?_eq_some_iff {bound : Nat} {text : String} {n : Nat} :
    natural? bound text = some n ↔ Spells bound text n := by
  rw [natural?, Spells]
  split
  · rename_i rest signed
    rw [filter_digitsOnly?_eq_some_iff]
    constructor
    · intro spelled
      exact ⟨rest, .inr signed, spelled⟩
    · rintro ⟨digits, plain | same, spelled⟩
      · -- a plus is no digit
        have plus := spelled.2.1 '+' (by simp [← plain, signed])
        exact absurd plus (by decide)
      · rw [signed, List.cons.injEq] at same
        rw [same.2]
        exact spelled
  · rename_i unsigned
    rw [filter_digitsOnly?_eq_some_iff]
    constructor
    · intro spelled
      exact ⟨text.toList, .inl rfl, spelled⟩
    · rintro ⟨digits, rfl | signed, spelled⟩
      · exact spelled
      · exact (unsigned digits signed).elim

theorem word64?_eq_some_iff {text : String} {n : UInt64} :
    word64? text = some n ↔ Spells UInt64.size text n.toNat := by
  rw [word64?, Option.map_eq_some_iff]
  constructor
  · rintro ⟨k, read, rfl⟩
    have spelled := natural?_eq_some_iff.mp read
    obtain ⟨digits, -, -, -, -, small⟩ := id spelled
    rw [UInt64.toNat_ofNat_of_lt' small]
    exact spelled
  · intro spelled
    exact ⟨n.toNat, natural?_eq_some_iff.mpr spelled, UInt64.ofNat_toNat⟩

theorem word64?_eq_none_iff {text : String} : word64? text = none ↔ ¬SpellsWord text := by
  rw [word64?, Option.map_eq_none_iff, Option.eq_none_iff_forall_ne_some, SpellsWord, not_exists]
  exact forall_congr' fun n => not_congr natural?_eq_some_iff

theorem spells_toString {bound n : Nat} (small : n < bound) : Spells bound (toString n) n := by
  have digits : (toString n).toList = digitText n := String.toList_ofList
  exact ⟨digitText n, .inl digits, digitText_ne_nil n, fun c => isDigit_of_mem_digitText,
    ofDigits_digitText n, small⟩

theorem word64?_toString (n : UInt64) : word64? (toString n.toNat) = some n := by
  rw [word64?, natural?_eq_some_iff.mpr (spells_toString n.toNat_lt), Option.map_some,
    UInt64.ofNat_toNat]

theorem units_one : (Binary64.ofNat 1).units = Nat.pow 2 1074 := by
  decide +kernel

theorem exists_one : ∃ canonical, Binary64.ofNat 1 = .finite false (Nat.pow 2 52) (-52) canonical :=
  ⟨by decide, by decide +kernel⟩

theorem le_iff_units {x y : Binary64} (left : x.isFinite = true) (right : y.isFinite = true) :
    x.le y = true ↔ x.units ≤ y.units := by
  cases x with
  | nan => cases left
  | infinite negative => cases left
  | finite s m e hx =>
      cases y with
      | nan => cases right
      | infinite negative => cases right
      | finite t n f hy => exact decide_eq_true_iff

end Decimal
end ReviewDesk
