import Mathlib.Algebra.Order.Field.Power
import Mathlib.Algebra.Order.Floor.Semifield
import Mathlib.Data.Int.Log
import Mathlib.Data.Rat.Floor
import ReviewDesk.Decimal.Binary64

/-!
Rounding as a function of the exact number. The value of a quotient and that of a decimal depend on
the number that they spell and on nothing else: each is the value nearest to it. A number that is a
value already is its own nearest value.
-/

namespace ReviewDesk
namespace Decimal
namespace Binary64

/-- The natural number nearest to a number that is not negative, a half to the even neighbour. -/
def nearestNat (r : ℚ) : ℕ :=
  let q := ⌊r⌋₊
  if r - q < 1 / 2 then q else if 1 / 2 < r - q then q + 1 else q + q % 2

/-- The exponent at which a positive number has a significand of 53 bits, but none below the
least. -/
def fullExponent (r : ℚ) : ℤ :=
  max (Int.log 2 r - 52) (-1074)

/-- The value nearest to a number that is not negative, with a sign. -/
def nearest (negative : Bool) (r : ℚ) : Binary64 :=
  if r = 0 then zero negative
  else ofRounded negative (nearestNat (r / 2 ^ fullExponent r)) (fullExponent r)

theorem halfEven_eq_nearestNat (num : ℕ) {den : ℕ} (pos : 0 < den) :
    halfEven num den = nearestNat (num / den) := by
  have pos' : (0 : ℚ) < den := Nat.cast_pos.mpr pos
  have floor : ⌊(num : ℚ) / den⌋₊ = num / den := Nat.floor_div_eq_div num den
  have rest : (num : ℚ) / den - (num / den : ℕ) = (num % den : ℕ) / den := by
    have split : (num : ℚ) = den * (num / den : ℕ) + (num % den : ℕ) := by
      exact_mod_cast (Nat.div_add_mod num den).symm
    rw [div_sub' pos'.ne', div_left_inj' pos'.ne']
    linarith
  have low : ((num % den : ℕ) : ℚ) / den < 1 / 2 ↔ 2 * (num % den) < den := by
    rw [div_lt_div_iff₀ pos' two_pos, one_mul, mul_comm]
    exact_mod_cast Iff.rfl
  have high : 1 / 2 < ((num % den : ℕ) : ℚ) / den ↔ den < 2 * (num % den) := by
    rw [div_lt_div_iff₀ two_pos pos', one_mul, mul_comm]
    exact_mod_cast Iff.rfl
  simp only [halfEven, nearestNat, floor, rest, low, high]

theorem nearestNat_natCast (n : ℕ) : nearestNat n = n := by
  simp [nearestNat]

theorem nearestNat_of_small {r : ℚ} (small : r < 1 / 2) : nearestNat r = 0 := by
  have floor : ⌊r⌋₊ = 0 := Nat.floor_eq_zero.mpr (by linarith)
  simp only [nearestNat, floor, Nat.cast_zero, sub_zero, if_pos small]

/-- A quotient divided by a power of two. -/
theorem downscale_eq (exponent : ℤ) (num : ℕ) {den : ℕ} (pos : 0 < den) :
    0 < (downscale exponent num den).2 ∧
      ((downscale exponent num den).1 : ℚ) / (downscale exponent num den).2 =
        num / den / 2 ^ exponent := by
  unfold downscale
  split
  · rename_i nonneg
    obtain ⟨k, rfl⟩ := Int.eq_ofNat_of_zero_le nonneg
    refine ⟨Nat.mul_pos pos (Nat.pow_pos two_pos), ?_⟩
    rw [Int.toNat_natCast, zpow_natCast, Nat.pow_eq, div_div]
    push_cast
    rfl
  · rename_i negative
    obtain ⟨k, rfl⟩ : ∃ k : ℕ, exponent = -(k : ℤ) := ⟨(-exponent).toNat, by omega⟩
    refine ⟨pos, ?_⟩
    rw [neg_neg, Int.toNat_natCast, zpow_neg, zpow_natCast, Nat.pow_eq, div_inv_eq_mul]
    push_cast
    ring

/-- The logarithms of numerator and denominator give that of the quotient, up to one. -/
theorem log_quotient {num den : ℕ} (pos : 0 < num) (pos' : 0 < den) :
    (num.log2 : ℤ) - den.log2 - 1 ≤ Int.log 2 ((num : ℚ) / den) ∧
      Int.log 2 ((num : ℚ) / den) < (num.log2 : ℤ) - den.log2 + 1 := by
  have den_pos : (0 : ℚ) < den := Nat.cast_pos.mpr pos'
  have quotient : (0 : ℚ) < num / den := by positivity
  have num_low : (2 : ℚ) ^ num.log2 ≤ num := by exact_mod_cast Nat.log2_self_le pos.ne'
  have num_high : (num : ℚ) < 2 ^ (num.log2 + 1) := by exact_mod_cast Nat.lt_log2_self
  have den_low : (2 : ℚ) ^ den.log2 ≤ den := by exact_mod_cast Nat.log2_self_le pos'.ne'
  have den_high : (den : ℚ) < 2 ^ (den.log2 + 1) := by exact_mod_cast Nat.lt_log2_self
  constructor
  · rw [← Int.zpow_le_iff_le_log one_lt_two quotient, sub_sub, zpow_sub₀ (by norm_num)]
    push_cast
    rw [div_le_div_iff₀ (by positivity) den_pos]
    exact mul_le_mul num_low den_high.le den_pos.le (Nat.cast_nonneg num)
  · rw [← Int.lt_zpow_iff_log_lt one_lt_two quotient, sub_add_eq_add_sub,
      zpow_sub₀ (by norm_num)]
    push_cast
    rw [div_lt_div_iff₀ den_pos (by positivity)]
    exact mul_lt_mul num_high den_low (by positivity) (by positivity)

theorem ratioExponent_eq {num den : ℕ} (pos : 0 < num) (pos' : 0 < den) :
    ratioExponent num den = fullExponent (num / den) := by
  have quotient : (0 : ℚ) < num / den := by positivity
  obtain ⟨low, high⟩ := log_quotient pos pos'
  rw [ratioExponent, fullExponent]
  dsimp only
  generalize guessed : (num.log2 : ℤ) - den.log2 - 52 = guess
  obtain ⟨positive, scaled⟩ := downscale_eq guess num pos'
  -- the guess is right when it leaves 53 bits, and one too high otherwise
  have full : (downscale guess num den).2 * Nat.pow 2 52 ≤ (downscale guess num den).1 ↔
      52 + guess ≤ Int.log 2 ((num : ℚ) / den) := by
    rw [← Int.zpow_le_iff_le_log one_lt_two quotient, ← Nat.cast_le (α := ℚ), Nat.cast_mul,
      mul_comm, ← le_div_iff₀ (Nat.cast_pos.mpr positive), scaled,
      le_div_iff₀ (by positivity), Nat.pow_eq, Nat.cast_pow, Nat.cast_ofNat,
      zpow_add₀ two_ne_zero]
    rfl
  split
  · rename_i reached
    have log := full.mp reached
    congr 1
    omega
  · rename_i missed
    have log := mt full.mpr missed
    congr 1
    omega

theorem ofRatio_eq_nearest (negative : Bool) (num : ℕ) {den : ℕ} (pos : 0 < den) :
    ofRatio negative num den = nearest negative (num / den) := by
  have pos' : (0 : ℚ) < den := Nat.cast_pos.mpr pos
  by_cases zero : num = 0
  · simp [ofRatio, nearest, zero]
  · have nonzero : (num : ℚ) / den ≠ 0 := div_ne_zero (Nat.cast_ne_zero.mpr zero) pos'.ne'
    obtain ⟨positive, scaled⟩ := downscale_eq (fullExponent (num / den)) num pos
    rw [ofRatio, nearest, if_neg zero, if_neg nonzero,
      ratioExponent_eq (Nat.pos_of_ne_zero zero) pos]
    dsimp only
    rw [halfEven_eq_nearestNat _ positive, scaled]

variable {significand : ℕ} {exponent : ℤ}

theorem fullExponent_of_canonical (canonical : Canonical significand exponent)
    (nonzero : significand ≠ 0) : fullExponent (significand * 2 ^ exponent) = exponent := by
  obtain ⟨small, low, -, full⟩ := canonical
  have unit : (0 : ℚ) < 2 ^ exponent := by positivity
  have value : (0 : ℚ) < significand * 2 ^ exponent :=
    mul_pos (Nat.cast_pos.mpr (Nat.pos_of_ne_zero nonzero)) unit
  have below : Int.log 2 ((significand : ℚ) * 2 ^ exponent) < 53 + exponent := by
    rw [← Int.lt_zpow_iff_log_lt one_lt_two value, Nat.cast_ofNat, zpow_add₀ two_ne_zero]
    exact mul_lt_mul_of_pos_right (by exact_mod_cast small) unit
  rw [fullExponent]
  rcases full with full | least
  · have above : 52 + exponent ≤ Int.log 2 ((significand : ℚ) * 2 ^ exponent) := by
      rw [← Int.zpow_le_iff_le_log one_lt_two value, Nat.cast_ofNat, zpow_add₀ two_ne_zero]
      exact mul_le_mul_of_nonneg_right (by exact_mod_cast full) unit.le
    omega
  · omega

theorem ofRounded_of_canonical (negative : Bool) (canonical : Canonical significand exponent) :
    ofRounded negative significand exponent = .finite negative significand exponent canonical := by
  have small : significand ≠ Nat.pow 2 53 := canonical.1.ne
  simp only [ofRounded, if_neg small, dif_pos canonical]

/-- A value is the value nearest to itself. -/
theorem nearest_of_canonical (negative : Bool) (canonical : Canonical significand exponent) :
    nearest negative (significand * 2 ^ exponent) =
      .finite negative significand exponent canonical := by
  have unit : (2 : ℚ) ^ exponent ≠ 0 := zpow_ne_zero _ two_ne_zero
  by_cases null : significand = 0
  · subst null
    obtain rfl : exponent = -1074 := canonical.2.2.2.resolve_left (by decide)
    rw [nearest, Nat.cast_zero, zero_mul, if_pos rfl, zero]
  · rw [nearest, if_neg (mul_ne_zero (Nat.cast_ne_zero.mpr null) unit),
      fullExponent_of_canonical canonical null, mul_div_cancel_right₀ _ unit, nearestNat_natCast,
      ofRounded_of_canonical]

theorem ofRounded_of_large (negative : Bool) (significand : ℕ) (large : 971 < exponent) :
    ofRounded negative significand exponent = .infinite negative := by
  have beyond (m : ℕ) {e : ℤ} (large : 971 < e) : ¬Canonical m e :=
    fun canonical => absurd canonical.2.2.1 (by omega)
  by_cases carried : significand = Nat.pow 2 53
  · simp only [ofRounded, if_pos carried]
    exact dif_neg (beyond _ (by omega))
  · simp only [ofRounded, if_neg carried]
    exact dif_neg (beyond _ large)

theorem nearest_of_large (negative : Bool) {r : ℚ} (large : 2 ^ (1024 : ℤ) ≤ r) :
    nearest negative r = .infinite negative := by
  have positive : 0 < r := lt_of_lt_of_le (by positivity) large
  have log : 1024 ≤ Int.log 2 r := by
    rw [← Int.zpow_le_iff_le_log one_lt_two positive]
    exact large
  have exponent : 971 < fullExponent r := by
    rw [fullExponent]
    omega
  rw [nearest, if_neg positive.ne', ofRounded_of_large _ _ exponent]

theorem nearest_of_small (negative : Bool) {r : ℚ} (positive : 0 < r)
    (small : r < 2 ^ (-1075 : ℤ)) : nearest negative r = zero negative := by
  have log : Int.log 2 r < -1075 := by
    rw [← Int.lt_zpow_iff_log_lt one_lt_two positive]
    exact small
  have exponent : fullExponent r = -1074 := by
    rw [fullExponent]
    omega
  have below : r / 2 ^ (-1074 : ℤ) < 1 / 2 := by
    rw [div_lt_iff₀ (by positivity)]
    have half : (2 : ℚ) ^ (-1075 : ℤ) = 1 / 2 * 2 ^ (-1074 : ℤ) := by
      rw [show (-1075 : ℤ) = -1 + -1074 by rfl, zpow_add₀ two_ne_zero, zpow_neg_one, one_div]
    exact lt_of_lt_of_eq small half
  rw [nearest, if_neg positive.ne', exponent, nearestNat_of_small below]
  exact ofRounded_of_canonical negative (by decide)

theorem ofRounded_not (negative : Bool) (significand : ℕ) (exponent : ℤ) :
    ofRounded (!negative) significand exponent = (ofRounded negative significand exponent).neg := by
  rw [ofRounded, ofRounded]
  generalize (if significand = Nat.pow 2 53 then (Nat.pow 2 52, exponent + 1)
    else (significand, exponent)) = carried
  dsimp only
  rw [apply_dite neg]
  rfl

theorem nearest_not (negative : Bool) (r : ℚ) :
    nearest (!negative) r = (nearest negative r).neg := by
  rw [nearest, nearest, apply_ite neg, ofRounded_not]
  rfl

theorem lt_pow_digitCount (n : ℕ) : n < 10 ^ digitCount n := by
  have some : 0 < digitCount n := List.length_pos_iff.mpr Nat.toDigits_ne_nil
  exact (Nat.length_toDigits_le_iff (by decide) some).mp (Nat.le_refl _)

theorem pow_digitCount_le {n : ℕ} (nonzero : n ≠ 0) : 10 ^ (digitCount n - 1) ≤ n := by
  by_cases one : digitCount n ≤ 1
  · rw [Nat.sub_eq_zero_of_le one]
    exact Nat.pos_of_ne_zero nonzero
  · rw [← Nat.not_lt, ← Nat.length_toDigits_le_iff (by decide) (by omega)]
    change ¬digitCount n ≤ _
    omega

/-- A decimal is read as the value nearest to it, also where its size alone settles the matter. -/
theorem ofDecimal_eq_nearest (negative : Bool) (digits : ℕ) (exponent : ℤ) :
    ofDecimal negative digits exponent = nearest negative (digits * 10 ^ exponent) := by
  by_cases null : digits = 0
  · simp [ofDecimal, nearest, null]
  have unit : (0 : ℚ) < 10 ^ exponent := by positivity
  have some : 0 < digitCount digits := List.length_pos_iff.mpr Nat.toDigits_ne_nil
  have positive : (0 : ℚ) < digits * 10 ^ exponent :=
    mul_pos (Nat.cast_pos.mpr (Nat.pos_of_ne_zero null)) unit
  have low : (10 : ℚ) ^ ((digitCount digits : ℤ) + exponent - 1) ≤ digits * 10 ^ exponent := by
    have first : (10 : ℚ) ^ (digitCount digits - 1) ≤ digits := by
      exact_mod_cast pow_digitCount_le null
    have others : (digitCount digits : ℤ) + exponent - 1 =
        (digitCount digits - 1 : ℕ) + exponent := by
      omega
    rw [others, zpow_add₀ (by norm_num), zpow_natCast]
    exact mul_le_mul_of_nonneg_right first unit.le
  have high : (digits : ℚ) * 10 ^ exponent < 10 ^ ((digitCount digits : ℤ) + exponent) := by
    have beyond : (digits : ℚ) < 10 ^ digitCount digits := by
      exact_mod_cast lt_pow_digitCount digits
    rw [zpow_add₀ (by norm_num), zpow_natCast]
    exact mul_lt_mul_of_pos_right beyond unit
  rw [ofDecimal, if_neg null]
  dsimp only
  split
  case isTrue large =>
    have reached : (10 : ℚ) ^ (310 : ℤ) ≤ 10 ^ ((digitCount digits : ℤ) + exponent - 1) :=
      zpow_le_zpow_right₀ (by norm_num) (by omega)
    have most : (2 : ℚ) ^ (1024 : ℤ) ≤ 10 ^ (310 : ℤ) := by
      exact_mod_cast (show 2 ^ 1024 ≤ 10 ^ 310 by decide +kernel)
    exact (nearest_of_large negative (most.trans (reached.trans low))).symm
  case isFalse =>
  split
  case isTrue small =>
    have missed : (10 : ℚ) ^ ((digitCount digits : ℤ) + exponent) ≤ 10 ^ (-331 : ℤ) :=
      zpow_le_zpow_right₀ (by norm_num) (by omega)
    have least : (10 : ℚ) ^ (-331 : ℤ) < 2 ^ (-1075 : ℤ) := by
      rw [zpow_neg, zpow_neg, inv_lt_inv₀ (by positivity) (by positivity)]
      exact_mod_cast (show 2 ^ 1075 < 10 ^ 331 by decide +kernel)
    exact (nearest_of_small negative positive (high.trans (missed.trans_lt least))).symm
  case isFalse =>
  split
  case isTrue nonneg =>
    obtain ⟨k, rfl⟩ := Int.eq_ofNat_of_zero_le nonneg
    rw [ofRatio_eq_nearest _ _ one_pos, Int.toNat_natCast, zpow_natCast, Nat.pow_eq]
    push_cast
    rw [div_one]
  case isFalse below =>
    obtain ⟨k, rfl⟩ : ∃ k : ℕ, exponent = -(k : ℤ) := ⟨(-exponent).toNat, by omega⟩
    rw [neg_neg, Int.toNat_natCast, Nat.pow_eq, ofRatio_eq_nearest _ _ (Nat.pow_pos (by decide)),
      zpow_neg, zpow_natCast, div_eq_mul_inv]
    push_cast
    rfl

end Binary64
end Decimal
end ReviewDesk
