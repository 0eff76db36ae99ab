import Mathlib.Data.List.Basic
import Mathlib.Data.List.Induction
import Mathlib.Data.List.TakeWhile
import Mathlib.Tactic.Ring
import ReviewDesk.Decimal.Layout
import ReviewDesk.Decimal.Reader

/-!
The digits of a natural number: they spell it, and none of them is a zero that could be left out. Of
all rows of digits of one length, no two spell the same number.
-/

namespace ReviewDesk
namespace Decimal

theorem isDigit_of_mem_digitText {n : Nat} {c : Char} (member : c ∈ digitText n) :
    isDigit c = true := by
  have digit := Nat.isDigit_of_mem_toDigits (by decide) (by decide) member
  rw [Char.isDigit, Bool.and_eq_true, decide_eq_true_iff, decide_eq_true_iff] at digit
  rw [isDigit, Bool.and_eq_true, decide_eq_true_iff, decide_eq_true_iff]
  exact digit

theorem digitText_ne_nil (n : Nat) : digitText n ≠ [] :=
  Nat.toDigits_ne_nil

theorem ofDigits_digitText (n : Nat) : ofDigits (digitText n) = n := by
  have value := Nat.ofDigitChars_ten_toDigits (n := n)
  rw [Nat.ofDigitChars_eq_foldl] at value
  simp only [Nat.mul_comm 10] at value
  exact value

theorem digitText_zero_head {n : Nat} (zero : (digitText n).head? = some '0') : n = 0 := by
  induction n using Nat.base_induction 10 (by decide) with
  | single m small =>
      rw [digitText, Nat.toDigits_of_lt_base small] at zero
      revert m
      decide
  | digit m k small positive ih =>
      rw [digitText, ← Nat.toDigits_append_toDigits (by decide) positive small,
        List.head?_append_of_ne_nil _ Nat.toDigits_ne_nil] at zero
      exact absurd (ih zero) (by omega)

theorem spanDigits_of_stop {ds rest : List Char} (digits : ∀ c ∈ ds, isDigit c = true)
    (stop : ∀ c ∈ rest.head?, isDigit c = false) : spanDigits (ds ++ rest) = (ds, rest) := by
  rw [spanDigits, List.takeWhile_append_of_pos digits, List.dropWhile_append_of_pos digits]
  cases rest with
  | nil => simp
  | cons c rest => simp [stop c rfl]

theorem spanDigits_of_digits {ds : List Char} (digits : ∀ c ∈ ds, isDigit c = true) :
    spanDigits ds = (ds, []) := by
  have span : spanDigits (ds ++ []) = (ds, []) := spanDigits_of_stop digits (by simp)
  rwa [List.append_nil] at span

theorem spanDigits_digitText (n : Nat) : spanDigits (digitText n) = (digitText n, []) :=
  spanDigits_of_digits fun _ => isDigit_of_mem_digitText

theorem ofDigits_append (xs ys : List Char) :
    ofDigits (xs ++ ys) = ofDigits xs * 10 ^ ys.length + ofDigits ys := by
  induction ys using List.reverseRecOn with
  | nil => simp [ofDigits]
  | append_singleton ys c ih =>
      have last (zs : List Char) : ofDigits (zs ++ [c]) = ofDigits zs * 10 + digitValue c := by
        rw [ofDigits, List.foldl_append]
        rfl
      rw [← List.append_assoc, last, last, ih, List.length_append, List.length_singleton]
      ring

theorem ofDigits_zeros (n : ℕ) : ofDigits (List.replicate n '0') = 0 := by
  induction n with
  | zero => rfl
  | succ n ih =>
      rw [List.replicate_succ', ofDigits_append, ih]
      rfl

theorem isDigit_of_mem_zeros {n : ℕ} {c : Char} (member : c ∈ List.replicate n '0') :
    isDigit c = true := by
  rw [List.eq_of_mem_replicate member]
  decide

theorem ofDigits_cons (c : Char) (cs : List Char) :
    ofDigits (c :: cs) = digitValue c * 10 ^ cs.length + ofDigits cs := by
  have single : ofDigits [c] = digitValue c := by simp [ofDigits]
  rw [← List.singleton_append, ofDigits_append, single]

theorem digitValue_lt {c : Char} (digit : isDigit c = true) : digitValue c < 10 := by
  rw [isDigit, Bool.and_eq_true, decide_eq_true_iff, decide_eq_true_iff] at digit
  have most : c.toNat ≤ '9'.toNat := digit.2
  have nine : '9'.toNat = '0'.toNat + 9 := rfl
  rw [digitValue]
  omega

theorem digitValue_inj {c d : Char} (digit : isDigit c = true) (digit' : isDigit d = true)
    (same : digitValue c = digitValue d) : c = d := by
  rw [isDigit, Bool.and_eq_true, decide_eq_true_iff, decide_eq_true_iff] at digit digit'
  have least : '0'.toNat ≤ c.toNat := digit.1
  have least' : '0'.toNat ≤ d.toNat := digit'.1
  rw [digitValue, digitValue] at same
  exact Char.toNat_inj.mp (by omega)

theorem ofDigits_lt {ds : List Char} (digits : ∀ c ∈ ds, isDigit c = true) :
    ofDigits ds < 10 ^ ds.length := by
  induction ds with
  | nil => exact Nat.one_pos
  | cons c ds ih =>
      obtain ⟨digit, digits⟩ := List.forall_mem_cons.mp digits
      have first := Nat.mul_le_mul_right (10 ^ ds.length) (Nat.le_of_lt_succ (digitValue_lt digit))
      have rest := ih digits
      rw [ofDigits_cons, List.length_cons, Nat.pow_succ]
      omega

/-- As many digits spell another number when they are others. -/
theorem ofDigits_inj {ds es : List Char} (digits : ∀ c ∈ ds, isDigit c = true)
    (digits' : ∀ c ∈ es, isDigit c = true) (length : ds.length = es.length)
    (same : ofDigits ds = ofDigits es) : ds = es := by
  induction ds generalizing es with
  | nil => exact (List.eq_nil_of_length_eq_zero length.symm).symm
  | cons c ds ih =>
      obtain ⟨d, es, rfl⟩ := List.exists_cons_of_length_eq_add_one length.symm
      obtain ⟨digit, digits⟩ := List.forall_mem_cons.mp digits
      obtain ⟨digit', digits'⟩ := List.forall_mem_cons.mp digits'
      have length : ds.length = es.length := Nat.succ.inj length
      have rest := ofDigits_lt digits
      have rest' := ofDigits_lt digits'
      rw [ofDigits_cons, ofDigits_cons, ← length] at same
      rw [← length] at rest'
      have firsts := congrArg (· / 10 ^ ds.length) same
      have rests := congrArg (· % 10 ^ ds.length) same
      have positive : 0 < 10 ^ ds.length := Nat.pow_pos (by decide)
      simp only [Nat.mul_comm _ (10 ^ ds.length), Nat.mul_add_div positive, Nat.mul_add_mod,
        Nat.div_eq_of_lt rest, Nat.div_eq_of_lt rest', Nat.mod_eq_of_lt rest,
        Nat.mod_eq_of_lt rest', Nat.add_zero] at firsts rests
      rw [digitValue_inj digit digit' firsts, ih digits digits' length rests]

end Decimal
end ReviewDesk
