import ReviewDesk.Proofs.Decimal.Rounding
import ReviewDesk.Proofs.Decimal.Spelling
import ReviewDesk.Proofs.Decimal.Whole
import ReviewDesk.Proofs.Json.Number
import ReviewDesk.Proofs.Text.Trim

/-!
The text of a value is read as that value. The digits that are chosen for it have it as their
nearest value, zeros at their end or not, and the reader puts the number of a positional text
together again, wherever its point stands. In the texts of numbers there are no blanks.
-/

namespace ReviewDesk
namespace Decimal

open Binary64 (nearest ofDecimal ofDecimal_eq_nearest)

/-- The number that a numeral stands for. -/
def Numeral.value (x : Numeral) : ℚ :=
  x.digits * 10 ^ x.exponent

theorem dropZeros_value (fuel : ℕ) (x : Numeral) : (dropZeros fuel x).value = x.value := by
  induction fuel generalizing x with
  | zero => rfl
  | succ fuel ih =>
      rw [dropZeros]
      split
      case isFalse => rfl
      case isTrue zero =>
        rw [ih, Numeral.value, Numeral.value, zpow_add_one₀ (by norm_num)]
        have whole : x.digits = x.digits / 10 * 10 := by omega
        have whole' : (x.digits : ℚ) = (x.digits / 10 : ℕ) * 10 := by exact_mod_cast whole
        rw [whole']
        ring

theorem Numeral.reduced_value (x : Numeral) : x.reduced.value = x.value :=
  dropZeros_value _ x

section Chosen

variable {tie : Tie} {value : Binary64} {num den count : ℕ} {x : Numeral}

/-- A point of the grid is taken only after it has been read back. -/
theorem ofDecimal_of_gridPoint? (chosen : gridPoint? tie value num den count = some x) :
    ofDecimal false x.digits x.exponent = value := by
  rw [gridPoint?] at chosen
  dsimp only at chosen
  split at chosen
  case isTrue =>
    split at chosen
    case isTrue fits =>
      cases chosen
      exact of_decide_eq_true fits
    case isFalse => cases chosen
  case isFalse =>
  split at chosen
  case isTrue fits =>
    cases chosen
    rw [Bool.and_eq_true, decide_eq_true_iff, decide_eq_true_iff] at fits
    dsimp only
    split
    · exact fits.2
    · exact fits.1
  case isFalse =>
  split at chosen
  case isTrue fits =>
    cases chosen
    exact of_decide_eq_true fits
  case isFalse =>
  split at chosen
  case isTrue fits =>
    cases chosen
    exact of_decide_eq_true fits
  case isFalse => cases chosen

variable {significand : ℕ} {exponent : ℤ}

theorem nearest_shortest_value (canonical : Canonical significand exponent) :
    nearest false (shortest tie significand exponent).value =
      .finite false significand exponent canonical := by
  obtain ⟨positive, scaled⟩ := Binary64.downscale_eq (-exponent) significand one_pos
  rw [Nat.cast_one, div_one, zpow_neg, div_inv_eq_mul] at scaled
  have itself := Binary64.nearest_of_canonical false canonical
  rw [shortest]
  dsimp only
  split
  case h_1 x found =>
    obtain ⟨i, -, chosen⟩ := List.exists_of_findSome?_eq_some found
    rw [Numeral.value, ← ofDecimal_eq_nearest, ofDecimal_of_gridPoint? chosen,
      Binary64.ofRatio_eq_nearest _ _ positive, scaled, itself]
  case h_2 =>
  -- past all grids the digits are those of the value itself
  rw [← itself]
  split
  case isTrue nonneg =>
    obtain ⟨k, rfl⟩ := Int.eq_ofNat_of_zero_le nonneg
    rw [Numeral.value, Int.toNat_natCast, Nat.pow_eq, zpow_zero, mul_one, zpow_natCast]
    push_cast
    rfl
  case isFalse below =>
    obtain ⟨k, rfl⟩ : ∃ k : ℕ, exponent = -(k : ℤ) := ⟨(-exponent).toNat, by omega⟩
    have tens : (10 : ℚ) ^ k = 5 ^ k * 2 ^ k := by
      rw [← mul_pow]
      norm_num
    rw [Numeral.value, neg_neg, Int.toNat_natCast, Nat.pow_eq, zpow_neg, zpow_neg, zpow_natCast,
      zpow_natCast, tens]
    push_cast
    field_simp

theorem nearest_reduced_value (negative : Bool) (canonical : Canonical significand exponent) :
    nearest negative (shortest tie significand exponent).reduced.value =
      .finite negative significand exponent canonical := by
  rw [Numeral.reduced_value]
  cases negative with
  | false => exact nearest_shortest_value canonical
  | true =>
      rw [← Bool.not_false, Binary64.nearest_not, nearest_shortest_value canonical]
      rfl

end Chosen

section Positional

variable {negative : Bool} {ds rest : List Char}

theorem isDigit_zero : ∀ c ∈ ['0'], isDigit c = true :=
  List.forall_mem_singleton.mpr (by decide)

/-- Digits, or digits on both sides of a point, and the number that they spell. -/
inductive Positional : List Char → ℚ → Prop where
  | whole {ds : List Char} (some_ : ds ≠ []) (digits : ∀ c ∈ ds, isDigit c = true) :
      Positional ds (ofDigits ds)
  | point {whole fraction : List Char} (some_ : whole ≠ [])
      (before : ∀ c ∈ whole, isDigit c = true) (after : ∀ c ∈ fraction, isDigit c = true) :
      Positional (whole ++ '.' :: fraction)
        (ofDigits (whole ++ fraction) * 10 ^ (-fraction.length : ℤ))

/-- Digits that are laid out at a place are the number of the digits at this place. -/
theorem positional_positionalText (some_ : ds ≠ []) (digits : ∀ c ∈ ds, isDigit c = true)
    (exponent : ℤ) :
    Positional (positionalText false ds exponent) (ofDigits ds * 10 ^ exponent) := by
  rw [positionalText]
  split
  case isTrue nonneg =>
    obtain ⟨k, rfl⟩ := Int.eq_ofNat_of_zero_le nonneg
    have value : (ofDigits ds : ℚ) * 10 ^ (k : ℤ) = ofDigits (ds ++ List.replicate k '0') := by
      rw [ofDigits_append, ofDigits_zeros, List.length_replicate, Nat.add_zero, zpow_natCast]
      push_cast
      rfl
    rw [Int.toNat_natCast, if_neg Bool.false_ne_true, List.append_nil, value]
    refine .whole (List.append_ne_nil_of_left_ne_nil some_ _) fun c member => ?_
    exact (List.mem_append.mp member).elim (digits c) isDigit_of_mem_zeros
  case isFalse below =>
  obtain ⟨k, rfl⟩ : ∃ k : ℕ, exponent = -(k : ℤ) := ⟨(-exponent).toNat, by omega⟩
  rw [neg_neg, Int.toNat_natCast]
  dsimp only
  split
  case isTrue inside =>
    have nonempty : ds.take (ds.length - k) ≠ [] := by
      rw [← List.length_pos_iff, List.length_take]
      omega
    have places : (ds.drop (ds.length - k)).length = k := by
      rw [List.length_drop]
      omega
    have split := Positional.point nonempty (fun c member => digits c (List.mem_of_mem_take member))
      fun c member => digits c (List.mem_of_mem_drop (i := ds.length - k) member)
    rw [List.take_append_drop, places] at split
    rw [List.append_assoc]
    exact split
  case isFalse outside =>
    have places : (List.replicate (k - ds.length) '0' ++ ds).length = k := by
      rw [List.length_append, List.length_replicate]
      omega
    have number : ofDigits (['0'] ++ (List.replicate (k - ds.length) '0' ++ ds)) = ofDigits ds := by
      rw [← List.append_assoc, ← List.replicate_one, List.replicate_append_replicate,
        ofDigits_append, ofDigits_zeros, Nat.zero_mul, Nat.zero_add]
    have split := Positional.point (List.cons_ne_nil '0' []) isDigit_zero fun c member =>
      (List.mem_append.mp member).elim (isDigit_of_mem_zeros (n := k - ds.length)) (digits c)
    rw [number, places] at split
    rw [List.append_assoc]
    exact split

theorem unsignedNumber?_of_positional {text : List Char} {r : ℚ} (spelled : Positional text r) :
    unsignedNumber? negative text = some (nearest negative r) := by
  cases spelled with
  | whole some_ digits =>
      simp [unsignedNumber?, spanDigits_of_digits digits, exponent?, ofDecimal_eq_nearest, some_]
  | @point _ fraction some_ before after =>
      have stop : ∀ c ∈ ('.' :: fraction).head?, isDigit c = false := by
        rintro c ⟨⟩
        decide
      simp [unsignedNumber?, spanDigits_of_stop before stop, spanDigits_of_digits after, exponent?,
        ofDecimal_eq_nearest, some_]

theorem Positional.head {text : List Char} {r : ℚ} (spelled : Positional text r) :
    ∃ c rest, text = c :: rest ∧ isDigit c = true := by
  cases spelled with
  | whole some_ digits =>
      obtain ⟨c, rest, rfl⟩ := List.exists_cons_of_ne_nil some_
      exact ⟨c, rest, rfl, digits c List.mem_cons_self⟩
  | point some_ before after =>
      obtain ⟨c, rest, rfl⟩ := List.exists_cons_of_ne_nil some_
      exact ⟨c, _, rfl, before c List.mem_cons_self⟩

theorem Positional.chars {text : List Char} {r : ℚ} (spelled : Positional text r) :
    ∀ c ∈ text, isDigit c = true ∨ c = '.' := by
  intro c member
  cases spelled with
  | whole some_ digits => exact .inl (digits c member)
  | point some_ before after =>
      rcases List.mem_append.mp member with front | back
      · exact .inl (before c front)
      · rcases List.mem_cons.mp back with point | behind
        · exact .inr point
        · exact .inl (after c behind)

end Positional

/-- A finite value is written as a positional text whose number has it as its nearest value. -/
theorem plain_chars_finite (negative : Bool) {significand : ℕ} {exponent : ℤ}
    (canonical : Canonical significand exponent) : ∃ text r,
    Style.plain.chars (.finite negative significand exponent canonical) =
        signText negative ++ text ∧
      Positional text r ∧ nearest negative r = .finite negative significand exponent canonical := by
  rw [Style.chars]
  split
  case isTrue null =>
    subst null
    refine ⟨_, _, rfl, positional_positionalText (List.cons_ne_nil '0' []) isDigit_zero 0, ?_⟩
    have zero : (ofDigits ['0'] : ℚ) * 10 ^ (0 : ℤ) = (0 : ℕ) * 2 ^ exponent := by
      simp [ofDigits, digitValue]
    rw [zero]
    exact Binary64.nearest_of_canonical negative canonical
  case isFalse nonzero =>
    refine ⟨_, _, rfl, positional_positionalText (digitText_ne_nil _)
      (fun c => isDigit_of_mem_digitText) _, ?_⟩
    rw [ofDigits_digitText]
    exact nearest_reduced_value negative canonical

theorem toLower_of_isDigit {c : Char} (digit : isDigit c = true) : c.toLower = c := by
  simp only [isDigit, Bool.and_eq_true, decide_eq_true_iff] at digit
  have upper : c.val ≤ '9'.val := digit.2
  refine dif_neg fun letter => ?_
  have lower : 'A'.val ≤ c.val := letter.1
  exact absurd (UInt32.le_trans lower upper) (by decide)

theorem word_beq {c d : Char} (digit : isDigit c = true) (rest : List Char) {word : String}
    (first : word.toList.head? = some d) (letter : isDigit d = false) :
    (String.ofList ((c :: rest).map Char.toLower) == word) = false := by
  rw [beq_eq_false_iff_ne]
  rintro rfl
  rw [String.toList_ofList, List.map_cons, List.head?_cons, toLower_of_isDigit digit] at first
  cases first
  cases digit.symm.trans letter

theorem spanSign_signText (negative : Bool) {c : Char} (digit : isDigit c = true)
    (rest : List Char) : spanSign (signText negative ++ c :: rest) = (negative, c :: rest) := by
  cases negative with
  | true => rfl
  | false =>
      refine Json.spanSign_of_other ?_ ?_ rest
      · rintro rfl
        cases digit
      · rintro rfl
        cases digit

/-- A text that begins with a digit after its sign is no word. -/
theorem parse?_of_digit (negative : Bool) {c : Char} (digit : isDigit c = true)
    (rest : List Char) :
    Binary64.parse? (String.ofList (signText negative ++ c :: rest)) =
      unsignedNumber? negative (c :: rest) := by
  rw [Binary64.parse?, String.toList_ofList, spanSign_signText negative digit]
  dsimp only
  rw [word_beq digit rest (d := 'i') (by decide) (by decide),
    word_beq digit rest (d := 'i') (by decide) (by decide),
    word_beq digit rest (d := 'n') (by decide) (by decide)]
  rfl

/-- Reading the text of a value gives the value. -/
theorem parse?_plain_text (x : Binary64) : Binary64.parse? (Style.plain.text x) = some x := by
  cases x with
  | nan => decide +kernel
  | infinite negative => cases negative <;> decide +kernel
  | finite negative significand exponent canonical =>
      obtain ⟨text, r, chars, spelled, near⟩ := plain_chars_finite negative canonical
      obtain ⟨c, rest, rfl, digit⟩ := spelled.head
      rw [Style.text, chars, parse?_of_digit negative digit, unsignedNumber?_of_positional spelled,
        near]

/-- The same number in its plain text. -/
example : (Binary64.parse? "+1e-3").map Style.plain.text = some "0.001" := by
  decide +kernel

theorem spellsShare_plain_text_iff {x : Binary64} :
    SpellsShare (Style.plain.text x) ↔ x.WithinOne := by
  rw [SpellsShare, parse?_plain_text]
  constructor
  · rintro ⟨_, ⟨⟩, share⟩
    exact share
  · intro share
    exact ⟨x, rfl, share⟩

theorem toList_toString (n : ℤ) :
    (toString n).toList = signText (n < 0) ++ digitText n.natAbs := by
  have whole (k : ℕ) : (Nat.repr k).toList = digitText k := String.toList_ofList
  change n.repr.toList = _
  rw [Int.repr_eq_if]
  split
  case isTrue nonneg =>
    have size : n.toNat = n.natAbs := by omega
    rw [whole, size, signText, if_neg (by simpa using nonneg), List.nil_append]
  case isFalse negative =>
    have size : (-n).toNat = n.natAbs := by omega
    rw [String.toList_append, whole, size, signText, if_pos (by simpa using negative)]
    rfl

/-- A minus is no part of a natural number. -/
theorem not_spellsWord_toString {n : ℤ} (negative : n < 0) : ¬SpellsWord (toString n) := by
  rintro ⟨m, digits, spelled, -, all, -⟩
  rw [toList_toString, signText, if_pos (decide_eq_true negative), List.singleton_append] at spelled
  rcases spelled with rfl | plus
  · exact absurd (all '-' List.mem_cons_self) (by decide)
  · cases plus

theorem isBlank_of_isDigit {c : Char} (digit : isDigit c = true) : Text.isBlank c = false := by
  simp only [isDigit, Bool.and_eq_true, decide_eq_true_iff] at digit
  have low : 48 ≤ c.toNat := digit.1
  have high : c.toNat ≤ 57 := digit.2
  simp [Text.isBlank]
  omega

theorem isBlank_of_mem_signText {negative : Bool} {c : Char} (member : c ∈ signText negative) :
    Text.isBlank c = false := by
  cases negative with
  | false => cases member
  | true =>
      rw [List.mem_singleton.mp member]
      decide

theorem trimmed_plain_text (x : Binary64) : Text.Trimmed (Style.plain.text x) := by
  cases x with
  | nan => exact Text.trimmed_of_counts (by decide +kernel) (by decide +kernel)
  | infinite negative =>
      cases negative <;> exact Text.trimmed_of_counts (by decide +kernel) (by decide +kernel)
  | finite negative significand exponent canonical =>
      obtain ⟨text, r, chars, spelled, -⟩ := plain_chars_finite negative canonical
      obtain ⟨first, rest, text_eq, -⟩ := spelled.head
      rw [Style.text, chars]
      refine Text.trimmed_of_counts (by simp [text_eq]) (List.any_eq_false.mpr fun c member => ?_)
      rw [Bool.not_eq_true]
      rw [String.toList_ofList, List.mem_append] at member
      rcases member with sign | inside
      · exact isBlank_of_mem_signText sign
      · rcases spelled.chars c inside with digit | rfl
        · exact isBlank_of_isDigit digit
        · decide

theorem trimmed_toString (n : ℤ) : Text.Trimmed (toString n) := by
  have chars := toList_toString n
  refine Text.trimmed_of_counts ?_ (List.any_eq_false.mpr fun c member => ?_)
  · rw [ne_eq, ← String.toList_inj, chars]
    simp [digitText_ne_nil]
  · rw [Bool.not_eq_true]
    rw [chars, List.mem_append] at member
    exact member.elim isBlank_of_mem_signText fun digit =>
      isBlank_of_isDigit (isDigit_of_mem_digitText digit)

end Decimal
end ReviewDesk
