import ReviewDesk.Json.Writer
import ReviewDesk.Proofs.Decimal.Whole
import ReviewDesk.Proofs.Json.Grammar

/-!
A number is read up to the first character that cannot go on with it, and a whole number of 64 bits
is read as it was written.
-/

namespace ReviewDesk
namespace Json

open Decimal

/-- What may follow a number: nothing that goes on with it. -/
def Stops (rest : List Char) : Prop :=
  ∀ c ∈ rest.head?, isDigit c = false ∧ c ≠ '.' ∧ c ≠ 'e' ∧ c ≠ 'E'

variable {rest : List Char}

theorem Stops.ne_cons (stops : Stops rest) {c : Char} (further : c = '.' ∨ c = 'e' ∨ c = 'E')
    (tail : List Char) : rest ≠ c :: tail := by
  rintro rfl
  obtain ⟨-, point, lower, upper⟩ := stops c rfl
  exact not_or.mpr ⟨point, not_or.mpr ⟨lower, upper⟩⟩ further

theorem spanDigits_append (stops : Stops rest) (cs : List Char) :
    spanDigits (cs ++ rest) = ((spanDigits cs).1, (spanDigits cs).2 ++ rest) := by
  induction cs with
  | nil =>
      cases rest with
      | nil => rfl
      | cons c rest =>
          have other := (stops c rfl).1
          simp [spanDigits, other]
  | cons c cs ih =>
      simp only [spanDigits, Prod.mk.injEq] at ih ⊢
      by_cases digit : isDigit c
      · simp [digit, ih]
      · simp [digit]

theorem spanSign_of_other {c : Char} (minus : c ≠ '-') (plus : c ≠ '+') (cs : List Char) :
    spanSign (c :: cs) = (false, c :: cs) := by
  unfold spanSign
  split
  · rename_i same
    exact (minus (List.cons.inj same).1).elim
  · rename_i same
    exact (plus (List.cons.inj same).1).elim
  · rfl

theorem spanSign_append (c : Char) (cs rest : List Char) :
    spanSign (c :: cs ++ rest) = ((spanSign (c :: cs)).1, (spanSign (c :: cs)).2 ++ rest) := by
  by_cases minus : c = '-'
  · rw [minus]
    rfl
  by_cases plus : c = '+'
  · rw [plus]
    rfl
  · rw [List.cons_append, spanSign_of_other minus plus, spanSign_of_other minus plus]
    rfl

theorem readExponent_append (stops : Stops rest) {cs after : List Char} {exponent : Int}
    (read : readExponent cs = some (exponent, after)) :
    readExponent (cs ++ rest) = some (exponent, after ++ rest) := by
  have sign : spanSign (cs ++ rest) = ((spanSign cs).1, (spanSign cs).2 ++ rest) := by
    cases cs with
    | nil => cases read
    | cons c cs => exact spanSign_append c cs rest
  unfold readExponent at read ⊢
  rw [sign]
  dsimp only at read ⊢
  rw [spanDigits_append stops]
  dsimp only
  split at read
  · cases read
  · rename_i some_
    cases read
    rw [if_neg some_]

/-- What is read after the digits: an exponent, or nothing more of the number. -/
def readPower (negative : Bool) (significand : Nat) (exponent : Int) (plain : Option Number) :
    List Char → Option (Number × List Char)
  | 'e' :: rest | 'E' :: rest => do
    let (power, rest) ← readExponent rest
    let value ← real? negative significand (exponent + power)
    return (value, rest)
  | rest => plain.map (·, rest)

/-- What is read after the whole part: a fraction, or an exponent at once. -/
def readFraction (negative : Bool) (whole : List Char) :
    List Char → Option (Number × List Char)
  | '.' :: rest =>
    let (significand, count) := keepDigits 0 whole
    let (fraction, rest) := spanDigits rest
    if fraction.isEmpty then none
    else
      let (significand, kept) := keepDigits significand fraction
      let exponent : Int := (whole.length - count : Nat) - kept
      readPower negative significand exponent (real? negative significand exponent) rest
  | rest =>
    let (significand, count) := keepDigits 0 whole
    readPower negative significand (whole.length - count : Nat) (wholeNumber? negative whole) rest

theorem readPower_of_other {negative : Bool} {significand : Nat} {exponent : Int}
    {plain : Option Number} {cs : List Char} (lower : ∀ rest, cs ≠ 'e' :: rest)
    (upper : ∀ rest, cs ≠ 'E' :: rest) :
    readPower negative significand exponent plain cs = plain.map (·, cs) := by
  unfold readPower
  split
  · exact (lower _ rfl).elim
  · exact (upper _ rfl).elim
  · rfl

theorem readFraction_of_other {negative : Bool} {whole cs : List Char}
    (other : ∀ rest, cs ≠ '.' :: rest) :
    readFraction negative whole cs =
      readPower negative (keepDigits 0 whole).1 (whole.length - (keepDigits 0 whole).2 : Nat)
        (wholeNumber? negative whole) cs := by
  unfold readFraction
  split
  · exact (other _ rfl).elim
  · rfl

/-- No digit at all, or a zero in front of other digits. -/
def isMisspelt (whole : List Char) : Bool :=
  whole.isEmpty || (1 < whole.length && whole.head? == some '0')

theorem readUnsigned_eq (negative : Bool) (cs : List Char) :
    readUnsigned negative cs =
      if isMisspelt (spanDigits cs).1 then none
      else readFraction negative (spanDigits cs).1 (spanDigits cs).2 := by
  have bind_map (x : Option Number) (rest : List Char) :
      (x >>= fun value => pure (value, rest)) = x.map (·, rest) := by
    cases x <;> rfl
  unfold readUnsigned
  rw [isMisspelt]
  generalize spanDigits cs = parts
  obtain ⟨whole, tail⟩ := parts
  dsimp only
  split
  · rfl
  split
  · rename_i rest
    rw [readFraction]
    generalize spanDigits rest = parts
    obtain ⟨fraction, tail⟩ := parts
    dsimp only
    split
    · rfl
    split
    · rfl
    · rfl
    · rename_i lower upper
      rw [bind_map, readPower_of_other lower upper]
  · rfl
  · rfl
  · rename_i point lower upper
    rw [bind_map, readFraction_of_other point, readPower_of_other lower upper]

theorem append_ne_cons {cs : List Char} {c : Char} (other : ∀ tail, cs ≠ c :: tail)
    (stop : ∀ tail, rest ≠ c :: tail) (tail : List Char) : cs ++ rest ≠ c :: tail := by
  intro same
  cases cs with
  | nil => exact stop tail same
  | cons d cs =>
      rw [List.cons_append, List.cons.injEq] at same
      exact other cs (by rw [same.1])

theorem readPower_append (stops : Stops rest) {negative : Bool} {significand : Nat} {exponent : Int}
    {plain : Option Number} {cs after : List Char} {value : Number}
    (read : readPower negative significand exponent plain cs = some (value, after)) :
    readPower negative significand exponent plain (cs ++ rest) = some (value, after ++ rest) := by
  have power {tail : List Char}
      (read : (do
        let (power, rest) ← readExponent tail
        let value ← real? negative significand (exponent + power)
        return (value, rest)) = some (value, after)) :
      (do
        let (power, rest) ← readExponent (tail ++ rest)
        let value ← real? negative significand (exponent + power)
        return (value, rest)) = some (value, after ++ rest) := by
    obtain ⟨⟨power, beyond⟩, first, second⟩ := Option.bind_eq_some_iff.mp read
    obtain ⟨number, known, last⟩ := Option.bind_eq_some_iff.mp second
    cases last
    rw [readExponent_append stops first, Option.bind_eq_bind, Option.bind_some]
    dsimp only
    rw [known]
    rfl
  by_cases lower : ∃ tail, cs = 'e' :: tail
  · obtain ⟨tail, rfl⟩ := lower
    exact power read
  by_cases upper : ∃ tail, cs = 'E' :: tail
  · obtain ⟨tail, rfl⟩ := upper
    exact power read
  have lower := not_exists.mp lower
  have upper := not_exists.mp upper
  rw [readPower_of_other lower upper] at read
  rw [readPower_of_other (append_ne_cons lower (stops.ne_cons (.inr (.inl rfl))))
    (append_ne_cons upper (stops.ne_cons (.inr (.inr rfl))))]
  obtain ⟨number, known, same⟩ := Option.map_eq_some_iff.mp read
  cases same
  rw [known]
  rfl

theorem readFraction_append (stops : Stops rest) {negative : Bool} {whole cs after : List Char}
    {value : Number} (read : readFraction negative whole cs = some (value, after)) :
    readFraction negative whole (cs ++ rest) = some (value, after ++ rest) := by
  by_cases point : ∃ tail, cs = '.' :: tail
  · obtain ⟨tail, rfl⟩ := point
    rw [readFraction] at read
    rw [List.cons_append, readFraction, spanDigits_append stops]
    dsimp only at read ⊢
    split at read
    · cases read
    · rename_i some_
      rw [if_neg some_]
      exact readPower_append stops read
  have point := not_exists.mp point
  rw [readFraction_of_other point] at read
  rw [readFraction_of_other (append_ne_cons point (stops.ne_cons (.inl rfl)))]
  exact readPower_append stops read

theorem readUnsigned_append (stops : Stops rest) {negative : Bool} {cs after : List Char}
    {value : Number} (read : readUnsigned negative cs = some (value, after)) :
    readUnsigned negative (cs ++ rest) = some (value, after ++ rest) := by
  rw [readUnsigned_eq] at read ⊢
  rw [spanDigits_append stops]
  dsimp only
  split at read
  · cases read
  · rename_i spelt
    rw [if_neg spelt]
    exact readFraction_append stops read

theorem readNumber_of_other {cs : List Char} (other : ∀ tail, cs ≠ '-' :: tail) :
    readNumber cs = readUnsigned false cs := by
  unfold readNumber
  split
  · exact (other _ rfl).elim
  · rfl

theorem readNumber_append (stops : Stops rest) {cs after : List Char} {value : Number}
    (read : readNumber cs = some (value, after)) :
    readNumber (cs ++ rest) = some (value, after ++ rest) := by
  by_cases minus : ∃ tail, cs = '-' :: tail
  · obtain ⟨tail, rfl⟩ := minus
    exact readUnsigned_append stops read
  have other := not_exists.mp minus
  rw [readNumber_of_other other] at read
  cases cs with
  | nil => cases read
  | cons c cs =>
      rw [readNumber_of_other]
      · exact readUnsigned_append stops read
      · rintro tail ⟨⟩
        exact other cs rfl

/-- A number begins with a sign or a digit. -/
theorem head_of_readNumber {cs after : List Char} {value : Number}
    (read : readNumber cs = some (value, after)) :
    ∃ c tail, cs = c :: tail ∧ (c = '-' ∨ isDigit c = true) := by
  by_cases minus : ∃ tail, cs = '-' :: tail
  · obtain ⟨tail, rfl⟩ := minus
    exact ⟨'-', tail, rfl, .inl rfl⟩
  rw [readNumber_of_other (not_exists.mp minus), readUnsigned_eq] at read
  cases cs with
  | nil => cases read
  | cons c cs =>
      refine ⟨c, cs, rfl, .inr ?_⟩
      by_contra other
      have none : (spanDigits (c :: cs)).1 = [] := by
        simp [spanDigits, other]
      rw [none] at read
      cases read

theorem readExponent_chars (e : ExponentText) :
    readExponent (e.sign ++ e.digits) = some (e.value, []) := by
  obtain ⟨letter, sign, digits, -, signs, some_, each⟩ := e
  have span := spanDigits_of_digits each
  have full : ¬digits.isEmpty = true := by simpa using some_
  rcases signs with rfl | rfl | rfl
  · obtain ⟨c, more, rfl⟩ := List.exists_cons_of_ne_nil some_
    have digit := each c List.mem_cons_self
    have minus : c ≠ '-' := by
      rintro rfl
      cases digit
    have plus : c ≠ '+' := by
      rintro rfl
      cases digit
    simp [readExponent, spanSign_of_other minus plus, span, ExponentText.value]
  · simp [readExponent, spanSign, span, full, ExponentText.value]
  · simp [readExponent, spanSign, span, full, ExponentText.value]

theorem exists_sign (cs : List Char) :
    ∃ sign, (sign = [] ∨ sign = ['+'] ∨ sign = ['-']) ∧ cs = sign ++ (spanSign cs).2 ∧
      ((spanSign cs).1 = true ↔ sign = ['-']) := by
  unfold spanSign
  split
  · exact ⟨['-'], .inr (.inr rfl), rfl, by simp⟩
  · exact ⟨['+'], .inr (.inl rfl), rfl, by simp⟩
  · exact ⟨[], .inl rfl, rfl, by simp⟩

theorem exists_exponentText {letter : Char} (known : letter = 'e' ∨ letter = 'E')
    {cs rest : List Char} {value : Int} (read : readExponent cs = some (value, rest)) :
    ∃ e : ExponentText, letter :: cs = e.chars ++ rest ∧ e.value = value := by
  obtain ⟨sign, signs, text, negative⟩ := exists_sign cs
  unfold readExponent at read
  dsimp only at read
  split at read
  · cases read
  · rename_i some_
    cases read
    refine ⟨⟨letter, sign, _, known, signs, fun none => some_ (List.isEmpty_iff.mpr none),
      fun c => List.mem_takeWhile_imp⟩, ?_, ?_⟩
    · simpa [ExponentText.chars, spanDigits] using text
    · exact if_congr negative.symm rfl rfl

namespace NumberText

variable (n : NumberText)

theorem exponentChars_head :
    ∀ c ∈ n.exponentChars.head?, isDigit c = false ∧ c ≠ '.' := by
  rw [exponentChars]
  cases n.exponent with
  | none => exact fun c member => nomatch member
  | some e =>
      rintro c ⟨⟩
      rcases e.letter_mem with same | same <;> rw [same] <;> decide

theorem tail_head : ∀ c ∈ (n.fractionChars ++ n.exponentChars).head?, isDigit c = false := by
  rw [fractionChars]
  split
  · exact fun c member => (n.exponentChars_head c member).1
  · rintro c ⟨⟩
    decide

theorem not_misspelt : ¬isMisspelt n.whole = true := by
  have some_ := n.some_
  have leading := n.leading
  simp only [isMisspelt, Bool.or_eq_true, Bool.and_eq_true, decide_eq_true_iff, beq_iff_eq,
    List.isEmpty_iff, not_or, not_and]
  exact ⟨some_, fun more zero => absurd (leading zero) (Nat.ne_of_gt more)⟩

/-- What is read after the fraction is the exponent. -/
theorem readFraction_chars {tail : List Char}
    (stop : ∀ c ∈ tail.head?, isDigit c = false ∧ c ≠ '.') :
    readFraction n.negative n.whole (n.fractionChars ++ tail) =
      readPower n.negative n.significand n.shift n.plain? tail := by
  rw [fractionChars, plain?]
  split
  · rename_i none_
    have other (more : List Char) : tail ≠ '.' :: more := by
      rintro rfl
      exact (stop '.' rfl).2 rfl
    rw [List.nil_append, readFraction_of_other other, significand, shift, none_]
    simp [keepDigits]
  · rename_i some_
    have span := spanDigits_of_stop n.fractional fun c member => (stop c member).1
    have full : ¬n.fraction.isEmpty = true := by simpa using some_
    rw [List.cons_append, readFraction]
    simp only [span, if_neg full]
    rfl

theorem readPower_exponentChars :
    readPower n.negative n.significand n.shift n.plain? n.exponentChars =
      n.value?.map (·, []) := by
  rw [exponentChars, value?]
  cases n.exponent with
  | none =>
      have none (c : Char) (tail : List Char) : [] ≠ c :: tail := (List.cons_ne_nil _ _).symm
      exact readPower_of_other (none _) (none _)
  | some e =>
      have read := readExponent_chars e
      have bind : (do
          let (power, rest) ← readExponent (e.sign ++ e.digits)
          let value ← real? n.negative n.significand (n.shift + power)
          return (value, rest)) =
          (real? n.negative n.significand (n.shift + e.value)).map (·, []) := by
        rw [read, Option.bind_eq_bind, Option.bind_some]
        dsimp only
        cases real? n.negative n.significand (n.shift + e.value) <;> rfl
      rw [Option.elim_some, Option.elim_some, ExponentText.chars]
      rcases e.letter_mem with same | same
      · rw [same]
        exact bind
      · rw [same]
        exact bind

theorem readNumber_chars : readNumber n.chars = n.value?.map (·, []) := by
  have unsigned : readUnsigned n.negative (n.whole ++ (n.fractionChars ++ n.exponentChars)) =
      n.value?.map (·, []) := by
    rw [readUnsigned_eq, spanDigits_of_stop n.digits n.tail_head, if_neg n.not_misspelt,
      n.readFraction_chars n.exponentChars_head, n.readPower_exponentChars]
  rw [chars]
  cases negative : n.negative with
  | true =>
      rw [negative] at unsigned
      exact unsigned
  | false =>
      rw [negative] at unsigned
      obtain ⟨c, more, whole⟩ := List.exists_cons_of_ne_nil n.some_
      have digit := n.digits c (by rw [whole]; exact List.mem_cons_self)
      rw [if_neg Bool.false_ne_true, List.nil_append, readNumber_of_other, unsigned]
      rw [whole]
      rintro tail ⟨⟩
      cases digit

end NumberText

theorem exists_exponent_of_readPower {negative : Bool} {significand : Nat} {shift : Int}
    {plain : Option Number} {cs rest : List Char} {value : Number}
    (read : readPower negative significand shift plain cs = some (value, rest)) :
    ∃ exponent : Option ExponentText, cs = exponent.elim [] ExponentText.chars ++ rest ∧
      exponent.elim plain (fun e => real? negative significand (shift + e.value)) =
        some value := by
  have power {letter : Char} (known : letter = 'e' ∨ letter = 'E') {tail : List Char}
      (read : (do
        let (power, rest) ← readExponent tail
        let value ← real? negative significand (shift + power)
        return (value, rest)) = some (value, rest)) :
      ∃ exponent : Option ExponentText,
        letter :: tail = exponent.elim [] ExponentText.chars ++ rest ∧
          exponent.elim plain (fun e => real? negative significand (shift + e.value)) =
            some value := by
    obtain ⟨⟨power, beyond⟩, first, second⟩ := Option.bind_eq_some_iff.mp read
    obtain ⟨number, worth, last⟩ := Option.bind_eq_some_iff.mp second
    cases last
    obtain ⟨e, text, rfl⟩ := exists_exponentText known first
    exact ⟨some e, text, worth⟩
  unfold readPower at read
  split at read
  · exact power (.inl rfl) read
  · exact power (.inr rfl) read
  · obtain ⟨number, worth, same⟩ := Option.map_eq_some_iff.mp read
    cases same
    exact ⟨none, rfl, worth⟩

theorem exists_fraction (whole : List Char) {negative : Bool} {cs rest : List Char} {value : Number}
    (some_ : whole ≠ []) (leading : whole.head? = some '0' → whole.length = 1)
    (digits : ∀ c ∈ whole, isDigit c = true)
    (read : readFraction negative whole cs = some (value, rest)) :
    ∃ n : NumberText, n.negative = negative ∧ n.whole = whole ∧
      cs = n.fractionChars ++ n.exponentChars ++ rest ∧ n.value? = some value := by
  unfold readFraction at read
  split at read
  · rename_i more
    dsimp only at read
    split at read
    · cases read
    rename_i full
    have full : (spanDigits more).1 ≠ [] := fun none => full (List.isEmpty_iff.mpr none)
    have back : (spanDigits more).1 ++ (spanDigits more).2 = more :=
      List.takeWhile_append_dropWhile
    obtain ⟨exponent, text, worth⟩ := exists_exponent_of_readPower read
    refine ⟨⟨negative, whole, (spanDigits more).1, exponent, some_, leading, digits,
      fun c => List.mem_takeWhile_imp⟩, rfl, rfl, ?_, ?_⟩
    · rw [NumberText.fractionChars, if_neg full, NumberText.exponentChars, List.append_assoc,
        ← text, List.cons_append, back]
    · rw [NumberText.value?, NumberText.plain?, if_neg full]
      exact worth
  · dsimp only at read
    obtain ⟨exponent, text, worth⟩ := exists_exponent_of_readPower read
    refine ⟨⟨negative, whole, [], exponent, some_, leading, digits, List.forall_mem_nil _⟩,
      rfl, rfl, text, ?_⟩
    -- no digit of a fraction is kept
    simpa [NumberText.value?, NumberText.plain?, NumberText.significand, NumberText.shift,
      keepDigits] using worth

/-- What is read as a number was written as one. -/
theorem exists_numberText {cs rest : List Char} {value : Number}
    (read : readNumber cs = some (value, rest)) :
    ∃ n : NumberText, cs = n.chars ++ rest ∧ n.value? = some value := by
  have unsigned {negative : Bool} {cs : List Char}
      (read : readUnsigned negative cs = some (value, rest)) :
      ∃ n : NumberText, n.negative = negative ∧
        cs = n.whole ++ (n.fractionChars ++ n.exponentChars ++ rest) ∧ n.value? = some value := by
    rw [readUnsigned_eq] at read
    split at read
    · cases read
    rename_i spelt
    simp only [isMisspelt, Bool.or_eq_true, Bool.and_eq_true, decide_eq_true_iff, beq_iff_eq,
      List.isEmpty_iff, not_or, not_and] at spelt
    obtain ⟨some_, leading⟩ := spelt
    have back : (spanDigits cs).1 ++ (spanDigits cs).2 = cs := List.takeWhile_append_dropWhile
    have alone (zero : (spanDigits cs).1.head? = some '0') : (spanDigits cs).1.length = 1 := by
      have positive := List.length_pos_iff.mpr some_
      have few : ¬1 < (spanDigits cs).1.length := fun more => leading more zero
      omega
    obtain ⟨n, sign, whole, text, worth⟩ :=
      exists_fraction _ some_ alone (fun c => List.mem_takeWhile_imp) read
    exact ⟨n, sign, by rw [whole, ← text, back], worth⟩
  by_cases minus : ∃ tail, cs = '-' :: tail
  · obtain ⟨tail, rfl⟩ := minus
    obtain ⟨n, sign, text, worth⟩ := unsigned read
    refine ⟨n, ?_, worth⟩
    rw [NumberText.chars, sign, text]
    simp
  · rw [readNumber_of_other (not_exists.mp minus)] at read
    obtain ⟨n, sign, text, worth⟩ := unsigned read
    refine ⟨n, ?_, worth⟩
    rw [NumberText.chars, sign, text]
    simp

theorem le_foldl_digits (cs : List Char) (n : Nat) :
    n ≤ cs.foldl (fun n c => n * 10 + digitValue c) n := by
  induction cs generalizing n with
  | nil => exact Nat.le_refl n
  | cons c cs ih =>
      rw [List.foldl_cons]
      exact Nat.le_trans (by omega) (ih _)

theorem keepDigits_of_lt {cs : List Char} {n : Nat}
    (small : cs.foldl (fun n c => n * 10 + digitValue c) n < UInt64.size) :
    keepDigits n cs = (cs.foldl (fun n c => n * 10 + digitValue c) n, cs.length) := by
  induction cs generalizing n with
  | nil => rfl
  | cons c cs ih =>
      rw [List.foldl_cons] at small ⊢
      have next := Nat.lt_of_le_of_lt (le_foldl_digits cs _) small
      rw [keepDigits]
      dsimp only
      rw [if_pos next, ih small]
      rfl

/-- If all digits are kept, the number has 64 bits. -/
theorem lt_of_keepDigits {cs : List Char} {n : Nat} (small : n < UInt64.size)
    (all : cs.length ≤ (keepDigits n cs).2) :
    cs.foldl (fun n c => n * 10 + digitValue c) n < UInt64.size := by
  induction cs generalizing n with
  | nil => exact small
  | cons c cs ih =>
      rw [keepDigits] at all
      dsimp only at all
      split at all
      · rename_i next
        exact ih next (Nat.le_of_succ_le_succ all)
      · exact absurd all (Nat.not_succ_le_zero _)

theorem real?_ne_whole (negative : Bool) (significand : Nat) (exponent n : Int) :
    real? negative significand exponent ≠ some (.whole n) := by
  rw [real?]
  cases scaleTen (.ofNat significand) exponent 4 <;> simp

theorem wholeNumber?_bounds {negative : Bool} {digits : List Char} {n : Int}
    (whole : wholeNumber? negative digits = some (.whole n)) :
    Int64.minValue.toInt ≤ n ∧ n < UInt64.size := by
  have lowest : Int64.minValue.toInt = -9223372036854775808 := by decide
  unfold wholeNumber? at whole
  dsimp only at whole
  split at whole
  · exact absurd whole (real?_ne_whole _ _ _ _)
  rename_i all
  split at whole
  · cases whole
    have small := lt_of_keepDigits (by decide) (Nat.not_lt.mp all)
    rw [ofDigits]
    omega
  split at whole
  · rename_i fits
    cases whole
    simp only [Bool.and_eq_true, decide_eq_true_iff] at fits
    have size : (UInt64.size : Int) = 18446744073709551616 := rfl
    omega
  · exact absurd whole (real?_ne_whole _ _ _ _)

theorem NumberText.whole_bounds (n : NumberText) {value : Int}
    (worth : n.value? = some (.whole value)) :
    Int64.minValue.toInt ≤ value ∧ value < UInt64.size := by
  rw [value?] at worth
  cases known : n.exponent with
  | some e =>
      rw [known, Option.elim_some] at worth
      exact absurd worth (real?_ne_whole _ _ _ _)
  | none =>
      rw [known, Option.elim_none, plain?] at worth
      split at worth
      · exact wholeNumber?_bounds worth
      · exact absurd worth (real?_ne_whole _ _ _ _)

theorem keepDigits_digitText {n : Nat} (small : n < UInt64.size) :
    keepDigits 0 (digitText n) = (n, (digitText n).length) := by
  have value := ofDigits_digitText n
  rw [ofDigits] at value
  rw [keepDigits_of_lt (by rw [value]; exact small), value]

theorem isMisspelt_digitText (n : Nat) : isMisspelt (digitText n) = false := by
  have some_ := digitText_ne_nil n
  by_cases zero : (digitText n).head? = some '0'
  · rw [digitText_zero_head zero]
    decide
  · simp [isMisspelt, some_, zero]

theorem wholeNumber?_digitText {n : Nat} (small : n < UInt64.size) :
    wholeNumber? false (digitText n) = some (.whole n) := by
  unfold wholeNumber?
  rw [keepDigits_digitText small, ofDigits_digitText]
  simp

theorem wholeNumber?_digitText_neg {n : Nat} (positive : 0 < n)
    (small : n ≤ Int64.minValue.toInt.natAbs) :
    wholeNumber? true (digitText n) = some (.whole (-n)) := by
  have bound : n < UInt64.size := Nat.lt_of_le_of_lt small (by decide)
  have fits : (decide (0 < n) && decide (n ≤ Int64.minValue.toInt.natAbs)) = true := by
    rw [decide_eq_true positive, decide_eq_true small]
    rfl
  unfold wholeNumber?
  rw [keepDigits_digitText bound, ofDigits_digitText]
  dsimp only
  rw [if_neg (Nat.lt_irrefl _), if_neg (by decide), if_pos fits]

theorem readUnsigned_digitText {negative : Bool} {n : Nat} {value : Number}
    (whole : wholeNumber? negative (digitText n) = some value) :
    readUnsigned negative (digitText n) = some (value, []) := by
  have none (c : Char) (tail : List Char) : [] ≠ c :: tail := (List.cons_ne_nil _ _).symm
  rw [readUnsigned_eq, spanDigits_digitText, isMisspelt_digitText, readFraction_of_other (none _),
    readPower_of_other (none _) (none _), whole]
  rfl

end Json

/-- The number is read from its own text. -/
def Number.ReadsBack (value : Number) : Prop :=
  Json.readNumber value.chars = some (value, [])

theorem Number.whole_reads_back {n : Int} (low : Int64.minValue.toInt ≤ n)
    (high : n < UInt64.size) : (Number.whole n).ReadsBack := by
  rw [ReadsBack, Number.chars]
  by_cases negative : n < 0
  · rw [Decimal.signText, if_pos (decide_eq_true negative)]
    have value : -(n.natAbs : Int) = n := by omega
    have whole := Json.wholeNumber?_digitText_neg (n := n.natAbs) (by omega) (by omega)
    rw [value] at whole
    exact Json.readUnsigned_digitText whole
  · rw [Decimal.signText, if_neg (by simpa using negative), List.nil_append]
    have value : (n.natAbs : Int) = n := by omega
    have whole := Json.wholeNumber?_digitText (n := n.natAbs) (by omega)
    rw [value] at whole
    rw [Json.readNumber_of_other]
    · exact Json.readUnsigned_digitText whole
    · intro tail same
      have digit : Decimal.isDigit '-' = true :=
        Decimal.isDigit_of_mem_digitText (n := n.natAbs) (by rw [same]; exact List.mem_cons_self)
      exact absurd digit (by decide)

end ReviewDesk
