import ReviewDesk.Json.Writer
import ReviewDesk.Proofs.Json.Grammar

/-!
A text between quotes is read as it was before it was escaped, whatever follows the closing quote,
and nothing else is read.
-/

namespace ReviewDesk
namespace Json

theorem hexValue?_digitChar : ∀ n < 16, hexValue? (Nat.digitChar n) = some n := by
  decide

/-- The code of a control character, as it is read. -/
theorem hexUnit?_hexPair {n : Nat} (control : n < 0x20) :
    hexUnit? '0' '0' (Nat.digitChar (n / 16)) (Nat.digitChar (n % 16)) = some n := by
  have high := hexValue?_digitChar (n / 16) (by omega)
  have low := hexValue?_digitChar (n % 16) (by omega)
  have zero : hexValue? '0' = some 0 := by decide
  simp only [hexUnit?, zero, high, low, Option.bind_eq_bind, Option.bind_some]
  exact congrArg some (by omega)

theorem readChars_unicode {a b c d : Char} {unit : Nat} (code : hexUnit? a b c d = some unit)
    (single : isHighSurrogate unit = false ∧ isLowSurrogate unit = false) (rest : List Char) :
    readChars ('\\' :: 'u' :: a :: b :: c :: d :: rest) =
      (readChars rest).map fun (text, rest) => (Char.ofNat unit :: text, rest) := by
  have high : ¬isHighSurrogate unit = true := by simp [single.1]
  have low : ¬isLowSurrogate unit = true := by simp [single.2]
  rw [readChars.eq_def]
  split
  · rename_i shut
    cases shut
  · rename_i shut
    cases shut
  · rename_i a' b' c' d' e f g h more same
    cases same
    rw [code, Option.bind_eq_bind, Option.bind_some, if_neg high, if_neg low]
    cases readChars _ <;> rfl
  · rename_i more _ same
    cases same
    rw [code, Option.bind_eq_bind, Option.bind_some, if_neg (by simp [single.1, single.2])]
    cases readChars _ <;> rfl
  · rename_i other same
    cases same
    exact absurd rfl (other _ _ _ _ _ rfl)
  · rename_i other same
    cases same
    exact absurd rfl (other _ _ rfl)

theorem readChars_simple {c d : Char} (escape : simpleEscape? c = some d) (rest : List Char) :
    readChars ('\\' :: c :: rest) =
      (readChars rest).map fun (text, rest) => (d :: text, rest) := by
  have other : c ≠ 'u' := by
    rintro rfl
    cases escape
  rw [readChars.eq_def]
  split
  · rename_i shut
    cases shut
  · rename_i shut
    cases shut
  · rename_i same
    cases same
    exact (other rfl).elim
  · rename_i same
    cases same
    exact (other rfl).elim
  · rename_i same
    cases same
    rw [escape, Option.bind_eq_bind, Option.bind_some]
    cases readChars _ <;> rfl
  · rename_i unescaped same
    cases same
    exact absurd rfl (unescaped _ _ rfl)

theorem readChars_plain {c : Char} (quote : c ≠ '"') (slash : c ≠ '\\') (printed : 0x20 ≤ c.toNat)
    (rest : List Char) :
    readChars (c :: rest) = (readChars rest).map fun (text, rest) => (c :: text, rest) := by
  have plain : ¬(decide (c.toNat < 0x20) || c == '\\') = true := by
    simp [slash, Nat.not_lt.mpr printed]
  rw [readChars.eq_def]
  split
  · rename_i shut
    cases shut
  · rename_i same
    cases same
    exact (quote rfl).elim
  · rename_i same
    cases same
    exact (slash rfl).elim
  · rename_i same
    cases same
    exact (slash rfl).elim
  · rename_i same
    cases same
    exact (slash rfl).elim
  · rename_i same
    cases same
    rw [if_neg plain]
    cases readChars _ <;> rfl

theorem readChars_pair {a b c d e f g h : Char} {high low : Nat}
    (first : hexUnit? a b c d = some high) (second : hexUnit? e f g h = some low)
    (halves : isHighSurrogate high = true ∧ isLowSurrogate low = true) (rest : List Char) :
    readChars ('\\' :: 'u' :: a :: b :: c :: d :: '\\' :: 'u' :: e :: f :: g :: h :: rest) =
      (readChars rest).map fun (text, rest) =>
        (Char.ofNat (0x10000 + (high - 0xd800) * 0x400 + (low - 0xdc00)) :: text, rest) := by
  rw [readChars, first, Option.bind_eq_bind, Option.bind_some, if_pos halves.1, second,
    Option.bind_eq_bind, Option.bind_some, if_pos halves.2]
  cases readChars _ <;> rfl

theorem readChars_written (piece : Written) (rest : List Char) :
    readChars (piece.chars ++ rest) =
      (readChars rest).map fun (text, rest) => (piece.char :: text, rest) := by
  cases piece with
  | plain c quote slash printed => exact readChars_plain quote slash printed rest
  | short letter c escape => exact readChars_simple escape rest
  | unit a b c d code digits single => exact readChars_unicode digits single rest
  | pair a b c d e f g h high low first second halves =>
      exact readChars_pair first second halves rest

theorem readChars_quoted (pieces : List Written) (rest : List Char) :
    readChars (pieces.flatMap Written.chars ++ '"' :: rest) =
      some (pieces.map Written.char, rest) := by
  induction pieces with
  | nil => rw [List.flatMap_nil, List.nil_append, readChars, List.map_nil]
  | cons piece pieces ih =>
      rw [List.flatMap_cons, List.append_assoc, readChars_written, ih]
      rfl

/-- The characters up to a closing quote are these. -/
def Closes (cs text rest : List Char) : Prop :=
  ∃ pieces : List Written,
    cs = pieces.flatMap Written.chars ++ '"' :: rest ∧ text = pieces.map Written.char

theorem Closes.cons (piece : Written) {cs text rest : List Char} (closes : Closes cs text rest) :
    Closes (piece.chars ++ cs) (piece.char :: text) rest := by
  obtain ⟨pieces, rfl, rfl⟩ := closes
  exact ⟨piece :: pieces, by rw [List.flatMap_cons, List.append_assoc], rfl⟩

theorem closes_of_readChars {cs text rest : List Char} (read : readChars cs = some (text, rest)) :
    Closes cs text rest := by
  induction cs using readChars.induct generalizing text with
  | case1 =>
      rw [readChars] at read
      cases read
  | case2 =>
      rw [readChars] at read
      cases read
      exact ⟨[], rfl, rfl⟩
  | case3 a b c d e f g h more afterPair afterUnit =>
      rw [readChars] at read
      obtain ⟨high, first, read⟩ := Option.bind_eq_some_iff.mp read
      split at read
      · rename_i upper
        obtain ⟨low, second, read⟩ := Option.bind_eq_some_iff.mp read
        split at read
        · rename_i lower
          obtain ⟨⟨text, _⟩, later, same⟩ := Option.bind_eq_some_iff.mp read
          cases same
          exact (afterPair later).cons
            (.pair a b c d e f g h high low first second ⟨upper, lower⟩)
        · cases read
      split at read
      · cases read
      · rename_i upper lower
        obtain ⟨⟨text, _⟩, later, same⟩ := Option.bind_eq_some_iff.mp read
        cases same
        exact (afterUnit later).cons
          (.unit a b c d high first ⟨Bool.eq_false_iff.mpr upper, Bool.eq_false_iff.mpr lower⟩)
  | case4 a b c d more single ih =>
      rw [readChars] at read
      · obtain ⟨code, digits, read⟩ := Option.bind_eq_some_iff.mp read
        split at read
        · cases read
        · rename_i whole
          obtain ⟨⟨text, _⟩, later, same⟩ := Option.bind_eq_some_iff.mp read
          cases same
          exact (ih later).cons (.unit a b c d code digits (by simpa using whole))
      · exact single
  | case5 letter more pair unit ih =>
      rw [readChars] at read
      · obtain ⟨c, escape, read⟩ := Option.bind_eq_some_iff.mp read
        obtain ⟨⟨text, _⟩, later, same⟩ := Option.bind_eq_some_iff.mp read
        cases same
        exact (ih later).cons (.short letter c escape)
      · exact pair
      · exact unit
  | case6 c more quote pair unit short control =>
      rw [readChars, if_pos control] at read
      · cases read
      · exact quote
      · exact pair
      · exact unit
      · exact short
  | case7 c more quote pair unit short printed ih =>
      rw [readChars, if_neg printed] at read
      · obtain ⟨⟨text, _⟩, later, same⟩ := Option.bind_eq_some_iff.mp read
        cases same
        simp only [Bool.or_eq_true, decide_eq_true_iff, beq_iff_eq, not_or, Nat.not_lt] at printed
        exact (ih later).cons (.plain c quote printed.2 printed.1)
      · exact quote
      · exact pair
      · exact unit
      · exact short

/-- A character as it is escaped. -/
theorem exists_written_char (c : Char) :
    ∃ piece : Written, piece.chars = escapeChar c ∧ piece.char = c := by
  unfold escapeChar
  split
  iterate 7 exact ⟨.short _ _ rfl, rfl, rfl⟩
  rename_i quote slash _ _ _ _ _
  split
  · rename_i control
    have single : isHighSurrogate c.toNat = false ∧ isLowSurrogate c.toNat = false := by
      simp [isHighSurrogate, isLowSurrogate]
      omega
    exact ⟨.unit _ _ _ _ _ (hexUnit?_hexPair control) single, rfl, Char.ofNat_toNat c⟩
  · rename_i printed
    exact ⟨.plain c quote slash (Nat.not_lt.mp printed), rfl, rfl⟩

theorem exists_written (s : String) :
    ∃ pieces, Written.quoted pieces = stringChars s ∧ Written.text pieces = s := by
  have each (cs : List Char) : ∃ pieces : List Written,
      pieces.flatMap Written.chars = cs.flatMap escapeChar ∧ pieces.map Written.char = cs := by
    induction cs with
    | nil => exact ⟨[], rfl, rfl⟩
    | cons c cs ih =>
        obtain ⟨piece, chars, char⟩ := exists_written_char c
        obtain ⟨pieces, texts, values⟩ := ih
        exact ⟨piece :: pieces, by rw [List.flatMap_cons, List.flatMap_cons, chars, texts],
          by rw [List.map_cons, char, values]⟩
  obtain ⟨pieces, chars, values⟩ := each s.toList
  exact ⟨pieces, by rw [Written.quoted, chars]; rfl, by rw [Written.text, values, String.ofList_toList]⟩

end Json
end ReviewDesk
