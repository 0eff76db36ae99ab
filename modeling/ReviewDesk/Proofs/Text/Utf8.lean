import ReviewDesk.Text.Utf8

/-!
Reading undoes writing: the bytes of a text in UTF-8 are read as that text, and never as an error.
-/

namespace ReviewDesk
namespace Text

theorem toList_loop (bytes : ByteArray) (i : Nat) (read : List UInt8) :
    ByteArray.toList.loop bytes i read = read.reverse ++ bytes.data.toList.drop i := by
  fun_induction ByteArray.toList.loop bytes i read with
  | case1 i read more ih =>
      have here : bytes.data.toList.drop i = bytes.get! i :: bytes.data.toList.drop (i + 1) := by
        rw [List.drop_eq_getElem_cons (by simpa using more)]
        simp only [ByteArray.get!, Array.getElem_toList]
        rw [getElem!_pos bytes.data i more]
      rw [ih, here, List.reverse_cons, List.append_assoc, List.singleton_append]
  | case2 i read done =>
      have size : bytes.data.toList.length ≤ i := by simpa using done
      rw [List.drop_eq_nil_of_le size, List.append_nil]

theorem toUTF8_toList (cs : List Char) :
    (String.ofList cs).toUTF8.toList = cs.flatMap String.utf8EncodeChar := by
  rw [ByteArray.toList, toList_loop]
  simp [List.utf8Encode]

/-- A first byte tells its bits and what has to follow. -/
theorem leadByte_one : ∀ n < 0x80, leadByte (UInt8.ofNat n) = some (n, []) := by
  decide

theorem leadByte_two :
    ∀ n < 0x1e, leadByte (UInt8.ofNat (n + 2 + 0xc0)) = some (n + 2, [(0x80, 0xbf)]) := by
  decide

theorem leadByte_three : ∀ n < 0x10, leadByte (UInt8.ofNat (n + 0xe0)) =
    some (n, [(if n = 0 then 0xa0 else 0x80, if n = 13 then 0x9f else 0xbf), (0x80, 0xbf)]) := by
  decide

theorem leadByte_four : ∀ n < 5, leadByte (UInt8.ofNat (n + 0xf0)) =
    some (n, [(if n = 0 then 0x90 else 0x80, if n = 4 then 0x8f else 0xbf), (0x80, 0xbf),
      (0x80, 0xbf)]) := by
  decide

theorem continuation_cons {low high : UInt8} {n : Nat} (code : Nat)
    (bounds : List (UInt8 × UInt8)) (rest : List UInt8) (small : n < 0x40)
    (above : low.toNat ≤ n + 0x80) (below : n + 0x80 ≤ high.toNat) :
    continuation ((low, high) :: bounds) code (UInt8.ofNat (n + 0x80) :: rest) =
      let (whole, code, taken) := continuation bounds (code * 64 + n) rest
      (whole, code, taken + 1) := by
  have value : (UInt8.ofNat (n + 0x80)).toNat = n + 0x80 := by
    rw [UInt8.toNat_ofNat']
    omega
  have within : (low ≤ UInt8.ofNat (n + 0x80) && UInt8.ofNat (n + 0x80) ≤ high) = true := by
    simp only [Bool.and_eq_true, decide_eq_true_eq, UInt8.le_iff_toNat_le, value]
    exact ⟨above, below⟩
  rw [continuation, if_pos within, value, Nat.add_sub_cancel]

/-- A byte of which nothing is asked but that it goes on with a character. -/
theorem continuation_any {n : Nat} (code : Nat) (bounds : List (UInt8 × UInt8))
    (rest : List UInt8) (small : n < 0x40) :
    continuation ((0x80, 0xbf) :: bounds) code (UInt8.ofNat (n + 0x80) :: rest) =
      let (whole, code, taken) := continuation bounds (code * 64 + n) rest
      (whole, code, taken + 1) := by
  apply continuation_cons _ _ _ small
  · simp
  · simp only [UInt8.reduceToNat]
    omega

theorem utf8Chars_cons (c : Char) (rest : List UInt8) (fuel : Nat) :
    utf8Chars (fuel + 1) (String.utf8EncodeChar c ++ rest) = c :: utf8Chars fuel rest := by
  have valid : c.toNat < 0xd800 ∨ 0xdfff < c.toNat ∧ c.toNat < 0x110000 := c.valid
  have same : Char.ofNat c.toNat = c := Char.ofNat_toNat c
  simp only [String.utf8EncodeChar]
  rw [show c.val.toNat = c.toNat from rfl]
  generalize c.toNat = v at valid same
  by_cases one : v ≤ 0x7f
  · rw [if_pos one, List.singleton_append, utf8Chars, leadByte_one v (by omega)]
    simp [continuation, same]
  by_cases two : v ≤ 0x7ff
  · obtain ⟨n, lead⟩ : ∃ n, v / 64 % 0x20 = n + 2 := ⟨v / 64 % 0x20 - 2, by omega⟩
    rw [if_neg one, if_pos two, lead, List.cons_append, utf8Chars, leadByte_two n (by omega)]
    dsimp only
    rw [List.cons_append, continuation_any _ _ _ (by omega)]
    have whole : (n + 2) * 64 + v % 64 = v := by omega
    simp [continuation, whole, same]
  by_cases three : v ≤ 0xffff
  · rw [if_neg one, if_neg two, if_pos three, List.cons_append, utf8Chars,
      leadByte_three _ (by omega)]
    -- the second byte is bounded so that no shorter form is possible, and no surrogate
    have low : (if v / 4096 % 16 = 0 then 0xa0 else 0x80 : UInt8).toNat ≤ v / 64 % 64 + 0x80 := by
      split <;> simp only [UInt8.reduceToNat] <;> omega
    have high : v / 64 % 64 + 0x80 ≤ (if v / 4096 % 16 = 13 then 0x9f else 0xbf : UInt8).toNat := by
      split <;> simp only [UInt8.reduceToNat] <;> omega
    dsimp only
    rw [List.cons_append, continuation_cons _ _ _ (by omega) low high, List.cons_append,
      continuation_any _ _ _ (by omega)]
    have whole : (v / 4096 % 16 * 64 + v / 64 % 64) * 64 + v % 64 = v := by omega
    simp [continuation, whole, same]
  · rw [if_neg one, if_neg two, if_neg three, List.cons_append, utf8Chars,
      leadByte_four _ (by omega)]
    -- and here so that the character is none past the last one
    have low : (if v / 262144 % 8 = 0 then 0x90 else 0x80 : UInt8).toNat ≤
        v / 4096 % 64 + 0x80 := by
      split <;> simp only [UInt8.reduceToNat] <;> omega
    have high : v / 4096 % 64 + 0x80 ≤
        (if v / 262144 % 8 = 4 then 0x8f else 0xbf : UInt8).toNat := by
      split <;> simp only [UInt8.reduceToNat] <;> omega
    dsimp only
    rw [List.cons_append, continuation_cons _ _ _ (by omega) low high, List.cons_append,
      continuation_any _ _ _ (by omega), List.cons_append, continuation_any _ _ _ (by omega)]
    have whole : ((v / 262144 % 8 * 64 + v / 4096 % 64) * 64 + v / 64 % 64) * 64 + v % 64 = v := by
      omega
    simp [continuation, whole, same]

theorem utf8Chars_utf8 (cs : List Char) {fuel : Nat} (enough : cs.length ≤ fuel) :
    utf8Chars fuel (cs.flatMap String.utf8EncodeChar) = cs := by
  induction cs generalizing fuel with
  | nil => cases fuel <;> rfl
  | cons c cs ih =>
      obtain ⟨fuel, rfl⟩ := Nat.exists_eq_add_of_lt enough
      rw [List.flatMap_cons, utf8Chars_cons, ih (by omega)]

theorem length_le_utf8 (cs : List Char) :
    cs.length ≤ (cs.flatMap String.utf8EncodeChar).length := by
  induction cs with
  | nil => exact Nat.le_refl 0
  | cons c cs ih =>
      have some : 0 < (String.utf8EncodeChar c).length :=
        List.length_pos_iff.mpr String.utf8EncodeChar_ne_nil
      rw [List.flatMap_cons, List.length_append, List.length_cons]
      omega

theorem ofUtf8_utf8 (cs : List Char) :
    ofUtf8 (cs.flatMap String.utf8EncodeChar) = String.ofList cs := by
  rw [ofUtf8, utf8Chars_utf8 cs (length_le_utf8 cs)]

theorem ofUtf8?_utf8 (cs : List Char) :
    ofUtf8? (cs.flatMap String.utf8EncodeChar) = some (String.ofList cs) := by
  rw [ofUtf8?, ofUtf8_utf8, if_pos (beq_iff_eq.mpr (toUTF8_toList cs))]

end Text
end ReviewDesk
