import ReviewDesk.Proofs.Text.Utf8
import ReviewDesk.Url.Segment

/-!
Percent decoding undoes percent encoding, whatever else is encoded, as long as the percent sign is.
An encoded text therefore tells which text was encoded, and it is taken for dots only if it was
dots.
-/

namespace ReviewDesk
namespace Url

theorem hexDigit?_upperHex : ∀ n < 16, Text.hexDigit? (upperHex n) = some n := by
  decide

theorem decodeBytes_percentByte (b : UInt8) (rest : List Char) :
    decodeBytes (percentByte b ++ rest) = b :: decodeBytes rest := by
  have bound : b.toNat < 256 := b.toNat_lt
  have value : UInt8.ofNat (b.toNat / 16 * 16 + b.toNat % 16) = b := by
    rw [Nat.div_add_mod' b.toNat 16, UInt8.ofNat_toNat]
  simp only [percentByte, List.cons_append, List.nil_append]
  rw [decodeBytes, hexDigit?_upperHex _ (by omega), hexDigit?_upperHex _ (by omega)]
  dsimp only
  rw [value]

theorem decodeBytes_flatMap_percentByte (bytes : List UInt8) (rest : List Char) :
    decodeBytes (bytes.flatMap percentByte ++ rest) = bytes ++ decodeBytes rest := by
  induction bytes with
  | nil => rfl
  | cons b bytes ih =>
      rw [List.flatMap_cons, List.append_assoc, decodeBytes_percentByte, ih, List.cons_append]

theorem decodeBytes_cons {c : Char} (other : c ≠ '%') (rest : List Char) :
    decodeBytes (c :: rest) = String.utf8EncodeChar c ++ decodeBytes rest := by
  rw [decodeBytes]
  intro a b more same
  exact fun _ => other same

variable {set : EncodeSet}

theorem decodeBytes_encodeChar (percent : set '%' = true) (c : Char) (rest : List Char) :
    decodeBytes (encodeChar set c ++ rest) = String.utf8EncodeChar c ++ decodeBytes rest := by
  rw [encodeChar]
  split
  · rename_i kept
    have other : c ≠ '%' := by
      rintro rfl
      simp [percent] at kept
    exact decodeBytes_cons other rest
  · exact decodeBytes_flatMap_percentByte _ rest

theorem decodeBytes_encode (percent : set '%' = true) (cs : List Char) :
    decodeBytes (encode set cs) = cs.flatMap String.utf8EncodeChar := by
  induction cs with
  | nil => rw [encode, List.flatMap_nil, decodeBytes, List.flatMap_nil]
  | cons c cs ih =>
      rw [encode, List.flatMap_cons, decodeBytes_encodeChar percent, ← encode, ih,
        List.flatMap_cons]

theorem decode?_encode (percent : set '%' = true) (cs : List Char) :
    decode? (encode set cs) = some (String.ofList cs) := by
  rw [decode?, decodeBytes_encode percent, Text.ofUtf8?_utf8]

theorem encode_inj (percent : set '%' = true) {cs ds : List Char} :
    encode set cs = encode set ds ↔ cs = ds := by
  constructor
  · intro same
    have decoded := congrArg decode? same
    rw [decode?_encode percent, decode?_encode percent] at decoded
    exact String.ofList_injective (Option.some.inj decoded)
  · rintro rfl
    rfl

theorem eq_of_toLower_eq {c d : Char} (same : c.toLower = d) (other : d.toNat < 97) : c = d := by
  delta Char.toLower at same
  split at same
  · rename_i upper
    have value := congrArg Char.toNat same
    have low : 65 ≤ c.val.toNat := UInt32.le_iff_toNat_le.mp upper.1
    have high : c.val.toNat ≤ 90 := UInt32.le_iff_toNat_le.mp upper.2
    change (c.val + 32).toNat = d.toNat at value
    rw [UInt32.toNat_add] at value
    change (c.val.toNat + 32) % 4294967296 = d.toNat at value
    omega
  · exact same

theorem eq_of_map_toLower_eq {cs ds : List Char} (same : cs.map Char.toLower = ds)
    (other : ∀ d ∈ ds, d.toNat < 97) : cs = ds := by
  subst same
  induction cs with
  | nil => rfl
  | cons c cs ih =>
      have here := eq_of_toLower_eq rfl (other _ List.mem_cons_self)
      have rest := ih fun d member => other d (List.mem_cons_of_mem _ member)
      rw [List.map_cons, ← here, ← rest]

/-- A first byte below 128 is a character of its own. -/
theorem toNat_of_utf8_head {c : Char} {b : UInt8} {bytes : List UInt8}
    (head : String.utf8EncodeChar c = b :: bytes) (ascii : b.toNat < 0x80) :
    c.toNat = b.toNat := by
  simp only [String.utf8EncodeChar] at head
  rw [show c.val.toNat = c.toNat from rfl] at head
  generalize c.toNat = v at head
  split at head
  · cases head
    rw [UInt8.toNat_ofNat']
    omega
  -- a character of more than one byte begins with a greater one
  iterate 2
    split at head
    · cases head
      rw [UInt8.toNat_ofNat'] at ascii
      omega
  · cases head
    rw [UInt8.toNat_ofNat'] at ascii
    omega

theorem upperHex_eq_two : ∀ n < 16, (upperHex n).toLower = '2' → n = 2 := by
  decide

theorem upperHex_eq_e : ∀ n < 16, (upperHex n).toLower = 'e' → n = 14 := by
  decide

/-- A dot is not encoded, so no encoded text begins with the code of one. -/
theorem encode_ne_dotCode (percent : set '%' = true) (dot : set '.' = false) (cs rest : List Char) :
    (encode set cs).map Char.toLower ≠ '%' :: '2' :: 'e' :: rest := by
  intro same
  cases cs with
  | nil => cases same
  | cons c cs =>
      rw [encode, List.flatMap_cons, encodeChar] at same
      split at same
      · rename_i kept
        rw [List.singleton_append, List.map_cons, List.cons.injEq] at same
        have sign := eq_of_toLower_eq same.1 (by decide)
        simp [sign, percent] at kept
      · rename_i coded
        -- the code is that of a whole byte, and no other character begins with that of a dot
        cases bytes : String.utf8EncodeChar c with
        | nil => exact String.utf8EncodeChar_ne_nil bytes
        | cons b more =>
            have bound : b.toNat < 256 := b.toNat_lt
            rw [bytes] at same
            simp only [List.flatMap_cons, percentByte, List.cons_append, List.nil_append,
              List.map_cons, List.cons.injEq] at same
            have high := upperHex_eq_two _ (by omega) same.2.1
            have low := upperHex_eq_e _ (by omega) same.2.2.1
            have value := toNat_of_utf8_head bytes (by omega)
            have isDot : c = '.' := Char.toNat_inj.mp (by rw [value]; change b.toNat = 46; omega)
            rw [isDot, dot] at coded
            exact coded (by decide)

theorem encode_ne_dot_dotCode (percent : set '%' = true) (dot : set '.' = false)
    (cs rest : List Char) :
    (encode set cs).map Char.toLower ≠ '.' :: '%' :: '2' :: 'e' :: rest := by
  intro same
  cases cs with
  | nil => cases same
  | cons c cs =>
      rw [encode, List.flatMap_cons, encodeChar] at same
      split at same
      · rw [List.singleton_append, List.map_cons, List.cons.injEq] at same
        exact encode_ne_dotCode percent dot cs rest same.2
      · cases bytes : String.utf8EncodeChar c with
        | nil => exact String.utf8EncodeChar_ne_nil bytes
        | cons b more =>
            rw [bytes] at same
            simp only [List.flatMap_cons, percentByte, List.cons_append, List.map_cons,
              List.cons.injEq] at same
            exact absurd same.1 (by decide)

theorem encode_dots (dot : set '.' = false) (n : Nat) :
    encode set (List.replicate n '.') = List.replicate n '.' := by
  induction n with
  | zero => rfl
  | succ n ih =>
      rw [List.replicate_succ, encode, List.flatMap_cons, ← encode, ih, encodeChar,
        if_pos (by simp [dot]), List.singleton_append]

/-- What is encoded as so many dots, in letters of either case, is so many dots. -/
theorem eq_dots_of_encode (percent : set '%' = true) (dot : set '.' = false) {cs : List Char}
    {n : Nat} (same : (encode set cs).map Char.toLower = List.replicate n '.') :
    cs = List.replicate n '.' := by
  have plain := eq_of_map_toLower_eq same fun d member => by
    rw [List.eq_of_mem_replicate member]
    decide
  rw [← encode_dots dot] at plain
  exact (encode_inj percent).mp plain

theorem isSingleDot_encode (percent : set '%' = true) (dot : set '.' = false) (cs : List Char) :
    isSingleDot (encode set cs) = true ↔ cs = ['.'] := by
  constructor
  · intro single
    have lower : (encode set cs).map Char.toLower = ['.'] ∨
        (encode set cs).map Char.toLower = ['%', '2', 'e'] := by
      simpa [isSingleDot, lowerText, String.ext_iff] using single
    rcases lower with one | code
    · exact eq_dots_of_encode percent dot (n := 1) one
    · exact (encode_ne_dotCode percent dot cs [] code).elim
  · rintro rfl
    rw [show encode set ['.'] = ['.'] from encode_dots dot 1]
    decide

theorem isDoubleDot_encode (percent : set '%' = true) (dot : set '.' = false) (cs : List Char) :
    isDoubleDot (encode set cs) = true ↔ cs = ['.', '.'] := by
  constructor
  · intro double
    have lower : (encode set cs).map Char.toLower = ['.', '.'] ∨
        (encode set cs).map Char.toLower = ['%', '2', 'e', '.'] ∨
        (encode set cs).map Char.toLower = ['.', '%', '2', 'e'] ∨
        (encode set cs).map Char.toLower = ['%', '2', 'e', '%', '2', 'e'] := by
      simpa [isDoubleDot, lowerText, String.ext_iff] using double
    rcases lower with two | code | code | code
    · exact eq_dots_of_encode (n := 2) percent dot two
    · exact (encode_ne_dotCode percent dot cs _ code).elim
    · exact (encode_ne_dot_dotCode percent dot cs _ code).elim
    · exact (encode_ne_dotCode percent dot cs _ code).elim
  · rintro rfl
    rw [show encode set ['.', '.'] = ['.', '.'] from encode_dots dot 2]
    decide

end Url
end ReviewDesk
