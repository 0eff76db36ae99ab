import Mathlib.Data.List.Basic
import ReviewDesk.Proofs.Url.Percent
import ReviewDesk.Text.Split

/-!
Forms in the query of an address, and a reader for them: pieces between ampersands, each with a name
before its first equals sign and a value after it. What was written is read, whatever characters
names and values are made of, because the separators and the plus sign are always encoded.
-/

namespace ReviewDesk

namespace Text

theorem splitChars_plain {separator : Char} {piece : List Char} (plain : separator ∉ piece) :
    splitChars separator piece = [piece] := by
  induction piece with
  | nil => rfl
  | cons c piece ih =>
      rw [List.mem_cons, not_or] at plain
      rw [splitChars, if_neg (Ne.symm plain.1), ih plain.2]

theorem splitChars_append {separator : Char} {piece : List Char} (plain : separator ∉ piece)
    (rest : List Char) :
    splitChars separator (piece ++ separator :: rest) = piece :: splitChars separator rest := by
  induction piece with
  | nil => rw [List.nil_append, splitChars, if_pos rfl]
  | cons c piece ih =>
      rw [List.mem_cons, not_or] at plain
      rw [List.cons_append, splitChars, if_neg (Ne.symm plain.1), ih plain.2]

theorem splitChars_intercalate {separator : Char} {pieces : List (List Char)}
    (nonempty : pieces ≠ []) (plain : ∀ piece ∈ pieces, separator ∉ piece) :
    splitChars separator ([separator].intercalate pieces) = pieces := by
  induction pieces with
  | nil => exact (nonempty rfl).elim
  | cons piece pieces ih =>
      obtain ⟨first, others⟩ := List.forall_mem_cons.mp plain
      cases pieces with
      | nil => rw [List.intercalate_singleton, splitChars_plain first]
      | cons next more =>
          rw [List.intercalate_cons_cons, List.append_assoc, List.singleton_append,
            splitChars_append first, ih (List.cons_ne_nil next more) others]

end Text

namespace Url

/-- A plus in a form is a space. -/
def unplus (c : Char) : Char :=
  if c = '+' then ' ' else c

/-- The text that a name or a value of a form stands for. -/
def readFormText (cs : List Char) : String :=
  Text.ofUtf8 (decodeBytes (cs.map unplus))

/-- The name and the value of a piece of a form. -/
def readFormPair (piece : List Char) : String × String :=
  (readFormText (piece.takeWhile (· ≠ '=')), readFormText ((piece.dropWhile (· ≠ '=')).drop 1))

/-- The pairs of a form; there is none in an empty piece. -/
def readForm (cs : List Char) : List (String × String) :=
  ((Text.splitChars '&' cs).filter (· ≠ [])).map readFormPair

theorem upperHex_plain : ∀ n < 16, upperHex n ∉ ['+', '&', '='] := by
  decide

/-- A byte is written without any sign of a form. -/
theorem percentByte_plain (b : UInt8) : ∀ c ∈ percentByte b, c ∉ ['+', '&', '='] := by
  have bound : b.toNat < 256 := b.toNat_lt
  intro c member
  simp only [percentByte, List.mem_cons, List.not_mem_nil, or_false] at member
  rcases member with rfl | rfl | rfl
  · decide
  · exact upperHex_plain _ (by omega)
  · exact upperHex_plain _ (by omega)

theorem flatMap_percentByte_plain {bytes : List UInt8} :
    ∀ c ∈ bytes.flatMap percentByte, c ∉ ['+', '&', '='] := by
  intro c member
  obtain ⟨b, -, inside⟩ := List.mem_flatMap.mp member
  exact percentByte_plain b c inside

theorem map_unplus {cs : List Char} (plain : ∀ c ∈ cs, c ≠ '+') : cs.map unplus = cs := by
  have same : ∀ c ∈ cs, unplus c = id c := fun c member => if_neg (plain c member)
  rw [List.map_congr_left same, List.map_id]

/-- Letters, digits and the marks that stay are no signs of a form. -/
theorem kept_plain {c : Char} (kept : c.isAlphanum = true ∨ c ∈ ['*', '-', '.', '_']) :
    c ∉ ['+', '%', '&', '='] := by
  intro sign
  simp only [List.mem_cons, List.not_mem_nil, or_false] at sign
  rcases sign with rfl | rfl | rfl | rfl <;> revert kept <;> decide

theorem decodeBytes_formChar (c : Char) (rest : List Char) :
    decodeBytes ((formChar c).map unplus ++ rest) =
      String.utf8EncodeChar c ++ decodeBytes rest := by
  rw [formChar]
  split
  · rename_i space
    subst space
    exact decodeBytes_cons (c := ' ') (by decide) rest
  · split
    · rename_i kept
      have plain := kept_plain (by simpa using kept)
      simp only [List.mem_cons, List.not_mem_nil, or_false, not_or] at plain
      rw [List.map_singleton, unplus, if_neg plain.1]
      exact decodeBytes_cons plain.2.1 rest
    · rw [map_unplus, decodeBytes_flatMap_percentByte]
      rintro d member rfl
      exact flatMap_percentByte_plain '+' member (by decide)

theorem decodeBytes_formText (cs : List Char) :
    decodeBytes ((cs.flatMap formChar).map unplus) = cs.flatMap String.utf8EncodeChar := by
  induction cs with
  | nil => rw [List.flatMap_nil, List.map_nil, decodeBytes, List.flatMap_nil]
  | cons c cs ih =>
      rw [List.flatMap_cons, List.map_append, decodeBytes_formChar, ih, List.flatMap_cons]

theorem readFormText_formText (s : String) : readFormText (formText s) = s := by
  rw [readFormText, formText, decodeBytes_formText, Text.ofUtf8_utf8, String.ofList_toList]

theorem formChar_plain (c : Char) : ∀ d ∈ formChar c, d ∉ ['&', '='] := by
  intro d member separator
  rw [formChar] at member
  split at member
  · rw [List.mem_singleton.mp member] at separator
    exact absurd separator (by decide)
  · split at member
    · rename_i kept
      rw [List.mem_singleton.mp member] at separator
      exact kept_plain (by simpa using kept)
        (List.mem_cons_of_mem _ (List.mem_cons_of_mem _ separator))
    · exact flatMap_percentByte_plain d member (List.mem_cons_of_mem '+' separator)

theorem formText_plain (s : String) {separator : Char} (sign : separator ∈ ['&', '=']) :
    separator ∉ formText s := by
  intro member
  obtain ⟨c, -, inside⟩ := List.mem_flatMap.mp member
  exact formChar_plain c separator inside sign

/-- A pair as a piece of a form. -/
def formPiece (pair : String × String) : List Char :=
  formText pair.1 ++ ['='] ++ formText pair.2

theorem readFormPair_formPiece (pair : String × String) : readFormPair (formPiece pair) = pair := by
  have plain : ∀ c ∈ formText pair.1, (decide (c ≠ '=')) = true := by
    intro c member
    rw [decide_eq_true_iff]
    rintro rfl
    exact formText_plain pair.1 (by decide) member
  rw [readFormPair, formPiece, List.append_assoc, List.takeWhile_append_of_pos plain,
    List.dropWhile_append_of_pos plain]
  simp [readFormText_formText]

theorem formPiece_plain (pair : String × String) : '&' ∉ formPiece pair := by
  simp only [formPiece, List.mem_append, List.mem_singleton, not_or]
  exact ⟨⟨formText_plain _ (by decide), by decide⟩, formText_plain _ (by decide)⟩

/-- What is written into a form is read from it. -/
theorem readForm_formPairs (pairs : List (String × String)) :
    readForm (formPairs pairs) = pairs := by
  cases pairs with
  | nil => rfl
  | cons pair rest =>
      have written : formPairs (pair :: rest) =
          ['&'].intercalate ((pair :: rest).map formPiece) := rfl
      have plain : ∀ piece ∈ (pair :: rest).map formPiece, '&' ∉ piece := by
        intro piece member
        obtain ⟨_, -, rfl⟩ := List.mem_map.mp member
        exact formPiece_plain _
      have full : ∀ piece ∈ (pair :: rest).map formPiece, decide (piece ≠ []) = true := by
        intro piece member
        obtain ⟨_, -, rfl⟩ := List.mem_map.mp member
        simp [formPiece]
      rw [readForm, written, Text.splitChars_intercalate (by simp) plain,
        List.filter_eq_self.mpr full, List.map_map]
      exact List.map_id'' readFormPair_formPiece _

end Url
end ReviewDesk
