import Mathlib.Data.List.DropRight
import ReviewDesk.Proofs.Json.Pieces

/-!
The reader takes the texts of the grammar and no others: what it reads was spelled, and what is
spelled it reads to the end.
-/

namespace ReviewDesk
namespace Json

theorem readValue_of_scalar {c : Char} (array : c ≠ '[') (object : c ≠ '\x7b') (depth : Nat)
    (cs : List Char) : readValue depth (c :: cs) = readScalar (c :: cs) := by
  cases depth with
  | zero => simp [readValue, array, object]
  | succ depth =>
      unfold readValue
      split
      · rename_i same
        cases same
      · rename_i same
        exact (array (List.cons.inj same).1).elim
      · rename_i same
        exact (object (List.cons.inj same).1).elim
      · rfl

theorem readScalar_number {c : Char} (number : c = '-' ∨ Decimal.isDigit c = true)
    (cs : List Char) :
    readScalar (c :: cs) =
      (readNumber (c :: cs)).map fun (value, rest) => (.number value, rest) := by
  have other : c ≠ 'n' ∧ c ≠ 't' ∧ c ≠ 'f' ∧ c ≠ '"' := by
    refine ⟨?_, ?_, ?_, ?_⟩ <;> rintro rfl <;> revert number <;> decide
  unfold readScalar
  split
  · rename_i same
    exact (other.1 (List.cons.inj same).1).elim
  · rename_i same
    exact (other.2.1 (List.cons.inj same).1).elim
  · rename_i same
    exact (other.2.2.1 (List.cons.inj same).1).elim
  · rename_i same
    exact (other.2.2.2 (List.cons.inj same).1).elim
  · cases readNumber _ <;> rfl

theorem isDigit_solid {c : Char} (number : c = '-' ∨ Decimal.isDigit c = true) :
    isSpace c = false ∧ c ≠ ']' ∧ c ≠ '[' ∧ c ≠ '\x7b' := by
  refine ⟨?_, ?_, ?_, ?_⟩
  · cases space : isSpace c with
    | false => rfl
    | true =>
        rcases number with rfl | digit
        · cases space
        · rw [(isDigit_of_isSpace space).1] at digit
          cases digit
  all_goals
    rintro rfl
    revert number
    decide

theorem ScalarText.piece {text : List Char} {value : Json} (spelled : ScalarText text value)
    (depth : Nat) : Piece (readValue depth) text value := by
  cases spelled with
  | null =>
      refine ⟨⟨'n', _, rfl, by decide, by decide⟩, fun rest _ => ?_⟩
      exact readValue_of_scalar (by decide) (by decide) depth _
  | true_ =>
      refine ⟨⟨'t', _, rfl, by decide, by decide⟩, fun rest _ => ?_⟩
      exact readValue_of_scalar (by decide) (by decide) depth _
  | false_ =>
      refine ⟨⟨'f', _, rfl, by decide, by decide⟩, fun rest _ => ?_⟩
      exact readValue_of_scalar (by decide) (by decide) depth _
  | string pieces =>
      refine ⟨⟨'"', _, rfl, by decide, by decide⟩, fun rest _ => ?_⟩
      rw [Written.quoted, List.cons_append, List.append_assoc, List.singleton_append,
        readValue_of_scalar (by decide) (by decide), readScalar, readChars_quoted]
      rfl
  | @number n number range =>
      have back : readNumber n.chars = some (number, []) := by
        rw [n.readNumber_chars, range]
        rfl
      obtain ⟨c, tail, text, first⟩ := head_of_readNumber back
      obtain ⟨solid, shut, array, object⟩ := isDigit_solid first
      refine ⟨⟨c, tail, text, solid, shut⟩, fun rest stops => ?_⟩
      have read := readNumber_append stops back
      rw [text, List.cons_append] at read ⊢
      rw [readValue_of_scalar array object, readScalar_number first, read]
      rfl

section

variable {α : Type} {opening closing : Char} {text : List Char}

theorem Listed.imp {entry other : List Char → α → Prop}
    (each : ∀ ⦃text value⦄, entry text value → other text value) {values : List α}
    (listed : Listed opening closing entry text values) :
    Listed opening closing other text values := by
  cases listed with
  | empty blank => exact .empty blank
  | entries some_ all => exact .entries some_ fun one inside => each (all one inside)

variable {inner other : List Char → Json → Prop}

theorem Around.imp (each : ∀ ⦃text value⦄, inner text value → other text value) {value : Json}
    (around : Around inner text value) : Around other text value := by
  cases around with
  | mk before after spelled => exact .mk before after (each spelled)

theorem MemberText.imp (each : ∀ ⦃text value⦄, inner text value → other text value)
    {member : String × Json} (spelled : MemberText inner text member) :
    MemberText other text member := by
  cases spelled with
  | mk pieces before between around => exact .mk pieces before between (around.imp each)

end

theorem Spells.piece {depth : Nat} {text : List Char} {value : Json}
    (spells : Spells depth text value) : Piece (readValue depth) text value := by
  induction depth generalizing text value with
  | zero => exact ScalarText.piece spells 0
  | succ depth ih =>
      rcases spells with scalar | ⟨elements, listed, rfl⟩ | ⟨fields, listed, rfl⟩
      · exact scalar.piece (depth + 1)
      · exact (listed.imp fun text value around => around.imp fun text value => ih).piece_array
      · exact (listed.imp fun text member spelled => spelled.imp fun text value => ih).piece_object

/-- Whatever is read stands in front of what is left, and is spelled there. -/
def ReadsSpelled (element : ValueReader) (inner : List Char → Json → Prop) : Prop :=
  ∀ ⦃cs value rest⦄, element cs = some (value, rest) →
    ∃ text, cs = text ++ rest ∧ inner text value

theorem readsSpelled_scalar : ReadsSpelled readScalar ScalarText := by
  intro cs value rest read
  unfold readScalar at read
  split at read
  · cases read
    exact ⟨_, rfl, .null⟩
  · cases read
    exact ⟨_, rfl, .true_⟩
  · cases read
    exact ⟨_, rfl, .false_⟩
  · obtain ⟨⟨chars, after⟩, quoted, same⟩ := Option.bind_eq_some_iff.mp read
    cases same
    obtain ⟨pieces, rfl, rfl⟩ := closes_of_readChars quoted
    refine ⟨_, ?_, .string pieces⟩
    rw [Written.quoted, List.cons_append, List.append_assoc, List.singleton_append]
  · obtain ⟨⟨number, after⟩, digits, same⟩ := Option.bind_eq_some_iff.mp read
    cases same
    obtain ⟨n, text, range⟩ := exists_numberText digits
    exact ⟨_, text, .number n range⟩

theorem exists_gap (cs : List Char) : ∃ gap, Blank gap ∧ cs = gap ++ skipSpace cs :=
  ⟨cs.takeWhile isSpace, fun _ => List.mem_takeWhile_imp, List.takeWhile_append_dropWhile.symm⟩

theorem skipSpace_skipSpace (cs : List Char) : skipSpace (skipSpace cs) = skipSpace cs :=
  List.dropWhile_idempotent isSpace cs

theorem readElements_skipSpace (element : ValueReader) (fuel : Nat) (cs : List Char) :
    readElements element fuel (skipSpace cs) = readElements element fuel cs := by
  cases fuel with
  | zero => rfl
  | succ fuel => simp only [readElements, skipSpace_skipSpace]

theorem readMembers_skipSpace (element : ValueReader) (fuel : Nat) (cs : List Char) :
    readMembers element fuel (skipSpace cs) = readMembers element fuel cs := by
  cases fuel with
  | zero => rfl
  | succ fuel => simp only [readMembers, skipSpace_skipSpace]

section

variable {element : ValueReader} {inner : List Char → Json → Prop} {cs rest : List Char}

/-- A value that is read between blanks, and the mark it is read up to. -/
theorem ReadsSpelled.around (sound : ReadsSpelled element inner) {value : Json}
    {after : List Char} {c : Char} (read : element (skipSpace cs) = some (value, after))
    (beyond : skipSpace after = c :: rest) :
    ∃ text, cs = text ++ c :: rest ∧ Around inner text value := by
  obtain ⟨front, before, text⟩ := exists_gap cs
  obtain ⟨back, behind, more⟩ := exists_gap after
  obtain ⟨spelled, whole, inside⟩ := sound read
  refine ⟨front ++ (spelled ++ back), ?_, .mk before behind inside⟩
  rw [text, whole, more, beyond, List.append_assoc, List.append_assoc]

theorem entries_of_readElements (sound : ReadsSpelled element inner) {fuel : Nat}
    {elements : List Json} (read : readElements element fuel cs = some (elements, rest)) :
    ∃ entries : List (List Char × Json), entries ≠ [] ∧
      (∀ one ∈ entries, Around inner one.1 one.2) ∧ elements = entries.map Prod.snd ∧
      cs = joined [] (entries.map Prod.fst) ++ ']' :: rest := by
  induction fuel generalizing cs elements with
  | zero => cases read
  | succ fuel ih =>
      rw [readElements] at read
      obtain ⟨⟨value, after⟩, here, read⟩ := Option.bind_eq_some_iff.mp read
      dsimp only at read
      split at read
      · rename_i beyond
        obtain ⟨⟨others, _⟩, more, same⟩ := Option.bind_eq_some_iff.mp read
        cases same
        obtain ⟨text, rfl, first⟩ := sound.around here beyond
        obtain ⟨entries, some_, each, rfl, rfl⟩ := ih more
        refine ⟨(text, value) :: entries, List.cons_ne_nil _ _,
          List.forall_mem_cons.mpr ⟨first, each⟩, rfl, ?_⟩
        obtain ⟨one, entries, rfl⟩ := List.exists_cons_of_ne_nil some_
        simp [joined_cons]
      · rename_i beyond
        cases read
        obtain ⟨text, rfl, first⟩ := sound.around here beyond
        exact ⟨[(text, value)], List.cons_ne_nil _ _,
          List.forall_mem_cons.mpr ⟨first, List.forall_mem_nil _⟩, rfl, rfl⟩
      · cases read

theorem ReadsSpelled.member (sound : ReadsSpelled element inner) {member : String × Json} {c : Char}
    (found : MemberRead element cs member c rest) :
    ∃ text, cs = text ++ c :: rest ∧ MemberText inner text member := by
  obtain ⟨chars, name, after, more, back, start, spelt, named, colon, here, beyond⟩ := found
  obtain ⟨front, before, text⟩ := exists_gap cs
  obtain ⟨middle, between, later⟩ := exists_gap after
  obtain ⟨pieces, rfl, rfl⟩ := closes_of_readChars spelt
  obtain ⟨value, rfl, around⟩ := sound.around here beyond
  obtain ⟨_, value_⟩ := member
  cases named
  refine ⟨_, ?_, .mk pieces before between around⟩
  rw [text, start, later, colon, Written.quoted]
  simp

theorem entries_of_readMembers (sound : ReadsSpelled element inner) {fuel : Nat}
    {fields : List (String × Json)} (read : readMembers element fuel cs = some (fields, rest)) :
    ∃ entries : List (List Char × String × Json), entries ≠ [] ∧
      (∀ one ∈ entries, MemberText inner one.1 one.2) ∧ fields = entries.map Prod.snd ∧
      cs = joined [] (entries.map Prod.fst) ++ '\x7d' :: rest := by
  induction fuel generalizing cs fields with
  | zero => cases read
  | succ fuel ih =>
      rw [readMembers] at read
      split at read
      · rename_i start
        obtain ⟨⟨name, after⟩, spelt, read⟩ := Option.bind_eq_some_iff.mp read
        dsimp only at read
        split at read
        · rename_i colon
          obtain ⟨⟨value, back⟩, here, read⟩ := Option.bind_eq_some_iff.mp read
          dsimp only at read
          have found {c : Char} {rest : List Char} (beyond : skipSpace back = c :: rest) :
              MemberRead element cs (String.ofList name, value) c rest :=
            ⟨_, name, after, _, back, start, spelt, rfl, colon, here, beyond⟩
          split at read
          · rename_i beyond
            obtain ⟨⟨others, _⟩, more, same⟩ := Option.bind_eq_some_iff.mp read
            cases same
            obtain ⟨text, rfl, first⟩ := sound.member (found beyond)
            obtain ⟨entries, some_, each, rfl, rfl⟩ := ih more
            refine ⟨(text, _) :: entries, List.cons_ne_nil _ _,
              List.forall_mem_cons.mpr ⟨first, each⟩, rfl, ?_⟩
            obtain ⟨one, entries, rfl⟩ := List.exists_cons_of_ne_nil some_
            simp [joined_cons]
          · rename_i beyond
            cases read
            obtain ⟨text, rfl, first⟩ := sound.member (found beyond)
            exact ⟨[(text, _)], List.cons_ne_nil _ _,
              List.forall_mem_cons.mpr ⟨first, List.forall_mem_nil _⟩, rfl, rfl⟩
          · cases read
        · cases read
      · cases read

end

theorem exists_listed_empty {α : Type} {opening closing : Char} {entry : List Char → α → Prop}
    {cs rest : List Char} (shut : skipSpace cs = closing :: rest) :
    ∃ text, opening :: cs = text ++ rest ∧ Listed opening closing entry text [] := by
  obtain ⟨gap, blank, same⟩ := exists_gap cs
  refine ⟨_, ?_, .empty blank⟩
  rw [same, shut]
  simp

theorem readsSpelled_value (depth : Nat) : ReadsSpelled (readValue depth) (Spells depth) := by
  induction depth with
  | zero =>
      intro cs value rest read
      rw [readValue] at read
      split at read
      · cases read
      · exact readsSpelled_scalar read
  | succ depth ih =>
      intro cs value rest read
      unfold readValue at read
      split at read
      · rename_i zero
        cases zero
      · rename_i cs same
        cases same
        split at read
        · rename_i shut
          cases read
          obtain ⟨text, same, listed⟩ := exists_listed_empty shut
          exact ⟨text, same, .inr (.inl ⟨[], listed, rfl⟩)⟩
        · rw [readElements_skipSpace] at read
          obtain ⟨⟨elements, _⟩, inner, same⟩ := Option.map_eq_some_iff.mp read
          cases same
          obtain ⟨entries, some_, each, rfl, rfl⟩ := entries_of_readElements ih inner
          exact ⟨_, by simp, .inr (.inl ⟨_, .entries some_ each, rfl⟩)⟩
      · rename_i cs same
        cases same
        split at read
        · rename_i shut
          cases read
          obtain ⟨text, same, listed⟩ := exists_listed_empty shut
          exact ⟨text, same, .inr (.inr ⟨[], listed, rfl⟩)⟩
        · rw [readMembers_skipSpace] at read
          obtain ⟨⟨fields, _⟩, inner, same⟩ := Option.map_eq_some_iff.mp read
          cases same
          obtain ⟨entries, some_, each, rfl, rfl⟩ := entries_of_readMembers ih inner
          exact ⟨_, by simp, .inr (.inr ⟨_, .entries some_ each, rfl⟩)⟩
      · obtain ⟨text, same, scalar⟩ := readsSpelled_scalar read
        exact ⟨text, same, .inl scalar⟩

/-- A document is read if it spells a value, with no more than blanks around it. -/
theorem parse?_eq_some_iff {document : String} {value : Json} :
    parse? document = some value ↔ Around (Spells maxDepth) document.toList value := by
  rw [parse?]
  constructor
  · intro parsed
    split at parsed
    · rename_i read
      split at parsed
      · rename_i ended
        cases parsed
        obtain ⟨front, before, whole⟩ := exists_gap document.toList
        obtain ⟨text, same, spells⟩ := readsSpelled_value _ read
        rename_i rest
        have after : Blank rest := by
          obtain ⟨back, behind, more⟩ := exists_gap rest
          rw [List.isEmpty_iff.mp ended, List.append_nil] at more
          rw [more]
          exact behind
        rw [whole, same]
        exact .mk before after spells
      · cases parsed
    · cases parsed
  · intro around
    generalize document.toList = cs at around
    obtain @⟨front, text, back, value, before, after, spells⟩ := around
    have ended : Stops back := by
      have stops : Stops (back ++ []) := after.stops fun c member => nomatch member
      rwa [List.append_nil] at stops
    have none : skipSpace back = [] := List.dropWhile_eq_nil_iff.mpr after
    rw [spells.piece.skip before, spells.piece.read back ended]
    simp [none]

end Json
end ReviewDesk
