import ReviewDesk.Proofs.Json.Number
import ReviewDesk.Proofs.Json.Text

/-!
Arrays and objects are read piece by piece. Each piece is read whatever follows it, so that the
blanks around the commas make no difference.
-/

namespace ReviewDesk
namespace Json

theorem blank_nil : Blank [] :=
  List.forall_mem_nil _

theorem blank_space : Blank [' '] := by
  intro c inside
  rw [List.mem_singleton.mp inside]
  decide

theorem Blank.append {gap more : List Char} (before : Blank gap) (after : Blank more) :
    Blank (gap ++ more) :=
  List.forall_mem_append.mpr ⟨before, after⟩

theorem skipSpace_blank {gap : List Char} (blank : Blank gap) (rest : List Char) :
    skipSpace (gap ++ rest) = skipSpace rest :=
  List.dropWhile_append_of_pos blank

theorem skipSpace_solid {c : Char} (solid : isSpace c = false) (rest : List Char) :
    skipSpace (c :: rest) = c :: rest := by
  rw [skipSpace, List.dropWhile_cons_of_neg (by simp [solid])]

theorem isDigit_of_isSpace {c : Char} (space : isSpace c = true) :
    Decimal.isDigit c = false ∧ c ≠ '.' ∧ c ≠ 'e' ∧ c ≠ 'E' := by
  simp only [isSpace, Bool.or_eq_true, beq_iff_eq] at space
  rcases space with ((rfl | rfl) | rfl) | rfl <;> decide

theorem stops_mark {c : Char} (mark : c = ',' ∨ c = ']' ∨ c = '\x7d') (rest : List Char) :
    Stops (c :: rest) := by
  intro d head
  cases head
  rcases mark with rfl | rfl | rfl <;> decide

/-- No number goes on with blanks, nor with what comes after them. -/
theorem Blank.stops {gap rest : List Char} (blank : Blank gap) (stops : Stops rest) :
    Stops (gap ++ rest) := by
  intro d head
  cases gap with
  | nil => exact stops d head
  | cons b gap =>
      cases head
      exact isDigit_of_isSpace (blank _ List.mem_cons_self)

theorem mark_solid {c : Char} (mark : c = ',' ∨ c = ']' ∨ c = '\x7d') : isSpace c = false := by
  rcases mark with rfl | rfl | rfl <;> decide

/-- The text of a value begins with what is no blank and shuts nothing, and the value is read from
it whatever comes next. -/
structure Piece (element : ValueReader) (text : List Char) (value : Json) : Prop where
  head : ∃ c tail, text = c :: tail ∧ isSpace c = false ∧ c ≠ ']'
  read : ∀ rest, Stops rest → element (text ++ rest) = some (value, rest)

theorem Piece.skip {element : ValueReader} {text : List Char} {value : Json}
    (piece : Piece element text value) {gap : List Char} (blank : Blank gap) (rest : List Char) :
    skipSpace (gap ++ (text ++ rest)) = text ++ rest := by
  obtain ⟨c, tail, rfl, solid, -⟩ := piece.head
  rw [skipSpace_blank blank, List.cons_append, skipSpace_solid solid]

theorem joined_cons (gap text next : List Char) (rest : List (List Char)) :
    joined gap (text :: next :: rest) = text ++ ',' :: (gap ++ joined gap (next :: rest)) :=
  rfl

theorem joined_cons_append (text : List Char) (more : List (List Char)) (rest : List Char) :
    joined [] (text :: more) ++ rest =
      text ++ (joined [] ([] :: more) ++ rest) := by
  cases more with
  | nil => rfl
  | cons next more => simp only [joined_cons, List.append_assoc, List.nil_append]

theorem length_le_joined {texts : List (List Char)} (some_ : ∀ text ∈ texts, text ≠ []) :
    texts.length ≤ (joined [] texts).length := by
  induction texts with
  | nil => exact Nat.le_refl _
  | cons text texts ih =>
      have later := ih fun text inside => some_ text (List.mem_cons_of_mem _ inside)
      have first := List.length_pos_iff.mpr (some_ text List.mem_cons_self)
      cases texts with
      | nil => exact first
      | cons next texts =>
          simp only [joined_cons, List.length_append, List.length_cons, List.nil_append] at later ⊢
          omega

variable {element : ValueReader}

/-- A value is read from among the blanks around it, up to the mark after them. -/
theorem Around.read {text : List Char} {value : Json} (around : Around (Piece element) text value)
    {c : Char} (mark : c = ',' ∨ c = ']' ∨ c = '\x7d') (rest : List Char) :
    ∃ after, element (skipSpace (text ++ c :: rest)) = some (value, after) ∧
      skipSpace after = c :: rest := by
  obtain @⟨front, text, back, value, before, after, piece⟩ := around
  refine ⟨back ++ c :: rest, ?_, ?_⟩
  · rw [List.append_assoc, List.append_assoc, piece.skip before]
    exact piece.read _ (after.stops (stops_mark mark rest))
  · rw [skipSpace_blank after, skipSpace_solid (mark_solid mark)]

section

variable {fuel : Nat} {cs after rest : List Char} {value : Json}

theorem readElements_last (here : element (skipSpace cs) = some (value, after))
    (beyond : skipSpace after = ']' :: rest) :
    readElements element (fuel + 1) cs = some ([value], rest) := by
  simp only [readElements, here, Option.bind_eq_bind, Option.bind_some, beyond]
  rfl

theorem readElements_more (here : element (skipSpace cs) = some (value, after))
    (beyond : skipSpace after = ',' :: rest) :
    readElements element (fuel + 1) cs =
      (readElements element fuel rest).map fun (values, rest) => (value :: values, rest) := by
  simp only [readElements, here, Option.bind_eq_bind, Option.bind_some, beyond]
  cases readElements element fuel rest <;> rfl

end

theorem readElements_joined (rest : List Char) {entries : List (List Char × Json)} {fuel : Nat}
    (some_ : entries ≠ []) (each : ∀ one ∈ entries, Around (Piece element) one.1 one.2)
    (enough : entries.length ≤ fuel) :
    readElements element fuel (joined [] (entries.map Prod.fst) ++ ']' :: rest) =
      some (entries.map Prod.snd, rest) := by
  induction entries generalizing fuel with
  | nil => exact (some_ rfl).elim
  | cons one entries ih =>
      have first := each one List.mem_cons_self
      have others := fun one inside => each one (List.mem_cons_of_mem _ inside)
      obtain ⟨fuel, rfl⟩ := Nat.exists_eq_succ_of_ne_zero (Nat.ne_zero_of_lt enough)
      cases entries with
      | nil =>
          obtain ⟨after, here, beyond⟩ := first.read (.inr (.inl rfl)) rest
          exact readElements_last here beyond
      | cons next entries =>
          have later := ih (List.cons_ne_nil _ _) others (Nat.le_of_succ_le_succ enough)
          obtain ⟨after, here, beyond⟩ := first.read (.inl rfl)
            (joined [] ((next :: entries).map Prod.fst) ++ ']' :: rest)
          rw [List.map_cons, List.map_cons, joined_cons, List.append_assoc, List.cons_append,
            List.nil_append]
          rw [List.map_cons] at beyond later here
          rw [readElements_more here beyond, later]
          rfl

/-- What the reader finds at a member: its name, a colon, and its value up to a mark. -/
def MemberRead (element : ValueReader) (cs : List Char) (member : String × Json) (c : Char)
    (rest : List Char) : Prop :=
  ∃ chars name after more back, skipSpace cs = '"' :: chars ∧
    readChars chars = some (name, after) ∧ String.ofList name = member.1 ∧
    skipSpace after = ':' :: more ∧ element (skipSpace more) = some (member.2, back) ∧
    skipSpace back = c :: rest

theorem MemberText.read {text : List Char} {member : String × Json}
    (spelled : MemberText (Piece element) text member) {c : Char}
    (mark : c = ',' ∨ c = ']' ∨ c = '\x7d') (rest : List Char) :
    MemberRead element (text ++ c :: rest) member c rest := by
  obtain @⟨front, middle, text, value, pieces, before, between, around⟩ := spelled
  obtain ⟨back, here, beyond⟩ := around.read mark rest
  refine ⟨pieces.flatMap Written.chars ++ '"' :: (middle ++ ':' :: (text ++ c :: rest)),
    pieces.map Written.char, middle ++ ':' :: (text ++ c :: rest), text ++ c :: rest, back, ?_, ?_,
    rfl, ?_, here, beyond⟩
  · rw [List.append_assoc, skipSpace_blank before, Written.quoted, List.cons_append,
      List.cons_append, skipSpace_solid (by decide)]
    simp only [List.append_assoc, List.cons_append, List.nil_append]
  · exact readChars_quoted pieces _
  · rw [skipSpace_blank between, skipSpace_solid (by decide)]

section

variable {fuel : Nat} {cs rest : List Char} {member : String × Json}

theorem readMembers_last (found : MemberRead element cs member '\x7d' rest) :
    readMembers element (fuel + 1) cs = some ([member], rest) := by
  obtain ⟨chars, name, after, more, back, start, spelt, named, colon, here, beyond⟩ := found
  simp only [readMembers, start, spelt, Option.bind_eq_bind, Option.bind_some, colon, here, beyond,
    named]
  rfl

theorem readMembers_more (found : MemberRead element cs member ',' rest) :
    readMembers element (fuel + 1) cs =
      (readMembers element fuel rest).map fun (fields, rest) => (member :: fields, rest) := by
  obtain ⟨chars, name, after, more, back, start, spelt, named, colon, here, beyond⟩ := found
  simp only [readMembers, start, spelt, Option.bind_eq_bind, Option.bind_some, colon, here, beyond,
    named]
  cases readMembers element fuel rest <;> rfl

end

theorem readMembers_joined (rest : List Char) {entries : List (List Char × String × Json)}
    {fuel : Nat} (some_ : entries ≠ [])
    (each : ∀ one ∈ entries, MemberText (Piece element) one.1 one.2)
    (enough : entries.length ≤ fuel) :
    readMembers element fuel (joined [] (entries.map Prod.fst) ++ '\x7d' :: rest) =
      some (entries.map Prod.snd, rest) := by
  induction entries generalizing fuel with
  | nil => exact (some_ rfl).elim
  | cons one entries ih =>
      have first := each one List.mem_cons_self
      have others := fun one inside => each one (List.mem_cons_of_mem _ inside)
      obtain ⟨fuel, rfl⟩ := Nat.exists_eq_succ_of_ne_zero (Nat.ne_zero_of_lt enough)
      cases entries with
      | nil => exact readMembers_last (first.read (.inr (.inr rfl)) rest)
      | cons next entries =>
          have later := ih (List.cons_ne_nil _ _) others (Nat.le_of_succ_le_succ enough)
          have found := first.read (.inl rfl)
            (joined [] ((next :: entries).map Prod.fst) ++ '\x7d' :: rest)
          rw [List.map_cons, List.map_cons, joined_cons, List.append_assoc, List.cons_append,
            List.nil_append]
          rw [List.map_cons] at found later
          rw [readMembers_more found, later]
          rfl

section

variable {α : Type} {opening closing : Char} {entry : List Char → α → Prop}

/-- After the blanks at its front, an entry begins with what does not end the list. -/
def Begins (closing : Char) (entry : List Char → α → Prop) : Prop :=
  ∀ ⦃text value⦄, entry text value → ∃ front c tail, Blank front ∧ text = front ++ c :: tail ∧
    isSpace c = false ∧ c ≠ closing ∧ entry (c :: tail) value

theorem skipSpace_joined (begins : Begins closing entry) {entries : List (List Char × α)}
    (some_ : entries ≠ []) (each : ∀ one ∈ entries, entry one.1 one.2) (rest : List Char) :
    ∃ c tail, ∃ others : List (List Char × α), others ≠ [] ∧
      (∀ one ∈ others, entry one.1 one.2) ∧ others.map Prod.snd = entries.map Prod.snd ∧
      skipSpace (joined [] (entries.map Prod.fst) ++ rest) =
        joined [] (others.map Prod.fst) ++ rest ∧
      joined [] (others.map Prod.fst) ++ rest = c :: tail ∧ c ≠ closing := by
  obtain ⟨⟨text, value⟩, entries, rfl⟩ := List.exists_cons_of_ne_nil some_
  obtain ⟨first, others⟩ := List.forall_mem_cons.mp each
  obtain ⟨front, c, tail, before, same, solid, further, spelled⟩ := begins first
  have text : text = front ++ c :: tail := same
  have start : joined [] (((c :: tail, value) :: entries).map Prod.fst) ++ rest =
      c :: (tail ++ (joined [] ([] :: entries.map Prod.fst) ++ rest)) := by
    rw [List.map_cons, joined_cons_append, List.cons_append]
  refine ⟨c, _, (c :: tail, value) :: entries, List.cons_ne_nil _ _,
    List.forall_mem_cons.mpr ⟨spelled, others⟩, rfl, ?_, start, further⟩
  rw [start, List.map_cons, joined_cons_append, text, List.append_assoc, skipSpace_blank before,
    List.cons_append, skipSpace_solid solid]

/-- What is between the brackets is read to its end: nothing, or all the entries. -/
theorem Listed.read (begins : Begins closing entry) (solid : isSpace closing = false)
    {reader : Nat → List Char → Option (List α × List Char)} (rest : List Char)
    (reads : ∀ (entries : List (List Char × α)) (fuel : Nat), entries ≠ [] →
      (∀ one ∈ entries, entry one.1 one.2) → entries.length ≤ fuel →
        reader fuel (joined [] (entries.map Prod.fst) ++ closing :: rest) =
          some (entries.map Prod.snd, rest))
    {text : List Char} {values : List α} (listed : Listed opening closing entry text values) :
    ∃ inner, text ++ rest = opening :: inner ∧
      (values = [] ∧ skipSpace inner = closing :: rest ∨
        ∃ c tail, skipSpace inner = c :: tail ∧ c ≠ closing ∧
          reader (c :: tail).length (c :: tail) = some (values, rest)) := by
  cases listed with
  | @empty gap blank =>
      refine ⟨gap ++ closing :: rest, by simp, .inl ⟨rfl, ?_⟩⟩
      rw [skipSpace_blank blank, skipSpace_solid solid]
  | @entries entries some_ each =>
      refine ⟨joined [] (entries.map Prod.fst) ++ closing :: rest, by simp, .inr ?_⟩
      obtain ⟨c, tail, others, more, spelled, values, skipped, start, further⟩ :=
        skipSpace_joined begins some_ each (closing :: rest)
      refine ⟨c, tail, skipped.trans start, further, ?_⟩
      have full : ∀ text ∈ others.map Prod.fst, text ≠ [] := by
        intro text inside
        obtain ⟨one, member, rfl⟩ := List.mem_map.mp inside
        obtain ⟨front, c, tail, -, same, -⟩ := begins (spelled one member)
        rw [same]
        exact List.append_ne_nil_of_right_ne_nil _ (List.cons_ne_nil _ _)
      have enough : others.length ≤ (c :: tail).length := by
        have texts := length_le_joined full
        rw [List.length_map] at texts
        rw [← start, List.length_append]
        omega
      have read := reads others _ more spelled enough
      rw [start, values] at read
      exact read

end

theorem begins_around : Begins ']' (Around (Piece element)) := by
  rintro _ _ @⟨front, text, back, value, before, after, piece⟩
  obtain ⟨c, tail, rfl, solid, further⟩ := piece.head
  exact ⟨front, c, tail ++ back, before, rfl, solid, further, .mk blank_nil after piece⟩

theorem begins_memberText : Begins '\x7d' (MemberText (Piece element)) := by
  rintro _ _ @⟨front, middle, text, value, pieces, before, between, around⟩
  exact ⟨front, '"', _, before, rfl, by decide, by decide, .mk pieces blank_nil between around⟩

theorem Listed.piece_array {depth : Nat} {text : List Char} {elements : List Json}
    (listed : Listed '[' ']' (Around (Piece (readValue depth))) text elements) :
    Piece (readValue (depth + 1)) text (.array elements) where
  head := by cases listed <;> exact ⟨'[', _, rfl, by decide, by decide⟩
  read rest _ := by
    obtain ⟨inner, start, none | ⟨c, tail, skipped, further, read⟩⟩ :=
      listed.read begins_around (by decide) rest fun entries fuel => readElements_joined rest
    · rw [start, readValue, none.2, none.1]
      rfl
    · rw [start, readValue, skipped]
      split
      · rename_i shut
        exact (further (List.cons.inj shut).1).elim
      · rw [read]
        rfl

theorem Listed.piece_object {depth : Nat} {text : List Char} {fields : List (String × Json)}
    (listed : Listed '\x7b' '\x7d' (MemberText (Piece (readValue depth))) text fields) :
    Piece (readValue (depth + 1)) text (object fields) where
  head := by cases listed <;> exact ⟨'\x7b', _, rfl, by decide, by decide⟩
  read rest _ := by
    obtain ⟨inner, start, none | ⟨c, tail, skipped, further, read⟩⟩ :=
      listed.read begins_memberText (by decide) rest fun entries fuel =>
        readMembers_joined rest
    · rw [start, readValue, none.2, none.1]
      rfl
    · rw [start, readValue, skipped]
      split
      · rename_i shut
        exact (further (List.cons.inj shut).1).elim
      · rw [read]
        rfl

end Json
end ReviewDesk
