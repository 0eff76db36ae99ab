import ReviewDesk.Proofs.Json.Document

/-!
Values whose objects have their members in the order of their names, each name once. What is read
from a text is such a value, and its compact text is read as the very same value.
-/

namespace ReviewDesk
namespace Json

/-- The names stand in order, and none stands twice. -/
def Ascending (fields : List (String × Json)) : Prop :=
  fields.Pairwise fun a b => a.1 < b.1

inductive Ordered : Json → Prop
  | null : Ordered .null
  | bool (value) : Ordered (.bool value)
  | number (value) : Ordered (.number value)
  | string (text) : Ordered (.string text)
  | array {elements} (inner : ∀ value ∈ elements, Ordered value) : Ordered (.array elements)
  | members {fields} (names : Ascending fields) (inner : ∀ member ∈ fields, Ordered member.2) :
      Ordered (.members fields)

theorem ascending_insertMember (name : String) (value : Json) {fields : List (String × Json)}
    (ascending : Ascending fields) : Ascending (insertMember name value fields) := by
  induction fields with
  | nil => exact List.pairwise_singleton _ _
  | cons field fields ih =>
      obtain ⟨first, old⟩ := field
      obtain ⟨least, rest⟩ := List.pairwise_cons.mp ascending
      rw [insertMember]
      split
      · rename_i same
        subst same
        exact List.pairwise_cons.mpr ⟨least, rest⟩
      split
      · rename_i before
        refine List.pairwise_cons.mpr ⟨fun other inside => ?_, ascending⟩
        rcases List.mem_cons.mp inside with rfl | later
        · exact before
        · exact String.lt_trans before (least other later)
      · rename_i other after
        refine List.pairwise_cons.mpr ⟨fun member inside => ?_, ih rest⟩
        rcases mem_insertMember inside with rfl | later
        · exact (Std.lt_trichotomy name first).resolve_left after |>.resolve_left other
        · exact least member later

theorem ordered_insertMember (name : String) {value : Json} {fields : List (String × Json)}
    (ordered : Ordered value) (inner : Ordered (.members fields)) :
    Ordered (.members (insertMember name value fields)) := by
  cases inner with
  | members names inner =>
      refine .members (ascending_insertMember name value names) fun member inside => ?_
      rcases mem_insertMember inside with rfl | old
      · exact ordered
      · exact inner member old

theorem ordered_object {fields : List (String × Json)}
    (inner : ∀ member ∈ fields, Ordered member.2) : Ordered (object fields) := by
  refine .members ?_ fun member inside => ?_
  · have extend (sorted : List (String × Json)) (ascending : Ascending sorted) :
        Ascending
          (fields.foldl (fun sorted field => insertMember field.1 field.2 sorted) sorted) := by
      clear inner
      induction fields generalizing sorted with
      | nil => exact ascending
      | cons field fields ih => exact ih _ (ascending_insertMember _ _ ascending)
    exact extend [] .nil
  · exact inner member ((mem_foldl_insertMember inside).resolve_right List.not_mem_nil)

theorem object_of_ascending {fields : List (String × Json)} (ascending : Ascending fields) :
    object fields = .members fields := by
  have last {name : String} {value : Json} {front : List (String × Json)}
      (below : ∀ member ∈ front, member.1 < name) :
      insertMember name value front = front ++ [(name, value)] := by
    induction front with
    | nil => rfl
    | cons member front ih =>
        obtain ⟨first, others⟩ := List.forall_mem_cons.mp below
        have other : ¬name = member.1 := fun same => String.lt_irrefl name (same ▸ first)
        rw [insertMember, if_neg other, if_neg (String.lt_asymm first), ih others, List.cons_append]
  have extend (front : List (String × Json)) (whole : Ascending (front ++ fields)) :
      fields.foldl (fun sorted field => insertMember field.1 field.2 sorted) front =
        front ++ fields := by
    clear ascending
    induction fields generalizing front with
    | nil => rw [List.append_nil, List.foldl_nil]
    | cons field fields ih =>
        have below : ∀ member ∈ front, member.1 < field.1 := fun member inside =>
          (List.pairwise_append.mp whole).2.2 member inside field List.mem_cons_self
        rw [List.append_cons] at whole ⊢
        rw [List.foldl_cons, last below, ih _ whole]
  rw [object, extend [] ascending, List.nil_append]

theorem Ordered.sorted_eq {value : Json} (ordered : Ordered value) : value.sorted = value := by
  induction ordered with
  | null | bool | number | string => simp only [sorted]
  | array inner ih =>
      rw [sorted, List.map_congr_left ih, List.map_id']
  | members names inner ih =>
      have same := List.map_congr_left fun member inside =>
        congrArg (Prod.mk member.1) (ih member inside)
      rw [sorted, same, List.map_id', object_of_ascending names]

section

variable {α : Type} {opening closing : Char} {entry : List Char → α → Prop}

theorem Listed.exists_entry {text : List Char} {values : List α}
    (listed : Listed opening closing entry text values) : ∀ value ∈ values, ∃ text, entry text value := by
  cases listed with
  | empty => exact List.forall_mem_nil _
  | entries some_ each =>
      intro value inside
      obtain ⟨one, member, rfl⟩ := List.mem_map.mp inside
      exact ⟨one.1, each one member⟩

variable {inner : List Char → Json → Prop} {text : List Char}

theorem Around.exists_spelled {value : Json} (around : Around inner text value) :
    ∃ text, inner text value := by
  cases around with
  | mk before after spelled => exact ⟨_, spelled⟩

theorem MemberText.exists_spelled {member : String × Json} (spelled : MemberText inner text member) :
    ∃ text, inner text member.2 := by
  cases spelled with
  | mk pieces before between around => exact around.exists_spelled

end

/-- What holds of values that are spelled: of one, if it holds of all that are in it. -/
theorem Spells.of_parts {motive : Nat → Json → Prop}
    (scalar : ∀ depth text value, ScalarText text value → motive depth value)
    (array : ∀ depth elements, (∀ value ∈ elements, motive depth value) →
      motive (depth + 1) (.array elements))
    (members : ∀ depth fields, (∀ member ∈ fields, motive depth member.2) →
      motive (depth + 1) (object fields))
    {depth : Nat} {text : List Char} {value : Json} (spells : Spells depth text value) :
    motive depth value := by
  induction depth generalizing text value with
  | zero => exact scalar 0 text value spells
  | succ depth ih =>
      rcases spells with single | ⟨elements, listed, rfl⟩ | ⟨fields, listed, rfl⟩
      · exact scalar _ text value single
      · refine array depth elements fun value inside => ?_
        obtain ⟨_, around⟩ := listed.exists_entry value inside
        obtain ⟨_, spelled⟩ := around.exists_spelled
        exact ih spelled
      · refine members depth fields fun member inside => ?_
        obtain ⟨_, spelling⟩ := listed.exists_entry member inside
        obtain ⟨_, spelled⟩ := spelling.exists_spelled
        exact ih spelled

theorem Spells.ordered {depth : Nat} {text : List Char} {value : Json}
    (spells : Spells depth text value) : Ordered value := by
  refine spells.of_parts (motive := fun _ => Ordered) ?_ (fun _ _ => .array) (fun _ _ => ordered_object)
  intro _ _ value scalar
  cases scalar with
  | null => exact .null
  | true_ => exact .bool true
  | false_ => exact .bool false
  | string pieces => exact .string _
  | number n range => exact .number _

theorem ordered_of_parse? {text : String} {value : Json} (parsed : parse? text = some value) :
    Ordered value := by
  obtain ⟨_, spells⟩ := (parse?_eq_some_iff.mp parsed).exists_spelled
  exact spells.ordered

/-- The floats in a value are read from their own texts. -/
inductive FloatsReadBack : Json → Prop
  | null : FloatsReadBack .null
  | bool (value) : FloatsReadBack (.bool value)
  | whole (n) : FloatsReadBack (.number (.whole n))
  | real {x} (back : (Number.real x).ReadsBack) : FloatsReadBack (.number (.real x))
  | string (text) : FloatsReadBack (.string text)
  | array {elements} (inner : ∀ value ∈ elements, FloatsReadBack value) :
      FloatsReadBack (.array elements)
  | members {fields} (inner : ∀ member ∈ fields, FloatsReadBack member.2) :
      FloatsReadBack (.members fields)

theorem Spells.legible {depth : Nat} {text : List Char} {value : Json}
    (spells : Spells depth text value) (floats : FloatsReadBack value) : Legible depth value := by
  refine spells.of_parts (motive := fun depth value => FloatsReadBack value → Legible depth value)
    ?scalar ?array ?members floats
  case scalar =>
    intro depth _ value single floats
    cases single with
    | null => exact .null depth
    | true_ => exact .bool depth true
    | false_ => exact .bool depth false
    | string pieces => exact .string depth _
    | @number n number range =>
        cases floats with
        | whole value =>
            obtain ⟨low, high⟩ := n.whole_bounds range
            exact .number depth (Number.whole_reads_back low high)
        | real back => exact .number depth back
  case array =>
    intro depth elements each floats
    cases floats with
    | array inner => exact .array fun value inside => each value inside (inner value inside)
  case members =>
    intro depth fields each floats
    obtain ⟨members, same, subset, -⟩ := exists_object fields
    rw [same] at floats ⊢
    cases floats with
    | members inner =>
        exact .members fun member inside => each member (subset member inside) (inner member inside)

theorem Legible.mono {depth more : Nat} (le : depth ≤ more) {value : Json}
    (legible : Legible depth value) : Legible more value := by
  induction legible generalizing more with
  | null => exact .null more
  | bool _ value => exact .bool more value
  | number _ back => exact .number more back
  | string _ text => exact .string more text
  | array inner ih =>
      obtain ⟨more, rfl⟩ := Nat.exists_eq_succ_of_ne_zero (Nat.ne_zero_of_lt le)
      exact .array fun value inside => ih value inside (Nat.le_of_succ_le_succ le)
  | members inner ih =>
      obtain ⟨more, rfl⟩ := Nat.exists_eq_succ_of_ne_zero (Nat.ne_zero_of_lt le)
      exact .members fun member inside => ih member inside (Nat.le_of_succ_le_succ le)

/-- A value that was read from a text is read again from its own. -/
theorem Spells.parse?_compact {depth : Nat} {text : List Char} {value : Json}
    (spells : Spells depth text value) (within : depth ≤ maxDepth) (floats : FloatsReadBack value) :
    parse? value.compact = some value := by
  rw [((spells.legible floats).mono within).parse?_compact, spells.ordered.sorted_eq]

end Json
end ReviewDesk
