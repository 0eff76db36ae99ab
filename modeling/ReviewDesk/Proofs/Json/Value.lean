import ReviewDesk.Json.Value
import ReviewDesk.Proofs.Json.Number

/-!
Values as they come back from their text: with the members of every object in the order of their
names. The value of a name is the last one that was given for it.
-/

namespace ReviewDesk
namespace Json

theorem sizeOf_lt_members {member : String × Json} {fields : List (String × Json)}
    (inside : member ∈ fields) : sizeOf member.2 < sizeOf (Json.members fields) := by
  have smaller := List.sizeOf_lt_of_mem inside
  obtain ⟨name, value⟩ := member
  simp only [Prod.mk.sizeOf_spec, members.sizeOf_spec] at smaller ⊢
  omega

/-- The value with the members of all its objects in order. -/
def sorted : Json → Json
  | .array elements => .array (elements.map sorted)
  | .members fields => object (fields.map fun member => (member.1, member.2.sorted))
  | value => value
termination_by value => sizeOf value
decreasing_by
  · rename_i inside
    have smaller := List.sizeOf_lt_of_mem inside
    simp only [array.sizeOf_spec]
    omega
  · exact sizeOf_lt_members (by assumption)

/-- Arrays and objects stand at most so deep, and all numbers are read from their texts. -/
inductive Legible : Nat → Json → Prop
  | null (depth) : Legible depth .null
  | bool (depth value) : Legible depth (.bool value)
  | number (depth) {value} (back : value.ReadsBack) : Legible depth (.number value)
  | string (depth text) : Legible depth (.string text)
  | array {depth elements} (inner : ∀ value ∈ elements, Legible depth value) :
      Legible (depth + 1) (.array elements)
  | members {depth fields} (inner : ∀ member ∈ fields, Legible depth member.2) :
      Legible (depth + 1) (.members fields)

theorem lookup_cons_eq (name first : String) (value : Json) (fields : List (String × Json)) :
    ((first, value) :: fields).lookup name =
      if name = first then some value else fields.lookup name := by
  by_cases same : name = first
  · rw [if_pos same, same, List.lookup_cons_self]
  · rw [if_neg same, List.lookup_cons, beq_false_of_ne same]

theorem mem_of_lookup {name : String} {value : Json} {fields : List (String × Json)}
    (found : fields.lookup name = some value) : (name, value) ∈ fields := by
  obtain ⟨before, after, rfl, -⟩ := List.lookup_eq_some_iff.mp found
  exact List.mem_append_right _ List.mem_cons_self

theorem lookup_of_mem {name : String} {value : Json} {fields : List (String × Json)}
    (names : (fields.map Prod.fst).Nodup) (member : (name, value) ∈ fields) :
    fields.lookup name = some value := by
  obtain ⟨before, after, rfl⟩ := List.append_of_mem member
  apply List.lookup_eq_some_iff.mpr
  refine ⟨before, after, rfl, ?_⟩
  intro other inside
  rw [List.map_append, List.nodup_append] at names
  have apart := names.2.2 other.1 (List.mem_map_of_mem inside) name (by simp)
  simpa using apart.symm

theorem lookup_insertMember (name : String) (value : Json) (fields : List (String × Json))
    (other : String) :
    (insertMember name value fields).lookup other =
      if other = name then some value else fields.lookup other := by
  induction fields with
  | nil => rw [insertMember, lookup_cons_eq]
  | cons field fields ih =>
      obtain ⟨first, old⟩ := field
      rw [insertMember]
      by_cases same : name = first
      · rw [if_pos same, lookup_cons_eq, lookup_cons_eq, same]
        split <;> rfl
      rw [if_neg same]
      split
      · rw [lookup_cons_eq]
      · rw [lookup_cons_eq, ih, lookup_cons_eq]
        by_cases wanted : other = name
        · rw [if_neg (wanted ▸ same), if_pos wanted, if_pos wanted]
        · rw [if_neg wanted, if_neg wanted]

theorem lookup_foldl_insertMember (fields sorted : List (String × Json)) (name : String) :
    (fields.foldl (fun sorted field => insertMember field.1 field.2 sorted) sorted).lookup name =
      (fields.reverse.lookup name).or (sorted.lookup name) := by
  induction fields generalizing sorted with
  | nil => rfl
  | cons field fields ih =>
      rw [List.foldl_cons, ih, lookup_insertMember, List.reverse_cons, List.lookup_append,
        lookup_cons_eq, List.lookup_nil, Option.or_assoc]
      split <;> rfl

theorem mem_insertMember {name : String} {value : Json} {fields : List (String × Json)}
    {member : String × Json} (inside : member ∈ insertMember name value fields) :
    member = (name, value) ∨ member ∈ fields := by
  induction fields with
  | nil => exact .inl (List.mem_singleton.mp inside)
  | cons field fields ih =>
      obtain ⟨first, old⟩ := field
      rw [insertMember] at inside
      split at inside
      · rcases List.mem_cons.mp inside with here | later
        · exact .inl here
        · exact .inr (List.mem_cons_of_mem _ later)
      · split at inside
        · exact List.mem_cons.mp inside
        · rcases List.mem_cons.mp inside with here | later
          · exact .inr (here ▸ List.mem_cons_self)
          · exact (ih later).imp_right (List.mem_cons_of_mem _)

theorem mem_foldl_insertMember {fields sorted : List (String × Json)} {member : String × Json}
    (inside : member ∈
      fields.foldl (fun sorted field => insertMember field.1 field.2 sorted) sorted) :
    member ∈ fields ∨ member ∈ sorted := by
  induction fields generalizing sorted with
  | nil => exact .inr inside
  | cons field fields ih =>
      rcases ih inside with later | earlier
      · exact .inl (List.mem_cons_of_mem _ later)
      · rcases mem_insertMember earlier with here | before
        · exact .inl (here ▸ List.mem_cons_self)
        · exact .inr before

/-- The members of an object that is built of the given ones. -/
theorem exists_object (fields : List (String × Json)) :
    ∃ members, object fields = .members members ∧ (∀ member ∈ members, member ∈ fields) ∧
      ∀ name, members.lookup name = fields.reverse.lookup name := by
  refine ⟨_, rfl, ?_, ?_⟩
  · intro member inside
    exact (mem_foldl_insertMember inside).resolve_right List.not_mem_nil
  · intro name
    rw [lookup_foldl_insertMember, List.lookup_nil, Option.or_none]

theorem get?_object (fields : List (String × Json)) (name : String) :
    (object fields).get? name = fields.reverse.lookup name := by
  obtain ⟨members, same, -, lookup⟩ := exists_object fields
  rw [same, get?, lookup]

end Json
end ReviewDesk
