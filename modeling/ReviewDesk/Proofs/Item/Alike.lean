import Mathlib.Data.Option.Basic
import ReviewDesk.Proofs.Item.Shape

/-!
What does not matter in a document. The members of an object are looked at in the order of the names
that are known, so members of other names make no difference, and neither does it matter whether a
field that may be absent is missing or `null`: the document is read as the same, or refused for the
same fault.
-/

namespace ReviewDesk

namespace Json

/-- The check of what an object gives for a name, if it gives anything. -/
def checkGiven (check : String × Json → Except DecodeFault Unit) (fields : List (String × Json))
    (name : String) : Except DecodeFault Unit :=
  (fields.lookup name).elim (.ok ()) fun value => check (name, value)

theorem forM_congr {α : Type} {xs : List α} {f g : α → Except DecodeFault Unit}
    (same : ∀ x ∈ xs, f x = g x) : xs.forM f = xs.forM g := by
  induction xs with
  | nil => rfl
  | cons x xs ih =>
      have rest := ih fun y inside => same y (List.mem_cons_of_mem _ inside)
      rw [List.forM_eq_forM] at rest ⊢
      rw [List.forM_cons, List.forM_cons, same x List.mem_cons_self, rest]

theorem checkGiven_cons {check : String × Json → Except DecodeFault Unit} {name first : String}
    (other : name ≠ first) (value : Json) (fields : List (String × Json)) :
    checkGiven check ((first, value) :: fields) name = checkGiven check fields name := by
  rw [checkGiven, lookup_cons_eq, if_neg other, checkGiven]

theorem checkGiven_of_before {check : String × Json → Except DecodeFault Unit} {name : String}
    {fields : List (String × Json)} (before : ∀ member ∈ fields, name < member.1) :
    checkGiven check fields name = .ok () := by
  have none : fields.lookup name = none := by
    apply List.lookup_eq_none_iff.mpr
    intro member inside
    have apart : name ≠ member.1 := fun same =>
      String.lt_irrefl name (lt_of_lt_of_eq (before member inside) same.symm)
    simpa using apart
  rw [checkGiven, none]
  rfl

/-- The members of an object are checked in the order of the known names. -/
theorem forM_eq_forM_names {check : String × Json → Except DecodeFault Unit} {names : List String}
    {fields : List (String × Json)} (order : names.Pairwise (· < ·)) (ascending : Ascending fields)
    (others : ∀ member ∈ fields, member.1 ∉ names → check member = .ok ()) :
    fields.forM check = names.forM (checkGiven check fields) := by
  induction fields generalizing names with
  | nil => exact (Item.forM_eq_ok.mpr fun name _ => rfl).symm
  | cons field fields ih =>
      obtain ⟨first, value⟩ := field
      obtain ⟨least, rest⟩ := List.pairwise_cons.mp ascending
      obtain ⟨head, tail⟩ := List.forall_mem_cons.mp others
      by_cases known : first ∈ names
      · obtain ⟨before, after, rfl⟩ := List.append_of_mem known
        obtain ⟨-, order', apart⟩ := List.pairwise_append.mp order
        obtain ⟨later, order''⟩ := List.pairwise_cons.mp order'
        -- names before the first member's are not given, and names after it are given by the rest
        have unchecked : before.forM (checkGiven check ((first, value) :: fields)) = .ok () := by
          apply Item.forM_eq_ok.mpr
          intro name inside
          have smaller : name < first := apart name inside first List.mem_cons_self
          exact checkGiven_of_before (List.forall_mem_cons.mpr
            ⟨smaller, fun member later => String.lt_trans smaller (least member later)⟩)
        have others' : ∀ member ∈ fields, member.1 ∉ after → check member = .ok () := by
          intro member inside unknown
          refine tail member inside fun found => ?_
          rcases List.mem_append.mp found with earlier | found
          · exact String.lt_asymm (least member inside)
              (apart member.1 earlier first List.mem_cons_self)
          rcases List.mem_cons.mp found with same | found
          · exact String.lt_irrefl first (lt_of_lt_of_eq (least member inside) same)
          · exact unknown found
        have same : fields.forM check =
            after.forM (checkGiven check ((first, value) :: fields)) := by
          refine (ih order'' rest others').trans (forM_congr fun name inside => ?_)
          have apart' : name ≠ first := fun same =>
            String.lt_irrefl first (lt_of_lt_of_eq (later name inside) same)
          exact (checkGiven_cons apart' value fields).symm
        have here : checkGiven check ((first, value) :: fields) first = check (first, value) := by
          rw [checkGiven, List.lookup_cons_self]
          rfl
        simp only [List.forM_eq_forM] at unchecked same ⊢
        rw [List.forM_append, unchecked, List.forM_cons, List.forM_cons, here, same]
        rfl
      · rw [List.forM_eq_forM, List.forM_cons, head known, ← List.forM_eq_forM]
        refine (ih order rest tail).trans (forM_congr fun name inside => ?_)
        have apart : name ≠ first := fun same => known (same ▸ inside)
        exact (checkGiven_cons apart value fields).symm

/-- Objects that give alike for the known names are found faulty for the same. -/
theorem forM_eq_of_given {check : String × Json → Except DecodeFault Unit} {names : List String}
    {a b : List (String × Json)} (order : names.Pairwise (· < ·))
    (unknown : ∀ name ∉ names, ∀ value, check (name, value) = .ok ())
    (ascending : Ascending a) (ascending' : Ascending b)
    (same : ∀ name ∈ names, checkGiven check a name = checkGiven check b name) :
    a.forM check = b.forM check := by
  rw [forM_eq_forM_names order ascending fun member _ other => unknown member.1 other member.2,
    forM_eq_forM_names order ascending' fun member _ other => unknown member.1 other member.2]
  exact forM_congr same

end Json

namespace Item

/-- The fields of an item in the order in which the members of an object stand. -/
def sortedNames : List String :=
  ["count", "detector_id", "human_confidence", "human_label", "human_labeled_at", "human_notes",
    "human_user", "id", "image_uri", "model_confidence", "model_label", "received_ts",
    "result_type", "status", "updated_ts"]

theorem mem_sortedNames {name : String} : name ∈ sortedNames ↔ name ∈ fieldNames := by
  have all : (∀ name ∈ sortedNames, name ∈ fieldNames) ∧ ∀ name ∈ fieldNames, name ∈ sortedNames :=
    by decide
  exact ⟨all.1 name, all.2 name⟩

/-- Objects that give the same for the fields of an item, a missing one being `null` unless it is
the id, and documents that are the same. -/
inductive Alike : Json → Json → Prop
  | same (value : Json) : Alike value value
  | members {a b : List (String × Json)} (id : a.lookup "id" = b.lookup "id")
      (others : ∀ name ∈ fieldNames, (a.lookup name).getD .null = (b.lookup name).getD .null) :
      Alike (.members a) (.members b)

/-- A member of another name may be added or taken away. -/
theorem Alike.insert_other {name : String} (other : name ∉ fieldNames) (value : Json)
    (fields : List (String × Json)) :
    Alike (.members fields) (.members (Json.insertMember name value fields)) := by
  have kept : ∀ known ∈ fieldNames,
      (Json.insertMember name value fields).lookup known = fields.lookup known := by
    intro known inside
    have apart : known ≠ name := fun same => other (same ▸ inside)
    rw [Json.lookup_insertMember, if_neg apart]
  refine .members (kept "id" (by decide)).symm fun known inside => ?_
  rw [kept known inside]

/-- A member that may be missing may be `null`. -/
theorem Alike.insert_null {name : String} {fields : List (String × Json)}
    (missing : fields.lookup name = none) (other : name ≠ "id") :
    Alike (.members fields) (.members (Json.insertMember name .null fields)) := by
  refine .members ?_ fun known _ => ?_
  · rw [Json.lookup_insertMember, if_neg other.symm]
  · rw [Json.lookup_insertMember]
    split
    · rename_i same
      rw [same, missing]
      rfl
    · rfl

theorem checkMember_null {name : String} (other : name ≠ "id") :
    checkMember (name, .null) = .ok () := by
  rw [checkMember, if_neg other]
  split
  · rfl
  split
  · rfl
  split <;> rfl

theorem checkGiven_eq {name : String} (other : name ≠ "id") (fields : List (String × Json)) :
    Json.checkGiven checkMember fields name =
      checkMember (name, (fields.lookup name).getD .null) := by
  rw [Json.checkGiven]
  cases fields.lookup name with
  | none => exact (checkMember_null other).symm
  | some value => rfl

variable {a b : List (String × Json)}

theorem ofMembers_congr (id : a.lookup "id" = b.lookup "id")
    (others : ∀ name ∈ fieldNames, (a.lookup name).getD .null = (b.lookup name).getD .null) :
    ofMembers a = ofMembers b := by
  simp only [fieldNames, List.forall_mem_cons] at others
  simp only [ofMembers, id, others]

theorem checked_congr (ascending : Json.Ascending a) (ascending' : Json.Ascending b)
    (id : a.lookup "id" = b.lookup "id")
    (others : ∀ name ∈ fieldNames, (a.lookup name).getD .null = (b.lookup name).getD .null) :
    a.forM checkMember = b.forM checkMember := by
  have order : sortedNames.Pairwise (· < ·) := by decide
  have unknown : ∀ name ∉ sortedNames, ∀ value, checkMember (name, value) = .ok () :=
    fun name other => checkMember_other (mt mem_sortedNames.mpr other)
  refine Json.forM_eq_of_given order unknown ascending ascending' fun name inside => ?_
  by_cases isId : name = "id"
  · rw [isId, Json.checkGiven, id, Json.checkGiven]
  · rw [checkGiven_eq isId, checkGiven_eq isId, others name (mem_sortedNames.mp inside)]

theorem decode_congr {value other : Json} (ordered : value.Ordered) (ordered' : other.Ordered)
    (alike : Alike value other) : decode value = decode other := by
  cases alike with
  | same => rfl
  | members id others =>
      cases ordered with
      | members ascending _ =>
          cases ordered' with
          | members ascending' _ =>
              rw [decode, decode, checked_congr ascending ascending' id others,
                ofMembers_congr id others]

end Item

namespace Page

/-- Arrays of documents that are alike as items, and documents that are the same. -/
inductive ItemsAlike : Json → Json → Prop
  | same (value : Json) : ItemsAlike value value
  | array {xs ys : List Json} (items : List.Forall₂ Item.Alike xs ys) :
      ItemsAlike (.array xs) (.array ys)

/-- Documents that give the same for a page, up to what does not matter in its items. -/
inductive Alike : Json → Json → Prop
  | same (value : Json) : Alike value value
  | members {a b : List (String × Json)}
      (items : Option.Rel ItemsAlike (a.lookup "items") (b.lookup "items"))
      (total : a.lookup "total" = b.lookup "total") : Alike (.members a) (.members b)
  | elements {x y : Json} (items : ItemsAlike x y) (rest : List Json) :
      Alike (.array (x :: rest)) (.array (y :: rest))

theorem mapM_congr {xs ys : List Json} (ordered : ∀ x ∈ xs, x.Ordered)
    (ordered' : ∀ y ∈ ys, y.Ordered) (alike : List.Forall₂ Item.Alike xs ys) :
    xs.mapM Item.decode = ys.mapM Item.decode := by
  induction alike with
  | nil => rfl
  | cons here _ ih =>
      obtain ⟨head, tail⟩ := List.forall_mem_cons.mp ordered
      obtain ⟨head', tail'⟩ := List.forall_mem_cons.mp ordered'
      rw [List.mapM_cons, List.mapM_cons, Item.decode_congr head head' here, ih tail tail']

theorem readItems_congr {value other : Json} (ordered : value.Ordered) (ordered' : other.Ordered)
    (alike : ItemsAlike value other) : readItems value = readItems other := by
  cases alike with
  | same => rfl
  | array items =>
      cases ordered with
      | array inner =>
          cases ordered' with
          | array inner' => exact mapM_congr inner inner' items

variable {a b : List (String × Json)}

/-- The members give items that are read the same, and the same total. -/
structure ReadAlike (a b : List (String × Json)) : Prop where
  items : Option.Rel (fun x y => readItems x = readItems y) (a.lookup "items") (b.lookup "items")
  total : a.lookup "total" = b.lookup "total"

theorem checked_congr (ascending : Json.Ascending a) (ascending' : Json.Ascending b)
    (alike : ReadAlike a b) : a.forM checkMember = b.forM checkMember := by
  have order : fieldNames.Pairwise (· < ·) := by decide
  have unknown : ∀ name ∉ fieldNames, ∀ value, checkMember (name, value) = .ok () :=
    fun name other => checkMember_other other
  refine Json.forM_eq_of_given order unknown ascending ascending' fun name inside => ?_
  obtain ⟨items, total⟩ := alike
  simp only [fieldNames, List.mem_cons, List.not_mem_nil, or_false] at inside
  rcases inside with rfl | rfl
  · rw [Json.checkGiven, Json.checkGiven]
    generalize a.lookup "items" = given, b.lookup "items" = given' at items ⊢
    cases items with
    | none => rfl
    | some same => exact congrArg discard same
  · rw [Json.checkGiven, total, Json.checkGiven]

theorem ofMembers_congr (alike : ReadAlike a b) : ofMembers a = ofMembers b := by
  obtain ⟨items, total⟩ := alike
  rw [ofMembers, ofMembers, total]
  generalize a.lookup "items" = given, b.lookup "items" = given' at items ⊢
  cases items with
  | none => rfl
  | some same =>
      cases b.lookup "total" with
      | none => rfl
      | some total =>
          dsimp only
          rw [same]

theorem decode_elements_congr {x y : Json} (items : readItems x = readItems y)
    (rest : List Json) : decode (.array (x :: rest)) = decode (.array (y :: rest)) := by
  have ascending (z : Json) : Json.Ascending (fieldNames.zip (z :: rest)) := by
    cases rest with
    | nil => exact List.pairwise_singleton _ _
    | cons total others => exact List.pairwise_pair.mpr (by decide : "items" < "total")
  have alike : ReadAlike (fieldNames.zip (x :: rest)) (fieldNames.zip (y :: rest)) := by
    refine ⟨?_, rfl⟩
    exact .some items
  rw [decode, decode]
  dsimp only [nameElements]
  rw [checked_congr (ascending x) (ascending y) alike, ofMembers_congr alike]
  rfl

theorem decode_congr {value other : Json} (ordered : value.Ordered) (ordered' : other.Ordered)
    (alike : Alike value other) : decode value = decode other := by
  cases alike with
  | same => rfl
  | @members a b items total =>
      cases ordered with
      | members ascending inner =>
          cases ordered' with
          | members ascending' inner' =>
              have alike : ReadAlike a b := by
                refine ⟨?_, total⟩
                generalize left : a.lookup "items" = given, right : b.lookup "items" = given'
                  at items
                cases items with
                | none => exact .none
                | some items =>
                    exact .some (readItems_congr (inner _ (Json.mem_of_lookup left))
                      (inner' _ (Json.mem_of_lookup right)) items)
              rw [decode, decode, checked_congr ascending ascending' alike, ofMembers_congr alike]
  | elements items rest =>
      cases ordered with
      | array inner =>
          cases ordered' with
          | array inner' =>
              have read := readItems_congr (inner _ List.mem_cons_self)
                (inner' _ List.mem_cons_self) items
              exact decode_elements_congr read rest

end Page
end ReviewDesk
