import ReviewDesk.Proofs.Except
import ReviewDesk.Proofs.Item.Decoding
import ReviewDesk.Proofs.Json.Ordered

/-!
Which documents are items and pages, said without the reader: an object or an array that gives for
every field a value of the field's type, or nothing where a field may be absent. The reader takes
just these, and reads the fields as they are given.
-/

namespace ReviewDesk

open Decimal (Binary64)

variable {α : Type}

namespace Json

/-- What a document gives for fields of those names. An object gives it by name; an array gives it
by place, and has to have an element for each. -/
inductive Gives (names : List String) : Json → (String → Option Json) → Prop
  | members (fields : List (String × Json)) :
      Gives names (.members fields) fun name => fields.lookup name
  | elements {elements : List Json} (complete : elements.length = names.length) :
      Gives names (.array elements) fun name => (names.zip elements).lookup name

def IsText (value : Json) (text : String) : Prop :=
  value = .string text

/-- Any number, a whole one being rounded if it has too many digits. -/
inductive IsReal : Json → Binary64 → Prop
  | real (x : Binary64) : IsReal (.number (.real x)) x
  | whole (n : Int) : IsReal (.number (.whole n)) (.ofInt n)

def IsCount (value : Json) (n : Int64) : Prop :=
  value = .number (.whole n.toInt)

def IsTotal (value : Json) (n : UInt64) : Prop :=
  value = .number (.whole n.toNat)

/-- A field that may be absent is so when nothing is given, or `null`. -/
inductive MayBe (typed : Json → α → Prop) : Option Json → Option α → Prop
  | missing : MayBe typed none none
  | null : MayBe typed (some .null) none
  | given {value : Json} {a : α} (fits : typed value a) : MayBe typed (some value) (some a)

theorem readText_eq_ok {value : Json} {text : String} :
    value.readText = .ok text ↔ value.IsText text := by
  constructor
  · intro read
    unfold readText at read
    split at read
    · cases read
      rfl
    · cases read
  · rintro rfl
    rfl

theorem readReal_eq_ok {value : Json} {x : Binary64} : value.readReal = .ok x ↔ value.IsReal x := by
  constructor
  · intro read
    unfold readReal at read
    split at read
    · cases read
      exact .real _
    · cases read
      exact .whole _
    · cases read
  · intro real
    cases real <;> rfl

theorem readCount_eq_ok {value : Json} {n : Int64} :
    value.readCount = .ok n ↔ value.IsCount n := by
  constructor
  · intro read
    unfold readCount at read
    split at read
    · split at read
      · rename_i range
        cases read
        rw [IsCount, Int64.toInt_ofInt_of_le range.1 (Int.lt_of_le_of_lt range.2 (by decide))]
      · cases read
    · cases read
  · rintro rfl
    rw [readCount, if_pos ⟨n.minValue_le_toInt, n.toInt_le⟩, Int64.ofInt_toInt]

theorem readTotal_eq_ok {value : Json} {n : UInt64} :
    value.readTotal = .ok n ↔ value.IsTotal n := by
  constructor
  · intro read
    unfold readTotal at read
    split at read
    · split at read
      · rename_i m range
        cases read
        have small : m.toNat < UInt64.size := by omega
        rw [IsTotal, UInt64.toNat_ofNat_of_lt' small, Int.toNat_of_nonneg range.1]
      · cases read
    · cases read
  · rintro rfl
    have range : 0 ≤ (n.toNat : Int) ∧ (n.toNat : Int) < UInt64.size := by
      have bound := n.toNat_lt_size
      omega
    rw [readTotal, if_pos range, Int.toNat_natCast, UInt64.ofNat_toNat]

/-- A reader of fields of a type, by which `null` is not read. -/
structure Recognizes (read : Json → Except DecodeFault α) (typed : Json → α → Prop) : Prop where
  ok : ∀ {value a}, read value = .ok a ↔ typed value a
  null : ∀ {a}, ¬typed .null a

theorem readOptional_eq_ok {read : Json → Except DecodeFault α} {typed : Json → α → Prop}
    (reads : Recognizes read typed) {given : Option Json} {x : Option α} :
    (given.getD .null).readOptional read = .ok x ↔ MayBe typed given x := by
  cases given with
  | none =>
      constructor
      · intro none
        cases none
        exact .missing
      · intro absent
        cases absent
        rfl
  | some value =>
      by_cases isNull : value = .null
      · subst isNull
        constructor
        · intro none
          cases none
          exact .null
        · intro absent
          cases absent with
          | null => rfl
          | given fits => exact (reads.null fits).elim
      · have read_eq : (Option.getD (some value) .null).readOptional read =
            (read value).map some := by
          rw [Option.getD_some, readOptional]
          exact isNull
        rw [read_eq]
        constructor
        · intro found
          cases here : read value with
          | error fault =>
              rw [here] at found
              cases found
          | ok a =>
              rw [here] at found
              cases found
              exact .given (reads.ok.mp here)
        · intro typed
          cases typed with
          | null => exact (isNull rfl).elim
          | given fits =>
              rw [reads.ok.mpr fits]
              rfl

theorem recognizes_text : Recognizes readText IsText := ⟨readText_eq_ok, nofun⟩

theorem recognizes_real : Recognizes readReal IsReal := ⟨readReal_eq_ok, nofun⟩

theorem recognizes_count : Recognizes readCount IsCount := ⟨readCount_eq_ok, nofun⟩

theorem Ascending.nodup {fields : List (String × Json)} (ascending : Ascending fields) :
    (fields.map Prod.fst).Nodup := by
  rw [List.nodup_iff_pairwise_ne, List.pairwise_map]
  refine List.Pairwise.imp ?_ ascending
  intro a b before same
  rw [same] at before
  exact String.lt_irrefl _ before

end Json

theorem checked_eq_ok {fields : List (String × Json)}
    {check : String × Json → Except DecodeFault Unit} {read : Except DecodeFault α} {a : α} :
    (do
      fields.forM check
      read) = .ok a ↔
    (∀ member ∈ fields, check member = .ok ()) ∧ read = .ok a := by
  rw [← Item.forM_eq_ok]
  cases fields.forM check with
  | error fault => exact ⟨nofun, fun both => nomatch both.1⟩
  | ok _ => exact (and_iff_right rfl).symm

/-- An array is read as the members that its elements stand for, if none is missing or left over. -/
theorem nameElements_eq_ok {names : List String} {needed : Expected} {elements : List Json}
    {check : String × Json → Except DecodeFault Unit}
    {read : List (String × Json) → Except DecodeFault α} {a : α} :
    (do
      let (fields, complete) := nameElements names needed elements
      fields.forM check
      complete
      read fields) = .ok a ↔
    elements.length = names.length ∧
      (do
        (names.zip elements).forM check
        read (names.zip elements)) = .ok a := by
  dsimp only [nameElements]
  cases (names.zip elements).forM check with
  | error fault => exact ⟨nofun, fun ⟨_, failed⟩ => nomatch failed⟩
  | ok _ =>
      by_cases few : elements.length < names.length
      · rw [if_pos few]
        exact ⟨nofun, fun ⟨complete, _⟩ => absurd complete (by omega)⟩
      rw [if_neg few]
      by_cases many : names.length < elements.length
      · rw [if_pos many]
        exact ⟨nofun, fun ⟨complete, _⟩ => absurd complete (by omega)⟩
      · rw [if_neg many]
        exact (and_iff_right (by omega)).symm

theorem nodup_zip {names : List String} (nodup : names.Nodup) {elements : List Json}
    (complete : elements.length = names.length) : ((names.zip elements).map Prod.fst).Nodup := by
  rw [List.map_fst_zip (Nat.le_of_eq complete.symm)]
  exact nodup

theorem ordered_zip {names : List String} {elements : List Json}
    (inner : ∀ value ∈ elements, value.Ordered) :
    ∀ member ∈ names.zip elements, member.2.Ordered :=
  fun _ inside => inner _ (List.of_mem_zip inside).2

/-- A reader of objects, and of arrays as the objects that they stand for. -/
structure ReadsMembers (names : List String) (decode : Json → Except DecodeFault α)
    (given : (String → Option Json) → α → Prop) : Prop where
  nodup : names.Nodup
  members : ∀ {fields a}, (fields.map Prod.fst).Nodup → (∀ member ∈ fields, member.2.Ordered) →
    (decode (.members fields) = .ok a ↔ given (fun name => fields.lookup name) a)
  array : ∀ {elements a}, decode (.array elements) = .ok a ↔ elements.length = names.length ∧
    decode (.members (names.zip elements)) = .ok a
  container : ∀ {value a}, decode value = .ok a →
    (∃ fields, value = .members fields) ∨ ∃ elements, value = .array elements

/-- Such a reader takes what gives the fields. -/
theorem ReadsMembers.decode_eq_ok {names : List String} {decode : Json → Except DecodeFault α}
    {given : (String → Option Json) → α → Prop} {value : Json} {a : α}
    (reads : ReadsMembers names decode given) (ordered : value.Ordered) :
    decode value = .ok a ↔ ∃ fields, value.Gives names fields ∧ given fields a := by
  constructor
  · intro decoded
    rcases reads.container decoded with ⟨fields, rfl⟩ | ⟨elements, rfl⟩
    · cases ordered with
      | members ascending inner =>
          exact ⟨_, .members fields, (reads.members ascending.nodup inner).mp decoded⟩
    · cases ordered with
      | array inner =>
          obtain ⟨complete, decoded⟩ := reads.array.mp decoded
          exact ⟨_, .elements complete,
            (reads.members (nodup_zip reads.nodup complete) (ordered_zip inner)).mp decoded⟩
  · rintro ⟨fields, gives, fits⟩
    cases gives with
    | members =>
        cases ordered with
        | members ascending inner => exact (reads.members ascending.nodup inner).mpr fits
    | elements complete =>
        cases ordered with
        | array inner =>
            exact reads.array.mpr ⟨complete,
              (reads.members (nodup_zip reads.nodup complete) (ordered_zip inner)).mpr fits⟩

namespace Item

/-- The item has what is given for its fields. -/
structure Given (given : String → Option Json) (item : Item) : Prop where
  id : given "id" = some (.string item.id)
  detector : Json.MayBe Json.IsText (given "detector_id") item.detector
  modelLabel : Json.MayBe Json.IsText (given "model_label") item.modelLabel
  modelConfidence : Json.MayBe Json.IsReal (given "model_confidence") item.modelConfidence
  resultType : Json.MayBe Json.IsText (given "result_type") item.resultType
  status : Json.MayBe Json.IsText (given "status") item.status
  count : Json.MayBe Json.IsCount (given "count") item.count
  received : Json.MayBe Json.IsText (given "received_ts") item.received
  updated : Json.MayBe Json.IsText (given "updated_ts") item.updated
  humanLabel : Json.MayBe Json.IsText (given "human_label") item.humanLabel
  humanConfidence : Json.MayBe Json.IsReal (given "human_confidence") item.humanConfidence
  humanUser : Json.MayBe Json.IsText (given "human_user") item.humanUser
  humanNotes : Json.MayBe Json.IsText (given "human_notes") item.humanNotes
  humanLabeledAt : Json.MayBe Json.IsText (given "human_labeled_at") item.humanLabeledAt
  imageUri : Json.MayBe Json.IsText (given "image_uri") item.imageUri

/-- The document gives the fields of the item. -/
def Spelled (value : Json) (item : Item) : Prop :=
  ∃ given, value.Gives fieldNames given ∧ Given given item

variable {fields : List (String × Json)} {item : Item}

theorem reads_iff_given : Reads fields item ↔ Given (fun name => fields.lookup name) item := by
  have text {name : String} {x : Option String} :
      optional Json.readText fields name = .ok x ↔ Json.MayBe Json.IsText (fields.lookup name) x :=
    Json.readOptional_eq_ok Json.recognizes_text
  have real {name : String} {x : Option Binary64} :
      optional Json.readReal fields name = .ok x ↔ Json.MayBe Json.IsReal (fields.lookup name) x :=
    Json.readOptional_eq_ok Json.recognizes_real
  have count {name : String} {x : Option Int64} :
      optional Json.readCount fields name = .ok x ↔
        Json.MayBe Json.IsCount (fields.lookup name) x :=
    Json.readOptional_eq_ok Json.recognizes_count
  constructor
  · intro reads
    exact ⟨reads.id, text.mp reads.detector, text.mp reads.modelLabel,
      real.mp reads.modelConfidence, text.mp reads.resultType, text.mp reads.status,
      count.mp reads.count, text.mp reads.received, text.mp reads.updated, text.mp reads.humanLabel,
      real.mp reads.humanConfidence, text.mp reads.humanUser, text.mp reads.humanNotes,
      text.mp reads.humanLabeledAt, text.mp reads.imageUri⟩
  · intro given
    exact ⟨given.id, text.mpr given.detector, text.mpr given.modelLabel,
      real.mpr given.modelConfidence, text.mpr given.resultType, text.mpr given.status,
      count.mpr given.count, text.mpr given.received, text.mpr given.updated,
      text.mpr given.humanLabel, real.mpr given.humanConfidence, text.mpr given.humanUser,
      text.mpr given.humanNotes, text.mpr given.humanLabeledAt, text.mpr given.imageUri⟩

/-- Members that were checked and read are those of the item. -/
theorem reads_of_ofMembers (checked : ∀ member ∈ fields, checkMember member = .ok ())
    (read : ofMembers fields = .ok item) : Reads fields item := by
  cases named : fields.lookup "id" with
  | none =>
      rw [ofMembers, named] at read
      cases read
  | some value =>
      obtain ⟨id, text⟩ := discard_eq_ok.mp (checked _ (Json.mem_of_lookup named))
      rw [Json.readText_eq_ok.mp text] at named
      obtain ⟨other, reads⟩ := exists_reads checked named
      rw [ofMembers_of_reads reads] at read
      cases read
      exact reads

theorem checked_of_reads (names : (fields.map Prod.fst).Nodup) (reads : Reads fields item) :
    ∀ member ∈ fields, checkMember member = .ok () := by
  rintro ⟨name, value⟩ inside
  have found := Json.lookup_of_mem names inside
  have fits {α : Type} {read : Json → Except DecodeFault α} {x : Option α}
      (known : optional read fields name = .ok x) :
      discard (value.readOptional read) = .ok () := by
    rw [optional, found, Option.getD_some] at known
    exact discard_eq_ok.mpr ⟨x, known⟩
  have text {x : Option String} (known : optional Json.readText fields name = .ok x)
      (one : name ∈ textNames) : checkMember (name, value) = .ok () :=
    (checkMember_text one value).trans (fits known)
  have real {x : Option Binary64} (known : optional Json.readReal fields name = .ok x)
      (one : name = "model_confidence" ∨ name = "human_confidence") :
      checkMember (name, value) = .ok () :=
    (checkMember_real one value).trans (fits known)
  by_cases known : name ∈ fieldNames
  · simp only [fieldNames, List.mem_cons, List.not_mem_nil, or_false] at known
    rcases known with rfl | rfl | rfl | rfl | rfl | rfl | rfl | rfl | rfl | rfl | rfl | rfl | rfl |
      rfl | rfl
    · cases reads.id.symm.trans found
      rfl
    · exact text reads.detector (by decide)
    · exact text reads.modelLabel (by decide)
    · exact real reads.modelConfidence (.inl rfl)
    · exact text reads.resultType (by decide)
    · exact text reads.status (by decide)
    · exact (checkMember_count value).trans (fits reads.count)
    · exact text reads.received (by decide)
    · exact text reads.updated (by decide)
    · exact text reads.humanLabel (by decide)
    · exact real reads.humanConfidence (.inr rfl)
    · exact text reads.humanUser (by decide)
    · exact text reads.humanNotes (by decide)
    · exact text reads.humanLabeledAt (by decide)
    · exact text reads.imageUri (by decide)
  · exact checkMember_other known value

theorem decode_members_eq_ok (names : (fields.map Prod.fst).Nodup) :
    decode (.members fields) = .ok item ↔ Reads fields item := by
  rw [decode, checked_eq_ok]
  constructor
  · rintro ⟨checked, read⟩
    exact reads_of_ofMembers checked read
  · intro reads
    exact ⟨checked_of_reads names reads, ofMembers_of_reads reads⟩

theorem readsMembers : ReadsMembers fieldNames decode Given where
  nodup := by decide
  members names _ := (decode_members_eq_ok names).trans reads_iff_given
  array := nameElements_eq_ok
  container {value _} decoded := by
    cases value with
    | members fields => exact .inl ⟨fields, rfl⟩
    | array elements => exact .inr ⟨elements, rfl⟩
    | null | bool _ | number _ | string _ => cases decoded

/-- A document is read as an item just if it gives the fields of that item. -/
theorem decode_eq_ok {value : Json} (ordered : value.Ordered) :
    decode value = .ok item ↔ Spelled value item :=
  readsMembers.decode_eq_ok ordered

end Item

namespace Page

/-- The page has what is given for its items and their number in the whole queue. -/
structure Given (given : String → Option Json) (page : Page) : Prop where
  items : ∃ elements, given "items" = some (.array elements) ∧
    List.Forall₂ Item.Spelled elements page.items
  total : ∃ value, given "total" = some value ∧ value.IsTotal page.total

/-- The document gives the page. -/
def Spelled (value : Json) (page : Page) : Prop :=
  ∃ given, value.Gives fieldNames given ∧ Given given page

/-- The page is what is read of the members. -/
structure Reads (fields : List (String × Json)) (page : Page) : Prop where
  items : ∃ value, fields.lookup "items" = some value ∧ readItems value = .ok page.items
  total : ∃ value, fields.lookup "total" = some value ∧ value.readTotal = .ok page.total

theorem readItems_eq_ok {value : Json} (ordered : value.Ordered) {items : List Item} :
    readItems value = .ok items ↔
      ∃ elements, value = .array elements ∧ List.Forall₂ Item.Spelled elements items := by
  constructor
  · intro read
    cases ordered with
    | array inner =>
        refine ⟨_, rfl, (mapM_eq_ok fun value inside => ?_).mp read⟩
        exact Item.decode_eq_ok (inner value inside)
    | null | bool _ | number _ | string _ | members _ _ => cases read
  · rintro ⟨elements, rfl, spelled⟩
    cases ordered with
    | array inner =>
        exact (mapM_eq_ok fun value inside => Item.decode_eq_ok (inner value inside)).mpr spelled

variable {fields : List (String × Json)} {page : Page}

theorem reads_iff_given (inner : ∀ member ∈ fields, member.2.Ordered) :
    Reads fields page ↔ Given (fun name => fields.lookup name) page := by
  constructor
  · rintro ⟨⟨value, found, read⟩, total, found', number⟩
    obtain ⟨elements, rfl, spelled⟩ :=
      (readItems_eq_ok (inner _ (Json.mem_of_lookup found))).mp read
    exact ⟨⟨elements, found, spelled⟩, total, found', Json.readTotal_eq_ok.mp number⟩
  · rintro ⟨⟨elements, found, spelled⟩, total, found', number⟩
    refine ⟨⟨_, found, ?_⟩, total, found', Json.readTotal_eq_ok.mpr number⟩
    exact (readItems_eq_ok (inner _ (Json.mem_of_lookup found))).mpr ⟨elements, rfl, spelled⟩

theorem checkMember_other {name : String} (other : name ∉ fieldNames) (value : Json) :
    checkMember (name, value) = .ok () := by
  simp only [fieldNames, List.mem_cons, List.not_mem_nil, or_false, not_or] at other
  rw [checkMember, if_neg other.1, if_neg other.2]

theorem ofMembers_eq_ok : ofMembers fields = .ok page ↔ Reads fields page := by
  rw [ofMembers]
  constructor
  · intro read
    cases items : fields.lookup "items" with
    | none =>
        rw [items] at read
        cases read
    | some value =>
        cases total : fields.lookup "total" with
        | none =>
            rw [items, total] at read
            cases read
        | some number =>
            rw [items, total] at read
            obtain ⟨items', listed, rest⟩ := bind_eq_ok.mp read
            obtain ⟨total', counted, same⟩ := bind_eq_ok.mp rest
            cases same
            exact ⟨⟨value, items, listed⟩, number, total, counted⟩
  · rintro ⟨⟨value, items, listed⟩, number, total, counted⟩
    rw [items, total]
    exact bind_eq_ok.mpr ⟨_, listed, bind_eq_ok.mpr ⟨_, counted, rfl⟩⟩

theorem checked_of_reads (names : (fields.map Prod.fst).Nodup) (reads : Reads fields page) :
    ∀ member ∈ fields, checkMember member = .ok () := by
  rintro ⟨name, value⟩ inside
  have found := Json.lookup_of_mem names inside
  by_cases items : name = "items"
  · subst items
    obtain ⟨other, found', listed⟩ := reads.items
    cases found'.symm.trans found
    exact Item.discard_eq_ok.mpr ⟨_, listed⟩
  by_cases total : name = "total"
  · subst total
    obtain ⟨other, found', counted⟩ := reads.total
    cases found'.symm.trans found
    exact Item.discard_eq_ok.mpr ⟨_, counted⟩
  · exact checkMember_other (by simp [fieldNames, items, total]) value

theorem decode_members_eq_ok (names : (fields.map Prod.fst).Nodup) :
    decode (.members fields) = .ok page ↔ Reads fields page := by
  rw [decode, checked_eq_ok, ofMembers_eq_ok]
  exact ⟨And.right, fun reads => ⟨checked_of_reads names reads, reads⟩⟩

theorem readsMembers : ReadsMembers fieldNames decode Given where
  nodup := by decide
  members names inner := (decode_members_eq_ok names).trans (reads_iff_given inner)
  array := nameElements_eq_ok
  container {value _} decoded := by
    cases value with
    | members fields => exact .inl ⟨fields, rfl⟩
    | array elements => exact .inr ⟨elements, rfl⟩
    | null | bool _ | number _ | string _ => cases decoded

/-- A document is read as a page just if it gives that page. -/
theorem decode_eq_ok {value : Json} (ordered : value.Ordered) :
    decode value = .ok page ↔ Spelled value page :=
  readsMembers.decode_eq_ok ordered

end Page
end ReviewDesk
