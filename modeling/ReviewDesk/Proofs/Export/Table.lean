import ReviewDesk.Export.Csv

/-!
Comma-separated texts, apart from who writes them: what they are, and a reader that goes through
them one character at a time. A text is a table in one way only, and the reader finds it. What
`Csv.text` writes is a table of the records that were written, whatever their fields hold.
-/

namespace ReviewDesk
namespace Csv

/-- The characters that stand in a field only between quotes. -/
def isMark (c : Char) : Bool :=
  c == ',' || c == '"' || c == '\r' || c == '\n'

/-- What stands between quotes: any characters, and a quote twice. -/
inductive Body : List Char → List Char → Prop
  | nil : Body [] []
  | quote {cs text} (rest : Body cs text) : Body ('"' :: '"' :: cs) ('"' :: text)
  | other {c cs text} (plain : c ≠ '"') (rest : Body cs text) : Body (c :: cs) (c :: text)

inductive Field : List Char → List Char → Prop
  | bare {cs} (plain : ∀ c ∈ cs, isMark c = false) : Field cs cs
  | quoted {cs text} (body : Body cs text) : Field ('"' :: (cs ++ ['"'])) text

/-- Fields between commas. There is at least one. -/
inductive Record : List Char → List String → Prop
  | last {cs text} (field : Field cs text) : Record cs [String.ofList text]
  | next {cs text ds fields} (field : Field cs text) (rest : Record ds fields) :
      Record (cs ++ ',' :: ds) (String.ofList text :: fields)

inductive LineEnd : List Char → Prop
  | feed : LineEnd ['\n']
  | returnFeed : LineEnd ['\r', '\n']

/-- Records with a line end after each. After the last one it may be missing. -/
inductive Table : List Char → List (List String) → Prop
  | empty : Table [] []
  | unended {cs fields} (record : Record cs fields) (nonempty : cs ≠ []) : Table cs [fields]
  | line {cs fields mark ds rows} (record : Record cs fields) (ends : LineEnd mark)
      (rest : Table ds rows) : Table (cs ++ (mark ++ ds)) (fields :: rows)

/-- Where a reader stands. -/
inductive Place where
  /-- Before a field. -/
  | before
  /-- In a field without quotes. -/
  | within
  /-- Between the quotes of a field. -/
  | quoted
  /-- After a quote that ends the field, unless another one follows. -/
  | closed
  /-- After a carriage return that a line feed has to follow. -/
  | returned
deriving DecidableEq

/-- What was read so far, the last of it first. -/
structure Reading where
  place : Place := .before
  field : List Char := []
  fields : List String := []
  rows : List (List String) := []

namespace Reading

def push (r : Reading) (place : Place) (c : Char) : Reading :=
  { r with place := place, field := c :: r.field }

def endField (r : Reading) : Reading :=
  { r with place := .before, field := [], fields := String.ofList r.field.reverse :: r.fields }

def endRecord (r : Reading) : Reading :=
  { rows := (String.ofList r.field.reverse :: r.fields).reverse :: r.rows }

def step (r : Reading) (c : Char) : Option Reading :=
  match r.place with
  | .quoted => some (if c = '"' then { r with place := .closed } else r.push .quoted c)
  | .returned => if c = '\n' then some r.endRecord else none
  | place =>
    if c = ',' then some r.endField
    else if c = '\n' then some r.endRecord
    else if c = '\r' then some { r with place := .returned }
    else
      match place, c with
      | .before, '"' => some { r with place := .quoted }
      | .closed, '"' => some (r.push .quoted '"')
      | _, '"' => none
      | .closed, _ => none
      | _, c => some (r.push .within c)

/-- The records when the text ends here. -/
def finish (r : Reading) : Option (List (List String)) :=
  match r.place with
  | .quoted => none
  | .returned => none
  | .before => some (if r.fields.isEmpty then r.rows else r.endRecord.rows).reverse
  | _ => some r.endRecord.rows.reverse

end Reading

/-- The records of a text, none if it is no table. -/
def read? (text : String) : Option (List (List String)) :=
  (text.toList.foldlM Reading.step {}).bind Reading.finish

/-- A place where a field can end. -/
def Place.Ends (place : Place) : Prop :=
  place = .before ∨ place = .within ∨ place = .closed

namespace Reading

theorem step_comma {r : Reading} (ends : r.place.Ends) : r.step ',' = some r.endField := by
  rcases ends with here | here | here <;> simp [step, here]

theorem read_lineEnd {r : Reading} (ends : r.place.Ends) {mark : List Char} (line : LineEnd mark) :
    mark.foldlM step r = some r.endRecord := by
  cases line <;> rcases ends with here | here | here <;> simp [step, here, endRecord]

theorem read_body {cs text : List Char} (body : Body cs text) (field : List Char)
    (fields : List String) (rows : List (List String)) :
    cs.foldlM step ⟨.quoted, field, fields, rows⟩ =
      some ⟨.quoted, text.reverse ++ field, fields, rows⟩ := by
  induction body generalizing field with
  | nil => rfl
  | quote _ ih => simp [step, push, ih]
  | other plain _ ih => simp [step, push, plain, ih]

theorem read_bare {cs : List Char} (plain : ∀ c ∈ cs, isMark c = false) (field : List Char)
    (fields : List String) (rows : List (List String)) :
    cs.foldlM step ⟨.within, field, fields, rows⟩ =
      some ⟨.within, cs.reverse ++ field, fields, rows⟩ := by
  induction cs generalizing field with
  | nil => rfl
  | cons c cs ih =>
      have first := plain c List.mem_cons_self
      have rest := ih fun d inside => plain d (List.mem_cons_of_mem _ inside)
      simp only [isMark, Bool.or_eq_false_iff, beq_eq_false_iff_ne] at first
      simp [step, push, first, rest]

theorem read_field {cs text : List Char} (field : Field cs text) (fields : List String)
    (rows : List (List String)) :
    ∃ place : Place, place.Ends ∧ (place = .before → cs = []) ∧
      cs.foldlM step ⟨.before, [], fields, rows⟩ = some ⟨place, text.reverse, fields, rows⟩ := by
  cases field with
  | bare plain =>
      cases cs with
      | nil => exact ⟨.before, .inl rfl, fun _ => rfl, rfl⟩
      | cons c cs =>
          have first := plain c List.mem_cons_self
          have rest := read_bare (fun d inside => plain d (List.mem_cons_of_mem _ inside)) [c]
            fields rows
          simp only [isMark, Bool.or_eq_false_iff, beq_eq_false_iff_ne] at first
          refine ⟨.within, .inr (.inl rfl), nofun, ?_⟩
          simp [step, push, first, rest]
  | @quoted cs text body =>
      refine ⟨.closed, .inr (.inr rfl), nofun, ?_⟩
      have opened : step ⟨.before, [], fields, rows⟩ '"' = some ⟨.quoted, [], fields, rows⟩ := rfl
      rw [List.foldlM_cons, opened, Option.bind_eq_bind, Option.bind_some, List.foldlM_append,
        read_body body, List.append_nil]
      rfl

/-- A record is read up to its line end; nothing was read if the reader stands before a field that
is the first one. -/
theorem read_record {cs : List Char} {record : List String} (held : Record cs record)
    (fields : List String) (rows : List (List String)) :
    ∃ r : Reading, cs.foldlM step ⟨.before, [], fields, rows⟩ = some r ∧ r.place.Ends ∧
      (r.place = .before → r.fields = [] → fields = [] ∧ cs = []) ∧
      r.endRecord = { rows := (fields.reverse ++ record) :: rows } := by
  induction held generalizing fields with
  | last field =>
      obtain ⟨place, ends, bare, read⟩ := read_field field fields rows
      refine ⟨_, read, ends, fun before alone => ⟨alone, bare before⟩, ?_⟩
      simp [endRecord]
  | @next cs text ds record field _ ih =>
      obtain ⟨place, ends, -, read⟩ := read_field field fields rows
      obtain ⟨r, later, ends', first, ended⟩ := ih (String.ofList text :: fields)
      have comma : step ⟨place, text.reverse, fields, rows⟩ ',' =
          some ⟨.before, [], String.ofList text :: fields, rows⟩ := by
        rw [step_comma ends, endField, List.reverse_reverse]
      refine ⟨r, ?_, ends', ?_, ?_⟩
      · rw [List.foldlM_append, read, Option.bind_eq_bind, Option.bind_some, List.foldlM_cons,
          comma, Option.bind_eq_bind, Option.bind_some, later]
      · intro before alone
        cases (first before alone).1
      · simpa using ended

theorem finish_eq {r : Reading} (ends : r.place.Ends)
    (begun : ¬(r.place = .before ∧ r.fields = [])) :
    r.finish = some r.endRecord.rows.reverse := by
  rcases ends with here | here | here
  · have fields : r.fields.isEmpty = false := by simpa [here] using begun
    simp [finish, here, fields]
  · simp [finish, here]
  · simp [finish, here]

end Reading

theorem read_table {cs : List Char} {table : List (List String)} (held : Table cs table)
    (rows : List (List String)) :
    (cs.foldlM Reading.step { rows := rows }).bind Reading.finish =
      some (rows.reverse ++ table) := by
  induction held generalizing rows with
  | empty => simp [Reading.finish]
  | unended record nonempty =>
      obtain ⟨r, read, ends, first, ended⟩ := Reading.read_record record [] rows
      have begun : ¬(r.place = .before ∧ r.fields = []) := fun ⟨before, alone⟩ =>
        nonempty (first before alone).2
      rw [read, Option.bind_some, Reading.finish_eq ends begun, ended]
      simp
  | line record mark _ ih =>
      obtain ⟨r, read, ends, -, ended⟩ := Reading.read_record record [] rows
      rw [List.foldlM_append, read, Option.bind_eq_bind, Option.bind_some, List.foldlM_append,
        Reading.read_lineEnd ends mark, Option.bind_eq_bind, Option.bind_some, ended, ih]
      simp

/-- A text is a table in one way only. -/
theorem read?_of_table {text : String} {table : List (List String)}
    (held : Table text.toList table) : read? text = some table :=
  read_table held []

example : read? "a,\"b\"\"\r\n\"\r\n,\n" = some [["a", "b\"\r\n"], ["", ""]] := by
  decide +kernel

theorem body_doubled (cs : List Char) :
    Body (cs.flatMap fun c => if c = '"' then ['"', '"'] else [c]) cs := by
  induction cs with
  | nil => exact .nil
  | cons c cs ih =>
      by_cases quote : c = '"'
      · subst quote
        exact .quote ih
      · rw [List.flatMap_cons, if_neg quote]
        exact .other quote ih

theorem field_fieldChars (field : String) : Field (fieldChars field) field.toList := by
  rw [fieldChars]
  split
  · exact .quoted (body_doubled field.toList)
  · rename_i bare
    simp only [needsQuotes, List.any_eq_true, not_exists, not_and] at bare
    exact .bare fun c inside => Bool.eq_false_iff.mpr (bare c inside)

theorem record_intercalate {fields : List String} (nonempty : fields ≠ []) :
    Record ([','].intercalate (fields.map fieldChars)) fields := by
  induction fields with
  | nil => exact (nonempty rfl).elim
  | cons field fields ih =>
      have first := field_fieldChars field
      cases fields with
      | nil =>
          have single := Record.last first
          rw [String.ofList_toList] at single
          simpa using single
      | cons next fields =>
          have more := Record.next first (ih (List.cons_ne_nil _ _))
          rw [String.ofList_toList] at more
          simpa using more

/-- Records that have a field are a table when they are written one after the other. -/
theorem table_text {records : List (List String)}
    (nonempty : ∀ record ∈ records, record ≠ []) :
    Table (text records).toList records := by
  rw [text, String.toList_ofList]
  induction records with
  | nil => exact .empty
  | cons record records ih =>
      have first := record_intercalate (nonempty record List.mem_cons_self)
      have rest := ih fun other inside => nonempty other (List.mem_cons_of_mem _ inside)
      rw [List.flatMap_cons, recordChars, List.append_assoc]
      exact .line first .feed rest

/-- The one way in which a written text is a table. -/
theorem table_text_iff {records table : List (List String)}
    (nonempty : ∀ record ∈ records, record ≠ []) :
    Table (text records).toList table ↔ table = records := by
  have held := table_text nonempty
  constructor
  · intro other
    have same := (read?_of_table other).symm.trans (read?_of_table held)
    exact Option.some.inj same
  · rintro rfl
    exact held

end Csv
end ReviewDesk
