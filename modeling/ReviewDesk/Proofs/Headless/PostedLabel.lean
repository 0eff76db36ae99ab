import Mathlib.Data.List.Nodup
import ReviewDesk.Proofs.CommandLine.Chain
import ReviewDesk.Proofs.Headless.Requests
import ReviewDesk.Proofs.Json.Value
import ReviewDesk.Proofs.Session.Prefill

/-!
What a run posts as a label. The options and the item that was fetched determine it: what an option
gives goes before what the item has, and only the reviewer of the item goes before the one who was
given. Where they determine no label, nothing is posted and the run is at fault.
-/

namespace ReviewDesk

open Decimal (Binary64 SpellsShare SpellsWord)
open Text (Blank trim)

namespace Submission

/-- The members of the document of a submission: one for each field that is there. -/
inductive Carries (s : Submission) : String → Json → Prop
  | label : Carries s "label" (.string s.label)
  | confidence {x : Binary64} (known : s.confidence = some x) :
      Carries s "confidence" (.number (.real x))
  | notes {text : String} (known : s.notes = some text) : Carries s "notes" (.string text)
  | user {text : String} (known : s.user = some text) : Carries s "user" (.string text)
  | count {n : UInt64} (known : s.count = some n) : Carries s "count" (.number (.whole n.toNat))

/-- The members in the order in which they are written. -/
def fields (s : Submission) : List (String × Json) :=
  [("label", .string s.label)] ++
    (s.confidence.map fun x => ("confidence", Json.ofBinary64 x)).toList ++
    (s.notes.map fun text => ("notes", Json.string text)).toList ++
    (s.user.map fun text => ("user", Json.string text)).toList ++
    (s.count.map fun n => ("count", Json.ofNat n.toNat)).toList

theorem nodup_fields (s : Submission) : (s.fields.map Prod.fst).Nodup := by
  obtain ⟨label, confidence, notes, user, count⟩ := s
  cases confidence <;> cases notes <;> cases user <;> cases count <;> simp [fields]

theorem mem_fields_iff {s : Submission} (finite : ∀ x ∈ s.confidence, x.isFinite = true)
    {name : String} {value : Json} : (name, value) ∈ s.fields ↔ s.Carries name value := by
  simp only [fields, List.mem_append, List.mem_singleton, Option.mem_toList, Option.map_eq_some_iff,
    Prod.mk.injEq]
  constructor
  · rintro ((((⟨rfl, rfl⟩ | ⟨x, known, rfl, rfl⟩) | ⟨text, known, rfl, rfl⟩) |
      ⟨text, known, rfl, rfl⟩) | ⟨n, known, rfl, rfl⟩)
    · exact .label
    · rw [Json.ofBinary64, if_pos (finite x known)]
      exact .confidence known
    · exact .notes known
    · exact .user known
    · exact .count known
  · intro carries
    cases carries with
    | label => exact .inl (.inl (.inl (.inl ⟨rfl, rfl⟩)))
    | @confidence x known =>
        refine .inl (.inl (.inl (.inr ⟨x, known, rfl, ?_⟩)))
        rw [Json.ofBinary64, if_pos (finite x known)]
    | notes known => exact .inl (.inl (.inr ⟨_, known, rfl, rfl⟩))
    | user known => exact .inl (.inr ⟨_, known, rfl, rfl⟩)
    | count known => exact .inr ⟨_, known, rfl, rfl⟩

/-- The document has these members and no others. -/
theorem get?_toJson {s : Submission} (finite : ∀ x ∈ s.confidence, x.isFinite = true)
    (name : String) (value : Json) :
    s.toJson.get? name = some value ↔ s.Carries name value := by
  have object : s.toJson = Json.object s.fields := rfl
  have once : (s.fields.reverse.map Prod.fst).Nodup := by
    rw [List.map_reverse]
    exact List.nodup_reverse.mpr s.nodup_fields
  rw [object, Json.get?_object, ← mem_fields_iff finite, ← List.mem_reverse]
  exact ⟨Json.mem_of_lookup, Json.lookup_of_mem once⟩

end Submission

namespace Headless

open CommandLine (Key Reading Spelled)
open Http (Client)

/-- What the command line says about a label. -/
structure FromLine (o : Options) (env : List (String × String)) (given : List (Key × String)) :
    Prop where
  select : o.select = given.lookup .select
  label : o.label = given.lookup .label
  confidence : o.confidence = given.lookup .confidence
  notes : o.notes = given.lookup .notes
  count : o.count = given.lookup .count
  user : o.user = (given.lookup .user <|> env.lookup "REVIEWQ_USER")

/-- The text without the blanks around it, and nothing if it is blank. -/
def kept (text : String) : Option String :=
  if Blank text then none else some (trim text)

/-- The confidence that is posted: from the option if it is given, a blank one giving none, and else
from the item. -/
inductive ConfidenceOf (item : Item) : Option String → Option Binary64 → Prop
  | item (sure : item.Sure) : ConfidenceOf item none item.humanConfidence
  | blank {text : String} (blank : Blank text) : ConfidenceOf item (some text) none
  | given {text : String} {x : Binary64} (counts : ¬Blank text)
      (spelled : Binary64.parse? (trim text) = some x) (within : x.WithinOne) :
      ConfidenceOf item (some text) (some x)

/-- The count that is posted, likewise. -/
inductive CountOf (item : Item) : Option String → Option UInt64 → Prop
  | item {count : Option UInt64}
      (same : (count.map fun n => (n.toNat : ℤ)) = item.count.map Int64.toInt) :
      CountOf item none count
  | blank {text : String} (blank : Blank text) : CountOf item (some text) none
  | given {text : String} {n : UInt64} (counts : ¬Blank text)
      (spelled : Decimal.Spells UInt64.size (trim text) n.toNat) :
      CountOf item (some text) (some n)

/-- The label that the options and the fetched item determine. -/
structure Determined (o : Options) (item : Item) (label : String) (s : Submission) : Prop where
  labeled : ¬Blank label
  label : s.label = trim label
  confidence : ConfidenceOf item o.confidence s.confidence
  notes : s.notes = (o.notes <|> item.humanNotes).bind kept
  user : s.user = (item.humanUser.filter (· ≠ "") <|> o.user).bind kept
  count : CountOf item o.count s.count

/-- The text that the confidence is read from. -/
def confidenceText (o : Options) (item : Item) : String :=
  o.confidence.getD (item.humanConfidence.elim "" Decimal.Style.plain.text)

/-- The text that the count is read from. -/
def countText (o : Options) (item : Item) : String :=
  o.count.getD (item.count.elim "" fun n => toString n.toInt)

section

variable {o : Options} {item : Item} {label : String} {s : Submission}

theorem readConfidence_eq_iff {confidence : Option Binary64} :
    LabelForm.readConfidence (confidenceText o item) = .ok confidence ↔
      ConfidenceOf item o.confidence confidence := by
  rw [confidenceText]
  cases o.confidence with
  | none =>
      rw [Option.getD_none]
      constructor
      · intro read
        by_cases sure : item.Sure
        · cases read.symm.trans (LabelForm.readConfidence_text sure)
          exact .item sure
        · cases read.symm.trans (LabelForm.readConfidence_prefill_of_not_sure {} sure)
      · intro determined
        cases determined with
        | item sure => exact LabelForm.readConfidence_text sure
  | some text =>
      rw [Option.getD_some, LabelForm.readConfidence_eq_ok_iff]
      constructor
      · rintro (⟨blank, rfl⟩ | ⟨counts, x, spelled, within, rfl⟩)
        · exact .blank blank
        · exact .given counts spelled within
      · intro determined
        cases determined with
        | blank blank => exact .inl ⟨blank, rfl⟩
        | given counts spelled within => exact .inr ⟨counts, _, spelled, within, rfl⟩

theorem readCount_eq_iff {count : Option UInt64} :
    LabelForm.readCount (countText o item) = .ok count ↔ CountOf item o.count count := by
  rw [countText]
  cases o.count with
  | none =>
      rw [Option.getD_none]
      constructor
      · intro read
        by_cases counted : item.Counted
        · obtain ⟨count', read', same⟩ := LabelForm.readCount_prefill {} counted
          cases read.symm.trans read'
          exact .item same
        · cases read.symm.trans (LabelForm.readCount_prefill_of_not_counted {} counted)
      · intro determined
        cases determined with
        | item same => exact LabelForm.readCount_text same
  | some text =>
      rw [Option.getD_some, LabelForm.readCount_eq_ok_iff]
      constructor
      · rintro (⟨blank, rfl⟩ | ⟨counts, n, spelled, rfl⟩)
        · exact .blank blank
        · exact .given counts spelled
      · intro determined
        cases determined with
        | blank blank => exact .inl ⟨blank, rfl⟩
        | given counts spelled => exact .inr ⟨counts, _, spelled, rfl⟩

theorem trimToOption_getD_eq (text : Option String) :
    Text.trimToOption (text.getD "") = text.bind kept := by
  cases text with
  | none => exact (Text.trimToOption_eq_none_iff "").mpr LabelForm.blank_empty
  | some text => exact Text.trimToOption_eq text

theorem getD_orElse (first second : Option String) :
    first.getD (second.getD "") = (first <|> second).getD "" := by
  cases first <;> rfl

/-- What the form comes to that was filled in by the item first and by the options then. -/
theorem gives_formFor_iff : (formFor o label item).Gives s ↔ Determined o item label s := by
  have notes : Text.trimToOption (formFor o label item).notes =
      (o.notes <|> item.humanNotes).bind kept := by
    change Text.trimToOption (o.notes.getD (item.humanNotes.getD "")) = _
    rw [getD_orElse, trimToOption_getD_eq]
  have user : Text.trimToOption (formFor o label item).user =
      (item.humanUser.filter (· ≠ "") <|> o.user).bind kept := by
    change Text.trimToOption ((item.humanUser.filter (· ≠ "")).getD (o.user.getD "")) = _
    rw [getD_orElse, trimToOption_getD_eq]
  constructor
  · rintro ⟨labeled, trimmed, confidence, noted, named, count⟩
    exact ⟨labeled, trimmed, readConfidence_eq_iff.mp confidence, noted.trans notes,
      named.trans user, readCount_eq_iff.mp count⟩
  · rintro ⟨labeled, trimmed, confidence, noted, named, count⟩
    exact ⟨labeled, trimmed, readConfidence_eq_iff.mpr confidence, noted.trans notes.symm,
      named.trans user.symm, readCount_eq_iff.mpr count⟩

theorem validate_eq_ok_iff (id : String) :
    (formFor o label item).validate (some id) = .ok s ↔ Determined o item label s := by
  rw [LabelForm.validate_eq_ok_iff, gives_formFor_iff]
  exact and_iff_right rfl

theorem exists_determined_iff : (∃ s, Determined o item label s) ↔
    ¬Blank label ∧ (Blank (confidenceText o item) ∨ SpellsShare (trim (confidenceText o item))) ∧
      (Blank (countText o item) ∨ SpellsWord (trim (countText o item))) := by
  constructor
  · rintro ⟨s, determined⟩
    refine ⟨determined.labeled, ?_, ?_⟩
    · rcases LabelForm.readConfidence_eq_ok_iff.mp
        (readConfidence_eq_iff.mpr determined.confidence) with ⟨blank, -⟩ | ⟨-, x, spelled, within, -⟩
      · exact .inl blank
      · exact .inr ⟨x, spelled, within⟩
    · rcases LabelForm.readCount_eq_ok_iff.mp (readCount_eq_iff.mpr determined.count) with
        ⟨blank, -⟩ | ⟨-, n, spelled, -⟩
      · exact .inl blank
      · exact .inr ⟨n.toNat, spelled⟩
  · rintro ⟨labeled, sure, counted⟩
    obtain ⟨confidence, read⟩ := LabelForm.exists_readConfidence sure
    obtain ⟨count, number⟩ := LabelForm.exists_readCount counted
    exact ⟨⟨trim label, confidence, _, _, count⟩, labeled, rfl, readConfidence_eq_iff.mp read, rfl,
      rfl, readCount_eq_iff.mp number⟩

theorem Determined.unique {s' : Submission} (determined : Determined o item label s)
    (determined' : Determined o item label s') : s' = s := by
  have first := (validate_eq_ok_iff "").mpr determined
  have second := (validate_eq_ok_iff "").mpr determined'
  exact Except.ok.inj (second.symm.trans first)

theorem Determined.finite (determined : Determined o item label s) :
    ∀ x ∈ s.confidence, x.isFinite = true := by
  intro x known
  have read := readConfidence_eq_iff.mpr determined.confidence
  rw [Option.mem_def.mp known] at read
  exact (LabelForm.withinOne_of_readConfidence read).finite

end

section

variable {env : List (String × String)} {arguments : List String} {o : Options}
  {setting : Setting} {before : List Http.Request} {filter : Filter} {items : List Item}
  {id : String} {item : Item} {label : String}

theorem exists_fromLine (parsed : Options.parse env arguments = .ok o) :
    ∃ given, Spelled arguments given ∧ CommandLine.WellGiven given ∧ FromLine o env given := by
  obtain ⟨given, spelled, fine, -, rfl⟩ := Options.parse_eq_ok_iff.mp parsed
  refine ⟨given, spelled, fine, ?_⟩
  constructor <;>
    simp [Options.ofReading, Key.variableName?, Reading.value?, Reading.after]

theorem length_runResource_log (o : Options) (setting : Setting) (kind : ResourceKind) :
    (runResource o setting kind).log.length ≤ 1 := by
  unfold runResource
  dsimp only
  split
  · exact Nat.zero_le _
  split <;> rename_i performed <;>
    exact (congrArg (·.2.length) performed).ge

/-- A run that fetched an item after it loaded the page is one of the queue. -/
theorem queue_of_fetched (opened : Opened o setting.client before filter items id item)
    (fetched : setting.client.itemRequest id :: before <:+ (run o setting).log) :
    o.resource = none := by
  cases managed : o.resource with
  | none => rfl
  | some kind =>
      have most : (run o setting).log.length ≤ 1 := by
        rw [run, managed]
        exact length_runResource_log o setting kind
      have loaded := opened.loaded.length_lt
      have few := fetched.length_le
      rw [List.length_cons] at few
      omega

theorem posts_of_determined {s : Submission}
    (opened : Opened o setting.client before filter items id item)
    (fetched : setting.client.itemRequest id :: before <:+ (run o setting).log)
    (wanted : o.label = some label) (determined : Determined o item label s) :
    Client.posts (run o setting).log = [setting.client.labelRequest id s] := by
  have labeled : Labeled o id item label s := ⟨wanted, (validate_eq_ok_iff id).mpr determined⟩
  obtain ⟨log, ending, course, posts⟩ := opened.exists_labeling_course labeled
  rw [run_log (queue_of_fetched opened fetched) course, posts]

theorem refused_of_undetermined (opened : Opened o setting.client before filter items id item)
    (fetched : setting.client.itemRequest id :: before <:+ (run o setting).log)
    (wanted : o.label = some label) (undetermined : ¬∃ s, Determined o item label s) :
    Client.posts (run o setting).log = [] ∧
      ∃ fault, (run o setting).fault = some (.label id (.form fault)) := by
  cases validated : (formFor o label item).validate (some id) with
  | ok s => exact (undetermined ⟨s, (validate_eq_ok_iff id).mp validated⟩).elim
  | error fault =>
      have course := Course.refused opened wanted validated
      rw [run_of_stopped (queue_of_fetched opened fetched) course]
      exact ⟨opened.loaded.posts_eq, fault, rfl⟩

theorem posts_of_queue (queue : o.resource = none) (wanted : o.label = some label) :
    Client.posts (run o setting).log = [] ∨ ∃ before filter items id item s,
      Opened o setting.client before filter items id item ∧ Determined o item label s ∧
        Client.posts (run o setting).log = [setting.client.labelRequest id s] := by
  obtain ⟨log, ending, course⟩ := exists_course o setting.client
  rw [run_log queue course]
  refine (posts_of_course course).imp_right ?_
  rintro ⟨before, filter, items, id, item, label', s, opened, labeled, posts⟩
  cases labeled.wanted.symm.trans wanted
  exact ⟨before, filter, items, id, item, s, opened, (validate_eq_ok_iff id).mp labeled.valid, posts⟩

/-- No item is labeled with a blank text, and the run that was to do so is at fault. -/
theorem refused_of_blank (parsed : Options.parse env arguments = .ok o) (queue : o.resource = none)
    (wanted : o.label = some label) (blank : Blank label) :
    Client.posts (run o setting).log = [] ∧ ∃ fault, (run o setting).fault = some fault := by
  constructor
  · refine (posts_of_queue queue wanted).resolve_right ?_
    rintro ⟨_, _, _, _, _, _, -, determined, -⟩
    exact determined.labeled blank
  · obtain ⟨log, ending, course⟩ := exists_course o setting.client
    obtain ⟨id, selected⟩ := Options.select_of_label parsed wanted
    by_contra faultless
    have going : ∀ fault, ending ≠ .stopped fault := by
      rintro fault rfl
      exact faultless ⟨fault, by rw [run_of_stopped queue course]⟩
    obtain ⟨_, _, _, id', item, _, _, -, labeled, -⟩ :=
      hasLabeled_of_course course going selected wanted
    exact ((validate_eq_ok_iff id').mp labeled.valid).labeled blank

end

/-- Of a run that is to label an item: the options are what the line and the environment give; once
the item is fetched, the label that they determine together with it is posted and no other, and its
document has the fields that are there and no others. Where they determine none, for a label that is
blank, or a confidence or a count whose text does not spell one, nothing is posted and the run is at
fault. -/
theorem posted_label_is_determined {env : List (String × String)} {arguments : List String}
    {o : Options} {label : String} (parsed : Options.parse env arguments = .ok o)
    (wanted : o.label = some label) (setting : Setting) :
    (∃ given, Spelled arguments given ∧ CommandLine.WellGiven given ∧ FromLine o env given) ∧
    (∀ before filter items id item, Opened o setting.client before filter items id item →
      setting.client.itemRequest id :: before <:+ (run o setting).log →
      ((∃ s, Determined o item label s) ↔ ¬Blank label ∧
        (Blank (confidenceText o item) ∨ SpellsShare (trim (confidenceText o item))) ∧
        (Blank (countText o item) ∨ SpellsWord (trim (countText o item)))) ∧
      (∀ s, Determined o item label s → (∀ s', Determined o item label s' → s' = s) ∧
        Client.posts (run o setting).log = [setting.client.labelRequest id s] ∧
        ∃ document, (setting.client.labelRequest id s).body = some document ∧
          ∀ name value, document.get? name = some value ↔ s.Carries name value) ∧
      ((¬∃ s, Determined o item label s) → Client.posts (run o setting).log = [] ∧
        ∃ fault, (run o setting).fault = some (.label id (.form fault)))) ∧
    (o.resource = none →
      (Client.posts (run o setting).log = [] ∨ ∃ before filter items id item s,
        Opened o setting.client before filter items id item ∧ Determined o item label s ∧
          Client.posts (run o setting).log = [setting.client.labelRequest id s]) ∧
      (Blank label → Client.posts (run o setting).log = [] ∧
        ∃ fault, (run o setting).fault = some fault)) := by
  refine ⟨exists_fromLine parsed, ?_, fun queue =>
    ⟨posts_of_queue queue wanted, refused_of_blank parsed queue wanted⟩⟩
  intro before filter items id item opened fetched
  refine ⟨exists_determined_iff, fun s determined => ⟨fun _ => determined.unique, ?_, s.toJson,
    rfl, ?_⟩, refused_of_undetermined opened fetched wanted⟩
  · exact posts_of_determined opened fetched wanted determined
  · exact Submission.get?_toJson determined.finite

/-- Arguments that give the notes as a blank text. -/
def noteless : List String :=
  ["--no-tui", "--select", "a", "--label", " YES ", "--notes", " "]

def notelessOptions : Options :=
  { labelingOptions "a" with
    label := some " YES ", notes := some " ", user := some "ann", output := none }

/-- A server with an item that was looked at by no one, counted and noted, and that saves no label. -/
def countedSetting : Setting where
  client :=
    { server := Http.scripted
        [pageOf "a",
        plainAnswer 200 (.members [("count", .number (.whole 3)), ("human_notes", .string "dim"),
          ("human_user", .string ""), ("id", .string "a")]),
        failedReload]
      base := Http.localClient.base }
  disk := {}
  time := ""

/-- The blank notes go before those of the item, and the reviewer of the environment is named, as the
item names none. -/
theorem noteless_label_is_posted :
    Options.parse [("REVIEWQ_USER", "ann")] noteless = .ok notelessOptions ∧
      notelessOptions.label = some " YES " ∧
      Client.posts (run notelessOptions countedSetting).log =
        [countedSetting.client.labelRequest "a"
          { label := "YES", user := some "ann", count := some 3 }] := by
  let c := countedSetting.client
  let asked := [c.listRequest notelessOptions.filter]
  let item : Item :=
    { id := "a", humanNotes := some "dim", humanUser := some "", count := some 3 }
  let submission : Submission := { label := "YES", user := some "ann", count := some 3 }
  have parsed : Options.parse [("REVIEWQ_USER", "ann")] noteless = .ok notelessOptions := by
    decide +kernel
  have page : c.Loads notelessOptions.filter [] asked notelessOptions.filter
      (.ok [{ id := "a" }]) :=
    Http.Client.loads_of_start rfl (by decide +kernel : _ = .ok ⟨[{ id := "a" }], 1⟩)
  have opened : Opened notelessOptions c asked notelessOptions.filter [{ id := "a" }] "a" item :=
    ⟨page, rfl, List.mem_singleton_self _, by decide +kernel⟩
  have determined : Determined notelessOptions item " YES " submission :=
    { labeled := by decide +kernel
      label := by decide +kernel
      confidence := .item (by rintro x ⟨⟩)
      notes := by decide +kernel
      user := by decide +kernel
      count := .item (by decide +kernel) }
  have failed : (c.service.submit "a" submission (c.itemRequest "a" :: asked)).1 =
      .error (.status 500 "Internal Server Error" "") := by decide +kernel
  have course := Course.unsaved opened ⟨rfl, (validate_eq_ok_iff "a").mpr determined⟩ failed
  have fetched : c.itemRequest "a" :: asked <:+ (run notelessOptions countedSetting).log := by
    rw [run_log rfl course]
    exact List.suffix_cons _ _
  obtain ⟨-, ofItem, -⟩ := posted_label_is_determined parsed rfl countedSetting
  obtain ⟨-, posted, -⟩ := ofItem asked _ _ "a" item opened fetched
  exact ⟨parsed, rfl, (posted submission determined).2.1⟩

end Headless
end ReviewDesk
