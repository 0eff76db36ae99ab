import Mathlib.Data.List.Basic
import ReviewDesk.Headless
import ReviewDesk.Proofs.Http.Loading

/-!
Which requests a run makes, in which order, and how it ends. `Course` says so request by request,
each one depending on what was answered before. Whatever is answered there is a course for it, and a
run that takes a course makes its requests and comes to its end.
-/

namespace ReviewDesk.Headless

open Http (Client)

/-- The form of an item that was just opened, with the texts that were given. -/
def formFor (o : Options) (label : String) (item : Item) : LabelForm :=
  fillForm o label (({ user := o.user.getD "" } : LabelForm).prefill item)

/-- After the requests of the log the page is loaded, the wanted item lies on it and is fetched. -/
structure Opened (o : Options) (c : Client) (log : List Http.Request) (filter : Filter)
    (items : List Item) (id : String) (item : Item) : Prop where
  loaded : c.Loads o.filter [] log filter (.ok items)
  selected : o.select = some id
  listed : id ∈ items.map Item.id
  fetched : (c.service.get id log).1 = .ok item

/-- The label is wanted for the item that was opened, and the form lets it through. -/
structure Labeled (o : Options) (id : String) (item : Item) (label : String)
    (submission : Submission) : Prop where
  wanted : o.label = some label
  valid : (formFor o label item).validate (some id) = .ok submission

inductive Ending where
  | stopped (fault : Fault)
  /-- The page is shown that was loaded last. -/
  | shown (items : List Item)
  /-- The page was to be loaded again, and that failed. -/
  | lost (items : List Item) (fault : TransportFault)

/-- The requests of a run, the last one first, and its end. -/
inductive Course (o : Options) (c : Client) : List Http.Request → Ending → Prop
  | unloaded {log : List Http.Request} {filter : Filter} {fault : TransportFault}
      (failed : c.Loads o.filter [] log filter (.error fault)) :
      Course o c log (.stopped (.queue fault))
  | page {log : List Http.Request} {filter : Filter} {items : List Item}
      (loaded : c.Loads o.filter [] log filter (.ok items)) (unselected : o.select = none) :
      Course o c log (.shown items)
  | absent {log : List Http.Request} {filter : Filter} {items : List Item} {id : String}
      (loaded : c.Loads o.filter [] log filter (.ok items)) (selected : o.select = some id)
      (unlisted : id ∉ items.map Item.id) :
      Course o c (c.itemRequest id :: log) (.stopped (.notOnPage id))
  | unfetched {log : List Http.Request} {filter : Filter} {items : List Item} {id : String}
      {fault : TransportFault} (loaded : c.Loads o.filter [] log filter (.ok items))
      (selected : o.select = some id) (listed : id ∈ items.map Item.id)
      (failed : (c.service.get id log).1 = .error fault) :
      Course o c (c.itemRequest id :: log) (.stopped (.item id fault))
  | item {log : List Http.Request} {filter : Filter} {items : List Item} {id : String} {item : Item}
      (opened : Opened o c log filter items id item) (unlabeled : o.label = none) :
      Course o c (c.itemRequest id :: log) (.shown items)
  | refused {log : List Http.Request} {filter : Filter} {items : List Item} {id : String}
      {item : Item} {label : String} {fault : FormFault} (opened : Opened o c log filter items id item)
      (wanted : o.label = some label)
      (invalid : (formFor o label item).validate (some id) = .error fault) :
      Course o c (c.itemRequest id :: log) (.stopped (.label id (.form fault)))
  | unsaved {log : List Http.Request} {filter : Filter} {items : List Item} {id : String}
      {item : Item} {label : String} {submission : Submission} {fault : TransportFault}
      (opened : Opened o c log filter items id item) (labeled : Labeled o id item label submission)
      (failed : (c.service.submit id submission (c.itemRequest id :: log)).1 = .error fault) :
      Course o c (c.labelRequest id submission :: c.itemRequest id :: log)
        (.stopped (.label id (.transport fault)))
  | saved {log log' : List Http.Request} {filter last : Filter} {items items' : List Item}
      {id : String} {item saved : Item} {label : String} {submission : Submission}
      (opened : Opened o c log filter items id item) (labeled : Labeled o id item label submission)
      (answered : (c.service.submit id submission (c.itemRequest id :: log)).1 = .ok saved)
      (reloaded : c.Loads filter (c.labelRequest id submission :: c.itemRequest id :: log) log' last
        (.ok items')) :
      Course o c log' (.shown items')
  | savedOnly {log log' : List Http.Request} {filter last : Filter} {items : List Item}
      {id : String} {item saved : Item} {label : String} {submission : Submission}
      {fault : TransportFault}
      (opened : Opened o c log filter items id item) (labeled : Labeled o id item label submission)
      (answered : (c.service.submit id submission (c.itemRequest id :: log)).1 = .ok saved)
      (failed : c.Loads filter (c.labelRequest id submission :: c.itemRequest id :: log) log' last
        (.error fault)) :
      Course o c log' (.lost items fault)

/-- The items that a session holds when it ends so. -/
def Ending.result : Ending → Except Fault (List Item)
  | .stopped fault => .error fault
  | .shown items => .ok items
  | .lost _ _ => .ok []

/-- A session whose page was just loaded. -/
def atPage (o : Options) (q : Queue) (items : List Item) : Session where
  queue := q
  selection := { visible := items.map Item.id }
  form := { user := o.user.getD "" }
  labels := o.labels

/-- The session when the wanted item was opened on it. -/
def atItem (o : Options) (q : Queue) (items : List Item) (id : String) (item : Item) : Session where
  queue := q
  selection :=
    { visible := items.map Item.id, current := some id, detail := some item, issued := 1 }
  form := ({ user := o.user.getD "" } : LabelForm).prefill item
  labels := o.labels

/-- The session in which the label is submitted. -/
def atForm (o : Options) (q : Queue) (items : List Item) (id : String) (item : Item)
    (label : String) : Session :=
  { atItem o q items id item with form := formFor o label item }

section

variable {o : Options} {c : Client} {log : List Http.Request} {filter : Filter}
  {items : List Item} {id : String} {item : Item} {ending : Ending}

theorem Opened.posts_eq (opened : Opened o c log filter items id item) (submission : Submission) :
    Client.posts (c.labelRequest id submission :: c.itemRequest id :: log) =
      [c.labelRequest id submission] := by
  have quiet : Client.posts log = [] := opened.loaded.posts_eq
  change c.labelRequest id submission :: Client.posts log = _
  rw [quiet]

/-- Where the form lets the label through, it is posted. -/
theorem Opened.exists_labeling_course {label : String} {submission : Submission}
    (opened : Opened o c log filter items id item) (labeled : Labeled o id item label submission) :
    ∃ log' ending, Course o c log' ending ∧
      Client.posts log' = [c.labelRequest id submission] := by
  cases answered : (c.service.submit id submission (c.itemRequest id :: log)).1 with
  | error fault => exact ⟨_, _, .unsaved opened labeled answered, opened.posts_eq submission⟩
  | ok saved =>
      obtain ⟨log', last, result, reloads⟩ := Client.exists_loads c filter
        (c.labelRequest id submission :: c.itemRequest id :: log)
      have posts := reloads.posts_eq.trans (opened.posts_eq submission)
      cases result with
      | ok items' => exact ⟨_, _, .saved opened labeled answered reloads, posts⟩
      | error fault => exact ⟨_, _, .savedOnly opened labeled answered reloads, posts⟩

theorem Opened.exists_course (opened : Opened o c log filter items id item) :
    ∃ log ending, Course o c log ending := by
  cases wanted : o.label with
  | none => exact ⟨_, _, .item opened wanted⟩
  | some label =>
      cases validated : (formFor o label item).validate (some id) with
      | error fault => exact ⟨_, _, .refused opened wanted validated⟩
      | ok submission =>
          obtain ⟨log', ending, course, -⟩ := opened.exists_labeling_course ⟨wanted, validated⟩
          exact ⟨log', ending, course⟩

/-- Whatever is answered, there is a course for it. -/
theorem exists_course (o : Options) (c : Client) : ∃ log ending, Course o c log ending := by
  obtain ⟨log, filter, result, loads⟩ := Client.exists_loads c o.filter []
  cases result with
  | error fault => exact ⟨_, _, .unloaded loads⟩
  | ok items =>
      cases selected : o.select with
      | none => exact ⟨_, _, .page loads selected⟩
      | some id =>
          by_cases listed : id ∈ items.map Item.id
          · cases fetched : (c.service.get id log).1 with
            | error fault => exact ⟨_, _, .unfetched loads selected listed fetched⟩
            | ok item => exact Opened.exists_course ⟨loads, selected, listed, fetched⟩
          · exact ⟨_, _, .absent loads selected listed⟩

theorem loadPage_of_error {fault : TransportFault}
    (failed : c.Loads o.filter [] log filter (.error fault)) :
    loadPage o c.service = (.error (.queue fault), log) := by
  obtain ⟨q, driven, -⟩ := Queue.drive_of_loads failed { filter := o.filter }
  have load : ({ filter := o.filter } : Queue).load c.service o.filter [] =
      (.failed fault, q, log) := driven
  rw [loadPage]
  simp only [Session.start, Session.loadNow, load, Session.afterLoad]

theorem loadPage_of_ok (loaded : c.Loads o.filter [] log filter (.ok items)) :
    ∃ q : Queue, q.Holds filter (.ok items) ∧
      loadPage o c.service = openAndLabel o c.service (atPage o q items) log := by
  obtain ⟨q, driven, holds⟩ := Queue.drive_of_loads loaded { filter := o.filter }
  have load : ({ filter := o.filter } : Queue).load c.service o.filter [] =
      (.accepted, q, log) := driven
  have shown : q.items = items := holds.items
  refine ⟨q, holds, ?_⟩
  rw [loadPage]
  simp only [Session.start, Session.loadNow, load, Session.afterLoad, if_true, Session.reconcile,
    Selection.reconcile, shown]
  rfl

theorem openAndLabel_of_absent (q : Queue) (selected : o.select = some id)
    (unlisted : id ∉ items.map Item.id) :
    openAndLabel o c.service (atPage o q items) log =
      (.error (.notOnPage id), c.itemRequest id :: log) := by
  simp only [openAndLabel, selected, Session.selectNow, Selection.select, Selection.beginSelect,
    atPage, Selection.applySelect, ne_eq, not_true_eq_false, if_false, unlisted, not_false_eq_true,
    if_true]
  rfl

theorem openAndLabel_of_failed {fault : TransportFault} (q : Queue) (selected : o.select = some id)
    (listed : id ∈ items.map Item.id) (failed : (c.service.get id log).1 = .error fault) :
    openAndLabel o c.service (atPage o q items) log =
      (.error (.item id fault), c.itemRequest id :: log) := by
  simp only [openAndLabel, selected, Session.selectNow, Selection.select, Selection.beginSelect,
    atPage, Selection.applySelect, ne_eq, not_true_eq_false, if_false, listed, failed]
  rfl

theorem Opened.selectNow_eq (opened : Opened o c log filter items id item) (q : Queue) :
    (atPage o q items).selectNow c.service id log =
      (.applied, atItem o q items id item, c.itemRequest id :: log) := by
  simp only [Session.selectNow, Selection.select, Selection.beginSelect, atPage,
    Selection.applySelect, ne_eq, not_true_eq_false, if_false, opened.listed, opened.fetched]
  rfl

variable {label : String} {submission : Submission}

theorem Opened.loadPage_of_unlabeled (opened : Opened o c log filter items id item)
    (unlabeled : o.label = none) :
    ∃ q : Queue, q.Holds filter (.ok items) ∧
      loadPage o c.service = (.ok (atItem o q items id item), c.itemRequest id :: log) := by
  obtain ⟨q, holds, loads⟩ := loadPage_of_ok opened.loaded
  refine ⟨q, holds, loads.trans ?_⟩
  simp only [openAndLabel, opened.selected, opened.selectNow_eq q, unlabeled]

theorem Opened.loadPage_of_labeled (opened : Opened o c log filter items id item)
    (wanted : o.label = some label) :
    ∃ q : Queue, q.Holds filter (.ok items) ∧
      loadPage o c.service =
        match (atForm o q items id item label).submitNow c.service (c.itemRequest id :: log) with
        | (.ok _, s, log) => (.ok s, log)
        | (.error fault, _, log) => (.error (.label id fault), log) := by
  obtain ⟨q, holds, loads⟩ := loadPage_of_ok opened.loaded
  have filled : { atItem o q items id item with
      form := fillForm o label (atItem o q items id item).form } =
        atForm o q items id item label := rfl
  refine ⟨q, holds, loads.trans ?_⟩
  rcases submitted : (atForm o q items id item label).submitNow c.service
    (c.itemRequest id :: log) with ⟨fault | saved, s, log'⟩ <;>
    simp only [openAndLabel, opened.selected, opened.selectNow_eq q, wanted, filled, submitted]

theorem Opened.loadPage_of_saved {log' : List Http.Request} {last : Filter} {saved : Item}
    {result : Except TransportFault (List Item)} (opened : Opened o c log filter items id item)
    (labeled : Labeled o id item label submission)
    (answered : (c.service.submit id submission (c.itemRequest id :: log)).1 = .ok saved)
    (reloads : c.Loads filter (c.labelRequest id submission :: c.itemRequest id :: log) log' last
      result) :
    ∃ s, loadPage o c.service = (.ok s, log') ∧ s.queue.Holds last result := by
  obtain ⟨q, holds, loads⟩ := opened.loadPage_of_labeled labeled.wanted
  have current : (atForm o q items id item label).selection.current = some id := rfl
  have reloads' : c.Loads (atForm o q items id item label).queue.filter
      (c.labelRequest id submission :: c.itemRequest id :: log) log' last result :=
    holds.filter.symm ▸ reloads
  obtain ⟨s, submitted, shown⟩ := Session.submitNow_of_saved current labeled.valid answered reloads'
  rw [loads, submitted]
  exact ⟨s, rfl, shown⟩

/-- A run that takes a course makes the requests of it, and comes to its end. -/
theorem loadPage_of_course (course : Course o c log ending) :
    ∃ result, loadPage o c.service = (result, log) ∧
      result.map (·.queue.items) = ending.result := by
  cases course with
  | unloaded failed => exact ⟨_, loadPage_of_error failed, rfl⟩
  | page loaded unselected =>
      obtain ⟨q, holds, loads⟩ := loadPage_of_ok loaded
      refine ⟨.ok _, loads.trans (by rw [openAndLabel, unselected]), ?_⟩
      exact congrArg Except.ok holds.items
  | absent loaded selected unlisted =>
      obtain ⟨q, -, loads⟩ := loadPage_of_ok loaded
      exact ⟨_, loads.trans (openAndLabel_of_absent q selected unlisted), rfl⟩
  | unfetched loaded selected listed failed =>
      obtain ⟨q, -, loads⟩ := loadPage_of_ok loaded
      exact ⟨_, loads.trans (openAndLabel_of_failed q selected listed failed), rfl⟩
  | item opened unlabeled =>
      obtain ⟨q, holds, loads⟩ := opened.loadPage_of_unlabeled unlabeled
      exact ⟨_, loads, congrArg Except.ok holds.items⟩
  | @refused log _ items id item label fault opened wanted invalid =>
      obtain ⟨q, -, loads⟩ := opened.loadPage_of_labeled wanted
      have refused : (atForm o q items id item label).form.validate
          (atForm o q items id item label).selection.current = .error fault := invalid
      obtain ⟨s, submitted⟩ := Session.submitNow_of_invalid c (c.itemRequest id :: log) refused
      rw [loads, submitted]
      exact ⟨_, rfl, rfl⟩
  | @unsaved log _ items id item label submission _ opened labeled failed =>
      obtain ⟨q, -, loads⟩ := opened.loadPage_of_labeled labeled.wanted
      have current : (atForm o q items id item label).selection.current = some id := rfl
      obtain ⟨s, submitted⟩ := Session.submitNow_of_failed current labeled.valid failed
      rw [loads, submitted]
      exact ⟨_, rfl, rfl⟩
  | saved opened labeled answered reloaded =>
      obtain ⟨s, loads, holds⟩ := opened.loadPage_of_saved labeled answered reloaded
      exact ⟨_, loads, congrArg Except.ok holds.items⟩
  | savedOnly opened labeled answered failed =>
      obtain ⟨s, loads, holds⟩ := opened.loadPage_of_saved labeled answered failed
      exact ⟨_, loads, congrArg Except.ok holds.items⟩

/-- Pages, items and labels are all that a run asks for. -/
theorem Course.forall_requests {P : Http.Request → Prop} (course : Course o c log ending)
    (list : ∀ f, P (c.listRequest f)) (item : ∀ id, P (c.itemRequest id))
    (label : ∀ id submission, P (c.labelRequest id submission)) : ∀ r ∈ log, P r := by
  have paged {log : List Http.Request} {last : Filter}
      {result : Except TransportFault (List Item)} (loads : c.Loads o.filter [] log last result) :
      ∀ r ∈ log, P r := loads.forall_requests list (List.forall_mem_nil _)
  have fetched {log : List Http.Request} {last : Filter} {items : List Item} (id : String)
      (loads : c.Loads o.filter [] log last (.ok items)) : ∀ r ∈ c.itemRequest id :: log, P r :=
    List.forall_mem_cons.mpr ⟨item id, paged loads⟩
  cases course with
  | unloaded loads | page loads => exact paged loads
  | absent loads | unfetched loads => exact fetched _ loads
  | item opened | refused opened => exact fetched _ opened.loaded
  | unsaved opened => exact List.forall_mem_cons.mpr ⟨label _ _, fetched _ opened.loaded⟩
  | saved opened _ _ reloads | savedOnly opened _ _ reloads =>
      exact reloads.forall_requests list
        (List.forall_mem_cons.mpr ⟨label _ _, fetched _ opened.loaded⟩)

theorem posts_of_course (course : Course o c log ending) :
    Client.posts log = [] ∨ ∃ before filter items id item label submission,
      Opened o c before filter items id item ∧ Labeled o id item label submission ∧
        Client.posts log = [c.labelRequest id submission] := by
  have quiet {log : List Http.Request} {last : Filter}
      {result : Except TransportFault (List Item)} (loads : c.Loads o.filter [] log last result) :
      Client.posts log = [] := loads.posts_eq
  have fetching {log : List Http.Request} {last : Filter} {items : List Item} (id : String)
      (loads : c.Loads o.filter [] log last (.ok items)) :
      Client.posts (c.itemRequest id :: log) = [] := loads.posts_eq
  cases course with
  | unloaded loads | page loads => exact .inl (quiet loads)
  | absent loads | unfetched loads => exact .inl (fetching _ loads)
  | item opened | refused opened => exact .inl (fetching _ opened.loaded)
  | unsaved opened labeled =>
      exact .inr ⟨_, _, _, _, _, _, _, opened, labeled, opened.posts_eq _⟩
  | saved opened labeled _ reloads | savedOnly opened labeled _ reloads =>
      exact .inr ⟨_, _, _, _, _, _, _, opened, labeled,
        reloads.posts_eq.trans (opened.posts_eq _)⟩

/-- The wanted item was opened in the course of the requests. -/
def HasOpened (o : Options) (c : Client) (log : List Http.Request) (id : String) : Prop :=
  ∃ before filter items item, Opened o c before filter items id item ∧
    c.itemRequest id :: before <:+ log

/-- The wanted label was saved in the course of the requests. -/
def HasLabeled (o : Options) (c : Client) (log : List Http.Request) (label : String) : Prop :=
  ∃ before filter items id item submission saved, Opened o c before filter items id item ∧
    Labeled o id item label submission ∧
    (c.service.submit id submission (c.itemRequest id :: before)).1 = .ok saved ∧
    c.labelRequest id submission :: c.itemRequest id :: before <:+ log

theorem hasOpened_of_course (course : Course o c log ending)
    (going : ∀ fault, ending ≠ .stopped fault) (selected : o.select = some id) :
    HasOpened o c log id := by
  cases course with
  | unloaded | absent | unfetched | refused | unsaved => exact (going _ rfl).elim
  | page loaded unselected => cases unselected.symm.trans selected
  | item opened =>
      cases opened.selected.symm.trans selected
      exact ⟨_, _, _, _, opened, List.suffix_refl _⟩
  | saved opened _ _ reloads | savedOnly opened _ _ reloads =>
      cases opened.selected.symm.trans selected
      exact ⟨_, _, _, _, opened, (List.suffix_cons _ _).trans reloads.suffix⟩

theorem hasLabeled_of_course (course : Course o c log ending)
    (going : ∀ fault, ending ≠ .stopped fault) (selected : o.select = some id)
    (wanted : o.label = some label) : HasLabeled o c log label := by
  cases course with
  | unloaded | absent | unfetched | refused | unsaved => exact (going _ rfl).elim
  | page loaded unselected => cases unselected.symm.trans selected
  | item opened unlabeled => cases unlabeled.symm.trans wanted
  | saved opened labeled answered reloads | savedOnly opened labeled answered reloads =>
      cases opened.selected.symm.trans selected
      cases labeled.wanted.symm.trans wanted
      exact ⟨_, _, _, _, _, _, _, opened, labeled, answered, reloads.suffix⟩

end

section

variable {o : Options} {setting : Setting} {log : List Http.Request} {ending : Ending}

theorem present_log (o : Options) (setting : Setting) (s : Session) (log : List Http.Request) :
    (present o setting s log).log = log := by
  unfold present
  split
  · rfl
  · dsimp only
    split
    · rfl
    · split <;> rfl

theorem run_of_stopped {fault : Fault} (queue : o.resource = none)
    (course : Course o setting.client log (.stopped fault)) :
    run o setting = { fault := some fault, disk := setting.disk, log := log } := by
  obtain ⟨result, loads, same⟩ := loadPage_of_course course
  cases result with
  | ok s => cases same
  | error fault' =>
      cases same
      rw [run, queue]
      dsimp only
      rw [loads]

theorem run_of_result {items : List Item} (queue : o.resource = none)
    (course : Course o setting.client log ending) (result : ending.result = .ok items) :
    ∃ s : Session, run o setting = present o setting s log ∧ s.queue.items = items := by
  obtain ⟨found, loads, same⟩ := loadPage_of_course course
  rw [result] at same
  cases found with
  | error fault => cases same
  | ok s =>
      refine ⟨s, ?_, Except.ok.inj same⟩
      rw [run, queue]
      dsimp only
      rw [loads]

theorem run_log (queue : o.resource = none) (course : Course o setting.client log ending) :
    (run o setting).log = log := by
  cases ended : ending.result with
  | error fault =>
      cases ending with
      | stopped fault => rw [run_of_stopped queue course]
      | shown items | lost items fault => cases ended
  | ok items =>
      obtain ⟨s, same, -⟩ := run_of_result queue course ended
      rw [same, present_log]

end

end ReviewDesk.Headless
