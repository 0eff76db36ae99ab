import ReviewDesk.Proofs.Export.Disk
import ReviewDesk.Proofs.Headless.Requests

/-!
What a run without a fault leaves in the file that it was given: the page that was accepted last,
just where that page was not to be loaded again or was. When the load after a saved label fails, the
session has no items any more, and that is what is written.
-/

namespace ReviewDesk

namespace Export

/-- A file tells an empty page from any other. -/
theorem text_eq_text_nil_iff {format : DataFormat} {items : List Item} :
    text format items = text format [] ↔ items = [] := by
  refine ⟨fun same => ?_, fun empty => by rw [empty]⟩
  cases items with
  | nil => rfl
  | cons item rest =>
      have chars := congrArg String.toList same
      cases format with
      | csv =>
          simp [text, Csv.ofItems, Csv.text, Csv.recordChars] at chars
      | json =>
          simp [text, Json.pretty, Json.prettyChars, Json.newline] at chars

end Export

namespace Headless

/-- The items that the server's last accepted answer gave. -/
def Ending.accepted : Ending → List Item
  | .stopped _ => []
  | .shown items => items
  | .lost items _ => items

variable {o : Options} {setting : Setting} {path : String}

theorem read?_present {s : Session} {log : List Http.Request} (wanted : o.output = some path)
    (faultless : (present o setting s log).fault = none) :
    (present o setting s log).disk.read? path =
      some (Export.text (.ofPath path o.format) s.queue.items) := by
  have given : ¬(o.output.isNone = true) := by simp [wanted]
  cases shown : s.view? with
  | none =>
      rw [present, shown] at faultless
      cases faultless
  | some view =>
      rw [present, shown] at faultless ⊢
      dsimp only at faultless ⊢
      rw [if_neg given] at faultless ⊢
      rw [wanted, Export.target] at faultless ⊢
      dsimp only at faultless ⊢
      cases saved : Export.save setting.disk path (.ofPath path o.format) s.queue.items with
      | error fault =>
          rw [saved] at faultless
          cases faultless
      | ok result => exact (Export.read?_save saved).2

/-- The items that a run without a fault writes. -/
def Ending.written : Ending → List Item
  | .stopped _ => []
  | .shown items => items
  | .lost _ _ => []

theorem Ending.result_of_going {ending : Ending} (going : ∀ fault, ending ≠ .stopped fault) :
    ending.result = .ok ending.written := by
  cases ending with
  | stopped fault => exact (going fault rfl).elim
  | shown items | lost items fault => rfl

/-- A page that was to be loaded again has the item on it that was labeled. -/
theorem Course.lost_nonempty {c : Http.Client} {log : List Http.Request} {items : List Item}
    {fault : TransportFault} (course : Course o c log (.lost items fault)) : items ≠ [] := by
  cases course with
  | savedOnly opened =>
      rintro rfl
      cases opened.listed

/-- A run without a fault leaves a file with the items that were accepted last if these were not to
be loaded again, or were; otherwise it leaves a file without items, though there were some. -/
theorem accepted_page_is_exported_iff (queue : o.resource = none) (wanted : o.output = some path)
    (faultless : (run o setting).fault = none) :
    ∃ ending, Course o setting.client (run o setting).log ending ∧
      (∀ fault, ending ≠ .stopped fault) ∧
      ((run o setting).disk.read? path =
          some (Export.text (.ofPath path o.format) ending.accepted) ↔
        ∀ items fault, ending ≠ .lost items fault) ∧
      ∀ items fault, ending = .lost items fault → items ≠ [] ∧
        (run o setting).disk.read? path = some (Export.text (.ofPath path o.format) []) := by
  obtain ⟨log, ending, course⟩ := exists_course o setting.client
  have same := run_log queue course
  have going : ∀ fault, ending ≠ .stopped fault := by
    rintro fault rfl
    rw [run_of_stopped queue course] at faultless
    cases faultless
  obtain ⟨s, presented, held⟩ := run_of_result queue course (Ending.result_of_going going)
  have written : (run o setting).disk.read? path =
      some (Export.text (.ofPath path o.format) ending.written) := by
    rw [presented] at faultless ⊢
    rw [read?_present wanted faultless, held]
  refine ⟨ending, same ▸ course, going, ?_, ?_⟩
  · rw [written]
    cases ending with
    | stopped fault => exact (going fault rfl).elim
    | shown items => exact ⟨fun _ => nofun, fun _ => rfl⟩
    | lost items fault =>
        constructor
        · intro same
          have empty := Export.text_eq_text_nil_iff.mp (Option.some.inj same).symm
          exact (course.lost_nonempty empty).elim
        · intro kept
          exact (kept items fault rfl).elim
  · rintro items fault rfl
    exact ⟨course.lost_nonempty, written⟩

/-- The label is saved, and then there is another page. -/
def reloadedSetting : Setting :=
  labelingSetting "a" [savedLabel "a", pageOf "b"]

theorem reloaded_page_is_exported :
    let o := labelingOptions "a"
    o.resource = none ∧ o.output = some "page.csv" ∧ (run o reloadedSetting).fault = none ∧
      ∃ ending, Course o reloadedSetting.client (run o reloadedSetting).log ending ∧
        (run o reloadedSetting).disk.read? "page.csv" =
          some (Export.text .csv ending.accepted) := by
  intro o
  have faultless : (run o reloadedSetting).fault = none :=
    Option.isNone_iff_eq_none.mp (by decide +kernel)
  have written : (run o reloadedSetting).disk.read? "page.csv" =
      some (Export.text .csv [{ id := "b" }]) := by decide +kernel
  obtain ⟨ending, course, -, exported, lost⟩ := accepted_page_is_exported_iff rfl rfl faultless
  refine ⟨rfl, rfl, faultless, ending, course, exported.mpr fun items fault same => ?_⟩
  have empty := (lost items fault same).2.symm.trans written
  cases Export.text_eq_text_nil_iff.mp (Option.some.inj empty).symm

/-- The label is saved and the page cannot be loaded again: the run is without a fault, and the file
has no items, though the page that was accepted has one. -/
theorem lost_page_is_exported_empty :
    let o := labelingOptions "a"
    Options.parse [] (labelingArguments "a") = .ok o ∧
      (run o failedReloadSetting).fault = none ∧
      (∃ fault, Course o failedReloadSetting.client (run o failedReloadSetting).log
        (.lost [{ id := "a" }] fault)) ∧
      (run o failedReloadSetting).disk.read? "page.csv" = some (Export.text .csv []) ∧
      Export.text .csv [] ≠ Export.text .csv [{ id := "a" }] := by
  intro o
  let c := failedReloadSetting.client
  let asked := [c.listRequest o.filter]
  have start : o.filter.offset = 0 := rfl
  have page : c.Loads o.filter [] asked o.filter (.ok [{ id := "a" }]) :=
    Http.Client.loads_of_start start (by decide +kernel : _ = .ok ⟨[{ id := "a" }], 1⟩)
  have opened : Opened o c asked o.filter [{ id := "a" }] "a" { id := "a" } :=
    ⟨page, rfl, List.mem_singleton_self _, by decide +kernel⟩
  have labeled : Labeled o "a" { id := "a" } "YES" { label := "YES" } := ⟨rfl, by decide +kernel⟩
  have failed := Http.Client.loads_of_start start
    (by decide +kernel : (c.service.list o.filter
      (c.labelRequest "a" { label := "YES" } :: c.itemRequest "a" :: asked)).1 =
        .error (.status 500 "Internal Server Error" ""))
  have saved : (c.service.submit "a" { label := "YES" } (c.itemRequest "a" :: asked)).1 =
      .ok { id := "a", humanLabel := some "YES" } := by decide +kernel
  have course := Course.savedOnly opened labeled saved failed
  have log := run_log rfl course
  refine ⟨by decide +kernel, Option.isNone_iff_eq_none.mp (by decide +kernel),
    ⟨_, log.symm ▸ course⟩, by decide +kernel, fun same => ?_⟩
  cases Export.text_eq_text_nil_iff.mp same.symm

end Headless
end ReviewDesk
