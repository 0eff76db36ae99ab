import ReviewDesk.Export.Basic

/-!
What was written to a path is read from it. A file makes no difference to where a path leads.
-/

namespace ReviewDesk
namespace Disk

variable {d e : Disk}

theorem isDirectory_eq (same : e.directories = d.directories) (place : List String) :
    e.isDirectory place = d.isDirectory place := by
  rw [isDirectory, isDirectory, same]

theorem enter_ok (same : e.directories = d.directories) {place parts found : List String}
    (entered : d.enter place parts = .ok found) : e.enter place parts = .ok found := by
  induction parts generalizing place with
  | nil => exact entered
  | cons part parts ih =>
      rw [enter] at entered ⊢
      rw [isDirectory_eq same]
      split at entered
      · rename_i stays
        rw [if_pos stays]
        exact ih entered
      rename_i moves
      rw [if_neg moves]
      split at entered
      · rename_i up
        rw [if_pos up]
        exact ih entered
      rename_i down
      rw [if_neg down]
      split at entered
      · cases entered
      rename_i short
      rw [if_neg short]
      split at entered
      · rename_i directory
        rw [if_pos directory]
        exact ih entered
      · split at entered <;> cases entered

theorem locate_ok (same : e.directories = d.directories) {path : String} {place : List String}
    (located : d.locate path = .ok place) : e.locate path = .ok place := by
  unfold locate at located ⊢
  split at located
  · cases located
  rename_i plain
  rw [if_neg plain]
  split at located
  · cases located
  rename_i some_
  rw [if_neg some_]
  split at located
  · cases located
  rename_i short
  rw [if_neg short]
  dsimp only at located ⊢
  cases entered : d.enter [] ((Text.split '/' path).filter (· ≠ "")).dropLast with
  | error fault =>
      rw [entered] at located
      cases located
  | ok found =>
      rw [entered] at located
      rw [enter_ok same entered]
      simp only [isDirectory_eq same]
      exact located

/-- A file that was written is there. -/
theorem read?_write {path text : String} (written : d.write path text = .ok e) :
    e.read? path = some text := by
  rw [write] at written
  cases located : d.locate path with
  | error fault =>
      rw [located] at written
      cases written
  | ok place =>
      rw [located] at written
      have after := Except.ok.inj written
      have same : e.directories = d.directories := by rw [← after]
      rw [read?, locate_ok same located, ← after]
      exact List.lookup_cons_self

end Disk

namespace Export

/-- Items that were saved are counted, and their text is in the file. -/
theorem read?_save {disk after : Disk} {path : String} {format : DataFormat} {items : List Item}
    {n : Nat} (saved : save disk path format items = .ok (after, n)) :
    n = items.length ∧ after.read? path = some (text format items) := by
  rw [save] at saved
  cases written : disk.write path (text format items) with
  | error fault =>
      rw [written] at saved
      cases saved
  | ok disk =>
      rw [written] at saved
      cases saved
      exact ⟨rfl, Disk.read?_write written⟩

end Export
end ReviewDesk
