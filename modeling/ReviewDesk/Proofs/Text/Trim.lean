import Mathlib.Data.List.DropRight
import ReviewDesk.Text.Blank

/-!
Trimming takes the blanks at both ends and nothing else: what is left begins and ends with a
character that counts, so it is left alone by a second trimming, and nothing is left of a blank text
only. Blanks that are put around a text make no difference to what is left of it.
-/

namespace ReviewDesk
namespace Text

/-- No character of the text counts. -/
def Blank (s : String) : Prop :=
  ∀ c ∈ s.toList, isBlank c = true

instance (s : String) : Decidable (Blank s) :=
  decidable_of_iff (s.toList.all isBlank = true) List.all_eq_true

variable (drop : Char → Bool)

theorem strip_eq_rdropWhile (cs : List Char) :
    strip drop cs = (cs.dropWhile drop).rdropWhile drop := rfl

theorem strip_eq_nil_iff (cs : List Char) : strip drop cs = [] ↔ ∀ c ∈ cs, drop c = true := by
  rw [strip_eq_rdropWhile, List.rdropWhile_eq_nil_iff]
  constructor
  · intro rest
    cases left : cs.dropWhile drop with
    | nil => exact List.dropWhile_eq_nil_iff.mp left
    | cons c more =>
        -- the first character that is left counts
        have counts : drop c = false := by
          have head := List.head_dropWhile_not drop (l := cs) (by simp [left])
          simpa [left] using head
        rw [rest c (by simp [left])] at counts
        cases counts
  · intro all
    rw [List.dropWhile_eq_nil_iff.mpr all]
    exact fun c member => nomatch member

theorem strip_strip (cs : List Char) : strip drop (strip drop cs) = strip drop cs := by
  have front : (strip drop cs).dropWhile drop = strip drop cs := by
    rw [List.dropWhile_eq_self_iff]
    intro nonempty
    have inside : strip drop cs <+: cs.dropWhile drop := List.rdropWhile_prefix drop _
    have more : cs.dropWhile drop ≠ [] := by
      intro none
      rw [none, List.prefix_nil] at inside
      simp [inside] at nonempty
    have same : (strip drop cs)[0] = (cs.dropWhile drop).head more := by
      rw [List.head_eq_getElem]
      exact inside.getElem nonempty
    rw [same, List.head_dropWhile_not drop more]
    exact Bool.false_ne_true
  conv_lhs => rw [strip_eq_rdropWhile, front]
  exact List.rdropWhile_idempotent drop (cs.dropWhile drop)

theorem strip_append {front back : List Char} (before : ∀ c ∈ front, drop c = true)
    (after : ∀ c ∈ back, drop c = true) (cs : List Char) :
    strip drop (front ++ cs ++ back) = strip drop cs := by
  have ends (ds : List Char) : (ds ++ back).rdropWhile drop = ds.rdropWhile drop := by
    have turned : ∀ c ∈ back.reverse, drop c = true :=
      fun c member => after c (List.mem_reverse.mp member)
    rw [List.rdropWhile, List.reverse_append, List.dropWhile_append_of_pos turned, List.rdropWhile]
  rw [strip_eq_rdropWhile, strip_eq_rdropWhile, List.append_assoc,
    List.dropWhile_append_of_pos before, List.dropWhile_append]
  split
  case isTrue none =>
    rw [List.dropWhile_eq_nil_iff.mpr after, List.isEmpty_iff.mp none]
  case isFalse => exact ends _

theorem strip_of_counts {cs : List Char} (counts : ∀ c ∈ cs, drop c = false) :
    strip drop cs = cs := by
  have stays {ds : List Char} (counts : ∀ c ∈ ds, drop c = false) : ds.dropWhile drop = ds := by
    rw [List.dropWhile_eq_self_iff]
    intro nonempty
    rw [counts _ (List.getElem_mem nonempty)]
    exact Bool.false_ne_true
  have turned : ∀ c ∈ cs.reverse, drop c = false :=
    fun c member => counts c (List.mem_reverse.mp member)
  rw [strip, stays counts, stays turned, List.reverse_reverse]

/-- A text is left alone that begins and ends with a character that counts. -/
theorem strip_of_ends {first last : Char} (begins : drop first = false) (ends : drop last = false)
    (middle : List Char) :
    strip drop (first :: (middle ++ [last])) = first :: (middle ++ [last]) := by
  have front : (first :: (middle ++ [last])).dropWhile drop = first :: (middle ++ [last]) :=
    List.dropWhile_cons_of_neg (by simp [begins])
  have turned : (first :: (middle ++ [last])).reverse = last :: (middle.reverse ++ [first]) := by
    simp
  have back : (last :: (middle.reverse ++ [first])).dropWhile drop =
      last :: (middle.reverse ++ [first]) := List.dropWhile_cons_of_neg (by simp [ends])
  rw [strip, front, turned, back, ← turned, List.reverse_reverse]

theorem exists_strip (cs : List Char) : ∃ front back, (∀ c ∈ front, drop c = true) ∧
    (∀ c ∈ back, drop c = true) ∧ cs = front ++ (strip drop cs ++ back) := by
  refine ⟨cs.takeWhile drop, (cs.dropWhile drop).rtakeWhile drop, fun _ => List.mem_takeWhile_imp,
    fun _ => List.mem_rtakeWhile_imp, ?_⟩
  rw [strip_eq_rdropWhile, List.rdropWhile_append_rtakeWhile, List.takeWhile_append_dropWhile]

theorem trim_trim (s : String) : trim (trim s) = trim s := by
  rw [trim, trim, String.toList_ofList, strip_strip]

theorem trim_eq_empty_iff (s : String) : trim s = "" ↔ Blank s := by
  rw [trim, ← String.toList_inj, String.toList_ofList]
  exact strip_eq_nil_iff isBlank s.toList

theorem trimToOption_eq_none_iff (s : String) : trimToOption s = none ↔ Blank s := by
  rw [← trim_eq_empty_iff, trimToOption]
  simp

theorem trimToOption_of_not_blank {s : String} (counts : ¬Blank s) :
    trimToOption s = some (trim s) := by
  rw [← trim_eq_empty_iff] at counts
  simp [trimToOption, counts]

theorem trimToOption_eq (s : String) :
    trimToOption s = if Blank s then none else some (trim s) := by
  split
  case isTrue blank => exact (trimToOption_eq_none_iff s).mpr blank
  case isFalse counts => exact trimToOption_of_not_blank counts

/-- The text with blanks around it, or with none. -/
def Padded (s t : String) : Prop :=
  ∃ front back, Blank front ∧ Blank back ∧ t = front ++ s ++ back

theorem trimToOption_of_padded {s t : String} (padded : Padded s t) :
    trimToOption t = trimToOption s := by
  obtain ⟨front, back, before, after, rfl⟩ := padded
  have same : trim (front ++ s ++ back) = trim s := by
    rw [trim, trim, String.toList_append, String.toList_append, strip_append isBlank before after]
  rw [trimToOption, trimToOption, same]

/-- There is something in the text, and no blanks are at its ends. -/
structure Trimmed (s : String) : Prop where
  nonempty : s ≠ ""
  trim_eq : trim s = s

variable {s : String}

theorem Trimmed.not_blank (trimmed : Trimmed s) : ¬Blank s := by
  rw [← trim_eq_empty_iff, trimmed.trim_eq]
  exact trimmed.nonempty

theorem trimmed_of_counts (nonempty : s ≠ "") (counts : s.toList.any isBlank = false) :
    Trimmed s := by
  refine ⟨nonempty, ?_⟩
  have each : ∀ c ∈ s.toList, isBlank c = false := by simpa using counts
  rw [trim, strip_of_counts isBlank each, String.ofList_toList]

theorem trimmed_trim (counts : ¬Blank s) : Trimmed (trim s) :=
  ⟨mt (trim_eq_empty_iff s).mp counts, trim_trim s⟩

theorem trimmed_of_mem_trimToOption {t : String} (member : t ∈ trimToOption s) : Trimmed t := by
  by_cases blank : Blank s
  · rw [(trimToOption_eq_none_iff s).mpr blank] at member
    cases member
  · rw [trimToOption_of_not_blank blank] at member
    cases member
    exact trimmed_trim blank

/-- A trimmed text or none, written down and read again. -/
theorem trimToOption_getD {text : Option String} (trimmed : ∀ t ∈ text, Trimmed t) :
    trimToOption (text.getD "") = text := by
  cases text with
  | none => decide +kernel
  | some t =>
      have own := trimmed t rfl
      rw [Option.getD_some, trimToOption_of_not_blank own.not_blank, own.trim_eq]

end Text
end ReviewDesk
