import ReviewDesk.Export.Basic
import ReviewDesk.Proofs.Time.Timestamp
import ReviewDesk.Proofs.Url.Form
import ReviewDesk.Url.Endpoint

/-!
The name of an exported file that was given none. Whatever the host of the server is called, the name
is a single component of plain characters with one point in it, and what follows the point asks for
the format that the file is written in.
-/

namespace ReviewDesk

namespace DataFormat

/-- A name that is a single component is its own last component. -/
theorem fileName?_of_component {name : String} (whole : Text.split '/' name = [name])
    (nonempty : name ≠ "") (notDot : name ≠ ".") (notDots : name ≠ "..") :
    fileName? name = some name := by
  simp [fileName?, whole, nonempty, notDot, notDots]

/-- What follows the last point of a name is its extension, unless the name begins there. -/
theorem extension?_of_point {name : String} {stem ending : List Char}
    (same : name.toList = stem ++ '.' :: ending) (nonempty : stem ≠ []) (plain : '.' ∉ ending) :
    extension? name = some (String.ofList ending) := by
  have turned : name.toList.reverse = ending.reverse ++ '.' :: stem.reverse := by simp [same]
  have before : ∀ c ∈ ending.reverse, decide (c ≠ '.') = true := by
    intro c member
    rw [decide_eq_true_iff]
    rintro rfl
    exact plain (List.mem_reverse.mp member)
  have after : name.toList.reverse.takeWhile (· ≠ '.') = ending.reverse := by
    rw [turned, List.takeWhile_append_of_pos before, List.takeWhile_cons_of_neg (by simp),
      List.append_nil]
  have shorter : ending.length + 1 < name.length := by
    have first := List.length_pos_iff.mpr nonempty
    rw [← String.length_toList, same, List.length_append, List.length_cons]
    omega
  rw [extension?, after, List.reverse_reverse, if_pos shorter]

theorem point_notMem_name (format : DataFormat) : '.' ∉ format.name.toList := by
  cases format with
  | csv | json => decide

/-- A name that ends in the name of a format asks for this format. -/
theorem ofPath_of_point {name : String} {stem : List Char} {format : DataFormat}
    (same : name.toList = stem ++ '.' :: format.name.toList) (nonempty : stem ≠ [])
    (component : fileName? name = some name) (fallback : DataFormat) :
    ofPath name fallback = format := by
  have found := extension?_of_point same nonempty format.point_notMem_name
  rw [String.ofList_toList] at found
  simp only [ofPath, component, Option.bind_some, found, Option.map_some]
  cases format with
  | csv | json => rfl

end DataFormat

namespace Export

/-- A character that means nothing but itself in the name of a file. -/
def IsPlain (c : Char) : Prop := c.isAlphanum ∨ c = '-' ∨ c = '_'

instance : DecidablePred IsPlain := fun c =>
  inferInstanceAs (Decidable (c.isAlphanum ∨ c = '-' ∨ c = '_'))

theorem plain_of_all {cs : List Char} (all : cs.all (IsPlain ·) = true) : ∀ c ∈ cs, IsPlain c :=
  fun c member => of_decide_eq_true (List.all_eq_true.mp all c member)

/-- A name for one file of a directory. -/
structure SafeName (name : String) : Prop where
  lead : "review_".toList <+: name.toList
  plain : ∀ c ∈ name.toList, IsPlain c ∨ c = '.'
  onePoint : name.toList.count '.' = 1
  oneComponent : Text.split '/' name = [name]
  notDot : name ≠ "."
  notDots : name ≠ ".."

theorem SafeName.fileName?_eq {name : String} (safe : SafeName name) :
    DataFormat.fileName? name = some name := by
  have nonempty : name ≠ "" := by
    rintro rfl
    exact absurd safe.lead (by decide)
  exact DataFormat.fileName?_of_component safe.oneComponent nonempty safe.notDot safe.notDots

theorem isPlain_of_isDigit {c : Char} (digit : Decimal.isDigit c = true) : IsPlain c := by
  have known : c.isDigit = true := digit
  left
  rw [Char.isAlphanum, known, Bool.or_true]

theorem plain_safeHost (host : String) : ∀ c ∈ (safeHost host).toList, IsPlain c := by
  intro c member
  rw [safeHost, String.toList_ofList] at member
  obtain ⟨d, -, rfl⟩ := List.mem_map.mp member
  split
  case isTrue kept =>
    rw [Bool.or_eq_true, decide_eq_true_iff] at kept
    exact kept.imp_right .inl
  case isFalse => exact .inr (.inr rfl)

theorem plain_stamp {t : Time.DateTime} (nonneg : 0 ≤ t.date.year) (le : t.date.year ≤ 9999) :
    ∀ c ∈ t.stamp.toList, IsPlain c := by
  intro c member
  obtain ⟨year, same⟩ := Int.eq_ofNat_of_zero_le nonneg
  rw [Time.DateTime.stamp, same, Time.yearText_natCast (by omega), String.toList_ofList] at member
  simp only [List.mem_append, List.mem_singleton] at member
  have digit {width n : ℕ} (member : c ∈ Time.padded width n) : IsPlain c :=
    isPlain_of_isDigit (Time.isDigit_of_mem_padded member)
  rcases member with (((((year | month) | day) | rfl) | hour) | minute) | second
  · exact digit year
  · exact digit month
  · exact digit day
  · exact .inr (.inr rfl)
  · exact digit hour
  · exact digit minute
  · exact digit second

/-- What stands before the point of a default name. -/
theorem exists_stem (base : Url) (format : DataFormat) {time : String}
    (plain : ∀ c ∈ time.toList, IsPlain c) : ∃ stem, (∀ c ∈ stem, IsPlain c) ∧
      "review_".toList <+: stem ∧
      (defaultName base time format).toList = stem ++ '.' :: format.name.toList := by
  let host := (safeHost (base.hostText?.getD "review")).toList
  refine ⟨"review_".toList ++ (host ++ '_' :: time.toList), ?_, List.prefix_append _ _, ?_⟩
  · have lead : ∀ c ∈ "review_".toList, IsPlain c := plain_of_all (by decide)
    intro c member
    simp only [List.mem_append, List.mem_cons] at member
    rcases member with front | safe | rfl | stamped
    · exact lead c front
    · exact plain_safeHost _ c safe
    · exact .inr (.inr rfl)
    · exact plain c stamped
  · simp [defaultName, host]

theorem safeName_of_stem {name : String} {stem : List Char} {format : DataFormat}
    (plain : ∀ c ∈ stem, IsPlain c) (lead : "review_".toList <+: stem)
    (same : name.toList = stem ++ '.' :: format.name.toList) : SafeName name := by
  have front : "review_".toList <+: name.toList := by
    rw [same]
    exact lead.trans (List.prefix_append _ _)
  have ending : ∀ c ∈ format.name.toList, IsPlain c := by
    cases format with
    | csv | json => exact plain_of_all (by decide)
  have chars : ∀ c ∈ name.toList, IsPlain c ∨ c = '.' := by
    intro c member
    rw [same, List.mem_append, List.mem_cons] at member
    rcases member with before | rfl | after
    · exact .inl (plain c before)
    · exact .inr rfl
    · exact .inl (ending c after)
  refine ⟨front, chars, ?_, ?_, ?_, ?_⟩
  · have before : '.' ∉ stem := fun member => absurd (plain '.' member) (by decide)
    rw [same, List.count_append, List.count_cons_self, List.count_eq_zero.mpr before,
      List.count_eq_zero.mpr format.point_notMem_name]
  · have slash : '/' ∉ name.toList := fun member => absurd (chars '/' member) (by decide)
    rw [Text.split, Text.splitChars_plain slash, List.map_singleton, String.ofList_toList]
  · rintro rfl
    exact absurd front (by decide)
  · rintro rfl
    exact absurd front (by decide)

/-- For every host, both formats and every time in a year of four digits, the name that a file is
given is a safe one and asks for the format of the file. Who names the file so gets this format,
whatever format is configured. -/
theorem default_name_is_safe (base : Url) (format : DataFormat) (t : Time.DateTime)
    (nonneg : 0 ≤ t.date.year) (le : t.date.year ≤ 9999) :
    let name := defaultName base t.stamp format
    SafeName name ∧
    (∀ fallback, DataFormat.ofPath name fallback = format) ∧
    (∀ configured time, target (some name) configured base time =
      target none format base t.stamp) := by
  intro name
  obtain ⟨stem, plain, lead, same⟩ := exists_stem base format (plain_stamp nonneg le)
  have safe : SafeName name := safeName_of_stem plain lead same
  have asked (fallback : DataFormat) : DataFormat.ofPath name fallback = format := by
    have nonempty : stem ≠ [] := by
      rintro rfl
      exact absurd lead (by decide)
    exact DataFormat.ofPath_of_point same nonempty safe.fileName?_eq fallback
  refine ⟨safe, asked, fun configured time => ?_⟩
  rw [target, target, asked configured]

/-- A server on an address of the sixth version, whose text has brackets and colons. -/
def loopback : Url where
  scheme := "http"
  authority := some { host := some (.address6 [0, 0, 0, 0, 0, 0, 0, 1]), port := some 8000 }
  path := .rooted false ["v1"]
  query := none
  fragment := none

theorem loopback_name_is_safe :
    Url.parseBase "http://[::1]:8000/v1" = .ok loopback ∧
      let t : Time.DateTime := ⟨⟨2026, 10, 18⟩, 8, 30, 0⟩
      let name := "review____1__20261018_083000.json"
      (0 ≤ t.date.year ∧ t.date.year ≤ 9999) ∧ defaultName loopback t.stamp .json = name ∧
        SafeName name ∧ (∀ fallback, DataFormat.ofPath name fallback = .json) ∧
        ∀ configured time, target (some name) configured loopback time =
          target none .json loopback t.stamp := by
  have name : defaultName loopback (Time.DateTime.stamp ⟨⟨2026, 10, 18⟩, 8, 30, 0⟩) .json =
      "review____1__20261018_083000.json" := by decide +kernel
  have safe := default_name_is_safe loopback .json ⟨⟨2026, 10, 18⟩, 8, 30, 0⟩ (by decide) (by decide)
  rw [name] at safe
  exact ⟨by decide +kernel, by decide, name, safe⟩

end Export
end ReviewDesk
