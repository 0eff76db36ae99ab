import Mathlib.Data.Nat.Basic
import Mathlib.Order.Basic
import ReviewDesk.View

/-!
The number of a page and the buttons beside it. All that is said of a page follows from where it
begins: a page that is not the first is one of the pages if it begins before the total.
-/

namespace ReviewDesk

theorem saturatingAdd_toNat (a b : UInt64) :
    (saturatingAdd a b).toNat = min (a.toNat + b.toNat) (UInt64.size - 1) := by
  by_cases bound : a.toNat + b.toNat < UInt64.size
  · rw [saturatingAdd, if_pos bound, UInt64.toNat_add, Nat.mod_eq_of_lt bound]
    omega
  · rw [saturatingAdd, if_neg bound, UInt64.toNat_ofNat_of_lt' (by decide)]
    omega

/-- The sum is given if it is exact. -/
theorem checkedAdd_eq_some_iff {a b sum : UInt64} :
    checkedAdd a b = some sum ↔ sum.toNat = a.toNat + b.toNat := by
  rw [checkedAdd]
  split
  · rename_i fits
    rw [Option.some.injEq, ← UInt64.toNat_inj, UInt64.toNat_add, Nat.mod_eq_of_lt fits]
    exact eq_comm
  · rename_i large
    have bound : sum.toNat < UInt64.size := sum.toNat_lt
    exact ⟨nofun, fun same => (large (same ▸ bound)).elim⟩

theorem checkedAdd_eq_none_iff {a b : UInt64} :
    checkedAdd a b = none ↔ UInt64.size ≤ a.toNat + b.toNat := by
  rw [checkedAdd]
  split
  · rename_i fits
    exact ⟨nofun, fun large => (Nat.not_lt.mpr large fits).elim⟩
  · rename_i large
    exact ⟨fun _ => Nat.not_lt.mp large, fun _ => rfl⟩

theorem saturatingSub_toNat (a b : UInt64) : (saturatingSub a b).toNat = a.toNat - b.toNat := by
  by_cases bound : b ≤ a
  · rw [saturatingSub, if_pos bound]
    exact UInt64.toNat_sub_of_le _ _ bound
  · have less : a.toNat < b.toNat := Nat.lt_of_not_le bound
    rw [saturatingSub, if_neg bound]
    change 0 = _
    omega

theorem saturatingSub_le (a b : UInt64) : saturatingSub a b ≤ a := by
  rw [UInt64.le_iff_toNat_le, saturatingSub_toNat]
  exact Nat.sub_le _ _

/-- Of as many parts as it takes, one at least, each but the first begins before the end. -/
theorem lt_max_one_div_iff {size total number : Nat} (pos : 0 < size) :
    number < max 1 ((total + size - 1) / size) ↔ number = 0 ∨ number * size < total := by
  have begins : number < (total + size - 1) / size ↔ number * size < total := by
    rw [← Nat.succ_le_iff, Nat.le_div_iff_mul_le pos, Nat.succ_mul]
    omega
  rw [← begins]
  omega

namespace Paging

variable (p : Paging)

theorem pageSize_toNat : p.pageSize.toNat = max p.limit.toNat 1 := by
  rw [pageSize]
  split
  · rename_i none
    rw [none]
    rfl
  · rename_i some_
    have positive : 0 < p.limit.toNat := UInt64.pos_iff_ne_zero.mpr some_
    omega

theorem pageSize_pos : 0 < p.pageSize.toNat := by
  rw [pageSize_toNat]
  omega

theorem prev_toNat : p.prev.toNat = p.offset.toNat - p.limit.toNat :=
  saturatingSub_toNat p.offset p.limit

theorem next_toNat : p.next.toNat = min (p.offset.toNat + p.limit.toNat) (UInt64.size - 1) :=
  saturatingAdd_toNat p.offset p.limit

theorem prevEnabled_iff : p.prevEnabled = true ↔ 0 < p.offset.toNat := by
  rw [prevEnabled, decide_eq_true_iff, UInt64.lt_iff_toNat_lt]
  rfl

/-- No sum that is cut off lies below a total. -/
theorem nextEnabled_iff :
    p.nextEnabled = true ↔ p.offset.toNat + p.limit.toNat < p.total.toNat := by
  have bound : p.total.toNat < UInt64.size := p.total.toNat_lt
  rw [nextEnabled, decide_eq_true_iff, UInt64.lt_iff_toNat_lt, saturatingAdd_toNat]
  omega

/-- The number of a page is exact, where there is one. -/
theorem page?_eq_some_iff {page : UInt64} :
    p.page? = some page ↔ page.toNat = p.offset.toNat / p.pageSize.toNat + 1 := by
  rw [page?, checkedAdd_eq_some_iff, UInt64.toNat_div]
  rfl

theorem page?_eq_none_iff :
    p.page? = none ↔ UInt64.size ≤ p.offset.toNat / p.pageSize.toNat + 1 := by
  rw [page?, checkedAdd_eq_none_iff, UInt64.toNat_div]
  rfl

theorem exists_page (numbered : p.offset.toNat / p.pageSize.toNat + 1 < UInt64.size) :
    ∃ page, p.page? = some page ∧ page.toNat = p.offset.toNat / p.pageSize.toNat + 1 := by
  have exact := UInt64.toNat_ofNat_of_lt' numbered
  exact ⟨_, p.page?_eq_some_iff.mpr exact, exact⟩

/-- As many pages as it takes to hold the total. -/
def filled (p : Paging) : UInt64 :=
  if p.total % p.pageSize = 0 then p.total / p.pageSize else p.total / p.pageSize + 1

theorem remainder_eq_zero_iff :
    p.total % p.pageSize = 0 ↔ p.total.toNat % p.pageSize.toNat = 0 := by
  rw [← UInt64.toNat_inj, UInt64.toNat_mod]
  rfl

/-- A page that is not full holds at least two items, so there is a number for the page after the
full ones. -/
theorem full_succ_lt (uneven : p.total.toNat % p.pageSize.toNat ≠ 0) :
    p.total.toNat / p.pageSize.toNat + 1 < UInt64.size := by
  have positive := p.pageSize_pos
  have size : p.pageSize.toNat ≠ 1 := by
    intro one
    exact uneven (by rw [one, Nat.mod_one])
  have small : p.total.toNat / p.pageSize.toNat ≤ p.total.toNat / 2 :=
    Nat.div_le_div_left (by omega) (by decide)
  have bound : p.total.toNat < UInt64.size := p.total.toNat_lt
  have wide : 2 < UInt64.size := by decide
  omega

theorem lt_filled_iff (number : Nat) :
    number < p.filled.toNat ↔ number * p.pageSize.toNat < p.total.toNat := by
  have positive := p.pageSize_pos
  have whole : (p.total / p.pageSize).toNat = p.total.toNat / p.pageSize.toNat :=
    UInt64.toNat_div _ _
  by_cases even : p.total.toNat % p.pageSize.toNat = 0
  · rw [filled, if_pos (p.remainder_eq_zero_iff.mpr even), whole]
    exact Nat.lt_div_iff_mul_lt_of_dvd (Nat.ne_of_gt positive) (Nat.dvd_of_mod_eq_zero even)
  · have more : (p.total / p.pageSize + 1).toNat = p.total.toNat / p.pageSize.toNat + 1 := by
      rw [UInt64.toNat_add, whole]
      exact Nat.mod_eq_of_lt (p.full_succ_lt even)
    rw [filled, if_neg (mt p.remainder_eq_zero_iff.mp even), more, Nat.lt_succ_iff,
      Nat.le_div_iff_mul_le positive]
    refine ⟨fun within => Nat.lt_of_le_of_ne within fun same => ?_, Nat.le_of_lt⟩
    exact even (by rw [← same, Nat.mul_mod_left])

/-- A page is one of the pages if it is the first or begins before the total. -/
theorem lt_pages_iff (number : Nat) :
    number < p.pages.toNat ↔ number = 0 ∨ number * p.pageSize.toNat < p.total.toNat := by
  have pages : p.pages = if p.filled = 0 then 1 else p.filled := rfl
  rw [← lt_filled_iff, pages]
  split
  · rename_i none
    rw [none]
    change number < 1 ↔ number = 0 ∨ number < 0
    omega
  · rename_i some_
    have positive : 0 < p.filled.toNat := UInt64.pos_iff_ne_zero.mpr some_
    omega

theorem pages_toNat :
    p.pages.toNat = max 1 ((p.total.toNat + p.pageSize.toNat - 1) / p.pageSize.toNat) := by
  refine eq_of_forall_lt_iff fun number => ?_
  rw [lt_pages_iff, lt_max_one_div_iff p.pageSize_pos]

variable {p}

theorem pageSize_of_sized (sized : 0 < p.limit.toNat) : p.pageSize.toNat = p.limit.toNat := by
  rw [pageSize_toNat]
  omega

/-- What begins before the total lies on one of the pages. -/
theorem page_of_lt (sized : 0 < p.limit.toNat) (within : p.offset.toNat < p.total.toNat) :
    ∃ page, p.page? = some page ∧ page.toNat = p.offset.toNat / p.limit.toNat + 1 ∧
      page ≤ p.pages := by
  have bound : p.total.toNat < UInt64.size := p.total.toNat_lt
  have before : p.offset.toNat / p.limit.toNat ≤ p.offset.toNat := Nat.div_le_self _ _
  have size := pageSize_of_sized sized
  obtain ⟨page, numbered, exact⟩ := p.exists_page (by rw [size]; omega)
  rw [size] at exact
  refine ⟨page, numbered, exact, ?_⟩
  rw [UInt64.le_iff_toNat_le, exact, Nat.succ_le_iff, lt_pages_iff, size]
  exact .inr (Nat.lt_of_le_of_lt (Nat.div_mul_le_self _ _) within)

/-- The same list from another item on. -/
def turnTo (p : Paging) (offset : UInt64) : Paging :=
  { p with offset := offset }

theorem turn_forward (sized : 0 < p.limit.toNat) (enabled : p.nextEnabled = true) :
    p.next.toNat = p.offset.toNat + p.limit.toNat ∧ p.next < p.total ∧
      (p.turnTo p.next).prev = p.offset ∧
      ∃ later, (p.turnTo p.next).page? = some later ∧
        later.toNat = p.offset.toNat / p.limit.toNat + 1 + 1 ∧ later ≤ p.pages := by
  have within := p.nextEnabled_iff.mp enabled
  have bound : p.total.toNat < UInt64.size := p.total.toNat_lt
  have next : p.next.toNat = p.offset.toNat + p.limit.toNat := by
    rw [next_toNat]
    omega
  have before : (p.turnTo p.next).offset.toNat < p.total.toNat := by
    change p.next.toNat < _
    rw [next]
    exact within
  obtain ⟨later, numbered, exact, among⟩ := page_of_lt (p := p.turnTo p.next) sized before
  refine ⟨next, before, ?_, later, numbered, ?_, among⟩
  · rw [← UInt64.toNat_inj, prev_toNat]
    change p.next.toNat - p.limit.toNat = _
    rw [next, Nat.add_sub_cancel]
  · rw [exact]
    change p.next.toNat / p.limit.toNat + 1 = _
    rw [next, Nat.add_div_right _ sized]

theorem turn_back (sized : 0 < p.limit.toNat)
    (numbered : p.offset.toNat / p.limit.toNat + 1 < UInt64.size) (enabled : p.prevEnabled = true) :
    p.prev < p.offset ∧ ∃ earlier, (p.turnTo p.prev).page? = some earlier ∧
      earlier.toNat = max 1 (p.offset.toNat / p.limit.toNat) := by
  have started := p.prevEnabled_iff.mp enabled
  have less : p.prev.toNat < p.offset.toNat := by
    rw [prev_toNat]
    omega
  have before : (p.offset.toNat - p.limit.toNat) / p.limit.toNat =
      p.offset.toNat / p.limit.toNat - 1 := by
    by_cases first : p.offset.toNat < p.limit.toNat
    · rw [Nat.sub_eq_zero_of_le (Nat.le_of_lt first), Nat.div_eq_of_lt first, Nat.zero_div]
    · have part := Nat.sub_mul_div p.offset.toNat p.limit.toNat 1
      rwa [Nat.mul_one] at part
  have size : (p.turnTo p.prev).pageSize.toNat = p.limit.toNat := pageSize_of_sized sized
  have offset : (p.turnTo p.prev).offset.toNat = p.offset.toNat - p.limit.toNat := p.prev_toNat
  have fits := Nat.lt_of_le_of_lt (Nat.succ_le_succ (Nat.sub_le _ 1)) numbered
  obtain ⟨earlier, found, exact⟩ :=
    (p.turnTo p.prev).exists_page (by rw [size, offset, before]; exact fits)
  refine ⟨less, earlier, found, ?_⟩
  rw [exact, size, offset, before]
  generalize p.offset.toNat / p.limit.toNat = number
  omega

theorem enabled_of_aligned {page : UInt64} (sized : 0 < p.limit.toNat)
    (numbered : p.page? = some page) (aligned : p.limit.toNat ∣ p.offset.toNat) :
    (p.nextEnabled = true ↔ page < p.pages) ∧ (p.prevEnabled = true ↔ 1 < page.toNat) := by
  obtain ⟨number, offset⟩ := aligned
  have size := pageSize_of_sized sized
  have exact := p.page?_eq_some_iff.mp numbered
  rw [size, offset, Nat.mul_div_cancel_left _ sized] at exact
  constructor
  · rw [nextEnabled_iff, UInt64.lt_iff_toNat_lt, exact, lt_pages_iff, size, offset, Nat.succ_mul,
      Nat.mul_comm number]
    simp
  · rw [prevEnabled_iff, exact, offset, Nat.lt_add_left_iff_pos]
    exact Nat.mul_pos_iff_of_pos_left sized

/-- A page has a number where the number is a word. If it begins before the total, its number is one
of the pages. A button that can be pressed leads to the page beside it, and the way back from the next
page is the way to the first item again; and on a page that begins where a page of its size does, a
button can be pressed if there is a page on its side. A session shows just this number and these
buttons. -/
theorem page_number_agrees_with_buttons (p : Paging) (sized : 0 < p.limit.toNat)
    (numbered : p.offset.toNat / p.limit.toNat + 1 < UInt64.size) :
    ∃ page, p.page? = some page ∧
    (p.offset < p.total → 1 ≤ page ∧ page ≤ p.pages) ∧
    (p.nextEnabled = true →
      p.next.toNat = p.offset.toNat + p.limit.toNat ∧ p.next < p.total ∧
        (p.turnTo p.next).prev = p.offset ∧
        ∃ later, (p.turnTo p.next).page? = some later ∧ later.toNat = page.toNat + 1 ∧
          later ≤ p.pages) ∧
    (p.prevEnabled = true →
      p.prev < p.offset ∧ ∃ earlier, (p.turnTo p.prev).page? = some earlier ∧
        earlier.toNat = max 1 (page.toNat - 1)) ∧
    (p.limit.toNat ∣ p.offset.toNat →
      (p.nextEnabled = true ↔ page < p.pages) ∧ (p.prevEnabled = true ↔ 1 < page)) ∧
    ∀ s : Session, s.queue.paging = p → ∃ view, s.view? = some view ∧
      view.pageLabel = "page " ++ toString page.toNat ++ "/" ++ toString p.pages.toNat ∧
      view.prevEnabled = p.prevEnabled ∧ view.nextEnabled = p.nextEnabled := by
  have size := pageSize_of_sized sized
  obtain ⟨page, found, exact⟩ := p.exists_page (by rw [size]; exact numbered)
  rw [size] at exact
  refine ⟨page, found, fun within => ⟨?_, ?_⟩, fun enabled => ?_, fun enabled => ?_,
    fun aligned => enabled_of_aligned sized found aligned, ?_⟩
  · rw [UInt64.le_iff_toNat_le, exact]
    exact Nat.le_add_left 1 _
  · obtain ⟨other, found', -, among⟩ := page_of_lt sized within
    cases found.symm.trans found'
    exact among
  · obtain ⟨next, within, back, later, found', turned, among⟩ := turn_forward sized enabled
    exact ⟨next, within, back, later, found', by rw [turned, exact], among⟩
  · obtain ⟨before, earlier, found', turned⟩ := turn_back sized numbered enabled
    exact ⟨before, earlier, found', by rw [turned, exact, Nat.add_sub_cancel]⟩
  · rintro s rfl
    exact ⟨s.viewAt page, congrArg (Option.map s.viewAt) found, rfl, rfl, rfl⟩

/-- The second of three pages, with one item more than the pages hold. -/
theorem second_page_has_both_buttons :
    0 < (50 : UInt64).toNat ∧ (50 : UInt64).toNat / (50 : UInt64).toNat + 1 < UInt64.size ∧
      (Paging.mk 50 50 101).nextEnabled = true ∧ (Paging.mk 50 50 101).prevEnabled = true ∧
      ∃ page, (Paging.mk 50 50 101).page? = some page ∧ page < (Paging.mk 50 50 101).pages ∧
        ∃ later, ((Paging.mk 50 50 101).turnTo 100).page? = some later ∧
          later.toNat = page.toNat + 1 := by
  have sized : 0 < (50 : UInt64).toNat := by decide
  have numbered : (50 : UInt64).toNat / (50 : UInt64).toNat + 1 < UInt64.size := by decide
  have next : (Paging.mk 50 50 101).nextEnabled = true := by decide
  obtain ⟨page, found, -, forward, -, aligned, -⟩ :=
    page_number_agrees_with_buttons ⟨50, 50, 101⟩ sized numbered
  obtain ⟨-, -, -, later, found', turned, -⟩ := forward next
  exact ⟨sized, numbered, next, by decide, page, found, (aligned (Nat.dvd_refl _)).1.mp next, later,
    found', turned⟩

end Paging

namespace Session

variable {s : Session} {view : View}

/-- A view is one on the page with its number. -/
theorem view?_eq_some_iff :
    s.view? = some view ↔ ∃ page, s.queue.paging.page? = some page ∧ s.viewAt page = view :=
  Option.map_eq_some_iff

theorem view?_eq_none_iff : s.view? = none ↔ s.queue.paging.page? = none :=
  Option.map_eq_none_iff

theorem body_of_view? (shown : s.view? = some view) : view.body = .ofSession s := by
  obtain ⟨page, -, rfl⟩ := view?_eq_some_iff.mp shown
  rfl

theorem form_of_view? (shown : s.view? = some view) : view.form = s.formView := by
  obtain ⟨page, -, rfl⟩ := view?_eq_some_iff.mp shown
  rfl

end Session
end ReviewDesk
