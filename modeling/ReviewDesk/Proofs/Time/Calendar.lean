import ReviewDesk.Time.Civil

/-!
Days and seconds of the calendar, counted one after another. Every valid date has a number of its
own, the next date has the next number, and a local time without its offset is the time at the offset
zero of the same second.
-/

namespace ReviewDesk.Time

/-- The days of the years from the year zero up to a year. -/
def daysBeforeYear (year : Int) : Int :=
  365 * year + (year + 3) / 4 - (year + 99) / 100 + (year + 399) / 400

/-- The days of the first months of a year. -/
def daysThrough (year : Int) : Nat → Nat
  | 0 => 0
  | month + 1 => daysThrough year month + daysInMonth year (month + 1)

/-- The number of a day, the last day before the year zero having none. -/
def Date.number (d : Date) : Int :=
  daysBeforeYear d.year + daysThrough d.year (d.month - 1) + d.day

theorem daysBeforeYear_succ (year : Int) :
    daysBeforeYear (year + 1) = daysBeforeYear year + if isLeap year then 366 else 365 := by
  simp only [daysBeforeYear, isLeap, Bool.and_eq_true, Bool.or_eq_true, beq_iff_eq, bne_iff_ne]
  split <;> omega

theorem daysBeforeYear_mono {year later : Int} (le : year ≤ later) :
    daysBeforeYear year ≤ daysBeforeYear later := by
  obtain rfl | lt := Int.le_iff_eq_or_lt.mp le
  · exact Int.le_refl _
  · simp only [daysBeforeYear]
    omega

theorem daysThrough_year (year : Int) :
    (daysThrough year 12 : Int) = if isLeap year then 366 else 365 := by
  cases leap : isLeap year <;> simp [daysThrough, daysInMonth, leap]

theorem daysThrough_mono (year : Int) {month later : Nat} (le : month ≤ later) :
    daysThrough year month ≤ daysThrough year later := by
  induction le with
  | refl => exact Nat.le_refl _
  | step _ ih => exact Nat.le_trans ih (Nat.le_add_right _ _)

theorem daysInMonth_pos (year : Int) (month : Nat) : 1 ≤ daysInMonth year month := by
  rw [daysInMonth]
  split
  · split <;> decide
  · split <;> decide

theorem daysInMonth_le (year : Int) (month : Nat) : daysInMonth year month ≤ 31 := by
  rw [daysInMonth]
  split
  · split <;> decide
  · split <;> decide

/-- A date that there is. -/
structure Date.Valid (d : Date) : Prop where
  month_pos : 1 ≤ d.month
  month_le : d.month ≤ 12
  day_pos : 1 ≤ d.day
  day_le : d.day ≤ daysInMonth d.year d.month

namespace Date

variable {d e : Date}

theorem isValid_iff : d.isValid = true ↔ d.Valid := by
  simp only [isValid, Bool.and_eq_true, decide_eq_true_iff]
  constructor
  · rintro ⟨⟨⟨first, last⟩, one⟩, most⟩
    exact ⟨first, last, one, most⟩
  · intro valid
    exact ⟨⟨⟨valid.month_pos, valid.month_le⟩, valid.day_pos⟩, valid.day_le⟩

theorem daysThrough_month (valid : d.Valid) :
    daysThrough d.year d.month =
      daysThrough d.year (d.month - 1) + daysInMonth d.year d.month := by
  have month : d.month - 1 + 1 = d.month := Nat.sub_add_cancel valid.month_pos
  rw [← month, daysThrough, month]

theorem number_bounds (valid : d.Valid) :
    daysBeforeYear d.year < d.number ∧ d.number ≤ daysBeforeYear (d.year + 1) := by
  have whole := daysThrough_year d.year
  have months := daysThrough_mono d.year valid.month_le
  have month := daysThrough_month valid
  have first := valid.day_pos
  have last := valid.day_le
  rw [daysBeforeYear_succ, ← whole, number]
  omega

/-- No two dates have the same number. -/
theorem number_inj (valid : d.Valid) (valid' : e.Valid) (same : d.number = e.number) : d = e := by
  obtain ⟨low, high⟩ := number_bounds valid
  obtain ⟨low', high'⟩ := number_bounds valid'
  have years {year later : Int} (low : daysBeforeYear later < d.number)
      (high : d.number ≤ daysBeforeYear (year + 1)) : later ≤ year := by
    refine Int.not_lt.mp fun beyond => ?_
    have mono := daysBeforeYear_mono (Int.add_one_le_of_lt beyond)
    omega
  have year : d.year = e.year :=
    Int.le_antisymm (years low (same ▸ high')) (years (same ▸ low') high)
  obtain ⟨year, month, day⟩ := d
  obtain ⟨_, month', day'⟩ := e
  cases year
  have through := daysThrough_month valid
  have through' := daysThrough_month valid'
  obtain ⟨-, -, first, last⟩ := valid
  obtain ⟨-, -, first', last'⟩ := valid'
  simp only [number] at *
  have months : month = month' := by
    rcases Nat.lt_trichotomy month month' with before | same | after
    · have mono := daysThrough_mono year (Nat.le_sub_one_of_lt before)
      omega
    · exact same
    · have mono := daysThrough_mono year (Nat.le_sub_one_of_lt after)
      omega
  subst months
  have days : day = day' := by omega
  rw [days]

/-- The last day of the year before. -/
theorem number_newYear (year : Int) :
    number ⟨year, 1, 1⟩ = daysBeforeYear year + 1 ∧
      number ⟨year - 1, 12, 31⟩ = daysBeforeYear year := by
  constructor
  · change daysBeforeYear year + ((0 : Nat) : Int) + ((1 : Nat) : Int) = _
    omega
  have whole := daysThrough_year (year - 1)
  have before := daysBeforeYear_succ (year - 1)
  have december : daysInMonth (year - 1) 12 = 31 := rfl
  rw [Int.sub_add_cancel, ← whole, daysThrough, december] at before
  change daysBeforeYear (year - 1) + (daysThrough (year - 1) 11 : Int) + ((31 : Nat) : Int) = _
  omega

theorem newYear_valid (year : Int) : Date.Valid ⟨year, 1, 1⟩ :=
  ⟨Nat.le_refl 1, Nat.le_add_left 1 11, Nat.le_refl 1, daysInMonth_pos _ _⟩

theorem yearEnd_valid (year : Int) : Date.Valid ⟨year, 12, 31⟩ :=
  ⟨Nat.le_add_left 1 11, Nat.le_refl 12, Nat.le_add_left 1 30, Nat.le_refl 31⟩

theorem next_valid (valid : d.Valid) : d.next.Valid ∧ d.next.number = d.number + 1 := by
  obtain ⟨year, month, day⟩ := d
  have through := daysThrough_month valid
  obtain ⟨start, end_, first, last⟩ := valid
  dsimp only at *
  rw [next]
  dsimp only
  split
  · rename_i more
    refine ⟨⟨start, end_, Nat.le_add_left 1 _, more⟩, ?_⟩
    simp only [number]
    omega
  split
  · rename_i more
    refine ⟨⟨Nat.le_add_left 1 _, more, Nat.le_refl 1, daysInMonth_pos _ _⟩, ?_⟩
    simp only [number, Nat.add_sub_cancel]
    omega
  · rename_i full december
    obtain rfl : month = 12 := Nat.le_antisymm end_ (Nat.le_of_not_lt december)
    obtain rfl : day = 31 := Nat.le_antisymm last (Nat.le_of_not_lt full)
    have ended := (number_newYear (year + 1)).2
    rw [Int.add_sub_cancel] at ended
    exact ⟨newYear_valid _, by rw [(number_newYear _).1, ended]⟩

theorem prev_valid (valid : d.Valid) : d.prev.Valid ∧ d.prev.number = d.number - 1 := by
  obtain ⟨year, month, day⟩ := d
  obtain ⟨start, end_, first, last⟩ := valid
  dsimp only at *
  rw [prev]
  dsimp only
  split
  · rename_i more
    refine ⟨⟨start, end_, Nat.le_sub_one_of_lt more, Nat.le_trans (Nat.sub_le _ _) last⟩, ?_⟩
    simp only [number]
    omega
  split
  · rename_i before more
    have valid : Date.Valid ⟨year, month - 1, daysInMonth year (month - 1)⟩ :=
      ⟨Nat.le_sub_one_of_lt more, Nat.le_trans (Nat.sub_le _ _) end_, daysInMonth_pos _ _,
        Nat.le_refl _⟩
    have through := daysThrough_month valid
    refine ⟨valid, ?_⟩
    simp only [number] at through before ⊢
    omega
  · rename_i one january
    obtain rfl : month = 1 := Nat.le_antisymm (Nat.le_of_not_lt january) start
    obtain rfl : day = 1 := Nat.le_antisymm (Nat.le_of_not_lt one) first
    refine ⟨yearEnd_valid _, ?_⟩
    rw [(number_newYear year).1, (number_newYear year).2, Int.add_sub_cancel]

end Date

/-- A time that there is, or a leap second. -/
structure DateTime.OnClock (t : DateTime) : Prop where
  date : t.date.Valid
  hour : t.hour < 24
  minute : t.minute < 60
  second : t.second ≤ 60

/-- A time that there is, no leap second. -/
structure DateTime.Valid (t : DateTime) : Prop extends OnClock t where
  regular : t.second < 60

/-- The seconds from one time to another are the difference of these numbers. -/
def DateTime.number (t : DateTime) : Int :=
  ((t.date.number * 24 + t.hour) * 60 + t.minute) * 60 + t.second

/-- Two times of the same second are the same. -/
theorem DateTime.number_inj {t u : DateTime} (valid : t.Valid) (valid' : u.Valid)
    (same : t.number = u.number) : t = u := by
  obtain ⟨⟨date, hour, minute, -⟩, second⟩ := valid
  obtain ⟨⟨date', hour', minute', -⟩, second'⟩ := valid'
  simp only [number] at same
  have dates := Date.number_inj date date' (by omega)
  obtain ⟨d, h, m, s⟩ := t
  obtain ⟨d', h', m', s'⟩ := u
  simp only at *
  subst dates
  obtain rfl : h = h' := by omega
  obtain rfl : m = m' := by omega
  obtain rfl : s = s' := by omega
  rfl

namespace DateTime

variable {t : DateTime} {offset : Int}

/-- A time at an offset is as many minutes later at the offset zero, and less than a day away. -/
theorem toUtc_number (clock : t.OnClock) (low : -1440 < offset) (high : offset < 1440) :
    (t.toUtc offset).OnClock ∧ (t.toUtc offset).number = t.number - 60 * offset := by
  have earlier := Date.prev_valid clock.date
  have later := Date.next_valid clock.date
  obtain ⟨valid, hour, minute, second⟩ := clock
  obtain ⟨date, h, m, s⟩ := t
  have ofDay (minutes : Int) :
      (minutes % 1440).toNat / 60 < 24 ∧ (minutes % 1440).toNat % 60 < 60 := by omega
  simp only [toUtc, number] at *
  split
  · exact ⟨⟨earlier.1, (ofDay _).1, (ofDay _).2, second⟩, by omega⟩
  split
  · exact ⟨⟨valid, (ofDay _).1, (ofDay _).2, second⟩, by omega⟩
  · exact ⟨⟨later.1, (ofDay _).1, (ofDay _).2, second⟩, by omega⟩

theorem toUtc_zero (clock : t.OnClock) : t.toUtc 0 = t := by
  obtain ⟨-, hour, minute, -⟩ := clock
  obtain ⟨date, h, m, s⟩ := t
  dsimp only at hour minute
  have start : ¬((h * 60 + m : Nat) : Int) - 0 < 0 := by omega
  have sameDay : ((h * 60 + m : Nat) : Int) - 0 < 1440 := by omega
  have hours : ((((h * 60 + m : Nat) : Int) - 0) % 1440).toNat / 60 = h := by omega
  have minutes : ((((h * 60 + m : Nat) : Int) - 0) % 1440).toNat % 60 = m := by omega
  simp only [toUtc, if_neg start, if_pos sameDay, hours, minutes]

end DateTime

end ReviewDesk.Time
