import ReviewDesk.Proofs.Decimal.ReadBack
import ReviewDesk.Proofs.Time.Calendar
import ReviewDesk.View

/-!
Which texts are timestamps, and how they are shown. A text that names a local time and its offset is
shown as the time of that second at the offset zero; any other text stays as it is, and so does what
is shown.
-/

namespace ReviewDesk

namespace Time

open Decimal (isDigit ofDigits)

theorem isDigit_of_mem_padded {width n : ℕ} {c : Char} (member : c ∈ padded width n) :
    isDigit c = true :=
  (List.mem_append.mp member).elim Decimal.isDigit_of_mem_zeros Decimal.isDigit_of_mem_digitText

theorem ofDigits_padded (width n : ℕ) : ofDigits (padded width n) = n := by
  rw [padded, Decimal.ofDigits_append, Decimal.ofDigits_zeros, Nat.zero_mul, Nat.zero_add,
    Decimal.ofDigits_digitText]

theorem length_padded {width n : ℕ} (some_ : 0 < width) (fits : n < 10 ^ width) :
    (padded width n).length = width := by
  have length : (Decimal.digitText n).length ≤ width :=
    (Nat.length_toDigits_le_iff (by decide) some_).mpr fits
  rw [padded, List.length_append, List.length_replicate]
  omega

/-- A number of so many digits is read from them, and from nothing else. -/
theorem takeNumber?_eq_some_iff {width n : ℕ} {cs rest : List Char} (some_ : 0 < width) :
    takeNumber? width cs = some (n, rest) ↔ n < 10 ^ width ∧ cs = padded width n ++ rest := by
  rw [takeNumber?]
  constructor
  · intro read
    split at read
    · rename_i front
      obtain ⟨length, all⟩ := front
      cases read
      have digits := List.all_eq_true.mp all
      have small := Decimal.ofDigits_lt digits
      rw [length] at small
      refine ⟨small, ?_⟩
      have same := Decimal.ofDigits_inj digits (fun c => isDigit_of_mem_padded)
        (length.trans (length_padded some_ small).symm) (ofDigits_padded width _).symm
      rw [← same, List.take_append_drop]
    · cases read
  · rintro ⟨fits, rfl⟩
    have length := length_padded some_ fits
    have front : (padded width n ++ rest).take width = padded width n :=
      List.take_left' length
    have back : (padded width n ++ rest).drop width = rest := List.drop_left' length
    rw [front, back, if_pos ⟨length, List.all_eq_true.mpr fun c => isDigit_of_mem_padded⟩,
      ofDigits_padded]

theorem takeChar?_eq_some_iff {allowed cs rest : List Char} :
    takeChar? allowed cs = some rest ↔ ∃ c ∈ allowed, cs = c :: rest := by
  cases cs with
  | nil => simp [takeChar?]
  | cons d cs =>
      rw [takeChar?]
      split <;> simp_all

/-- The offset from universal time, in minutes, and how it is spelled. -/
inductive Zone : List Char → ℤ → Prop
  | universal {letter : Char} (zulu : letter = 'Z' ∨ letter = 'z') : Zone [letter] 0
  | ahead {hours minutes : ℕ} (hour : hours < 24) (minute : minutes < 60) :
      Zone ('+' :: (padded 2 hours ++ ':' :: padded 2 minutes)) (hours * 60 + minutes : ℕ)
  | behind {sign : Char} {hours minutes : ℕ} (minus : sign = '-' ∨ sign = '−') (hour : hours < 24)
      (minute : minutes < 60) :
      Zone (sign :: (padded 2 hours ++ ':' :: padded 2 minutes)) (-(hours * 60 + minutes : ℕ))

/-- What is read after the sign of an offset. -/
def takeDistance? (negative : Bool) (cs : List Char) : Option (ℤ × List Char) := do
  let (hours, rest) ← takeNumber? 2 cs
  let rest ← takeChar? [':'] rest
  let (minutes, rest) ← takeNumber? 2 rest
  if hours < 24 ∧ minutes < 60 then
    let offset : ℤ := (hours * 60 + minutes : ℕ)
    some (if negative then -offset else offset, rest)
  else none

theorem takeDistance?_eq_some_iff {negative : Bool} {cs rest : List Char} {offset : ℤ} :
    takeDistance? negative cs = some (offset, rest) ↔ ∃ hours minutes : ℕ, hours < 24 ∧
      minutes < 60 ∧ cs = padded 2 hours ++ ':' :: padded 2 minutes ++ rest ∧
      offset = if negative then -((hours * 60 + minutes : ℕ) : ℤ)
        else (hours * 60 + minutes : ℕ) := by
  simp only [takeDistance?, Option.bind_eq_bind, Option.bind_eq_some_iff, Prod.exists,
    takeNumber?_eq_some_iff Nat.two_pos, takeChar?_eq_some_iff, List.mem_singleton]
  constructor
  · rintro ⟨hours, _, ⟨-, rfl⟩, _, ⟨_, rfl, rfl⟩, minutes, _, ⟨-, rfl⟩, last⟩
    split at last
    · rename_i fits
      cases last
      exact ⟨hours, minutes, fits.1, fits.2, by simp, rfl⟩
    · cases last
  · rintro ⟨hours, minutes, hour, minute, rfl, rfl⟩
    refine ⟨hours, _, ⟨by omega, List.append_assoc _ _ _⟩, _, ⟨_, rfl, rfl⟩, minutes, rest,
      ⟨by omega, rfl⟩, ?_⟩
    rw [if_pos ⟨hour, minute⟩]

theorem takeOffset?_of_minus {sign : Char} (minus : sign = '-' ∨ sign = '−') (rest : List Char) :
    takeOffset? (sign :: rest) = takeDistance? true rest := by
  rcases minus with rfl | rfl <;> rfl

theorem takeOffset?_of_other {sign : Char} (zulu : ¬(sign = 'Z' ∨ sign = 'z')) (plus : sign ≠ '+')
    (minus : ¬(sign = '-' ∨ sign = '−')) (rest : List Char) : takeOffset? (sign :: rest) = none := by
  unfold takeOffset?
  split
  · rename_i same
    exact (zulu (.inl (List.cons.inj same).1)).elim
  · rename_i same
    exact (zulu (.inr (List.cons.inj same).1)).elim
  · rename_i same
    obtain ⟨rfl, rfl⟩ := List.cons.inj same
    simp only [if_neg plus, if_neg minus]
    rfl
  · rfl

theorem takeOffset?_eq_some_iff {cs rest : List Char} {offset : ℤ} :
    takeOffset? cs = some (offset, rest) ↔ ∃ zone, Zone zone offset ∧ cs = zone ++ rest := by
  constructor
  · intro read
    cases cs with
    | nil => cases read
    | cons sign cs =>
        by_cases zulu : sign = 'Z' ∨ sign = 'z'
        · have same : takeOffset? (sign :: cs) = some (0, cs) := by rcases zulu with rfl | rfl <;> rfl
          cases same.symm.trans read
          exact ⟨_, .universal zulu, rfl⟩
        by_cases plus : sign = '+'
        · subst plus
          obtain ⟨hours, minutes, hour, minute, rfl, rfl⟩ := takeDistance?_eq_some_iff.mp read
          exact ⟨_, .ahead hour minute, rfl⟩
        by_cases minus : sign = '-' ∨ sign = '−'
        · rw [takeOffset?_of_minus minus] at read
          obtain ⟨hours, minutes, hour, minute, rfl, rfl⟩ := takeDistance?_eq_some_iff.mp read
          exact ⟨_, .behind minus hour minute, rfl⟩
        · rw [takeOffset?_of_other zulu plus minus] at read
          cases read
  · rintro ⟨zone, spelled, rfl⟩
    cases spelled with
    | universal zulu => rcases zulu with rfl | rfl <;> rfl
    | ahead hour minute =>
        change takeDistance? false _ = some _
        exact takeDistance?_eq_some_iff.mpr ⟨_, _, hour, minute, rfl, rfl⟩
    | behind minus hour minute =>
        rw [List.cons_append, takeOffset?_of_minus minus]
        exact takeDistance?_eq_some_iff.mpr ⟨_, _, hour, minute, rfl, rfl⟩

/-- No fraction of a second, or a point and digits. -/
inductive Fraction : List Char → Prop
  | none : Fraction []
  | digits {ds : List Char} (some_ : ds ≠ []) (digits : ∀ c ∈ ds, isDigit c = true) :
      Fraction ('.' :: ds)

theorem Zone.head {zone : List Char} {offset : ℤ} (spelled : Zone zone offset) :
    ∃ c tail, zone = c :: tail ∧ isDigit c = false ∧ c ≠ '.' := by
  cases spelled with
  | universal zulu => rcases zulu with rfl | rfl <;> exact ⟨_, _, rfl, by decide, by decide⟩
  | ahead => exact ⟨_, _, rfl, by decide, by decide⟩
  | behind minus => rcases minus with rfl | rfl <;> exact ⟨_, _, rfl, by decide, by decide⟩

theorem fraction_of_skipFraction? {cs rest : List Char} (read : skipFraction? cs = some rest) :
    ∃ fraction, Fraction fraction ∧ cs = fraction ++ rest := by
  unfold skipFraction? at read
  split at read
  · rename_i more
    dsimp only at read
    split at read
    · cases read
    · rename_i some_
      cases read
      refine ⟨'.' :: more.takeWhile isDigit, .digits (by simpa [Decimal.spanDigits] using some_)
        (fun c => List.mem_takeWhile_imp), ?_⟩
      simp [Decimal.spanDigits]
  · cases read
    exact ⟨[], .none, rfl⟩

theorem skipFraction?_of_fraction {fraction zone rest : List Char} {offset : ℤ}
    (fractional : Fraction fraction) (spelled : Zone zone offset) :
    skipFraction? (fraction ++ (zone ++ rest)) = some (zone ++ rest) := by
  obtain ⟨c, tail, rfl, stop, point⟩ := spelled.head
  cases fractional with
  | none =>
      unfold skipFraction?
      split
      · rename_i same
        exact (point (List.cons.inj same).1).elim
      · rfl
  | @digits ds some_ digits =>
      have span : Decimal.spanDigits (ds ++ (c :: tail ++ rest)) = (ds, c :: tail ++ rest) :=
        Decimal.spanDigits_of_stop digits (by simp [stop])
      rw [List.cons_append, skipFraction?, span]
      simp [some_]

/-- The digits of a date. -/
def Date.chars (d : Date) : List Char :=
  yearText d.year ++ '-' :: (padded 2 d.month ++ '-' :: padded 2 d.day)

/-- The digits of a time of day. -/
def DateTime.clockChars (t : DateTime) : List Char :=
  padded 2 t.hour ++ ':' :: (padded 2 t.minute ++ ':' :: padded 2 t.second)

theorem DateTime.toList_text (t : DateTime) :
    t.text.toList = t.date.chars ++ ' ' :: t.clockChars := by
  simp only [text, Date.chars, clockChars, String.toList_ofList, List.append_assoc,
    List.cons_append, List.nil_append]

theorem yearText_natCast {year : ℕ} (le : year ≤ 9999) : yearText year = padded 4 year := by
  have nonneg : ¬(year : ℤ) < 0 := by omega
  have few : ¬(9999 : ℤ) < year := by omega
  rw [yearText, if_neg nonneg, if_neg few, List.nil_append, Int.natAbs_natCast]

theorem Date.length_chars {d : Date} (valid : d.Valid) (nonneg : 0 ≤ d.year)
    (le : d.year ≤ 9999) : d.chars.length = 10 := by
  obtain ⟨year, month, day⟩ := d
  dsimp only at nonneg le
  obtain ⟨year, rfl⟩ := Int.eq_ofNat_of_zero_le nonneg
  have months := valid.month_le
  have days := valid.day_le.trans (daysInMonth_le _ _)
  dsimp only at months days
  rw [chars, yearText_natCast (by omega)]
  simp only [List.length_append, List.length_cons]
  rw [length_padded (by decide) (by omega), length_padded (by decide) (by omega),
    length_padded (by decide) (by omega)]

theorem DateTime.length_clockChars {t : DateTime} (clock : t.OnClock) :
    t.clockChars.length = 8 := by
  obtain ⟨-, hour, minute, second⟩ := clock
  simp only [clockChars, List.length_append, List.length_cons]
  rw [length_padded (by decide) (by omega), length_padded (by decide) (by omega),
    length_padded (by decide) (by omega)]

/-- The text names a local time, which may be a leap second, and its offset in minutes. -/
structure Names (raw : String) (t : DateTime) (offset : ℤ) : Prop where
  clock : t.OnClock
  year_nonneg : 0 ≤ t.date.year
  year_le : t.date.year ≤ 9999
  spelled : ∃ separator ∈ ['T', 't', ' '], ∃ fraction zone, Fraction fraction ∧ Zone zone offset ∧
    raw.toList = t.date.chars ++ separator :: (t.clockChars ++ (fraction ++ zone))

/-- A text is read as a time if it names one, and then it is this time at the offset zero. -/
theorem parse?_eq_some_iff {raw : String} {u : DateTime} :
    parse? raw = some u ↔ ∃ t offset, Names raw t offset ∧ u = t.toUtc offset := by
  simp only [parse?, Option.bind_eq_bind, Option.bind_eq_some_iff, Prod.exists,
    takeNumber?_eq_some_iff Nat.two_pos, takeNumber?_eq_some_iff (Nat.zero_lt_succ 3),
    takeChar?_eq_some_iff, takeOffset?_eq_some_iff, List.mem_singleton]
  constructor
  · rintro ⟨year, _, ⟨years, text⟩, _, ⟨_, rfl, rfl⟩, month, _, ⟨-, rfl⟩, _, ⟨_, rfl, rfl⟩, day, _,
      ⟨-, rfl⟩, _, ⟨separator, allowed, rfl⟩, hour, _, ⟨-, rfl⟩, _, ⟨_, rfl, rfl⟩, minute, _,
      ⟨-, rfl⟩, _, ⟨_, rfl, rfl⟩, second, _, ⟨-, rfl⟩, _, read, offset, _, ⟨zone, spelled, rfl⟩,
      last⟩
    split at last
    · rename_i fits
      obtain ⟨valid, hours, minutes, seconds, ended⟩ := fits
      obtain ⟨fraction, fractional, rfl⟩ := fraction_of_skipFraction? read
      rw [List.isEmpty_iff.mp ended] at text
      cases last
      refine ⟨_, _, ⟨⟨Date.isValid_iff.mp valid, hours, minutes, seconds⟩, Int.natCast_nonneg year,
        by dsimp only; omega, separator, allowed, fraction, zone, fractional, spelled, ?_⟩, rfl⟩
      rw [text, Date.chars, DateTime.clockChars, yearText_natCast (by omega)]
      simp only [List.append_assoc, List.cons_append, List.append_nil]
    · cases last
  · rintro ⟨⟨⟨year, month, day⟩, hour, minute, second⟩, offset, names, rfl⟩
    obtain ⟨⟨valid, hours, minutes, seconds⟩, nonneg, most, separator, allowed, fraction, zone,
      fractional, spelled, text⟩ := names
    dsimp only at *
    obtain ⟨year, rfl⟩ := Int.eq_ofNat_of_zero_le nonneg
    have months := valid.month_le
    have days := valid.day_le.trans (daysInMonth_le _ _)
    dsimp only at months days
    rw [Date.chars, DateTime.clockChars, yearText_natCast (by omega)] at text
    simp only [List.append_assoc, List.cons_append] at text
    refine ⟨year, _, ⟨by omega, text⟩, _, ⟨_, rfl, rfl⟩, month, _, ⟨by omega, rfl⟩, _,
      ⟨_, rfl, rfl⟩, day, _, ⟨by omega, rfl⟩, _, ⟨separator, allowed, rfl⟩, hour, _, ⟨by omega, rfl⟩, _,
      ⟨_, rfl, rfl⟩, minute, _, ⟨by omega, rfl⟩, _, ⟨_, rfl, rfl⟩, second, _, ⟨by omega, rfl⟩,
      zone, ?_, offset, [], ⟨zone, spelled, (List.append_nil zone).symm⟩, ?_⟩
    · have skipped : skipFraction? (fraction ++ (zone ++ [])) = some (zone ++ []) :=
        skipFraction?_of_fraction fractional spelled
      rwa [List.append_nil] at skipped
    · rw [if_pos ⟨Date.isValid_iff.mpr valid, hours, minutes, seconds, rfl⟩]

variable {raw : String} {t : DateTime} {offset : ℤ}

theorem Zone.minutes {zone : List Char} (spelled : Zone zone offset) :
    -1440 < offset ∧ offset < 1440 := by
  cases spelled with
  | universal => decide
  | ahead => omega
  | behind => omega

namespace Names

theorem offset_bounds (names : Names raw t offset) : -1440 < offset ∧ offset < 1440 :=
  have ⟨_, _, _, _, _, spelled, _⟩ := names.spelled
  spelled.minutes

theorem parse (names : Names raw t offset) : parse? raw = some (t.toUtc offset) :=
  parse?_eq_some_iff.mpr ⟨t, offset, names, rfl⟩

theorem utc (names : Names raw t offset) :
    (t.toUtc offset).OnClock ∧ (t.toUtc offset).number = t.number - 60 * offset :=
  DateTime.toUtc_number names.clock names.offset_bounds.1 names.offset_bounds.2

theorem utc_valid (names : Names raw t offset) (regular : t.second < 60) :
    (t.toUtc offset).Valid :=
  ⟨names.utc.1, regular⟩

end Names

theorem yearText_head (year : ℤ) : ∃ c rest, yearText year = c :: rest ∧
    (isDigit c = true ↔ 0 ≤ year ∧ year ≤ 9999) ∧ Text.isBlank c = false := by
  rcases lt_or_ge year 0 with negative | nonneg
  · refine ⟨'-', _, by rw [yearText, if_pos negative]; rfl, ?_, by decide⟩
    exact iff_of_false (by decide) fun within => by omega
  rcases lt_or_ge 9999 year with many | few
  · refine ⟨'+', _, by rw [yearText, if_neg (by omega), if_pos many]; rfl, ?_, by decide⟩
    exact iff_of_false (by decide) fun within => by omega
  · obtain ⟨year, rfl⟩ := Int.eq_ofNat_of_zero_le nonneg
    rw [yearText_natCast (by omega)]
    have length : (padded 4 year).length = 4 := length_padded (by decide) (by omega)
    obtain ⟨c, rest, shape⟩ := List.exists_cons_of_length_eq_add_one length
    have digit : isDigit c = true := isDigit_of_mem_padded (by rw [shape]; exact .head _)
    exact ⟨c, rest, shape, iff_of_true digit ⟨nonneg, few⟩, Decimal.isBlank_of_isDigit digit⟩

theorem Date.chars_head (d : Date) : ∃ c rest, d.chars = c :: rest ∧
    (isDigit c = true ↔ 0 ≤ d.year ∧ d.year ≤ 9999) ∧ Text.isBlank c = false := by
  obtain ⟨c, rest, shape, head⟩ := yearText_head d.year
  exact ⟨c, rest ++ _, by rw [chars, shape, List.cons_append], head⟩

theorem DateTime.text_head (t : DateTime) : ∃ c rest, t.text.toList = c :: rest ∧
    (isDigit c = true ↔ 0 ≤ t.date.year ∧ t.date.year ≤ 9999) ∧ Text.isBlank c = false := by
  obtain ⟨c, rest, shape, head⟩ := t.date.chars_head
  exact ⟨c, rest ++ _, by rw [t.toList_text, shape, List.cons_append], head⟩

/-- The first character of a timestamp is a digit of the year. -/
theorem Names.head (names : Names raw t offset) :
    ∃ c rest, raw.toList = c :: rest ∧ isDigit c = true := by
  obtain ⟨c, rest, shape, digit, -⟩ := t.date.chars_head
  obtain ⟨separator, -, fraction, zone, -, -, spelled⟩ := names.spelled
  exact ⟨c, rest ++ _, by rw [spelled, shape, List.cons_append],
    digit.mpr ⟨names.year_nonneg, names.year_le⟩⟩

theorem Names.not_blank (names : Names raw t offset) : ¬Text.Blank raw := by
  obtain ⟨c, rest, shape, digit⟩ := names.head
  intro blank
  have drop := blank c (by rw [shape]; exact .head _)
  rw [Decimal.isBlank_of_isDigit digit] at drop
  cases drop

theorem Names.length (names : Names raw t offset) : 20 ≤ raw.toList.length := by
  obtain ⟨separator, -, fraction, zone, -, zoned, spelled⟩ := names.spelled
  obtain ⟨c, rest, rfl, -⟩ := zoned.head
  rw [spelled]
  simp only [List.length_append, List.length_cons,
    Date.length_chars names.clock.date names.year_nonneg names.year_le,
    DateTime.length_clockChars names.clock]
  omega

/-- A time that is shown has no offset, so that it is no timestamp. -/
theorem DateTime.parse?_text (clock : t.OnClock) : parse? t.text = none := by
  refine Option.eq_none_iff_forall_ne_some.mpr fun u read => ?_
  obtain ⟨v, offset, names, -⟩ := parse?_eq_some_iff.mp read
  obtain ⟨c, rest, shape, within, -⟩ := t.text_head
  obtain ⟨d, _, same, digit⟩ := names.head
  obtain rfl : c = d := (List.cons.inj (shape.symm.trans same)).1
  obtain ⟨nonneg, le⟩ := within.mp digit
  have long := names.length
  rw [t.toList_text, List.length_append, List.length_cons,
    Date.length_chars clock.date nonneg le, DateTime.length_clockChars clock] at long
  omega

theorem DateTime.text_not_blank (t : DateTime) : ¬Text.Blank t.text := by
  obtain ⟨c, rest, shape, -, counts⟩ := t.text_head
  intro blank
  have drop := blank c (by rw [shape]; exact .head _)
  rw [counts] at drop
  cases drop

end Time

namespace View

open Time

variable {raw : String} {t : DateTime} {offset : ℤ}

theorem timestampText_of_blank (blank : Text.Blank raw) : timestampText (some raw) = missing := by
  simp only [timestampText, (Text.trimToOption_eq_none_iff raw).mpr blank, Option.isNone_none,
    if_true]

theorem timestampText_of_not_blank (counts : ¬Text.Blank raw) :
    timestampText (some raw) = (parse? raw).elim raw (·.text) := by
  simp only [timestampText, Text.trimToOption_of_not_blank counts, Option.isNone_some,
    Bool.false_eq_true, if_false]
  cases parse? raw <;> rfl

theorem timestampText_of_names (names : Names raw t offset) :
    timestampText (some raw) = (t.toUtc offset).text := by
  rw [timestampText_of_not_blank names.not_blank, names.parse, Option.elim_some]

theorem timestampText_of_parse?_eq_none (other : parse? raw = none) (counts : ¬Text.Blank raw) :
    timestampText (some raw) = raw := by
  rw [timestampText_of_not_blank counts, other, Option.elim_none]

theorem parse?_missing : parse? missing = none := by decide +kernel

theorem missing_not_blank : ¬Text.Blank missing := by decide +kernel

/-- What is shown of a timestamp is shown as it is. -/
theorem timestampText_idem (value : Option String) :
    timestampText (some (timestampText value)) = timestampText value := by
  have shownMissing : timestampText (some missing) = missing :=
    timestampText_of_parse?_eq_none parse?_missing missing_not_blank
  cases value with
  | none => exact shownMissing
  | some raw =>
      by_cases blank : Text.Blank raw
      · rw [timestampText_of_blank blank]
        exact shownMissing
      cases read : parse? raw with
      | none =>
          have same := timestampText_of_parse?_eq_none read blank
          rw [same, same]
      | some u =>
          obtain ⟨t, offset, names, rfl⟩ := parse?_eq_some_iff.mp read
          rw [timestampText_of_names names]
          exact timestampText_of_parse?_eq_none (DateTime.parse?_text names.utc.1)
            (DateTime.text_not_blank _)

/-- A timestamp is shown as its second at the offset zero, whatever its offset and spelling; every
other text stays as it is. -/
theorem timestamps_tell_the_instant :
    (∀ raw t offset, Names raw t offset → t.second < 60 →
      ∃ u : DateTime, u.Valid ∧ u.number = t.number - 60 * offset ∧
        timestampText (some raw) = u.text) ∧
    (∀ raw raw' t t' offset offset', Names raw t offset → Names raw' t' offset' →
      t.second < 60 → t'.second < 60 → t.number - 60 * offset = t'.number - 60 * offset' →
        timestampText (some raw) = timestampText (some raw')) ∧
    (∀ raw t, Names raw t 0 →
      (timestampText (some raw)).toList = t.date.chars ++ ' ' :: t.clockChars) ∧
    (∀ raw, ¬Text.Blank raw → (∀ t offset, ¬Names raw t offset) →
      timestampText (some raw) = raw) ∧
    ∀ value, timestampText (some (timestampText value)) = timestampText value := by
  refine ⟨?instant, ?same, ?own, ?other, timestampText_idem⟩
  case instant =>
    intro raw t offset names regular
    exact ⟨_, names.utc_valid regular, names.utc.2, timestampText_of_names names⟩
  case same =>
    intro raw raw' t t' offset offset' names names' regular regular' instant
    have second : (t.toUtc offset).number = (t'.toUtc offset').number := by
      rw [names.utc.2, names'.utc.2, instant]
    rw [timestampText_of_names names, timestampText_of_names names',
      DateTime.number_inj (names.utc_valid regular) (names'.utc_valid regular') second]
  case own =>
    intro raw t names
    rw [timestampText_of_names names, DateTime.toUtc_zero names.clock, t.toList_text]
  case other =>
    intro raw counts none_
    refine timestampText_of_parse?_eq_none ?_ counts
    refine Option.eq_none_iff_forall_ne_some.mpr fun u read => ?_
    obtain ⟨t, offset, names, -⟩ := parse?_eq_some_iff.mp read
    exact none_ t offset names

example : timestampText (some "2024-03-01T00:30:15.5+01:00") = "2024-02-29 23:30:15" := by
  decide +kernel

end View
end ReviewDesk
