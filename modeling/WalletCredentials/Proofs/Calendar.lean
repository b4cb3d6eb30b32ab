import Mathlib.Tactic.Common
import Mathlib.Tactic.IntervalCases
import WalletCredentials.Calendar

/-!
# Days and dates

Every count of days is the count of its date, and that date is one of the calendar. An era of
400 years is taken apart into centuries, periods of four years, years and days, in terms of
which the year of a day is a sum. Every day of the calendar is the date of its count, and so the
dates follow each other as the calendar has it: by the lengths of the months and the leap years.
-/

namespace WalletCredentials.Calendar

/-- The place of a day in its era: the century, the period of four years, the year and the
day. Only the last year of a period has a day 365, and the last period of a century has it
only in the last century. -/
structure Place where
  century : Int
  period : Int
  year : Int
  day : Int
  century_le : 0 ≤ century ∧ century ≤ 3
  period_le : 0 ≤ period ∧ period ≤ 24
  year_le : 0 ≤ year ∧ year ≤ 3
  day_le : 0 ≤ day ∧ day ≤ 365
  leap_day : day = 365 → year = 3 ∧ (period = 24 → century = 3)

namespace Place

/-- The number of days of the era before a day. -/
def dayOfEra (p : Place) : Int := 36524 * p.century + 1461 * p.period + 365 * p.year + p.day

/-- The number of years of the era before the year of a day. -/
def yearOfEra (p : Place) : Int := 100 * p.century + 4 * p.period + p.year

theorem exists_dayOfEra_eq {e : Int} (h : 0 ≤ e ∧ e < 146097) : ∃ p : Place, p.dayOfEra = e := by
  let century := min 3 (e / 36524)
  let rest := e - 36524 * century
  let year := min 3 (rest % 1461 / 365)
  have hcentury : century = min 3 (e / 36524) := rfl
  have hrest : rest = e - 36524 * century := rfl
  have hyear : year = min 3 (rest % 1461 / 365) := rfl
  exact ⟨⟨century, rest / 1461, year, rest % 1461 - 365 * year, by omega, by omega, by omega,
    by omega, by omega⟩, by simp only [dayOfEra]; omega⟩

/-- The year of a day, as it is computed from the day. -/
theorem yearOfEra_eq (p : Place) :
    (p.dayOfEra - p.dayOfEra / 1460 + p.dayOfEra / 36524 - p.dayOfEra / 146096) / 365 =
      p.yearOfEra := by
  obtain ⟨k, m, n, v, hk, hm, hn, hv, hleap⟩ := p
  simp only [dayOfEra, yearOfEra]
  generalize he : 36524 * k + 1461 * m + 365 * n + v = e
  have h1460 : e / 1460 = 25 * k + m + (24 * k + m + 365 * n + v) / 1460 := by omega
  have h36524 : e / 36524 = k + (1461 * m + 365 * n + v) / 36524 := by omega
  have h146096 : e / 146096 = if e = 146096 then 1 else 0 := by split <;> omega
  rw [h1460, h36524, h146096]
  split <;> omega

theorem day_eq (p : Place) :
    p.dayOfEra - (365 * p.yearOfEra + p.yearOfEra / 4 - p.yearOfEra / 100) = p.day := by
  obtain ⟨k, m, n, v, hk, hm, hn, hv, hleap⟩ := p
  simp only [dayOfEra, yearOfEra]
  omega

/-- A day 365 belongs to a year before a leap year. -/
theorem isLeapYear_of_day_eq {p : Place} (h : p.day = 365) (era : Int) :
    isLeapYear (p.yearOfEra + 400 * era + 1) = true := by
  obtain ⟨k, m, n, v, hk, hm, hn, hv, hleap⟩ := p
  simp only at h
  obtain ⟨hn3, hk3⟩ := hleap h
  simp only [yearOfEra, isLeapYear, Bool.and_eq_true, Bool.or_eq_true]
  refine ⟨decide_eq_true (by omega), ?_⟩
  by_cases hm24 : m = 24
  · exact .inr (decide_eq_true (by omega))
  · exact .inl (decide_eq_true (by omega))

end Place

/-- The date of a day, in terms of its era and its place there. -/
theorem ofDays_eq (days : Int) : ∃ (p : Place) (era : Int),
    days + 719468 = 146097 * era + p.dayOfEra ∧
    Date.ofDays days =
      let month := (5 * p.day + 2) / 153
      let monthOfYear := if month < 10 then month + 3 else month - 9
      let year := p.yearOfEra + 400 * era
      { year := if monthOfYear ≤ 2 then year + 1 else year
        month := monthOfYear.toNat
        day := (p.day - (153 * month + 2) / 5 + 1).toNat } := by
  obtain ⟨p, hp⟩ := Place.exists_dayOfEra_eq
    ⟨Int.emod_nonneg (days + 719468) (by decide), Int.emod_lt_of_pos (days + 719468) (by decide)⟩
  refine ⟨p, (days + 719468) / 146097, ?_, ?_⟩
  · rw [hp]
    omega
  · simp only [Date.ofDays, ← hp, Place.yearOfEra_eq, Place.day_eq]

/-- The count of the date of a count of days is that count. -/
theorem toDays_ofDays (days : Int) : (Date.ofDays days).toDays = days := by
  obtain ⟨p, era, hdays, hdate⟩ := ofDays_eq days
  have hday := p.day_eq
  have hle := p.day_le
  have hyear : 0 ≤ p.yearOfEra ∧ p.yearOfEra ≤ 399 := by
    have := p.century_le
    have := p.period_le
    have := p.year_le
    simp only [Place.yearOfEra]
    omega
  have hmonth : 153 * ((5 * p.day + 2) / 153) ≤ 5 * p.day + 2 := by omega
  have hmonth' : 0 ≤ (5 * p.day + 2) / 153 ∧ (5 * p.day + 2) / 153 ≤ 11 := by omega
  have hera : (p.yearOfEra + 400 * era) / 400 = era := by omega
  have hmod : (p.yearOfEra + 400 * era) % 400 = p.yearOfEra := by omega
  rw [hdate, Date.toDays]
  simp only
  generalize (5 * p.day + 2) / 153 = month at hmonth hmonth' ⊢
  have hdayOfMonth : ((p.day - (153 * month + 2) / 5 + 1).toNat : Int) =
      p.day - (153 * month + 2) / 5 + 1 := by omega
  by_cases h : month < 10
  · have h2 : ¬(month + 3).toNat ≤ 2 := by omega
    have h2' : ¬month + 3 ≤ 2 := by omega
    have hback : (((month + 3).toNat : Int) + 9) % 12 = month := by omega
    simp only [if_pos h, if_neg h2, if_neg h2', hera, hmod, hback, hdayOfMonth]
    omega
  · have h2 : (month - 9).toNat ≤ 2 := by omega
    have h2' : month - 9 ≤ 2 := by omega
    have hback : (((month - 9).toNat : Int) + 9) % 12 = month := by omega
    simp only [if_neg h, if_pos h2, if_pos h2', Int.add_sub_cancel, hera, hmod, hback, hdayOfMonth]
    omega

/-- The date of a count of days is one of the calendar. -/
theorem isValid_ofDays (days : Int) : (Date.ofDays days).isValid = true := by
  obtain ⟨p, era, -, hdate⟩ := ofDays_eq days
  have hle := p.day_le
  have hleap := fun h => p.isLeapYear_of_day_eq h era
  have hmonth : 153 * ((5 * p.day + 2) / 153) ≤ 5 * p.day + 2 ∧
      5 * p.day + 2 < 153 * ((5 * p.day + 2) / 153) + 153 := by omega
  rw [hdate]
  simp only [Date.isValid, daysInMonth, Bool.and_eq_true, decide_eq_true_eq]
  generalize (5 * p.day + 2) / 153 = month at hmonth ⊢
  obtain ⟨hlow, hhigh⟩ : 0 ≤ month ∧ month ≤ 11 := by omega
  -- In the last month the bound depends on the leap day, in the others it does not.
  by_cases hlast : month = 11
  · subst hlast
    by_cases hday : p.day = 365
    · simp [hleap hday, hday]
    · simp
      split <;> omega
  · interval_cases month <;> simp <;> omega

/-- A year has 146097 days in 400 on average, and so a day is bounded by its year. -/
theorem lt_of_year_le {days year : Int} (h : (Date.ofDays days).year ≤ year) :
    400 * (days + 719468) < 146097 * (year + 2) := by
  obtain ⟨p, era, hdays, hdate⟩ := ofDays_eq days
  have hday := p.day_eq
  have hle := p.day_le
  have hnonneg : 0 ≤ p.yearOfEra := by
    have := p.century_le
    have := p.period_le
    have := p.year_le
    simp only [Place.yearOfEra]
    omega
  have hyear : p.yearOfEra + 400 * era ≤ year := by
    rw [hdate] at h
    refine le_trans ?_ h
    simp only
    split <;> split <;> omega
  omega

/-- The same bound for a date of which only the day is known to be one of a month. -/
theorem toDays_lt {d : Date} (hday : d.day ≤ 31) :
    400 * (d.toDays + 719468) < 146097 * (d.year + 2) := by
  rw [Date.toDays]
  split
  · omega
  · omega

/-! ## The calendar day by day -/

theorem Date.isValid_mk {year : Int} {month day : Nat} :
    (Date.mk year month day).isValid = true ↔
      1 ≤ month ∧ month ≤ 12 ∧ 1 ≤ day ∧ day ≤ daysInMonth year month := by
  simp only [isValid, Bool.and_eq_true, decide_eq_true_eq, and_assoc]

/-- The day of a date in a year that begins in March. -/
def Date.dayOfYear (d : Date) : Int := (153 * (((d.month : Int) + 9) % 12) + 2) / 5 + d.day - 1

/-- The year of a date, counted from March. -/
def Date.marchYear (d : Date) : Int := if d.month ≤ 2 then d.year - 1 else d.year

/-- The day 365 of a year that begins in March is a leap day. -/
theorem dayOfYear_le {d : Date} (h : d.isValid = true) :
    0 ≤ d.dayOfYear ∧ d.dayOfYear ≤ 365 ∧
      (d.dayOfYear = 365 → d.month = 2 ∧ isLeapYear d.year = true) := by
  obtain ⟨year, month, day⟩ := d
  obtain ⟨hmonth, hmonth', hday, hday'⟩ := Date.isValid_mk.mp h
  simp only [Date.dayOfYear, daysInMonth] at hday' ⊢
  -- How many days the month has is known for each month, and for February by the year.
  by_cases hleap : isLeapYear year = true
  · interval_cases month <;> simp [hleap] at hday' ⊢ <;> omega
  · interval_cases month <;> simp [hleap] at hday' ⊢ <;> omega

theorem exists_place {d : Date} (h : d.isValid = true) : ∃ (p : Place) (era : Int),
    p.yearOfEra + 400 * era = d.marchYear ∧ p.day = d.dayOfYear := by
  obtain ⟨hpos, hle, hleap⟩ := dayOfYear_le h
  refine ⟨⟨d.marchYear % 400 / 100, d.marchYear % 100 / 4, d.marchYear % 4, d.dayOfYear, by omega,
    by omega, by omega, ⟨hpos, hle⟩, ?_⟩, d.marchYear / 400, ?_, rfl⟩
  · intro h365
    obtain ⟨hmonth, hyear⟩ := hleap h365
    simp only [isLeapYear, Bool.and_eq_true, Bool.or_eq_true, decide_eq_true_eq] at hyear
    rw [Date.marchYear, if_pos (by omega)]
    omega
  · simp only [Place.yearOfEra]
    omega

theorem Place.dayOfEra_eq (p : Place) : p.dayOfEra =
    365 * p.yearOfEra + p.yearOfEra / 4 - p.yearOfEra / 100 + p.day := by
  have := p.day_eq
  omega

theorem Place.dayOfEra_lt (p : Place) : 0 ≤ p.dayOfEra ∧ p.dayOfEra < 146097 := by
  obtain ⟨k, m, n, v, hk, hm, hn, hv, hleap⟩ := p
  simp only [dayOfEra]
  omega

/-- The month of a date, counted from March, as it is computed from the day of the year. -/
theorem month_of_dayOfYear {d : Date} (h : d.isValid = true) :
    (5 * d.dayOfYear + 2) / 153 = ((d.month : Int) + 9) % 12 := by
  obtain ⟨year, month, day⟩ := d
  obtain ⟨hmonth, hmonth', hday, hday'⟩ := Date.isValid_mk.mp h
  simp only [Date.dayOfYear, daysInMonth] at hday' ⊢
  by_cases hleap : isLeapYear year = true
  · interval_cases month <;> simp [hleap] at hday' ⊢ <;> omega
  · interval_cases month <;> simp [hleap] at hday' ⊢ <;> omega

theorem toDays_eq (d : Date) : d.toDays =
    146097 * (d.marchYear / 400) + (365 * (d.marchYear % 400) + d.marchYear % 400 / 4 -
      d.marchYear % 400 / 100 + d.dayOfYear) - 719468 := rfl

/-- The date of the count of a date is that date. -/
theorem ofDays_toDays {d : Date} (h : d.isValid = true) : Date.ofDays d.toDays = d := by
  obtain ⟨p, era, hyear, hday⟩ := exists_place h
  have hrange : 0 ≤ p.yearOfEra ∧ p.yearOfEra < 400 := by
    have := p.century_le
    have := p.period_le
    have := p.year_le
    simp only [Place.yearOfEra]
    omega
  have hdays : d.toDays + 719468 = 146097 * era + p.dayOfEra := by
    have hera : d.marchYear / 400 = era := by omega
    have hmod : d.marchYear % 400 = p.yearOfEra := by omega
    rw [toDays_eq, hera, hmod, ← hday, Place.dayOfEra_eq]
    omega
  have hlt := p.dayOfEra_lt
  have hmod : (d.toDays + 719468) % 146097 = p.dayOfEra := by omega
  have hdiv : (d.toDays + 719468) / 146097 = era := by omega
  simp only [Date.ofDays, hmod, hdiv, Place.yearOfEra_eq, Place.day_eq, hyear, hday]
  rw [month_of_dayOfYear h]
  obtain ⟨year, month, day⟩ := d
  obtain ⟨hmonth, hmonth', hfirst, -⟩ := Date.isValid_mk.mp h
  simp only [Date.marchYear, Date.dayOfYear, Date.mk.injEq]
  interval_cases month <;> simp <;> omega

/-- The day after a day of the calendar. -/
def Date.next (d : Date) : Date :=
  if d.day < daysInMonth d.year d.month then { d with day := d.day + 1 }
  else if d.month < 12 then { d with month := d.month + 1, day := 1 }
  else ⟨d.year + 1, 1, 1⟩

theorem isValid_next {d : Date} (h : d.isValid = true) : d.next.isValid = true := by
  obtain ⟨year, month, day⟩ := d
  obtain ⟨hmonth, hmonth', hday, hday'⟩ := Date.isValid_mk.mp h
  have hpos (month : Nat) : 1 ≤ daysInMonth year month := by
    simp only [daysInMonth]
    split
    · split <;> decide
    · split <;> decide
  simp only [Date.next]
  split
  · exact Date.isValid_mk.mpr (by omega)
  · split
    · exact Date.isValid_mk.mpr ⟨by omega, by omega, Nat.le_refl 1, hpos _⟩
    · exact Date.isValid_mk.mpr ⟨Nat.le_refl 1, by decide, Nat.le_refl 1, by simp [daysInMonth]⟩

/-- A year that begins in March has a leap day if the year in which it ends has one. -/
theorem marchYear_step (year : Int) :
    146097 * (year / 400) + (365 * (year % 400) + year % 400 / 4 - year % 400 / 100) =
      146097 * ((year - 1) / 400) + (365 * ((year - 1) % 400) + (year - 1) % 400 / 4 -
        (year - 1) % 400 / 100) + if isLeapYear year = true then 366 else 365 := by
  by_cases hleap : isLeapYear year = true
  · rw [if_pos hleap]
    simp only [isLeapYear, Bool.and_eq_true, Bool.or_eq_true, decide_eq_true_eq] at hleap
    omega
  · rw [if_neg hleap]
    simp only [isLeapYear, Bool.and_eq_true, Bool.or_eq_true, decide_eq_true_eq] at hleap
    omega

theorem toDays_next {d : Date} (h : d.isValid = true) : d.next.toDays = d.toDays + 1 := by
  obtain ⟨year, month, day⟩ := d
  obtain ⟨hmonth, hmonth', hday, hday'⟩ := Date.isValid_mk.mp h
  simp only [Date.next]
  split
  · simp only [toDays_eq, Date.marchYear, Date.dayOfYear]
    omega
  · rename_i hlast
    have hend : day = daysInMonth year month := by omega
    subst hend
    split
    · rename_i hnotLast
      by_cases hfebruary : month = 2
      · subst hfebruary
        have hstep := marchYear_step year
        simp [toDays_eq, Date.marchYear, Date.dayOfYear, daysInMonth]
        by_cases hleap : isLeapYear year = true
        · simp only [hleap, if_true] at hstep ⊢
          omega
        · simp only [hleap, Bool.false_eq_true, if_false] at hstep ⊢
          omega
      · simp only [toDays_eq, Date.marchYear, Date.dayOfYear, daysInMonth]
        interval_cases month <;> simp at hfebruary ⊢ <;> omega
    · have hdecember : month = 12 := by omega
      subst hdecember
      simp [toDays_eq, Date.marchYear, Date.dayOfYear, daysInMonth]
      omega

/-- Tells that counts of days are dates as the rules of the calendar have it: the count starts on
1 January 1970, and it goes on from one day of the calendar to the next. -/
structure IsGregorian (date : Int → Date) : Prop where
  epoch : date 0 = ⟨1970, 1, 1⟩
  isValid : ∀ days, (date days).isValid = true
  next : ∀ days, date (days + 1) = (date days).next

theorem isGregorian_ofDays : IsGregorian Date.ofDays where
  epoch := by decide
  isValid := isValid_ofDays
  next days := by
    have hvalid := isValid_ofDays days
    have hcount : (Date.ofDays days).next.toDays = days + 1 := by
      rw [toDays_next hvalid, toDays_ofDays]
    rw [← hcount, ofDays_toDays (isValid_next hvalid)]

end WalletCredentials.Calendar
