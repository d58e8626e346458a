/-
# Days and dates

Every day has a date that exists, and counting the days of this date gives the day back. Within an
era of 400 years a day is found by divisions whose results are corrected for the leap days before
it; what they amount to is the century, the span of four years, the year and the day of the year in
which the day lies. Years begin in March for this, so a leap day is the last day of its year and
stands behind every day whose place depends on whether there is one.
-/

import Mathlib
import MetricBridge.Time.Calendar

namespace MetricBridge.Time.Date

/-! ### Within an era -/

/-- The day of an era lies in a century, a span of four years, a year of the span and a day of this
year, all counted from zero. Only the last year of a span may have a leap day, and if the span is
the last one of a century, only at the end of the era. -/
structure IsPlace (dayOfEra century span year day : Int) : Prop where
  eq : dayOfEra = 36524 * century + 1461 * span + 365 * year + day
  inEra : 0 ≤ century ∧ century ≤ 3
  inCentury : 0 ≤ span ∧ span ≤ 24
  inSpan : 0 ≤ year ∧ year ≤ 3
  inYear : 0 ≤ day ∧ day ≤ 365
  leap : day = 365 → year = 3 ∧ (span = 24 → century = 3)

theorem exists_isPlace {dayOfEra : Int} (hnonneg : 0 ≤ dayOfEra) (hlt : dayOfEra < 146097) :
    ∃ century span year day, IsPlace dayOfEra century span year day := by
  obtain ⟨century, hcentury⟩ : ∃ century, century = min (dayOfEra / 36524) 3 := ⟨_, rfl⟩
  obtain ⟨rest, hrest⟩ : ∃ rest, rest = dayOfEra - 36524 * century := ⟨_, rfl⟩
  obtain ⟨year, hyear⟩ : ∃ year, year = min (rest % 1461 / 365) 3 := ⟨_, rfl⟩
  exact ⟨century, rest / 1461, year, rest % 1461 - 365 * year,
    ⟨by omega, by omega, by omega, by omega, by omega, by omega⟩⟩

namespace IsPlace

variable {dayOfEra century span year day : Int}

/-- The corrections of the quotient amount to the leap days before the day. -/
theorem yearOfEra (hplace : IsPlace dayOfEra century span year day) :
    (dayOfEra - dayOfEra / 1460 + dayOfEra / 36524 - dayOfEra / 146096) / 365 =
      100 * century + 4 * span + year := by
  obtain ⟨heq, hcentury, hspan, hyear, hday, hleap⟩ := hplace
  have hspans : dayOfEra / 1460 =
      25 * century + span + (24 * century + span + 365 * year + day) / 1460 := by omega
  have hlast : dayOfEra = 146096 ∨ 1461 * span + 365 * year + day < 36524 := by omega
  have hcenturies : dayOfEra / 36524 = century + dayOfEra / 146096 := by omega
  omega

theorem dayOfYear (hplace : IsPlace dayOfEra century span year day) :
    dayOfEra - (365 * (100 * century + 4 * span + year) + (100 * century + 4 * span + year) / 4 -
      (100 * century + 4 * span + year) / 100) = day := by
  obtain ⟨heq, hcentury, hspan, hyear, -, -⟩ := hplace
  omega

end IsPlace

/-! ### Every day -/

/-- The date of a day by its place in its era. January and February belong to the year before. -/
theorem exists_ofDay_eq (days : Int) :
    ∃ century span year day fromMarch : Int,
      IsPlace ((days + 719468) % 146097) century span year day ∧
      (0 ≤ fromMarch ∧ fromMarch ≤ 11) ∧ fromMarch = (5 * day + 2) / 153 ∧
      ofDay days =
        let march := 100 * century + 4 * span + year + (days + 719468) / 146097 * 400
        let month := if fromMarch < 10 then fromMarch + 3 else fromMarch - 9
        ⟨if month ≤ 2 then march + 1 else march, month.toNat,
          (day - (153 * fromMarch + 2) / 5 + 1).toNat⟩ := by
  have hnonneg : 0 ≤ (days + 719468) % 146097 := Int.emod_nonneg _ (by decide)
  obtain ⟨century, span, year, day, hplace⟩ :=
    exists_isPlace hnonneg (Int.emod_lt_of_pos _ (by decide))
  have hday := hplace.inYear
  refine ⟨century, span, year, day, _, hplace, ⟨by omega, by omega⟩, rfl, ?_⟩
  simp only [ofDay, hplace.yearOfEra, hplace.dayOfYear]

/-- The day of the date of a day is this day. -/
theorem toDay_ofDay (days : Int) : (ofDay days).toDay = days := by
  obtain ⟨century, span, year, day, fromMarch, ⟨heq, hcentury, hspan, hyear, hday, -⟩,
    ⟨hfirst, hlast⟩, hmonth, hdate⟩ := exists_ofDay_eq days
  rw [hdate]
  generalize hera : (days + 719468) / 146097 = era
  have heraOf : (100 * century + 4 * span + year + era * 400) / 400 = era := by omega
  have hyearOf : (100 * century + 4 * span + year + era * 400) % 400 =
      100 * century + 4 * span + year := by omega
  have hspans : (100 * century + 4 * span + year) / 4 = 25 * century + span := by omega
  have hcenturies : (100 * century + 4 * span + year) / 100 = century := by omega
  -- The month decides whether the year is that of March or the one after it.
  interval_cases fromMarch
  all_goals
    simp [toDay, heraOf, hyearOf, hspans, hcenturies]
    omega

/-- Every day has a date that exists. -/
theorem isValid_ofDay (days : Int) : (ofDay days).isValid = true := by
  obtain ⟨century, span, year, day, fromMarch, ⟨heq, hcentury, hspan, hyear, hday, hleap⟩,
    ⟨hfirst, hlast⟩, hmonth, hdate⟩ := exists_ofDay_eq days
  rw [hdate]
  interval_cases fromMarch
  all_goals
    simp [isValid, daysInMonth, isLeapYear]
    omega

/-! ### Bounds -/

theorem daysInMonth_le (year : Int) (month : Nat) : daysInMonth year month ≤ 31 := by
  unfold daysInMonth
  split
  any_goals omega
  split <;> omega

theorem daysInMonth_of_lt {year : Int} {month : Nat} (hmonth : 12 < month) :
    daysInMonth year month = 0 := by
  unfold daysInMonth
  split
  all_goals omega

theorem bounds_of_isValid {date : Date} (hvalid : date.isValid = true) :
    date.month ≤ 12 ∧ 1 ≤ date.day ∧ date.day ≤ 31 := by
  simp only [isValid, Bool.and_eq_true, decide_eq_true_eq] at hvalid
  refine ⟨?_, hvalid.1, hvalid.2.trans (daysInMonth_le _ _)⟩
  by_contra hmonth
  rw [daysInMonth_of_lt (by omega)] at hvalid
  omega

/-- A date with a year of four digits is well within the range of instants. -/
theorem toDay_bounds {date : Date} (hvalid : date.isValid = true) (hfirst : 0 ≤ date.year)
    (hlast : date.year ≤ 9999) : -800000 ≤ date.toDay ∧ date.toDay ≤ 3000000 := by
  obtain ⟨hmonth, hdays⟩ := bounds_of_isValid hvalid
  simp only [toDay]
  split <;> omega

end MetricBridge.Time.Date
