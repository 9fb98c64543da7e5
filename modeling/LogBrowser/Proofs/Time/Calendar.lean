import LogBrowser.Time.Calendar
import Mathlib.Tactic.IntervalCases

/-!
# The civil calendar, back and forth

`civilFromDays` and `daysFromCivil` count the year from the first of March, so that the leap
day ends it, and split the days into eras of 400 years. A date in that counting is a
`MarchDate`: the era, the year of the era and the day of the year, with the bounds that place
them. Both conversions go through it: `civilFromDays` is `MarchDate.civil` of the date it finds
(`civilFromDays_eq`), and `daysFromCivil` counts the days of any such date back
(`MarchDate.daysFromCivil_civil`).

The one fact of arithmetic the conversion rests on is `yearOfEra_spec`: the year it computes for
a day of the era leaves between 0 and 365 days into that year, and 365 only in a year that ends
with a leap day. From it every day count falls on a date of the calendar, with a month from 1 to
12 and a day within the month (`civilFromDays_valid`), and the date counts back to the same day
(`daysFromCivil_civilFromDays`).
-/

namespace LogBrowser.Time

/-- The era of a day count: 400 years from the first of March of a year divisible by 400. -/
def eraOf (z : Int) : Int := (z + 719468) / 146097

/-- The year of the era a day of the era falls in. -/
def yearOfEra (doe : Int) : Int := (doe - doe / 1460 + doe / 36524 - doe / 146096) / 365

/-- A day of the era lies in the year `yearOfEra` gives it: at most 365 days in, and 365 only in
a year whose next February has a 29th. -/
theorem yearOfEra_spec {doe : Int} (h0 : 0 ≤ doe) (h1 : doe ≤ 146096) :
    let doy := doe - (365 * yearOfEra doe + yearOfEra doe / 4 - yearOfEra doe / 100)
    0 ≤ yearOfEra doe ∧ yearOfEra doe ≤ 399 ∧ 0 ≤ doy ∧ doy ≤ 365 ∧
      (doy = 365 → yearOfEra doe % 4 = 3 ∧ (yearOfEra doe % 100 ≠ 99 ∨ yearOfEra doe = 399)) := by
  intro doy
  by_cases hlast : doe = 146096
  · subst hlast
    decide
  -- the century, the four-year cycle within it and the year within that
  obtain ⟨c, hc⟩ : ∃ c, c = doe / 36524 := ⟨_, rfl⟩
  obtain ⟨q, hq⟩ : ∃ q, q = (doe - 36524 * c) / 1461 := ⟨_, rfl⟩
  obtain ⟨r, hr⟩ : ∃ r, r = doe - 36524 * c - 1461 * q := ⟨_, rfl⟩
  obtain ⟨y, hy⟩ : ∃ y, y = min (r / 365) 3 := ⟨_, rfl⟩
  have e1 : doe / 146096 = 0 := by omega
  have e3 : doe / 1460 = 25 * c + q + (24 * c + q + r) / 1460 := by omega
  have e4 : (24 * c + q + r) / 1460 = if 1460 ≤ 24 * c + q + r then 1 else 0 := by
    split <;> omega
  have hyoe : yearOfEra doe = 100 * c + 4 * q + y := by
    rw [yearOfEra, e1, ← hc, e3, e4]
    split <;> omega
  have h4 : yearOfEra doe / 4 = 25 * c + q := by omega
  have h100 : yearOfEra doe / 100 = c := by omega
  have hdoy : doy = r - 365 * y := by
    show doe - (365 * yearOfEra doe + yearOfEra doe / 4 - yearOfEra doe / 100) = _
    rw [h4, h100, hyoe]
    omega
  refine ⟨by omega, by omega, by omega, by omega, fun h365 => ?_⟩
  omega

/-- A date counted from the first of March: the era of 400 years, the year of the era and the day
of that year, where the last day, the 366th, is a leap day. -/
structure MarchDate where
  era : Int
  year : Int
  day : Int
  year_nonneg : 0 ≤ year
  year_le : year ≤ 399
  day_nonneg : 0 ≤ day
  day_le : day ≤ 365
  leap : day = 365 → year % 4 = 3 ∧ (year % 100 ≠ 99 ∨ year = 399)

namespace MarchDate

/-- The month counted from March, from 0 to 11. -/
def month (d : MarchDate) : Int := (5 * d.day + 2) / 153

/-- The count of days from 1970-01-01. -/
def count (d : MarchDate) : Int :=
  d.era * 146097 + (365 * d.year + d.year / 4 - d.year / 100 + d.day) - 719468

/-- The year, month and day in the civil calendar; January and February belong to the next
civil year. -/
def civil (d : MarchDate) : Int × Nat × Nat :=
  let m := if d.month < 10 then d.month + 3 else d.month - 9
  (if m ≤ 2 then d.year + d.era * 400 + 1 else d.year + d.era * 400, m.toNat,
    (d.day - (153 * d.month + 2) / 5 + 1).toNat)

/-- The date of a day count. -/
def ofDays (z : Int) : MarchDate :=
  have hdoe : 0 ≤ z + 719468 - eraOf z * 146097 ∧ z + 719468 - eraOf z * 146097 ≤ 146096 := by
    unfold eraOf
    omega
  have h := yearOfEra_spec hdoe.1 hdoe.2
  { era := eraOf z
    year := yearOfEra (z + 719468 - eraOf z * 146097)
    day := z + 719468 - eraOf z * 146097 - (365 * yearOfEra (z + 719468 - eraOf z * 146097) +
      yearOfEra (z + 719468 - eraOf z * 146097) / 4 -
      yearOfEra (z + 719468 - eraOf z * 146097) / 100)
    year_nonneg := h.1
    year_le := h.2.1
    day_nonneg := h.2.2.1
    day_le := h.2.2.2.1
    leap := h.2.2.2.2 }

theorem count_ofDays (z : Int) : (ofDays z).count = z := by
  simp only [count, ofDays]
  omega

theorem month_bounds (d : MarchDate) :
    0 ≤ d.month ∧ d.month ≤ 11 ∧ 153 * d.month ≤ 5 * d.day + 2 ∧
      5 * d.day + 2 < 153 * d.month + 153 := by
  have := d.day_nonneg
  have := d.day_le
  unfold month
  omega

/-- A date counts back to its day count. -/
theorem daysFromCivil_civil (d : MarchDate) :
    daysFromCivil d.civil.1 d.civil.2.1 d.civil.2.2 = d.count := by
  have := d.year_nonneg
  have := d.year_le
  have := d.day_nonneg
  have := d.day_le
  obtain ⟨hm0, hm1, hml, -⟩ := d.month_bounds
  have hday : ((d.day - (153 * d.month + 2) / 5 + 1).toNat : Int) =
      d.day - (153 * d.month + 2) / 5 + 1 := by omega
  have h400 : (d.year + d.era * 400) / 400 = d.era := by omega
  simp only [civil, daysFromCivil, count]
  obtain ⟨mp, hmp⟩ : ∃ mp, d.month = mp := ⟨_, rfl⟩
  simp only [hmp] at hm0 hm1 hml hday ⊢
  -- from March to December the civil year is the year of the era, in January and February the
  -- next one
  by_cases h10 : mp < 10
  · have hm : ((mp + 3).toNat : Int) = mp + 3 := by omega
    simp only [h10, if_true]
    rw [if_neg (by omega), if_neg (by omega), h400, if_pos (by omega), hm, hday]
    omega
  · have hm : ((mp - 9).toNat : Int) = mp - 9 := by omega
    simp only [h10, if_false]
    rw [if_pos (by omega), if_pos (by omega), Int.add_sub_cancel, h400, if_neg (by omega), hm,
      hday]
    omega

/-- A date is a day of the calendar: a month from 1 to 12 and a day within that month. -/
theorem civil_valid (d : MarchDate) :
    1 ≤ d.civil.2.1 ∧ d.civil.2.1 ≤ 12 ∧ 1 ≤ d.civil.2.2 ∧
      d.civil.2.2 ≤ daysInMonth d.civil.1 d.civil.2.1 := by
  have := d.year_nonneg
  have := d.year_le
  have := d.day_nonneg
  have := d.day_le
  have hleap := d.leap
  obtain ⟨hm0, hm1, hml, hmh⟩ := d.month_bounds
  simp only [civil, daysInMonth, isLeapYear]
  obtain ⟨mp, hmp⟩ : ∃ mp, d.month = mp := ⟨_, rfl⟩
  simp only [hmp] at hm0 hm1 hml hmh ⊢
  -- month by month; in February the 29th needs the leap day that ends the year of the era
  interval_cases mp <;> simp <;> omega

end MarchDate

theorem civilFromDays_eq (z : Int) : civilFromDays z = (MarchDate.ofDays z).civil := rfl

/-- The date of a day count counts back to it. -/
theorem daysFromCivil_civilFromDays (z : Int) :
    daysFromCivil (civilFromDays z).1 (civilFromDays z).2.1 (civilFromDays z).2.2 = z := by
  rw [civilFromDays_eq, MarchDate.daysFromCivil_civil, MarchDate.count_ofDays]

example : civilFromDays 0 = (1970, 1, 1) ∧ daysFromCivil 1970 1 1 = 0 := by decide

/-- Every day count falls on a day of the calendar. -/
theorem civilFromDays_valid (z : Int) :
    1 ≤ (civilFromDays z).2.1 ∧ (civilFromDays z).2.1 ≤ 12 ∧ 1 ≤ (civilFromDays z).2.2 ∧
      (civilFromDays z).2.2 ≤ daysInMonth (civilFromDays z).1 (civilFromDays z).2.1 :=
  (MarchDate.ofDays z).civil_valid

end LogBrowser.Time
