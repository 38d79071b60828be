import Mathlib.Algebra.BigOperators.Intervals
import Mathlib.Algebra.BigOperators.Ring.Finset
import Mathlib.Tactic.IntervalCases
import TimeWindow.Calendar.DayNumber

set_option autoImplicit false

/-!
# Counting days

The arithmetic of day numbers against plain counting: a date is as many days after the first day of
year 1 as the years before it, the months of its year before it and the days of its month before it
have together.

## Main definitions

* `TimeWindow.Calendar.daysInYear` — the length of a year, month by month.
* `TimeWindow.Calendar.daysSinceYearOne` — the days before a date, counted from year 1.
* `TimeWindow.Calendar.daysSinceEpoch` — the days before a date, counted from 1970-01-01.

## Main results

* `TimeWindow.Calendar.daysBeforeMonth_succ`, `TimeWindow.Calendar.daysBeforeYear_succ` — a month
  and a year are as long as their successors start later.
* `TimeWindow.Calendar.dayNumber_eq_daysSinceEpoch` — day numbers count days.
-/

namespace TimeWindow.Calendar

/-! ## Lengths of years and months -/

/-- A month has at least 28 days and at most 31. -/
theorem daysInMonth_mem (year : Int) (month : Nat) :
    28 ≤ daysInMonth year month ∧ daysInMonth year month ≤ 31 := by
  unfold daysInMonth
  split
  · split <;> decide
  · split <;> decide

/-- The **days of a year**: those of its twelve months. -/
def daysInYear (year : Int) : Nat :=
  ∑ month ∈ Finset.Icc 1 12, daysInMonth year month

/-- A leap year has 366 days and a common year 365. -/
theorem daysInYear_eq (year : Int) : daysInYear year = if isLeap year then 366 else 365 := by
  rw [daysInYear, show Finset.Icc 1 12 = Finset.Icc 1 (11 + 1) from rfl]
  cases h : isLeap year <;> simp [Finset.sum_Icc_succ_top, daysInMonth, h]

/-- No year has a day before its first month. -/
@[simp] theorem daysBeforeMonth_one (leap : Bool) : daysBeforeMonth leap 1 = 0 := by
  cases leap <;> rfl

/-- **A month is as long** as the month after it starts later. -/
theorem daysBeforeMonth_succ (year : Int) {month : Nat} (h₁ : 1 ≤ month) (h₂ : month ≤ 11) :
    daysBeforeMonth (isLeap year) (month + 1) =
      daysBeforeMonth (isLeap year) month + daysInMonth year month := by
  cases hl : isLeap year <;> interval_cases month <;>
    simp [daysBeforeMonth, commonMonthStarts, daysInMonth, hl]

/-- The last month ends with its year. -/
theorem daysBeforeMonth_twelve (year : Int) :
    daysBeforeMonth (isLeap year) 12 + daysInMonth year 12 = daysInYear year := by
  rw [daysInYear_eq]
  cases hl : isLeap year <;> simp [daysBeforeMonth, commonMonthStarts, daysInMonth]

/-- The days before a month are those of the months before it. -/
theorem daysBeforeMonth_eq_sum (year : Int) {month : Nat} (h₁ : 1 ≤ month) (h₂ : month ≤ 12) :
    daysBeforeMonth (isLeap year) month = ∑ m ∈ Finset.Ico 1 month, daysInMonth year m := by
  induction month, h₁ using Nat.le_induction with
  | base => simp
  | succ month h ih =>
    rw [daysBeforeMonth_succ year h (by omega), ih (by omega), Finset.sum_Ico_succ_top h]

/-- Leap years by the remainders that make them leap. -/
theorem isLeap_eq_true_iff (year : Int) :
    isLeap year = true ↔ year % 4 = 0 ∧ (year % 100 ≠ 0 ∨ year % 400 = 0) := by
  simp [isLeap]

/-- **A year is as long** as the year after it starts later. -/
theorem daysBeforeYear_succ (year : Int) :
    daysBeforeYear (year + 1) = daysBeforeYear year + daysInYear year := by
  have h := isLeap_eq_true_iff year
  rw [daysInYear_eq]
  unfold daysBeforeYear
  split
  · next hl =>
    obtain ⟨h4, h100⟩ := h.1 hl
    rcases h100 with h100 | h400 <;> omega
  · next hl =>
    have hn : ¬(year % 4 = 0 ∧ (year % 100 ≠ 0 ∨ year % 400 = 0)) := fun hc => hl (h.2 hc)
    omega

/-- The days before a year are those of the years before it. -/
theorem daysBeforeYear_eq_sum {year : Nat} (h : 1 ≤ year) :
    daysBeforeYear year = ∑ y ∈ Finset.Ico 1 year, (daysInYear y : Int) := by
  induction year, h using Nat.le_induction with
  | base => rfl
  | succ year h ih =>
    rw [Finset.sum_Ico_succ_top h, ← ih, ← daysBeforeYear_succ]
    rfl

/-! ## Counting -/

/-- The days from the first day of year 1 up to a date: the days of the **years before** its year,
of the **months before** its month, and of its month before it. -/
def daysSinceYearOne (year month day : Nat) : Nat :=
  ∑ y ∈ Finset.Ico 1 year, daysInYear y + ∑ m ∈ Finset.Ico 1 month, daysInMonth year m + (day - 1)

/-- The days from 1970-01-01 up to a date, negative for the dates before. -/
def daysSinceEpoch (year month day : Nat) : Int :=
  daysSinceYearOne year month day - daysSinceYearOne 1970 1 1

/-- The number of a day, counted from year 1. -/
theorem dayNumber_eq_daysSinceYearOne {year month day : Nat} (hy : 1 ≤ year) (hm₁ : 1 ≤ month)
    (hm₂ : month ≤ 12) (hd : 1 ≤ day) :
    dayNumber year month day = daysSinceYearOne year month day - epochDay := by
  unfold dayNumber daysSinceYearOne
  rw [daysBeforeYear_eq_sum hy, daysBeforeMonth_eq_sum year hm₁ hm₂]
  push_cast
  omega

/-- **Day numbers count days**: the number of a date is how many days it is after 1970-01-01. -/
theorem dayNumber_eq_daysSinceEpoch {year month day : Nat} (hy : 1 ≤ year) (hm₁ : 1 ≤ month)
    (hm₂ : month ≤ 12) (hd : 1 ≤ day) :
    dayNumber year month day = daysSinceEpoch year month day := by
  have hepoch : dayNumber (1970 : Nat) 1 1 = daysSinceYearOne 1970 1 1 - epochDay :=
    dayNumber_eq_daysSinceYearOne (by decide) (by decide) (by decide) (by decide)
  have hzero : dayNumber (1970 : Nat) 1 1 = 0 := by decide
  rw [daysSinceEpoch, dayNumber_eq_daysSinceYearOne hy hm₁ hm₂ hd]
  omega

end TimeWindow.Calendar
