import TimeWindow.Calendar.DateTime
import TimeWindow.Proofs.Calendar.Counting

set_option autoImplicit false

/-!
# Dates and day numbers are inverse

Every integer is the number of one date, and the position of a day in its 400 years finds it. So
dates and day numbers determine each other, in all years and across the leap years, and they are in
the same order.

## Main results

* `TimeWindow.Calendar.daysBeforeYear_yearOfDay` — a day lies in its year.
* `TimeWindow.Calendar.yearOfDay_eq_of_mem` — a day lies in no other year.
* `TimeWindow.Calendar.dayNumber_ofDay`, `TimeWindow.Calendar.ofDay_dayNumber` — the date of a day
  has the number of the day, and the other way round.
* `TimeWindow.Calendar.dayNumber_lt_dayNumber` — later dates have later numbers.
-/

namespace TimeWindow.Calendar

/-! ## Years -/

/-- A position is made of periods within their bounds, and counts the days up to it. A day of the
year beyond the common length lies in the last year of four, and not in the last four years of a
century unless that ends the 400 years.

**Proof sketch.** The four quotients are bounded by the lengths of the periods that they divide;
the two of them that are cut off at three leave one day more than their period has. -/
theorem yearPosition_spec (day : Int) :
    let p := yearPosition day
    day + epochDay = 146097 * p.fourCenturies + 36524 * p.centuries + 1461 * p.quadrennia +
        365 * p.years + p.dayOfYear ∧
      (0 ≤ p.centuries ∧ p.centuries ≤ 3) ∧ (0 ≤ p.quadrennia ∧ p.quadrennia ≤ 24) ∧
      (0 ≤ p.years ∧ p.years ≤ 3) ∧ 0 ≤ p.dayOfYear ∧
      (p.dayOfYear ≤ 364 ∨
        p.dayOfYear = 365 ∧ p.years = 3 ∧ (p.quadrennia ≤ 23 ∨ p.centuries = 3)) := by
  simp only [yearPosition]
  generalize day + epochDay = days
  omega

/-- The days before the year of a position. -/
theorem daysBeforeYear_of_position {a c q y : Int} (hc : 0 ≤ c ∧ c ≤ 3) (hq : 0 ≤ q ∧ q ≤ 24)
    (hy : 0 ≤ y ∧ y ≤ 3) :
    daysBeforeYear (400 * a + 100 * c + 4 * q + y + 1) =
      146097 * a + 36524 * c + 1461 * q + 365 * y := by
  unfold daysBeforeYear
  omega

/-- The last year of four is leap, except at the end of a century that does not end 400 years. -/
theorem isLeap_of_position {a c q : Int} (hc : 0 ≤ c ∧ c ≤ 3) (hq : 0 ≤ q ∧ q ≤ 24)
    (hlast : q ≤ 23 ∨ c = 3) : isLeap (400 * a + 100 * c + 4 * q + 3 + 1) = true := by
  rw [isLeap_eq_true_iff]
  rcases hlast with hlast | rfl <;> omega

/-- The days before the year of a day, and its day of the year, count up to the day. -/
theorem daysBeforeYear_yearOfDay_add (day : Int) :
    daysBeforeYear (yearOfDay day) + dayOfYear day = day + epochDay := by
  obtain ⟨hsum, hc, hq, hy, hnonneg, -⟩ := yearPosition_spec day
  rw [yearOfDay, YearPosition.year, daysBeforeYear_of_position hc hq hy, dayOfYear,
    Int.toNat_of_nonneg hnonneg]
  omega

/-- The day of the year is less than the length of the year. -/
theorem dayOfYear_lt (day : Int) : dayOfYear day < daysInYear (yearOfDay day) := by
  obtain ⟨-, hc, hq, -, hnonneg, hlong⟩ := yearPosition_spec day
  rw [daysInYear_eq, dayOfYear]
  rcases hlong with hlong | ⟨hlong, hy, hlast⟩
  · split <;> omega
  · rw [yearOfDay, YearPosition.year, hy, if_pos (isLeap_of_position hc hq hlast)]
    omega

/-- **A day lies in its year**: not before its first day, and before the first day of the next. -/
theorem daysBeforeYear_yearOfDay (day : Int) :
    daysBeforeYear (yearOfDay day) ≤ day + epochDay ∧
      day + epochDay < daysBeforeYear (yearOfDay day + 1) := by
  have hsum := daysBeforeYear_yearOfDay_add day
  have hlt := dayOfYear_lt day
  rw [daysBeforeYear_succ]
  omega

/-- Later years start later. -/
theorem daysBeforeYear_le {y z : Int} (h : y ≤ z) : daysBeforeYear y ≤ daysBeforeYear z := by
  unfold daysBeforeYear
  omega

/-- A day lies in a year or in a later one exactly if it is not before the year. -/
theorem le_yearOfDay_iff {year day : Int} :
    year ≤ yearOfDay day ↔ daysBeforeYear year ≤ day + epochDay := by
  obtain ⟨h₁, h₂⟩ := daysBeforeYear_yearOfDay day
  constructor
  · intro h
    exact (daysBeforeYear_le h).trans h₁
  · intro h
    by_contra hlt
    have := daysBeforeYear_le (show yearOfDay day + 1 ≤ year by omega)
    omega

/-- A day lies in a year or in an earlier one exactly if it is before the next year. -/
theorem yearOfDay_le_iff {year day : Int} :
    yearOfDay day ≤ year ↔ day + epochDay < daysBeforeYear (year + 1) := by
  have hnext : year + 1 ≤ yearOfDay day ↔ daysBeforeYear (year + 1) ≤ day + epochDay :=
    le_yearOfDay_iff
  omega

/-- **A day lies in no other year.** -/
theorem yearOfDay_eq_of_mem {day year : Int} (h₁ : daysBeforeYear year ≤ day + epochDay)
    (h₂ : day + epochDay < daysBeforeYear (year + 1)) : yearOfDay day = year :=
  le_antisymm (yearOfDay_le_iff.2 h₂) (le_yearOfDay_iff.2 h₁)

/-! ## Months -/

/-- Later months start later. -/
theorem daysBeforeMonth_le (year : Int) {m n : Nat} (h₁ : 1 ≤ m) (h : m ≤ n) (h₂ : n ≤ 12) :
    daysBeforeMonth (isLeap year) m ≤ daysBeforeMonth (isLeap year) n := by
  induction n, h using Nat.le_induction with
  | base => exact le_rfl
  | succ n h ih =>
    rw [daysBeforeMonth_succ year (by omega) (by omega)]
    exact (ih (by omega)).trans (Nat.le_add_right _ _)

/-- As many of the numbers below `n` as there are numbers below `m` are below `m`. -/
theorem countP_range_lt {m n : Nat} (h : m ≤ n) :
    (List.range n).countP (fun k => decide (k < m)) = m := by
  induction n, h using Nat.le_induction with
  | base => simp [List.countP_eq_length.2, List.mem_range]
  | succ n h ih => simp [List.range_succ, ih, h]

/-- The months that have started by a day are those up to the month that it lies in. -/
theorem monthOfYearDay_eq (year : Int) {month day : Nat} (hm : 1 ≤ month ∧ month ≤ 12)
    (h₁ : daysBeforeMonth (isLeap year) month ≤ day)
    (h₂ : month = 12 ∨ day < daysBeforeMonth (isLeap year) (month + 1)) :
    monthOfYearDay (isLeap year) day = month := by
  have hiff : ∀ k < 12, (daysBeforeMonth (isLeap year) (k + 1) ≤ day ↔ k < month) := by
    intro k hk
    constructor
    · intro hstart
      by_contra hge
      have := daysBeforeMonth_le year (show 1 ≤ month + 1 by omega)
        (show month + 1 ≤ k + 1 by omega) (by omega)
      omega
    · intro hlt
      exact (daysBeforeMonth_le year (by omega) (show k + 1 ≤ month by omega) hm.2).trans h₁
  calc monthOfYearDay (isLeap year) day
      = (List.range 12).countP (fun k => decide (k < month)) :=
        List.countP_congr fun k hk => by simp [hiff k (List.mem_range.1 hk)]
    _ = month := countP_range_lt hm.2

/-- A day of the year lies in one of its months. -/
theorem exists_month (year : Int) {day : Nat} (h : day < daysInYear year) :
    ∃ month, (1 ≤ month ∧ month ≤ 12) ∧ daysBeforeMonth (isLeap year) month ≤ day ∧
      day < daysBeforeMonth (isLeap year) month + daysInMonth year month := by
  by_contra hnone
  push Not at hnone
  -- climbing from month to month, the day would lie after the end of the year
  have hclimb : ∀ month, 1 ≤ month → month ≤ 12 →
      daysBeforeMonth (isLeap year) month + daysInMonth year month ≤ day := by
    intro month h₁
    induction month, h₁ using Nat.le_induction with
    | base =>
      intro _
      exact hnone 1 (by decide) (by simp)
    | succ month h₁ ih =>
      intro h₂
      refine hnone (month + 1) (by omega) ?_
      rw [daysBeforeMonth_succ year h₁ (by omega)]
      exact ih (by omega)
  have := hclimb 12 (by decide) (by decide)
  rw [daysBeforeMonth_twelve] at this
  omega

/-- The month and the day of the month of a day of the year. -/
theorem monthOfYearDay_eq_of_mem (year : Int) {month day : Nat} (hm : 1 ≤ month ∧ month ≤ 12)
    (hd : 1 ≤ day ∧ day ≤ daysInMonth year month) :
    monthOfYearDay (isLeap year) (daysBeforeMonth (isLeap year) month + (day - 1)) = month := by
  refine monthOfYearDay_eq year hm (by omega) ?_
  by_cases h12 : month = 12
  · exact .inl h12
  · right
    rw [daysBeforeMonth_succ year hm.1 (by omega)]
    omega

/-- The day of the month of a day, with the days before the month, is the day of the year. -/
theorem daysBeforeMonth_monthOfDay (day : Int) :
    (1 ≤ monthOfDay day ∧ monthOfDay day ≤ 12) ∧
      (1 ≤ dayOfMonth day ∧ dayOfMonth day ≤ daysInMonth (yearOfDay day) (monthOfDay day)) ∧
      daysBeforeMonth (isLeap (yearOfDay day)) (monthOfDay day) + (dayOfMonth day - 1) =
        dayOfYear day := by
  obtain ⟨month, hm, h₁, h₂⟩ := exists_month (yearOfDay day) (dayOfYear_lt day)
  have hmonth : monthOfDay day = month := by
    refine monthOfYearDay_eq _ hm h₁ ?_
    by_cases h12 : month = 12
    · exact .inl h12
    · exact .inr (by rw [daysBeforeMonth_succ _ hm.1 (by omega)]; exact h₂)
  rw [dayOfMonth, hmonth]
  refine ⟨hm, ?_, ?_⟩ <;> omega

/-! ## Dates -/

/-- **The date of a day has the number of the day.** -/
theorem dayNumber_ofDay (day : Int) :
    dayNumber (yearOfDay day) (monthOfDay day) (dayOfMonth day) = day := by
  obtain ⟨-, hd, hsum⟩ := daysBeforeMonth_monthOfDay day
  have hyear := daysBeforeYear_yearOfDay_add day
  rw [dayNumber]
  omega

/-- The days of a year before a date in it are less than the year has. -/
theorem daysBeforeMonth_add_lt (year : Int) {month day : Nat} (hm : 1 ≤ month ∧ month ≤ 12)
    (hd : 1 ≤ day ∧ day ≤ daysInMonth year month) :
    daysBeforeMonth (isLeap year) month + (day - 1) < daysInYear year := by
  have hle : daysBeforeMonth (isLeap year) month + daysInMonth year month ≤ daysInYear year := by
    by_cases h12 : month = 12
    · rw [h12, daysBeforeMonth_twelve]
    · rw [← daysBeforeMonth_succ year hm.1 (by omega), ← daysBeforeMonth_twelve]
      have := daysBeforeMonth_le year (show 1 ≤ month + 1 by omega) (show month + 1 ≤ 12 by omega)
        (le_refl 12)
      omega
  omega

/-- **The day of a date has the date**: its year, its month and its day of the month. -/
theorem ofDay_dayNumber (year : Int) {month day : Nat} (hm : 1 ≤ month ∧ month ≤ 12)
    (hd : 1 ≤ day ∧ day ≤ daysInMonth year month) :
    yearOfDay (dayNumber year month day) = year ∧ monthOfDay (dayNumber year month day) = month ∧
      dayOfMonth (dayNumber year month day) = day := by
  have hlt := daysBeforeMonth_add_lt year hm hd
  have hyear : yearOfDay (dayNumber year month day) = year := by
    apply yearOfDay_eq_of_mem
    · rw [dayNumber]; omega
    · rw [dayNumber, daysBeforeYear_succ]; omega
  have hday : dayOfYear (dayNumber year month day) =
      daysBeforeMonth (isLeap year) month + (day - 1) := by
    have := daysBeforeYear_yearOfDay_add (dayNumber year month day)
    rw [hyear, dayNumber] at this
    rw [dayNumber]
    omega
  have hmonth : monthOfDay (dayNumber year month day) = month := by
    rw [monthOfDay, hyear, hday]
    exact monthOfYearDay_eq_of_mem year hm hd
  refine ⟨hyear, hmonth, ?_⟩
  rw [dayOfMonth, hyear, hmonth, hday]
  omega

/-- **Later dates have later numbers.** A year ends before the next one begins, and so does a
month. -/
theorem dayNumber_lt_dayNumber {year year' : Int} {month month' day day' : Nat}
    (hm : 1 ≤ month ∧ month ≤ 12) (hd : 1 ≤ day ∧ day ≤ daysInMonth year month)
    (hm' : 1 ≤ month' ∧ month' ≤ 12) (hd' : 1 ≤ day')
    (h : year < year' ∨ year = year' ∧ (month < month' ∨ month = month' ∧ day < day')) :
    dayNumber year month day < dayNumber year' month' day' := by
  rw [dayNumber, dayNumber]
  rcases h with hyear | ⟨rfl, hmonth | ⟨rfl, hday⟩⟩
  · have hlast := daysBeforeMonth_add_lt year hm hd
    have hsucc := daysBeforeYear_succ year
    have hnext := daysBeforeYear_le (show year + 1 ≤ year' by omega)
    omega
  · have hsucc := daysBeforeMonth_succ year hm.1 (by omega)
    have hnext := daysBeforeMonth_le year (show 1 ≤ month + 1 by omega)
      (show month + 1 ≤ month' by omega) hm'.2
    omega
  · omega

end TimeWindow.Calendar
