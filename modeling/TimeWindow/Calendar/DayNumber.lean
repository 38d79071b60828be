set_option autoImplicit false

/-!
# Day numbers

The proleptic Gregorian calendar as arithmetic: the number of a day counts from 1970-01-01, which
is day zero, for every integer year. Weeks and leap years repeat every 400 years, which have
146097 days.

## Main definitions

* `TimeWindow.Calendar.isLeap`, `TimeWindow.Calendar.daysInMonth` — lengths of years and months.
* `TimeWindow.Calendar.dayNumber` — the number of a day given by year, month and day.
* `TimeWindow.Calendar.yearOfDay`, `TimeWindow.Calendar.monthOfDay`,
  `TimeWindow.Calendar.dayOfMonth` — the year, month and day of a day number.
* `TimeWindow.Calendar.weekday` — the day of the week.
-/

namespace TimeWindow.Calendar

/-! ## Lengths -/

/-- **Leap years**: every fourth year, but of the years divisible by 100 only those divisible
by 400. -/
def isLeap (year : Int) : Bool :=
  year % 4 == 0 && (year % 100 != 0 || year % 400 == 0)

/-- The number of days of a month, counted from January as 1. -/
def daysInMonth (year : Int) (month : Nat) : Nat :=
  if month = 2 then (if isLeap year then 29 else 28)
  else if month = 4 ∨ month = 6 ∨ month = 9 ∨ month = 11 then 30
  else 31

/-! ## From dates to numbers -/

/-- The days from the first day of year 1 to the first day of a year: 365 for each year between,
and one for each leap year between. -/
def daysBeforeYear (year : Int) : Int :=
  365 * (year - 1) + (year - 1) / 4 - (year - 1) / 100 + (year - 1) / 400

/-- The days of a common year before each month. -/
def commonMonthStarts : List Nat :=
  [0, 31, 59, 90, 120, 151, 181, 212, 243, 273, 304, 334]

/-- The days of a year before a month. -/
def daysBeforeMonth (leap : Bool) (month : Nat) : Nat :=
  commonMonthStarts.getD (month - 1) 0 + (if leap && 2 < month then 1 else 0)

/-- The days from the first day of year 1 to 1970-01-01. -/
def epochDay : Int := 719162

/-- The **day number** of a date. -/
def dayNumber (year : Int) (month day : Nat) : Int :=
  daysBeforeYear year + daysBeforeMonth (isLeap year) month + day - 1 - epochDay

/-! ## From numbers to dates -/

/-- The position of a day: full periods of 400, 100, 4 and 1 years since the first day of year 1,
and the day of the year, from zero. The last day of a long period belongs to its last short
period, although it is one more than the short period is long. -/
structure YearPosition where
  fourCenturies : Int
  centuries : Int
  quadrennia : Int
  years : Int
  dayOfYear : Int

/-- The position of the day with a given number. -/
def yearPosition (day : Int) : YearPosition :=
  let days := day + epochDay
  let inFourCenturies := days % 146097
  let centuries := min (inFourCenturies / 36524) 3
  let inCentury := inFourCenturies - 36524 * centuries
  let inQuadrennium := inCentury % 1461
  let years := min (inQuadrennium / 365) 3
  { fourCenturies := days / 146097
    centuries := centuries
    quadrennia := inCentury / 1461
    years := years
    dayOfYear := inQuadrennium - 365 * years }

/-- The year that a position lies in. -/
def YearPosition.year (p : YearPosition) : Int :=
  400 * p.fourCenturies + 100 * p.centuries + 4 * p.quadrennia + p.years + 1

/-- The **year** of a day number. -/
def yearOfDay (day : Int) : Int :=
  (yearPosition day).year

/-- The day of the year, from zero, of a day number. -/
def dayOfYear (day : Int) : Nat :=
  (yearPosition day).dayOfYear.toNat

/-- The month that a day of the year, counted from zero, lies in: as many months have started. -/
def monthOfYearDay (leap : Bool) (dayOfYear : Nat) : Nat :=
  (List.range 12).countP fun k => daysBeforeMonth leap (k + 1) ≤ dayOfYear

/-- The **month** of a day number. -/
def monthOfDay (day : Int) : Nat :=
  monthOfYearDay (isLeap (yearOfDay day)) (dayOfYear day)

/-- The **day of the month** of a day number. -/
def dayOfMonth (day : Int) : Nat :=
  dayOfYear day - daysBeforeMonth (isLeap (yearOfDay day)) (monthOfDay day) + 1

/-! ## Weeks -/

/-- The **day of the week**, from Sunday as zero: day zero is a Thursday. -/
def weekday (day : Int) : Int :=
  (day + 4) % 7

/-- The first Sunday on or after a day. -/
def sundayFrom (day : Int) : Int :=
  day + (7 - weekday day) % 7

/-- The last Sunday on or before a day. -/
def sundayUpTo (day : Int) : Int :=
  day - weekday day

end TimeWindow.Calendar
