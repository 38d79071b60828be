import TimeWindow.Calendar.DayNumber
import TimeWindow.Failure.Basic
import TimeWindow.Numeral.Basic

set_option autoImplicit false

/-!
# Dates and times of day

Dates of the years 1 to 9999, times of day to the microsecond, and the two together. A date-time
is as good as a count of microseconds: the one since 1970-01-01 00:00 on the same clock.

## Main definitions

* `TimeWindow.Calendar.Date`, `TimeWindow.Calendar.TimeOfDay`, `TimeWindow.Calendar.DateTime` —
  existing dates and times.
* `TimeWindow.Calendar.DateTime.ofFields?`, `TimeWindow.Calendar.DateTime.ofIntegers?` — a date-time
  from its fields, or the first bad field.
* `TimeWindow.Calendar.DateTime.microseconds`, `TimeWindow.Calendar.DateTime.ofMicroseconds?` —
  the count of a date-time, and the date-time of a count.
-/

namespace TimeWindow.Calendar

/-! ## Dates -/

/-- A **date** of the years 1 to 9999. -/
structure Date where
  year : Int
  month : Nat
  day : Nat
  year_mem : 1 ≤ year ∧ year ≤ 9999
  month_mem : 1 ≤ month ∧ month ≤ 12
  day_mem : 1 ≤ day ∧ day ≤ daysInMonth year month
deriving DecidableEq

namespace Date

/-- The date with given fields, or the first field that is out of its range. -/
def ofFields? (year : Int) (month day : Nat) : Except Fault Date :=
  if hy : 1 ≤ year ∧ year ≤ 9999 then
    if hm : 1 ≤ month ∧ month ≤ 12 then
      if hd : 1 ≤ day ∧ day ≤ daysInMonth year month then
        .ok ⟨year, month, day, hy, hm, hd⟩
      else .error .day
    else .error .month
  else .error (.year year)

/-- The number of a date. -/
def dayNumber (d : Date) : Int :=
  Calendar.dayNumber d.year d.month d.day

/-- The date of a day number, if it is in the years 1 to 9999. -/
def ofDayNumber? (day : Int) : Except Overflow Date :=
  match ofFields? (yearOfDay day) (monthOfDay day) (dayOfMonth day) with
  | .ok d => .ok d
  | .error _ => .error .date

end Date

/-! ## Times of day -/

/-- A **time of day**, to the microsecond. -/
structure TimeOfDay where
  hour : Nat
  minute : Nat
  second : Nat
  microsecond : Nat
  hour_lt : hour < 24
  minute_lt : minute < 60
  second_lt : second < 60
  microsecond_lt : microsecond < 1000000
deriving DecidableEq

namespace TimeOfDay

/-- The time of day with given fields, or the first field that is out of its range. -/
def ofFields? (hour minute second microsecond : Nat) : Except Fault TimeOfDay :=
  if hh : hour < 24 then
    if hm : minute < 60 then
      if hs : second < 60 then
        if hu : microsecond < 1000000 then
          .ok ⟨hour, minute, second, microsecond, hh, hm, hs, hu⟩
        else .error .microsecond
      else .error .second
    else .error .minute
  else .error .hour

/-- The seconds since midnight. -/
def seconds (t : TimeOfDay) : Nat :=
  t.hour * 3600 + t.minute * 60 + t.second

/-- The microseconds since midnight. -/
def microseconds (t : TimeOfDay) : Nat :=
  t.seconds * 1000000 + t.microsecond

/-- The time of day a number of microseconds after midnight, whole days left out. -/
def ofMicroseconds (n : Nat) : TimeOfDay where
  hour := n / 3600000000 % 24
  minute := n / 60000000 % 60
  second := n / 1000000 % 60
  microsecond := n % 1000000
  hour_lt := Nat.mod_lt _ (by decide)
  minute_lt := Nat.mod_lt _ (by decide)
  second_lt := Nat.mod_lt _ (by decide)
  microsecond_lt := Nat.mod_lt _ (by decide)

end TimeOfDay

/-! ## Date-times -/

/-- A **date-time**: a date and a time of day, on a clock that is not named. -/
structure DateTime where
  date : Date
  time : TimeOfDay
deriving DecidableEq

namespace DateTime

/-- The microseconds of a day. -/
def dayMicroseconds : Int := 86400000000

/-- The date-time with given fields, or the first field that is out of its range. -/
def ofFields? (year : Int) (month day hour minute second microsecond : Nat) :
    Except Fault DateTime := do
  let date ← Date.ofFields? year month day
  let time ← TimeOfDay.ofFields? hour minute second microsecond
  return ⟨date, time⟩

/-- Refuses a field that does not fit in 32 bits. -/
def checkField (n : Int) : Except Overflow Unit :=
  if n < -9223372036854775808 ∨ 9223372036854775808 ≤ n then .error .fieldWord
  else if 2147483648 ≤ n then .error .fieldAbove
  else if n < -2147483648 then .error .fieldBelow
  else .ok ()

/-- A field as a natural number. A negative one becomes a number that is out of every range. -/
def naturalField (n : Int) : Nat :=
  if n < 0 then 1000000 else n.toNat

/-- The date-time with fields that can be any integers. All of them must fit in 32 bits before the
range of any is looked at. -/
def ofIntegers? (year month day hour minute second microsecond : Int) :
    Except Failure DateTime := do
  let fields := [year, month, day, hour, minute, second, microsecond]
  let _ ← (fields.mapM checkField).mapError .overflow
  (ofFields? year (naturalField month) (naturalField day) (naturalField hour)
    (naturalField minute) (naturalField second) (naturalField microsecond)).mapError .calendar

/-- The **count** of microseconds from 1970-01-01 00:00 on the same clock. -/
def microseconds (d : DateTime) : Int :=
  d.date.dayNumber * dayMicroseconds + d.time.microseconds

/-- The date-time of a count of microseconds, if it is in the years 1 to 9999. -/
def ofMicroseconds? (n : Int) : Except Overflow DateTime := do
  let date ← Date.ofDayNumber? (n / dayMicroseconds)
  return ⟨date, .ofMicroseconds (n % dayMicroseconds).toNat⟩

end DateTime

end TimeWindow.Calendar
