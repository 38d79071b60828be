import TimeWindow.Text.Basic

set_option autoImplicit false

/-!
# Faults of dates and times

Fields that make no date or time, and amounts of time that leave the range of spans or dates.

## Main definitions

* `TimeWindow.Calendar.Fault` — a field out of its range.
* `TimeWindow.Calendar.Overflow` — an amount of time that is too large for its type.
-/

namespace TimeWindow.Calendar

/-- A **fault**: the first field, in writing order, that is out of its range. -/
inductive Fault where
  | year (year : Int)
  | month
  | day
  | hour
  | minute
  | second
  | microsecond
  /-- A fixed offset of a day or more, as it is written. -/
  | offset (written : Text)
deriving DecidableEq

/-- An **overflow**: the amount of time is too large. -/
inductive Overflow where
  /-- The count of days does not fit in 32 bits. -/
  | word
  /-- A field does not even fit in 64 bits. -/
  | fieldWord
  /-- A field is too large for 32 bits. -/
  | fieldAbove
  /-- A field is too far below zero for 32 bits. -/
  | fieldBelow
  /-- A span is limited to 999999999 days in either direction. -/
  | days (count : Int)
  /-- The date is outside the years 1 to 9999. -/
  | date
deriving DecidableEq

end TimeWindow.Calendar
