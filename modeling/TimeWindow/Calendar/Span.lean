import TimeWindow.Failure.Basic
import TimeWindow.Numeral.Basic

set_option autoImplicit false

/-!
# Spans

A span is a signed amount of time to the microsecond, kept as days, seconds and microseconds of
which only the days can be negative. It has at most 999999999 days in either direction.

## Main definitions

* `TimeWindow.Calendar.Span` — the type.
* `TimeWindow.Calendar.Span.ofMicroseconds?` — the span of a count of microseconds.
* `TimeWindow.Calendar.Span.nanoseconds` — the nanoseconds of a span.
-/

namespace TimeWindow.Calendar

/-- A **span** of time. -/
@[ext] structure Span where
  days : Int
  seconds : Nat
  microseconds : Nat
  days_mem : -999999999 ≤ days ∧ days ≤ 999999999
  seconds_lt : seconds < 86400
  microseconds_lt : microseconds < 1000000

instance : DecidableEq Span := fun _ _ => decidable_of_iff _ Span.ext_iff.symm

namespace Span

/-- The span of a count of microseconds. The days are checked against 32 bits first, and then
against their own limit. -/
def ofMicroseconds? (n : Int) : Except Overflow Span :=
  let days := n / 86400000000
  let rest := (n % 86400000000).toNat
  if days < -2147483648 ∨ 2147483648 ≤ days then .error .word
  else if h : -999999999 ≤ days ∧ days ≤ 999999999 then
    .ok
      { days := days
        seconds := rest / 1000000 % 86400
        microseconds := rest % 1000000
        days_mem := h
        seconds_lt := Nat.mod_lt _ (by decide)
        microseconds_lt := Nat.mod_lt _ (by decide) }
  else .error (.days days)

/-- The span of amounts that need not be normal. -/
def ofParts? (days seconds microseconds : Int) : Except Overflow Span :=
  ofMicroseconds? ((days * 86400 + seconds) * 1000000 + microseconds)

/-- The microseconds of a span. -/
def totalMicroseconds (s : Span) : Int :=
  (s.days * 86400 + s.seconds) * 1000000 + s.microseconds

/-- The **nanoseconds** of a span. -/
def nanoseconds (s : Span) : Int :=
  (s.days * 86400 + s.seconds) * 1000000000 + s.microseconds * 1000

end Span

end TimeWindow.Calendar
