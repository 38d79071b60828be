import TimeWindow.Proofs.Interval.Span
import TimeWindow.Proofs.Moment.Difference
import TimeWindow.Proofs.Moment.UniversalTime

set_option autoImplicit false

/-!
# Three views of an interval

An interval can be looked at as its start and its end on the clock of universal time, and as its
duration. All three are rounded down to the microsecond, each by itself. So the time between the two
moments is the duration, or one microsecond more: it is more exactly if the nanoseconds that the
start and the duration lose make up a microsecond, whether start and duration are positive or
negative.

## Main definitions

* `TimeWindow.Calendar.Span.microsecond` — the span of one microsecond.

## Main results

* `TimeWindow.microsecond_of_sum` — the microsecond of a sum.
* `TimeWindow.Interval.between_bounds_of_moments` — an interval between two moments of universal time
  is shorter than the calendar.
* `TimeWindow.Interval.moments_apart` — how far the moments of an interval are apart.
-/

namespace TimeWindow

open Outcome Calendar

/-! ## Spans after one another -/

/-- The span of **one microsecond**. -/
def Calendar.Span.microsecond : Span where
  days := 0
  seconds := 0
  microseconds := 1
  days_mem := by decide
  seconds_lt := by decide
  microseconds_lt := by decide

/-- **The sum of two spans** has the sum of their microseconds. -/
theorem Value.add_span {s t sum : Span}
    (h : sum.totalMicroseconds = s.totalMicroseconds + t.totalMicroseconds) :
    (Value.span s).add (.span t) = .ok (.span sum) := by
  show addSpans s t = _
  rw [addSpans, Span.ofMicroseconds?_eq_ok_iff.2 h]
  rfl

/-- **The microsecond of a sum** is the sum of the microseconds, and one more if the nanoseconds that
are lost of both make up a microsecond. -/
theorem microsecond_of_sum (a b : Int) :
    (a + b) / 1000 = a / 1000 + b / 1000 + if a % 1000 + b % 1000 < 1000 then 0 else 1 := by
  split <;> omega

/-! ## The moments of an interval -/

namespace Interval

variable {a b : Int} {label : Option Value} {first last : Moment}

/-- The start of an interval on the clock of universal time. -/
theorem startMoment_utc (h : (Interval.mk (.int a) (.int b) label).startMoment "UTC" = .ok first) :
    first.dateTime.microseconds = a / 1000 ∧ first.place = .zone Zone.utc := by
  obtain ⟨hcount, hplace, -⟩ := Moment.ofNanoseconds_utc_eq_ok_iff.1 h
  exact ⟨hcount, hplace⟩

/-- The end of an interval on a clock is that of the exact sum. -/
theorem finishMoment_int (a b : Int) (label : Option Value) (key : Text) :
    (Interval.mk (.int a) (.int b) label).finishMoment key = Moment.ofNanoseconds (a + b) key := by
  rw [finishMoment, finish_int]
  rfl

/-- The end of an interval on the clock of universal time. -/
theorem finishMoment_utc (h : (Interval.mk (.int a) (.int b) label).finishMoment "UTC" = .ok last) :
    last.dateTime.microseconds = (a + b) / 1000 ∧ last.place = .zone Zone.utc := by
  rw [finishMoment_int] at h
  obtain ⟨hcount, hplace, -⟩ := Moment.ofNanoseconds_utc_eq_ok_iff.1 h
  exact ⟨hcount, hplace⟩

/-- **An interval between two moments of universal time** lies in the calendar, which is shorter than
the longest span. -/
theorem between_bounds_of_moments
    (hfirst : (Interval.mk (.int a) (.int b) label).startMoment "UTC" = .ok first)
    (hlast : (Interval.mk (.int a) (.int b) label).finishMoment "UTC" = .ok last) :
    -315537897600 * 10 ^ 9 < b ∧ b < 315537897600 * 10 ^ 9 := by
  rw [finishMoment_int] at hlast
  exact Timestamp.between_bounds (Moment.exists_ofNanoseconds_utc_iff.1 ⟨first, hfirst⟩)
    (Moment.exists_ofNanoseconds_utc_iff.1 ⟨last, hlast⟩)

/-- **The moments of an interval are as far apart as its duration says**, or one microsecond more. If
the start and the end of an interval of integers are shown on the clock of universal time, then its
duration has a span. The span from the first moment to the last one is this span if what the start
and the duration have beyond whole microseconds is less than a microsecond together, and one
microsecond more otherwise. -/
theorem moments_apart
    (hfirst : (Interval.mk (.int a) (.int b) label).startMoment "UTC" = .ok first)
    (hlast : (Interval.mk (.int a) (.int b) label).finishMoment "UTC" = .ok last) :
    ∃ duration apart : Span,
      (Interval.mk (.int a) (.int b) label).span = .ok duration ∧ last.since? first = some apart ∧
        (a % 1000 + b % 1000 < 1000 → apart = duration) ∧
        (1000 ≤ a % 1000 + b % 1000 →
          (Value.span duration).add (.span .microsecond) = .ok (.span apart)) ∧
        duration.totalMicroseconds ≤ apart.totalMicroseconds ∧
        apart.totalMicroseconds ≤ duration.totalMicroseconds + 1 := by
  have hbounds := between_bounds_of_moments hfirst hlast
  obtain ⟨hfirstCount, hfirstPlace⟩ := startMoment_utc hfirst
  obtain ⟨hlastCount, hlastPlace⟩ := finishMoment_utc hlast
  have hsum := microsecond_of_sum a b
  obtain ⟨duration, hduration⟩ := Span.exists_ofMicroseconds? (n := b / 1000) (by
    rw [DateTime.dayMicroseconds]
    omega)
  obtain ⟨apart, hapart⟩ := Span.exists_ofMicroseconds? (n := (a + b) / 1000 - a / 1000) (by
    rw [DateTime.dayMicroseconds]
    omega)
  rw [Span.ofMicroseconds?_eq_ok_iff] at hduration hapart
  refine ⟨duration, apart, span_eq_ok_iff.2 hduration, ?_, fun hless => ?_, fun hmore => ?_, ?_⟩
  · refine Moment.since?_of_place (hlastPlace.trans hfirstPlace.symm) ?_
    rw [hapart, hlastCount, hfirstCount]
  · rw [if_pos hless] at hsum
    exact Span.eq_of_totalMicroseconds (by omega)
  · rw [if_neg (by omega)] at hsum
    refine Value.add_span ?_
    rw [hapart, hduration, show Span.microsecond.totalMicroseconds = 1 from rfl]
    omega
  · split at hsum <;> omega

/-- From one nanosecond before the epoch for one nanosecond: the moments are a microsecond apart, and
the duration has no whole microsecond. -/
theorem moments_apart_epoch :
    ∃ first last duration apart,
      (Interval.mk (.int (-1)) (.int 1) none).startMoment "UTC" = .ok first ∧
        (Interval.mk (.int (-1)) (.int 1) none).finishMoment "UTC" = .ok last ∧
        (Interval.mk (.int (-1)) (.int 1) none).span = .ok duration ∧
        last.since? first = some apart ∧
        (Value.span duration).add (.span .microsecond) = .ok (.span apart) := by
  have hfirst : (Interval.mk (.int (-1)) (.int 1) none).startMoment "UTC" =
      .ok ⟨⟨⟨1969, 12, 31, by decide, by decide, by decide⟩,
        ⟨23, 59, 59, 999999, by decide, by decide, by decide, by decide⟩⟩, .zone Zone.utc, false⟩ := by
    rfl
  have hlast : (Interval.mk (.int (-1)) (.int 1) none).finishMoment "UTC" =
      .ok ⟨⟨⟨1970, 1, 1, by decide, by decide, by decide⟩,
        ⟨0, 0, 0, 0, by decide, by decide, by decide, by decide⟩⟩, .zone Zone.utc, false⟩ := by
    rfl
  obtain ⟨duration, apart, hduration, hapart, -, hmore, -⟩ := moments_apart hfirst hlast
  exact ⟨_, _, duration, apart, hfirst, hlast, hduration, hapart, hmore (by decide)⟩

end Interval

end TimeWindow
