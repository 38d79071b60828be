import TimeWindow.Interval.Basic
import TimeWindow.Value.Amount

set_option autoImplicit false

/-!
# Views of intervals

An interval can be seen as moments on a clock, as a span, and as readable text. Moments and spans
are exact to the microsecond only; what is finer is dropped, towards the past.

## Main definitions

* `TimeWindow.Interval.startMoment`, `TimeWindow.Interval.finishMoment` — the ends on the clock of
  a zone.
* `TimeWindow.Interval.span` — the duration.
* `TimeWindow.Interval.text` — start, end and duration as text.
-/

namespace TimeWindow

/-- The moment of a count of nanoseconds on the clock of a zone. -/
def Value.toMoment (v : Value) (key : Text) : Except Failure Moment := do
  let n ← v.microseconds
  Moment.ofMicroseconds n key

/-- An integer is shown as the instant that it is. -/
theorem Value.toMoment_int (n : Int) (key : Text) :
    (Value.int n).toMoment key = Moment.ofNanoseconds n key := rfl

namespace Interval

/-- The **start** on the clock of a zone. -/
def startMoment (i : Interval) (key : Text) : Except Failure Moment :=
  i.start.toMoment key

/-- The **end** on the clock of a zone. -/
def finishMoment (i : Interval) (key : Text) : Except Failure Moment := do
  let finish ← i.finish
  finish.toMoment key

/-- The **duration** as a span. -/
def span (i : Interval) : Except Failure Calendar.Span := do
  let n ← i.duration.microseconds
  (Calendar.Span.ofMicroseconds? n).mapError .overflow

/-- The **text** of an interval, which shows its start, its end and its duration. -/
def text (i : Interval) : Except Failure Text :=
  i.start.windowText i.duration

end Interval

end TimeWindow
