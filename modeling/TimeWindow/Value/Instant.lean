import TimeWindow.Timestamp.Reading
import TimeWindow.Value.Written

set_option autoImplicit false

/-!
# Values as instants and durations

An interval is built from instants and durations. An instant is an integer, in nanoseconds since
the epoch, or a moment that has an offset; a duration is an integer, in nanoseconds, or a span.
Truth values are not integers here.

## Main definitions

* `TimeWindow.Value.toInstant` — the instant that a value is.
* `TimeWindow.Value.toDuration` — the duration that a value is.
* `TimeWindow.Value.readTimestamp` — the instant that a value spells.
-/

namespace TimeWindow.Value

/-- The **instant** that a value is, in nanoseconds since the epoch; a failure names the edge of
the interval that the value was given for. -/
def toInstant (edge : Edge) : Value → Except Failure Int
  | .int n => .ok n
  | .moment m =>
    match m.nanoseconds? with
    | some n => .ok n
    | Option.none => .error (.naiveMoment edge m.written)
  | v => do
    let text ← v.written
    throw (.notInstant edge v.typeName text)

/-- The **duration** that a value is, in nanoseconds. -/
def toDuration : Value → Except Failure Int
  | .int n => .ok n
  | .span s => .ok s.nanoseconds
  | v => do
    let text ← v.written
    throw (.notDuration v.typeName text)

/-- The instant that a value **spells** as a timestamp. Blanks are taken off bytes as well, but only
text has the shape of a timestamp. -/
def readTimestamp : Value → Except Failure Int
  | .text t => Timestamp.parse t
  | .bytes _ | .buffer _ => .error .byteTimestamp
  | v => .error (.noAttribute v.fullTypeName "strip")

/-- An integer is its own instant. -/
@[simp] theorem toInstant_int (edge : Edge) (n : Int) : (Value.int n).toInstant edge = .ok n := rfl

/-- An integer is its own duration. -/
@[simp] theorem toDuration_int (n : Int) : (Value.int n).toDuration = .ok n := rfl

/-- A span is the duration of its nanoseconds. -/
@[simp] theorem toDuration_span (s : Calendar.Span) :
    (Value.span s).toDuration = .ok s.nanoseconds := rfl

end TimeWindow.Value
