import TimeWindow.Value.Instant
import TimeWindow.Value.Sum

set_option autoImplicit false

/-!
# Intervals

An interval is a half-open window of time, given by its start in nanoseconds since the epoch and
its signed duration in nanoseconds. Its fields are not checked when it is built: any values do,
and negative durations are kept as they are.

## Main definitions

* `TimeWindow.Interval` — the type.
* `TimeWindow.Interval.build` — an interval from named parts.
* `TimeWindow.Interval.between`, `TimeWindow.Interval.startingAt` — an interval from two instants,
  and from an instant and a duration.
* `TimeWindow.Interval.finish` — the instant at which an interval ends.
* `TimeWindow.Interval.toValue`, `TimeWindow.Value.toInterval?` — intervals among the values.
-/

namespace TimeWindow

/-- An **interval**. A labelled one has a label as well. -/
structure Interval where
  start : Value
  duration : Value
  label : Option Value := none

namespace Interval

/-! ## Building -/

/-- The kind of an interval. -/
def kind (i : Interval) : Kind :=
  if i.label.isSome then .labeled else .plain

/-- An interval of a kind; the label of a labelled one is empty unless it is given. -/
def ofKind (kind : Kind) (start duration : Value) : Interval :=
  match kind with
  | .plain => ⟨start, duration, none⟩
  | .labeled => ⟨start, duration, some (.text [])⟩

/-- An interval of a kind **from named parts**. Plain intervals have no label, which is noticed
before a missing field. -/
def build (kind : Kind) (start duration label : Option Value) : Except Failure Interval :=
  if kind = .plain ∧ label.isSome then .error (.unexpectedArgument kind "label")
  else match start, duration with
    | some a, some b => .ok { ofKind kind a b with label := label.or (ofKind kind a b).label }
    | none, none => .error (.missingArguments kind [.start, .duration])
    | none, some _ => .error (.missingArguments kind [.start])
    | some _, none => .error (.missingArguments kind [.duration])

/-- The interval **between two instants**. -/
def between (kind : Kind) (start finish : Value) : Except Failure Interval := do
  let a ← start.toInstant .start
  let b ← finish.toInstant .finish
  return ofKind kind (.int a) (.int (b - a))

/-- The interval **starting at an instant** with a given duration. -/
def startingAt (kind : Kind) (start duration : Value) : Except Failure Interval := do
  let a ← start.toInstant .start
  let b ← duration.toDuration
  return ofKind kind (.int a) (.int b)

/-! ## The end -/

/-- The **end** of an interval: the exact sum of start and duration. -/
def finish (i : Interval) : Except Failure Value :=
  i.start.add i.duration

/-- The end of an interval of integers is exact, however large they are. -/
theorem finish_int (a b : Int) (label : Option Value) :
    (Interval.mk (.int a) (.int b) label).finish = .ok (.int (a + b)) :=
  Value.add_int a b

/-! ## Intervals among the values -/

/-- An interval as a value. -/
def toValue (i : Interval) : Value :=
  match i.label with
  | none => .interval i.start i.duration
  | some label => .labeled i.start i.duration label

end Interval

/-- The interval that a value is. -/
def Value.toInterval? : Value → Option Interval
  | .interval start duration => some ⟨start, duration, Option.none⟩
  | .labeled start duration label => some ⟨start, duration, some label⟩
  | _ => Option.none

/-- **Every interval is a value** from which it can be taken back. -/
theorem Value.toInterval?_toValue (i : Interval) : i.toValue.toInterval? = some i := by
  rcases i with ⟨start, duration, _ | label⟩ <;> rfl

end TimeWindow
