import TimeWindow.Binary64.Arithmetic
import TimeWindow.Value.Basic

set_option autoImplicit false

/-!
# Sums of values

The end of an interval is the sum of its start and its duration, which is exact for integers of
any size. Fields are not checked, so the sum is defined on all values on which a sum has a meaning
and fails on all others.

## Main definitions

* `TimeWindow.Value.add` — the sum of two values.
-/

namespace TimeWindow.Value

/-- The binary number nearest to an integer, which may be too large for one. -/
def binaryOfInt (n : Int) : Except Failure Binary64 :=
  match Binary64.ofInt n with
  | .infinity _ => .error .integerToBinary
  | x => .ok x

/-- A span after another. -/
def addSpans (s t : Calendar.Span) : Except Failure Value := do
  let sum ← (Calendar.Span.ofMicroseconds? (s.totalMicroseconds + t.totalMicroseconds)).mapError
    .overflow
  return .span sum

/-- A span after a moment, on the clock of the moment. -/
def addToMoment (m : Moment) (s : Calendar.Span) : Except Failure Value := do
  let shown ← (Calendar.DateTime.ofMicroseconds?
    (m.dateTime.microseconds + s.totalMicroseconds)).mapError .overflow
  return .moment ⟨shown, m.place, false⟩

/-- Why two values have no sum: what comes after a sequence is no sequence of its kind, or the
values are no numbers. -/
def sumFailure (x y : Value) : Failure :=
  match x with
  | .text _ | .list _ | .tuple _ => .concatenation x.fullTypeName y.fullTypeName
  | .bytes _ | .buffer _ => .byteConcatenation x.fullTypeName y.fullTypeName
  | _ => .operands "+" x.fullTypeName y.fullTypeName

/-- The **sum** of two values. -/
def add (x y : Value) : Except Failure Value :=
  match x, y with
  | .text s, .text t => .ok (.text (s ++ t))
  | .list xs, .list ys => .ok (.list (xs ++ ys))
  | .tuple xs, .tuple ys => .ok (.tuple (xs ++ ys))
  | .bytes s, .bytes t | .bytes s, .buffer t => .ok (.bytes (s ++ t))
  | .buffer s, .buffer t | .buffer s, .bytes t => .ok (.buffer (s ++ t))
  | .span s, .span t => addSpans s t
  | .moment m, .span s | .span s, .moment m => addToMoment m s
  | .float a, .float b => .ok (.float (a.add b))
  | .float a, v =>
    match v.number? with
    | some n => (binaryOfInt n).map fun b => .float (a.add b)
    | Option.none => .error (sumFailure x y)
  | v, .float b =>
    match v.number? with
    | some n => (binaryOfInt n).map fun a => .float (a.add b)
    | Option.none => .error (sumFailure x y)
  | v, w =>
    match v.number?, w.number? with
    | some m, some n => .ok (.int (m + n))
    | _, _ => .error (sumFailure x y)

/-- **Integers of any size have an exact sum.** -/
theorem add_int (m n : Int) : add (.int m) (.int n) = .ok (.int (m + n)) := rfl

end TimeWindow.Value
