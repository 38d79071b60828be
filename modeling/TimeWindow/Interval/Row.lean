import TimeWindow.Interval.View
import TimeWindow.Units
import TimeWindow.Value.Equality

set_option autoImplicit false

/-!
# Rows

The persisted form of an interval is a row: two integers of 64 bits under the keys `a` and `b`.
Writing checks the fields, which may be any values; reading checks a payload, which may be any
value. The two checks differ: an object that stands for an integer can be written, but a payload
must hold integers themselves. Truth values are never integers here.

## Main definitions

* `TimeWindow.Row` — the two integers.
* `TimeWindow.Interval.toRow` — the row of an interval.
* `TimeWindow.Interval.ofPayload` — the interval of a payload.
-/

namespace TimeWindow

/-- A **row**: the start and the duration of an interval as integers. -/
structure Row where
  start : Int
  duration : Int
deriving DecidableEq

/-- A row as a mapping. -/
def Row.toValue (r : Row) : Value :=
  .dict [(.text Field.start.key, .int r.start), (.text Field.duration.key, .int r.duration)]

/-! ## Writing -/

/-- An integer for a field, if it fits in 64 bits. -/
def Field.checkRange (field : Field) (n : Int) : Except Failure Int :=
  if fitsInt64 n then .ok n
  else do
    let text ← Numeral.int? n
    throw (.fieldRange field text)

/-- The integer that is written for the value of a field. -/
def Field.checked (field : Field) (v : Value) : Except Failure Int :=
  match v with
  | .bool b => do
    let text ← (Value.bool b).written
    throw (.booleanField field text)
  | v =>
    match v.integer? with
    | some n => field.checkRange n
    | none => do
      let text ← v.written
      throw (.nonIntegerField field v.typeName text)

/-- The **row of an interval**. The start is checked first. -/
def Interval.toRow (i : Interval) : Except Failure Row := do
  let a ← Field.start.checked i.start
  let b ← Field.duration.checked i.duration
  return ⟨a, b⟩

/-! ## Reading -/

/-- The keys of a mapping as they are shown: in order, between brackets. -/
def shownKeys (entries : List (Value × Value)) : Except Failure Text := do
  let keys ← entries.mapM fun entry => entry.1.display
  return Value.bracketed "[" "]" ((keys.mergeSort Text.before).map Text.quoted)

/-- The integer that a payload has for a field. -/
def Field.ofPayload (field : Field) (entries : List (Value × Value)) : Except Failure Int :=
  match Value.lookup? (.text field.key) entries with
  | none => do
    let keys ← shownKeys entries
    throw (.missingField field keys)
  | some (.int n) =>
    if fitsInt64 n then .ok n
    else do
      let text ← Numeral.int? n
      throw (.payloadRange field text)
  | some v => do
    let text ← v.written
    throw (.payloadField field v.typeName text)

/-- The **interval of a payload**, of a given kind. Unknown keys are ignored. -/
def Interval.ofPayload (kind : Kind) (payload : Value) : Except Failure Interval :=
  match payload with
  | .dict entries => do
    let a ← Field.start.ofPayload entries
    let b ← Field.duration.ofPayload entries
    return .ofKind kind (.int a) (.int b)
  | v => do
    let text ← v.written
    throw (.notObject v.typeName text)

end TimeWindow
