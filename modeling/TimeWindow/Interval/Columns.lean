import TimeWindow.Interval.Row

set_option autoImplicit false

/-!
# Columns

In tables, intervals are kept as two columns of integers of 64 bits, the starts and the durations.
Writing and reading check the fields in the same way as writing a row does.

## Main definitions

* `TimeWindow.Columns` — the two columns.
* `TimeWindow.Columns.push`, `TimeWindow.Columns.ofIntervals` — the columns of intervals, made
  interval by interval.
* `TimeWindow.Interval.ofColumns` — the intervals of columns.
-/

namespace TimeWindow

/-- The two **columns** of a table of intervals. -/
structure Columns where
  starts : List Int
  durations : List Int
deriving DecidableEq

/-- The columns as a pair. -/
def Columns.toValue (c : Columns) : Value :=
  .tuple [.column c.starts, .column c.durations]

/-- The columns of rows, in order. -/
def Columns.ofRows (rows : List Row) : Columns :=
  ⟨rows.map Row.start, rows.map Row.duration⟩

/-- Columns with the fields of one more interval at their ends. The start is checked first. -/
def Columns.push (c : Columns) (i : Interval) : Except Failure Columns := do
  let a ← Field.start.checked i.start
  let b ← Field.duration.checked i.duration
  return ⟨c.starts ++ [a], c.durations ++ [b]⟩

/-- The **columns of intervals**, in order: each interval in turn is put at their ends. -/
def Columns.ofIntervals (intervals : List Interval) : Except Failure Columns :=
  intervals.foldlM push ⟨[], []⟩

namespace Interval

/-- The elements of a column, which is any sequence. -/
def columnElements (v : Value) : Except Failure (List Value) :=
  match v.elements? with
  | some items => .ok items
  | none => .error (.noLength v.fullTypeName)

/-- The intervals whose fields stand next to each other. -/
def ofFields : List (Value × Value) → Except Failure (List Interval)
  | [] => .ok []
  | (start, duration) :: rest => do
    let a ← Field.start.checked start
    let b ← Field.duration.checked duration
    let others ← ofFields rest
    return ofKind .plain (.int a) (.int b) :: others

/-- The **intervals of two columns**, which must be of one length. -/
def ofColumns (starts durations : Value) : Except Failure (List Interval) := do
  let starts ← columnElements starts
  let durations ← columnElements durations
  if starts.length ≠ durations.length then
    throw (.columnLengths starts.length durations.length)
  ofFields (starts.zip durations)

end Interval

end TimeWindow
