import TimeWindow.Interval.Columns
import TimeWindow.Interval.Document
import TimeWindow.Proofs.Interval.Row

set_option autoImplicit false

/-!
# Columns and rows

Tables are written interval by interval, and documents row by row. The two loops are apart, and they
agree all the same: they write the same integers for the same intervals, and refuse the same lists
of intervals because of the same field of the same interval.

## Main definitions

* `TimeWindow.Columns.append`, `TimeWindow.Columns.rows` — a row behind columns, and the rows of
  columns.
* `TimeWindow.Interval.FirstRefusal` — what is refused first in a list of intervals.

## Main results

* `TimeWindow.Columns.push_eq_map`, `TimeWindow.Columns.foldlM_push` — one step of writing a table,
  and all steps.
* `TimeWindow.Columns.ofIntervals_agrees` — tables and documents agree.
-/

namespace TimeWindow

open Outcome

/-! ## Refusals -/

namespace Interval

/-- An interval is refused because of its **start, or else because of its duration**. -/
theorem toRow_eq_error_iff {i : Interval} {f : Failure} :
    i.toRow = .error f ↔
      Field.start.checked i.start = .error f ∨
        (∃ a, Field.start.checked i.start = .ok a) ∧
          Field.duration.checked i.duration = .error f := by
  rw [toRow, bind_eq_error_iff]
  constructor
  · rintro (h | ⟨a, ha, h⟩)
    · exact .inl h
    · rcases bind_eq_error_iff.1 h with h | ⟨_, -, h⟩
      · exact .inr ⟨⟨a, ha⟩, h⟩
      · cases h
  · rintro (h | ⟨⟨a, ha⟩, h⟩)
    · exact .inl h
    · exact .inr ⟨a, ha, bind_eq_error_iff.2 (.inl h)⟩

/-- The **first refusal** in a list of intervals: an interval behind others that are written is
refused because of its start, or, if that is written, because of its duration. -/
def FirstRefusal (intervals : List Interval) (f : Failure) : Prop :=
  ∃ before i rest, intervals = before ++ i :: rest ∧ (∀ j ∈ before, ∃ r, j.toRow = .ok r) ∧
    i.toRow = .error f ∧
    (Field.start.checked i.start = .error f ∨
      (∃ a, Field.start.checked i.start = .ok a) ∧ Field.duration.checked i.duration = .error f)

/-- **Rows are refused** because of the first refusal. -/
theorem mapM_toRow_eq_error_iff {intervals : List Interval} {f : Failure} :
    intervals.mapM toRow = .error f ↔ FirstRefusal intervals f := by
  simp only [mapM_eq_error_iff, FirstRefusal, ← toRow_eq_error_iff, and_self]

end Interval

/-! ## Making columns -/

namespace Columns

/-- Columns with a row behind them. -/
def append (c : Columns) (r : Row) : Columns :=
  ⟨c.starts ++ [r.start], c.durations ++ [r.duration]⟩

/-- The **rows of columns**: the integers that stand next to each other. -/
def rows (c : Columns) : List Row :=
  List.zipWith Row.mk c.starts c.durations

/-- The rows of the columns of rows are these rows. -/
@[simp] theorem rows_ofRows (rows : List Row) : (ofRows rows).rows = rows := by
  simp [Columns.rows, ofRows, List.zipWith_map]

/-- **One step** puts the row of an interval behind the columns, or fails as the row does. -/
theorem push_eq_map (c : Columns) (i : Interval) : c.push i = i.toRow.map c.append := by
  rw [push, Interval.toRow]
  cases Field.start.checked i.start with
  | error f => rfl
  | ok a =>
    cases Field.duration.checked i.duration with
    | error f => rfl
    | ok b => rfl

/-- **All steps** put the rows of the intervals behind the columns, in order, or fail as the rows
do. -/
theorem foldlM_push (c : Columns) (intervals : List Interval) :
    intervals.foldlM push c = (intervals.mapM Interval.toRow).map (·.foldl append c) := by
  induction intervals generalizing c with
  | nil => rfl
  | cons i rest ih =>
    rw [List.foldlM_cons, List.mapM_cons, push_eq_map]
    cases i.toRow with
    | error f => rfl
    | ok r =>
      show rest.foldlM push (c.append r) = _
      rw [ih]
      cases rest.mapM Interval.toRow with
      | error f => rfl
      | ok rows => rfl

/-- Rows put behind columns one by one are put behind them together. -/
theorem foldl_append (c : Columns) (rows : List Row) :
    rows.foldl append c =
      ⟨c.starts ++ rows.map Row.start, c.durations ++ rows.map Row.duration⟩ := by
  induction rows generalizing c with
  | nil => simp
  | cons r rest ih => simp [ih, append]

/-- **The columns of intervals** are those of their rows. -/
theorem ofIntervals_eq_map (intervals : List Interval) :
    ofIntervals intervals = (intervals.mapM Interval.toRow).map ofRows := by
  rw [ofIntervals, foldlM_push]
  congr 1
  funext rows
  rw [foldl_append]
  rfl

/-! ## Columns and documents -/

/-- **Tables and documents agree.** The document of intervals is that of the rows of their columns,
and there is no document if there are no columns, for the same reason. There are columns exactly if
every interval is written by itself; each column then has as many integers as there are intervals,
and those of an interval stand at its place. The failure is that of the first interval that is
refused, because of its start before its duration. -/
theorem ofIntervals_agrees (intervals : List Interval) :
    Interval.listToDocument intervals =
        (ofIntervals intervals).map (fun c => Row.listDocument c.rows) ∧
      ((∃ c, ofIntervals intervals = .ok c) ↔ ∀ i ∈ intervals, ∃ r, i.toRow = .ok r) ∧
      ((∃ t, Interval.listToDocument intervals = .ok t) ↔ ∀ i ∈ intervals, ∃ r, i.toRow = .ok r) ∧
      (∀ c, ofIntervals intervals = .ok c →
        c.starts.length = intervals.length ∧ c.durations.length = intervals.length ∧
          ∀ (k : Nat) (i : Interval), intervals[k]? = some i →
            ∃ r : Row, i.toRow = .ok r ∧ c.starts[k]? = some r.start ∧
              c.durations[k]? = some r.duration) ∧
      ∀ f, (ofIntervals intervals = .error f ↔ Interval.FirstRefusal intervals f) ∧
        (Interval.listToDocument intervals = .error f ↔ Interval.FirstRefusal intervals f) := by
  have hdocument : Interval.listToDocument intervals =
      (intervals.mapM Interval.toRow).map Row.listDocument := by
    rw [Interval.listToDocument]
    cases intervals.mapM Interval.toRow <;> rfl
  rw [hdocument, ofIntervals_eq_map, ← exists_mapM_iff]
  refine ⟨?_, ?_, ?_, fun c hc => ?_, fun f => ?_⟩
  · cases intervals.mapM Interval.toRow with
    | error f => rfl
    | ok rows => simp [Except.map]
  · cases intervals.mapM Interval.toRow <;> simp [Except.map]
  · cases intervals.mapM Interval.toRow <;> simp [Except.map]
  · obtain ⟨rows, hrows, rfl⟩ := map_eq_ok_iff.1 hc
    have hlength := length_of_mapM hrows
    refine ⟨by simpa [ofRows] using hlength, by simpa [ofRows] using hlength, fun k i hi => ?_⟩
    obtain ⟨r, hr, hrow⟩ := exists_getElem?_of_mapM hrows hi
    exact ⟨r, hrow, by simp [ofRows, hr], by simp [ofRows, hr]⟩
  · rw [← Interval.mapM_toRow_eq_error_iff]
    cases intervals.mapM Interval.toRow <;> simp [Except.map]

/-- Three intervals of which the last two are refused: the second one because of its duration, which
is reported although the third one has no integer as its start. -/
theorem ofIntervals_agrees_refused :
    let intervals : List Interval :=
      [⟨.int 1, .int 2, none⟩, ⟨.int 3, .bool true, none⟩, ⟨.none, .int 4, none⟩]
    ofIntervals intervals = .error (.booleanField .duration "True") ∧
      Interval.listToDocument intervals = .error (.booleanField .duration "True") := by
  intro intervals
  have hfirst : Interval.FirstRefusal intervals (.booleanField .duration "True") :=
    ⟨[⟨.int 1, .int 2, none⟩], ⟨.int 3, .bool true, none⟩, [⟨.none, .int 4, none⟩], rfl,
      by simpa using ⟨⟨1, 2⟩, rfl⟩, rfl, .inr ⟨⟨3, rfl⟩, rfl⟩⟩
  obtain ⟨-, -, -, -, hfailure⟩ := ofIntervals_agrees intervals
  exact ⟨(hfailure _).1.2 hfirst, (hfailure _).2.2 hfirst⟩

end Columns

end TimeWindow
