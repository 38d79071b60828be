import Mathlib.Tactic.SplitIfs
import TimeWindow.Proofs.Outcome
import TimeWindow.Value.Written

set_option autoImplicit false

/-!
# Failures of writing a value

Writing a value or showing it to people can fail: an integer may have too many digits, an instant
may lie outside the calendar, the parts of an interval may have no sum. None of these failures is a
failure to decode. So where one of them comes up while the refusal of a payload is worded, it takes
the place of the refusal, and escapes a caller that expects failures to decode.

## Main definitions

* `TimeWindow.Failure.Escapes` — a failure is no failure to decode.

## Main results

* `TimeWindow.Value.failsOnly_written`, `TimeWindow.Value.failsOnly_display` — all failures of
  writing a value and of showing it escape.
-/

namespace TimeWindow

open Outcome

/-- A failure **escapes** a caller that expects failures to decode. -/
def Failure.Escapes (f : Failure) : Prop :=
  f.category ≠ .undecodable

@[simp] theorem Failure.escapes_iff {f : Failure} : f.Escapes ↔ f.category ≠ .undecodable :=
  Iff.rfl

namespace Numeral

theorem failsOnly_int? (n : Int) : FailsOnly Failure.Escapes (int? n) := by
  unfold int?
  split
  · exact .ok _
  · exact .error (by simp [Failure.category])

theorem failsOnly_decimal? (n scale : Nat) : FailsOnly Failure.Escapes (decimal? n scale) := by
  unfold decimal?
  split
  · exact failsOnly_int? _
  · exact .bind (failsOnly_int? _) fun _ => .bind (failsOnly_int? _) fun _ => .ok _

end Numeral

namespace Timestamp

theorem failsOnly_dateTimeAt? (n : Int) : FailsOnly Failure.Escapes (dateTimeAt? n) :=
  .bind (.mapError fun _ => by simp [Failure.category]) fun _ =>
    .mapError fun _ => by simp [Failure.category]

theorem failsOnly_format (n : Int) : FailsOnly Failure.Escapes (format n) :=
  .bind (failsOnly_dateTimeAt? _) fun _ => .ok _

end Timestamp

namespace Duration

theorem failsOnly_clockText (n : Nat) : FailsOnly Failure.Escapes (clockText n) := by
  refine .bind (Numeral.failsOnly_decimal? _ _) fun seconds => ?_
  split
  · exact .bind (Numeral.failsOnly_int? _) fun h => .ok _
  · split <;> exact .ok _

theorem failsOnly_magnitudeText (n : Nat) : FailsOnly Failure.Escapes (magnitudeText n) := by
  unfold magnitudeText
  split
  · exact .ok _
  · split
    · exact .bind (Numeral.failsOnly_decimal? _ _) fun t => .ok _
    · split
      · exact .bind (Numeral.failsOnly_decimal? _ _) fun t => .ok _
      · exact failsOnly_clockText n

theorem failsOnly_format (n : Int) : FailsOnly Failure.Escapes (format n) := by
  unfold format
  split
  · exact .ok _
  · exact .bind (failsOnly_magnitudeText _) fun t => .ok _

end Duration

namespace Binary64

theorem failsOnly_toInteger (x : Binary64) : FailsOnly Failure.Escapes x.toInteger := by
  cases x with
  | nan _ => exact .error (by simp [Failure.category])
  | infinity _ => exact .error (by simp [Failure.category])
  | finite _ _ _ => exact .ok _

theorem failsOnly_instantText (x : Binary64) : FailsOnly Failure.Escapes x.instantText := by
  refine .bind (failsOnly_toInteger _) fun seconds => ?_
  refine .bind (Timestamp.failsOnly_dateTimeAt? _) fun d => ?_
  split
  · exact .ok _
  · exact .error (by simp [Failure.category])

theorem failsOnly_wholeDurationText (n : Nat) :
    FailsOnly Failure.Escapes (wholeDurationText n) := by
  unfold wholeDurationText
  split_ifs
  all_goals first
    | exact .ok _
    | exact .error (by simp [Failure.category])

theorem failsOnly_durationText (x : Binary64) : FailsOnly Failure.Escapes x.durationText := by
  cases x with
  | nan _ => exact .error (by simp [Failure.category])
  | infinity _ => exact .error (by simp [Failure.category])
  | finite negative m e =>
    rw [durationText]
    dsimp only
    split
    · exact .ok _
    · split
      · exact .ok _
      · split
        · exact .bind (failsOnly_wholeDurationText _) fun t => .ok _
        · exact .error (by simp [Failure.category])

end Binary64

namespace Value

theorem failsOnly_binaryOfInt (n : Int) : FailsOnly Failure.Escapes (binaryOfInt n) := by
  unfold binaryOfInt
  split
  · exact .error (by simp [Failure.category])
  · exact .ok _

theorem failsOnly_addSpans (s t : Calendar.Span) : FailsOnly Failure.Escapes (addSpans s t) :=
  .bind (.mapError fun _ => by simp [Failure.category]) fun _ => .ok _

theorem failsOnly_addToMoment (m : Moment) (s : Calendar.Span) :
    FailsOnly Failure.Escapes (addToMoment m s) :=
  .bind (.mapError fun _ => by simp [Failure.category]) fun _ => .ok _

theorem escapes_sumFailure (x y : Value) : (sumFailure x y).Escapes := by
  cases x <;> simp [sumFailure, Failure.category]

theorem failsOnly_add (x y : Value) : FailsOnly Failure.Escapes (x.add y) := by
  unfold add
  split
  all_goals first
    | exact .ok _
    | exact failsOnly_addSpans _ _
    | exact failsOnly_addToMoment _ _
    | split
      · first
          | exact .map (failsOnly_binaryOfInt _)
          | exact .ok _
      · exact .error (escapes_sumFailure _ _)

theorem failsOnly_instantText (v : Value) : FailsOnly Failure.Escapes v.instantText := by
  unfold instantText
  split
  · exact Binary64.failsOnly_instantText _
  · split
    · exact Timestamp.failsOnly_format _
    · exact .error (by simp [Failure.category])

theorem failsOnly_durationText (v : Value) : FailsOnly Failure.Escapes v.durationText := by
  unfold durationText
  split
  · exact Binary64.failsOnly_durationText _
  · split
    · exact Duration.failsOnly_format _
    · exact .error (by simp [Failure.category])

theorem failsOnly_windowText (a b : Value) : FailsOnly Failure.Escapes (a.windowText b) := by
  refine .bind (failsOnly_instantText a) fun opening => ?_
  refine .bind (failsOnly_add a b) fun finish => ?_
  refine .bind (failsOnly_instantText finish) fun closing => ?_
  exact .bind (failsOnly_durationText b) fun length => .ok _

/-- A value that has a readable form of its own fails to have one without failing to decode. -/
theorem failsOnly_readable? {v : Value} {shown : Except Failure Text}
    (h : v.readable? = some shown) : FailsOnly Failure.Escapes shown := by
  cases v
  case text t => cases h; exact .ok _
  case span s => cases h; exact .ok _
  case moment m => cases h; exact .ok _
  case interval a b => cases h; exact failsOnly_windowText a b
  case labeled a b l => cases h; exact failsOnly_windowText a b
  all_goals cases h

mutual

/-- **No failure of writing a value** is a failure to decode. -/
theorem failsOnly_written : ∀ v : Value, FailsOnly Failure.Escapes v.written
  | .none => by rw [written]; exact .ok _
  | .bool b => by rw [written]; exact .ok _
  | .int n => by rw [written]; exact Numeral.failsOnly_int? n
  | .float x => by rw [written]; exact .ok _
  | .text t => by rw [written]; exact .ok _
  | .bytes bs => by rw [written]; exact .ok _
  | .buffer bs => by rw [written]; exact .ok _
  | .list items => by
    rw [written]
    exact .bind (failsOnly_writtenAll items) fun texts => .ok _
  | .tuple items => by
    rw [written]
    exact .bind (failsOnly_writtenAll items) fun texts => .ok _
  | .dict entries => by
    rw [written]
    exact .bind (failsOnly_writtenEntries entries) fun texts => .ok _
  | .indexLike identity v => by
    rw [written]
    refine .bind ?_ fun shown => .ok _
    cases hread : v.readable? with
    | none => exact failsOnly_written v
    | some shown => exact failsOnly_readable? hread
  | .column [] => by rw [written]; exact .ok _
  | .column (n :: rest) => by
    rw [written]
    · exact .bind (.mapM fun m _ => Numeral.failsOnly_int? m) fun texts => .ok _
    · simp
  | .span s => by rw [written]; exact .ok _
  | .moment m => by rw [written]; exact .ok _
  | .interval a b => by
    rw [written]
    exact .bind (failsOnly_written a) fun s => .bind (failsOnly_written b) fun t => .ok _
  | .labeled a b l => by
    rw [written]
    exact .bind (failsOnly_written a) fun s =>
      .bind (failsOnly_written b) fun t => .bind (failsOnly_written l) fun u => .ok _

/-- No failure of writing items is a failure to decode. -/
theorem failsOnly_writtenAll : ∀ items : List Value, FailsOnly Failure.Escapes (writtenAll items)
  | [] => by rw [writtenAll]; exact .ok _
  | v :: rest => by
    rw [writtenAll]
    exact .bind (failsOnly_written v) fun t => .bind (failsOnly_writtenAll rest) fun ts => .ok _

/-- No failure of writing entries is a failure to decode. -/
theorem failsOnly_writtenEntries : ∀ entries : List (Value × Value),
    FailsOnly Failure.Escapes (writtenEntries entries)
  | [] => by rw [writtenEntries]; exact .ok _
  | (key, value) :: rest => by
    rw [writtenEntries]
    exact .bind (failsOnly_written key) fun k => .bind (failsOnly_written value) fun v =>
      .bind (failsOnly_writtenEntries rest) fun ts => .ok _

end

/-- **No failure to show a value** in its readable form is a failure to decode. -/
theorem failsOnly_display (v : Value) : FailsOnly Failure.Escapes v.display := by
  unfold display
  cases hread : v.readable? with
  | none => exact failsOnly_written v
  | some shown => exact failsOnly_readable? hread

end Value

end TimeWindow
