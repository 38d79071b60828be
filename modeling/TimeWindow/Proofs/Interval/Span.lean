import TimeWindow.Interval.View
import TimeWindow.Proofs.Calendar.Span
import TimeWindow.Units

set_option autoImplicit false

/-!
# Durations as spans

A duration can be given as a span, and any duration of an integer number of nanoseconds can be
looked at as one. A span has whole microseconds, so nothing is lost on the way in, and what is finer
than a microsecond is lost on the way out, towards the past. The days of a span are limited; the days
of a duration in nanoseconds, rounded down, are the days of its span.

## Main definitions

* `TimeWindow.Value.IsInstant` — a value names an instant.

## Main results

* `TimeWindow.Value.exists_toInstant_iff` — which values are taken as instants.
* `TimeWindow.Interval.span_eq_ok_iff`, `TimeWindow.Interval.span_eq_error_iff` — the span of a
  duration, or why it has none.
* `TimeWindow.Interval.span_startingAt` — a span is kept as a duration, and an integer is kept down
  to the microsecond.
-/

namespace TimeWindow

open Outcome Calendar

/-! ## Instants -/

/-- A value **is an instant**: an integer, or a moment on a clock that has an offset. -/
def Value.IsInstant : Value → Prop
  | .int _ => True
  | .moment m => m.offset?.isSome
  | _ => False

/-- A moment has an instant exactly if its clock has an offset. -/
theorem Moment.isSome_nanoseconds? (m : Moment) : m.nanoseconds?.isSome = m.offset?.isSome := by
  rw [nanoseconds?, microseconds?, Option.isSome_map, Option.isSome_map]

/-- **The values that are taken as instants** are the instants. -/
theorem Value.exists_toInstant_iff {v : Value} {edge : Edge} :
    (∃ n, v.toInstant edge = .ok n) ↔ v.IsInstant := by
  have hrefused : ∀ {x : Except Failure Text} {f : Text → Failure},
      ¬∃ n : Int, (x >>= fun text => throw (f text)) = .ok n := by
    rintro x f ⟨n, h⟩
    obtain ⟨_, -, h⟩ := bind_eq_ok_iff.1 h
    cases h
  cases v with
  | int n => exact ⟨fun _ => trivial, fun _ => ⟨n, rfl⟩⟩
  | moment m =>
    rw [IsInstant, ← m.isSome_nanoseconds?, toInstant]
    cases m.nanoseconds? with
    | some n => exact ⟨fun _ => rfl, fun _ => ⟨n, rfl⟩⟩
    | none =>
      constructor
      · rintro ⟨_, h⟩
        cases h
      · intro h
        cases h
  | none | bool | float | text | bytes | buffer | list | tuple | dict | indexLike | column | span
  | interval | labeled => exact iff_of_false hrefused id

namespace Interval

/-! ## Spans of durations -/

/-- The span of a duration of an integer number of nanoseconds. -/
theorem span_int (start : Value) (b : Int) (label : Option Value) :
    (Interval.mk start (.int b) label).span =
      (Span.ofMicroseconds? (b / 1000)).mapError .overflow := rfl

/-- **The span of a duration** has its microseconds. -/
theorem span_eq_ok_iff {start : Value} {b : Int} {label : Option Value} {s : Span} :
    (Interval.mk start (.int b) label).span = .ok s ↔ s.totalMicroseconds = b / 1000 := by
  rw [span_int, mapError_eq_ok_iff, Span.ofMicroseconds?_eq_ok_iff]

/-- The microsecond of a duration lies on its day. -/
theorem microseconds_div_day (b : Int) : b / 1000 / DateTime.dayMicroseconds = b / Units.day := by
  rw [DateTime.dayMicroseconds, show Units.day = 86400000000000 from rfl]
  omega

/-- A duration has a span exactly if its days are within the bounds of spans. -/
theorem exists_span_iff {start : Value} {b : Int} {label : Option Value} :
    (∃ s, (Interval.mk start (.int b) label).span = .ok s) ↔
      -999999999 ≤ b / Units.day ∧ b / Units.day ≤ 999999999 := by
  rw [← microseconds_div_day]
  constructor
  · rintro ⟨s, hs⟩
    rw [← span_eq_ok_iff.1 hs, s.totalMicroseconds_div_day]
    exact s.days_mem
  · intro hday
    obtain ⟨s, hs⟩ := Span.exists_ofMicroseconds? hday
    exact ⟨s, span_eq_ok_iff.2 (Span.ofMicroseconds?_eq_ok_iff.1 hs)⟩

/-- **A duration has no span** if its days are out of the bounds of spans; the failure is the
overflow of the bound that they break. -/
theorem span_eq_error_iff {start : Value} {b : Int} {label : Option Value} {f : Failure} :
    (Interval.mk start (.int b) label).span = .error f ↔
      ¬(-999999999 ≤ b / Units.day ∧ b / Units.day ≤ 999999999) ∧
        f = .overflow (overflowOfDay (b / Units.day)) := by
  rw [span_int, mapError_eq_error_iff, ← microseconds_div_day]
  simp only [Span.ofMicroseconds?_eq_error_iff]
  constructor
  · rintro ⟨_, ⟨hday, rfl⟩, rfl⟩
    exact ⟨hday, rfl⟩
  · rintro ⟨hday, rfl⟩
    exact ⟨_, ⟨hday, rfl⟩, rfl⟩

/-! ## Spans as durations -/

/-- The duration of an interval that is built with a span has the nanoseconds of the span. -/
theorem startingAt_of_isInstant (kind : Kind) {start : Value} (h : start.IsInstant) (s : Span) :
    ∃ a, start.toInstant .start = .ok a ∧
      startingAt kind start (.span s) = .ok (ofKind kind (.int a) (.int s.nanoseconds)) := by
  obtain ⟨a, ha⟩ := Value.exists_toInstant_iff.2 h
  exact ⟨a, ha, by rw [startingAt, ha]; rfl⟩

/-- **Spans and durations.** An interval can start at any instant with any span, positive or negative,
and shows that span as its duration. The other way round, a duration of any integer number of
nanoseconds is shown as a span exactly if its days, rounded down, are within the bounds of spans, and
fails with an overflow if not; as a duration the span is what is left of the integer when it is
rounded down to the microsecond. -/
theorem span_startingAt (kind : Kind) {start : Value} (hstart : start.IsInstant) :
    (∀ s : Span, ∃ i, startingAt kind start (.span s) = .ok i ∧ i.kind = kind ∧ i.span = .ok s) ∧
      ∀ (any : Value) (b : Int) (label : Option Value),
        let i : Interval := ⟨any, .int b, label⟩
        ((∃ s, i.span = .ok s) ↔ -999999999 ≤ b / Units.day ∧ b / Units.day ≤ 999999999) ∧
        (∀ f, i.span = .error f ↔
          ¬(-999999999 ≤ b / Units.day ∧ b / Units.day ≤ 999999999) ∧
            f = .overflow (overflowOfDay (b / Units.day))) ∧
        ∀ s, i.span = .ok s → (Value.span s).toDuration = .ok (b - b % 1000) := by
  refine ⟨fun s => ?_, fun any b label => ⟨exists_span_iff, fun f => span_eq_error_iff,
    fun s hs => ?_⟩⟩
  · obtain ⟨a, -, hi⟩ := startingAt_of_isInstant kind hstart s
    have hspan : s.totalMicroseconds = s.nanoseconds / 1000 := by
      rw [s.nanoseconds_eq, Int.mul_ediv_cancel _ (by decide)]
    refine ⟨_, hi, ?_⟩
    cases kind <;> exact ⟨rfl, span_eq_ok_iff.2 hspan⟩
  · have hcount := span_eq_ok_iff.1 hs
    rw [Value.toDuration_span, s.nanoseconds_eq, hcount]
    congr 1
    omega

/-- The least span, as the duration of an interval that starts half past one on a clock two hours
east of universal time; and the nanosecond before zero, whose span is the microsecond before zero. -/
theorem span_startingAt_least :
    let least : Span := ⟨-999999999, 0, 0, by decide, by decide, by decide⟩
    let start : Moment :=
      ⟨⟨⟨2023, 3, 26, by decide, by decide, by decide⟩,
        ⟨1, 30, 0, 0, by decide, by decide, by decide, by decide⟩⟩, .fixed 7200, false⟩
    (Value.moment start).IsInstant ∧
      (∃ i, startingAt .labeled (.moment start) (.span least) = .ok i ∧ i.kind = .labeled ∧
        i.span = .ok least) ∧
      ∃ s, (Interval.mk .none (.int (-1)) none).span = .ok s ∧
        (Value.span s).toDuration = .ok (-1000) := by
  intro least start
  have hstart : (Value.moment start).IsInstant := rfl
  obtain ⟨hkept, hshown⟩ := span_startingAt .labeled hstart
  obtain ⟨hexists, -, hduration⟩ := hshown .none (-1) none
  obtain ⟨s, hs⟩ := hexists.2 (by decide)
  exact ⟨hstart, hkept least, s, hs, hduration s hs⟩

end Interval

end TimeWindow
