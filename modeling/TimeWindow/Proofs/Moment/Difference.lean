import TimeWindow.Proofs.Calendar.Span
import TimeWindow.Proofs.Moment.StandardText

set_option autoImplicit false

/-!
# The time between two moments

On clocks at one place, the span from a moment to another is the difference of what the clock shows,
also if the clock was set in between. On clocks at two places with offsets it is the difference of
the instants. So the instant of a moment is the time since the epoch, in nanoseconds.

## Main definitions

* `TimeWindow.Moment.epoch` — the moment from which instants are counted.

## Main results

* `TimeWindow.Moment.since?_of_place` — the span between moments at one place.
* `TimeWindow.Moment.since?_of_microseconds` — the span between moments at two places.
* `TimeWindow.Moment.nanoseconds?_eq_since?` — the instant of a moment is the time since the epoch.
-/

namespace TimeWindow.Moment

open Calendar

variable {m earlier : Moment}

/-! ## Moments at one place and at two -/

/-- **The span between two moments at one place** is the difference of what the clock shows. -/
theorem since?_of_place (h : m.place = earlier.place) {s : Span}
    (hs : s.totalMicroseconds = m.dateTime.microseconds - earlier.dateTime.microseconds) :
    m.since? earlier = some s := by
  have hahead : m.ahead? earlier = some 0 := if_pos h
  have hcount : Span.ofMicroseconds?
      (m.dateTime.microseconds - earlier.dateTime.microseconds - 0 * 1000000) = .ok s := by
    rw [Span.ofMicroseconds?_eq_ok_iff, hs]
    omega
  rw [since?, hahead, Option.bind_eq_bind, Option.bind_some, hcount]
  rfl

/-- **The span between two moments at two places** is the difference of their instants. -/
theorem since?_of_microseconds {n k : Int} (hplace : m.place ≠ earlier.place)
    (hn : m.microseconds? = some n) (hk : earlier.microseconds? = some k) :
    m.since? earlier = (Span.ofMicroseconds? (n - k)).toOption := by
  obtain ⟨x, hx, rfl⟩ := Option.map_eq_some_iff.1 hn
  obtain ⟨y, hy, rfl⟩ := Option.map_eq_some_iff.1 hk
  have hahead : m.ahead? earlier = some (x - y) := by
    rw [ahead?, if_neg hplace, hx, hy]
  rw [since?, hahead, Option.bind_eq_bind, Option.bind_some]
  congr 2
  omega

/-! ## The time since the epoch -/

/-- The **epoch**, on a clock of universal time. -/
def epoch : Moment where
  dateTime := ⟨⟨1970, 1, 1, by decide, by decide, by decide⟩, .ofMicroseconds 0⟩
  place := .fixed 0
  fold := false

/-- The span from the epoch to a moment on a clock with an offset has the microseconds of its
instant. -/
theorem since?_epoch {n : Int} (hn : m.microseconds? = some n) :
    m.since? epoch = (Span.ofMicroseconds? n).toOption := by
  have hcount : epoch.dateTime.microseconds = 0 := by decide
  by_cases hplace : m.place = epoch.place
  · have hoffset : m.offset? = some 0 := by rw [offset?, hplace, epoch]
    have hahead : m.ahead? epoch = some 0 := if_pos hplace
    rw [microseconds?, hoffset, Option.map_some, Option.some_inj] at hn
    rw [since?, hahead, Option.bind_eq_bind, Option.bind_some, hcount, ← hn]
    congr 2
    omega
  · have hepoch : epoch.microseconds? = some 0 := by decide
    rw [since?_of_microseconds hplace hn hepoch, Int.sub_zero]

/-- **The instant of a moment is the time since the epoch**, on any clock that can be built: the
offset of the clock does not take a date out of the bounds of spans. -/
theorem nanoseconds?_eq_since? (h : m.place.Clocked) :
    m.nanoseconds? = (m.since? epoch).map Span.nanoseconds := by
  obtain ⟨offset, hoffset⟩ := h.exists_offset
  have hmem := h.offset_mem hoffset
  have hday : -719162 ≤ m.dateTime.microseconds / DateTime.dayMicroseconds ∧
      m.dateTime.microseconds / DateTime.dayMicroseconds ≤ 2932896 := by
    rw [← yearOfDay_mem_iff, m.dateTime.microseconds_div_mod.1, Date.yearOfDay_dayNumber]
    exact m.dateTime.date.year_mem
  have hcount : m.microseconds? = some (m.dateTime.microseconds - offset * 1000000) := by
    rw [microseconds?, hoffset, Option.map_some]
  obtain ⟨s, hs⟩ := Span.exists_ofMicroseconds?
    (n := m.dateTime.microseconds - offset * 1000000) (by
      unfold DateTime.dayMicroseconds at hday ⊢
      omega)
  rw [since?_epoch hcount, nanoseconds?, hcount, hs]
  simp only [Except.toOption, Option.map_some, s.nanoseconds_eq,
    Span.ofMicroseconds?_eq_ok_iff.1 hs]

end TimeWindow.Moment
