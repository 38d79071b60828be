import TimeWindow.Calendar.Span
import TimeWindow.Proofs.Calendar.DateTime

set_option autoImplicit false

/-!
# Counts without a date

A count of microseconds is a span if its day is within the bounds of spans, and a date-time if its
day lies in the years 1 to 9999. The day alone decides which bound a count breaks.

## Main definitions

* `TimeWindow.Calendar.overflowOfDay` — the bound that a day outside the calendar breaks.

## Main results

* `TimeWindow.Calendar.yearOfDay_mem_iff` — the days of the calendar.
* `TimeWindow.Calendar.day_mem_of_year_mem` — they are within the bounds of spans.
* `TimeWindow.Calendar.Span.ofMicroseconds?_eq_ok_iff` — the span of a count.
* `TimeWindow.Calendar.Span.ofMicroseconds?_eq_error_iff`,
  `TimeWindow.Calendar.DateTime.ofMicroseconds?_eq_error_iff` — the counts that are no span and no
  date-time.
-/

namespace TimeWindow.Calendar

open Outcome

/-- The **bound that is broken** by a day outside the calendar: that of 32 bits, that of spans, or
only that of dates. -/
def overflowOfDay (day : Int) : Overflow :=
  if day < -2147483648 ∨ 2147483648 ≤ day then .word
  else if day < -999999999 ∨ 999999999 < day then .days day
  else .date

/-- A day within the bounds of spans breaks that of dates at most. -/
theorem overflowOfDay_of_mem {day : Int} (h : -999999999 ≤ day ∧ day ≤ 999999999) :
    overflowOfDay day = .date := by
  rw [overflowOfDay, if_neg (by omega), if_neg (by omega)]

/-- **The days of the years 1 to 9999** go from the first day of the first year to the last day of
the last year. -/
theorem yearOfDay_mem_iff {day : Int} :
    (1 ≤ yearOfDay day ∧ yearOfDay day ≤ 9999) ↔ -719162 ≤ day ∧ day ≤ 2932896 := by
  rw [le_yearOfDay_iff, yearOfDay_le_iff, show daysBeforeYear 1 = 0 by decide,
    show daysBeforeYear (9999 + 1) = 3652059 by decide, epochDay]
  omega

/-- The days of the years 1 to 9999 are within the bounds of spans. -/
theorem day_mem_of_year_mem {day : Int} (h : 1 ≤ yearOfDay day ∧ yearOfDay day ≤ 9999) :
    -999999999 ≤ day ∧ day ≤ 999999999 := by
  rw [yearOfDay_mem_iff] at h
  omega

/-! ## Spans and their counts -/

/-- The day of the count of a span is that of the span. -/
theorem Span.totalMicroseconds_div_day (s : Span) :
    s.totalMicroseconds / DateTime.dayMicroseconds = s.days := by
  have := s.seconds_lt
  have := s.microseconds_lt
  rw [totalMicroseconds, DateTime.dayMicroseconds]
  omega

/-- The nanoseconds of a span are those of its microseconds. -/
theorem Span.nanoseconds_eq (s : Span) : s.nanoseconds = s.totalMicroseconds * 1000 := by
  rw [nanoseconds, totalMicroseconds]
  omega

/-- **The span of a count of microseconds** is the one with that count.

**Proof sketch.** The days are the quotient by the length of a day, rounded down, so what is left is
not negative, and its seconds and microseconds are again quotient and remainder. Going back from the
count of a span, the bounds on its seconds and microseconds leave no other quotients. -/
theorem Span.ofMicroseconds?_eq_ok_iff {n : Int} {s : Span} :
    ofMicroseconds? n = .ok s ↔ s.totalMicroseconds = n := by
  constructor
  · intro h
    unfold ofMicroseconds? at h
    dsimp only at h
    split at h
    · cases h
    · split at h
      · cases h
        simp only [totalMicroseconds]
        omega
      · cases h
  · rintro rfl
    have hday := s.totalMicroseconds_div_day
    have hmem := s.days_mem
    have hseconds := s.seconds_lt
    have hmicro := s.microseconds_lt
    rw [DateTime.dayMicroseconds] at hday
    unfold ofMicroseconds?
    simp only [hday]
    rw [if_neg (by omega), dif_pos hmem, Except.ok.injEq]
    have hrest : (s.totalMicroseconds % 86400000000).toNat = s.seconds * 1000000 + s.microseconds := by
      rw [totalMicroseconds]
      omega
    ext
    · rfl
    · simp only [hrest]
      omega
    · simp only [hrest]
      omega

/-- **A span is determined by its count.** -/
theorem Span.eq_of_totalMicroseconds {s t : Span} (h : s.totalMicroseconds = t.totalMicroseconds) :
    s = t :=
  Except.ok.inj ((ofMicroseconds?_eq_ok_iff.2 h).symm.trans (ofMicroseconds?_eq_ok_iff.2 rfl))

/-- A count of microseconds whose day is within the bounds of spans is a span. -/
theorem Span.exists_ofMicroseconds? {n : Int}
    (h : -999999999 ≤ n / DateTime.dayMicroseconds ∧ n / DateTime.dayMicroseconds ≤ 999999999) :
    ∃ s, ofMicroseconds? n = .ok s := by
  rw [DateTime.dayMicroseconds] at h
  unfold ofMicroseconds?
  dsimp only
  rw [if_neg (by omega), dif_pos h]
  exact ⟨_, rfl⟩

/-- Any other count breaks the bound of 32 bits or that of spans, as its day does. -/
theorem Span.ofMicroseconds?_of_not_mem {n : Int}
    (h : ¬(-999999999 ≤ n / DateTime.dayMicroseconds ∧
      n / DateTime.dayMicroseconds ≤ 999999999)) :
    ofMicroseconds? n = .error (overflowOfDay (n / DateTime.dayMicroseconds)) := by
  rw [DateTime.dayMicroseconds] at h ⊢
  have hspan : n / 86400000000 < -999999999 ∨ 999999999 < n / 86400000000 := by omega
  unfold ofMicroseconds?
  simp only [overflowOfDay, dif_neg h, if_pos hspan]
  split <;> rfl

/-- **A count of microseconds is no span** exactly if its day is out of their bounds. -/
theorem Span.ofMicroseconds?_eq_error_iff {n : Int} {e : Overflow} :
    ofMicroseconds? n = .error e ↔
      ¬(-999999999 ≤ n / DateTime.dayMicroseconds ∧ n / DateTime.dayMicroseconds ≤ 999999999) ∧
        e = overflowOfDay (n / DateTime.dayMicroseconds) := by
  constructor
  · intro h
    have hmem : ¬(-999999999 ≤ n / DateTime.dayMicroseconds ∧
        n / DateTime.dayMicroseconds ≤ 999999999) := by
      intro hmem
      obtain ⟨s, hs⟩ := exists_ofMicroseconds? hmem
      rw [hs] at h
      cases h
    rw [ofMicroseconds?_of_not_mem hmem] at h
    exact ⟨hmem, (Except.error.inj h).symm⟩
  · rintro ⟨hmem, rfl⟩
    exact ofMicroseconds?_of_not_mem hmem

/-- A count of microseconds is no date-time if its day is no date. -/
theorem DateTime.ofMicroseconds?_eq_error_iff {n : Int} {e : Overflow} :
    ofMicroseconds? n = .error e ↔
      e = .date ∧ ¬(1 ≤ yearOfDay (n / dayMicroseconds) ∧ yearOfDay (n / dayMicroseconds) ≤ 9999) := by
  rw [ofMicroseconds?, bind_eq_error_iff, Date.ofDayNumber?_eq_error_iff]
  refine or_iff_left ?_
  rintro ⟨_, -, h⟩
  cases h

end TimeWindow.Calendar
