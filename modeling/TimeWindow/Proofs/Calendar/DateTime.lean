import TimeWindow.Calendar.DateTime
import TimeWindow.Proofs.Calendar.Inverse
import TimeWindow.Proofs.Outcome

set_option autoImplicit false

/-!
# Date-times and counts

Dates are the day numbers of the years 1 to 9999, and date-times the counts of microseconds on
those days. Making a date-time from its count, or from its fields, gives back the count or the
fields, and fails exactly if they lie outside those years or are no fields.

## Main results

* `TimeWindow.Calendar.Date.ofDayNumber?_eq_ok_iff`,
  `TimeWindow.Calendar.Date.exists_ofDayNumber?_iff` — the date of a day number, and which day
  numbers have one.
* `TimeWindow.Calendar.DateTime.ofMicroseconds?_eq_ok_iff`,
  `TimeWindow.Calendar.DateTime.exists_ofMicroseconds?_iff` — the same for date-times and counts.
* `TimeWindow.Calendar.DateTime.ofFields?_eq_ok_iff` — the date-time of fields.
-/

namespace TimeWindow.Calendar

open Outcome

/-! ## Dates -/

namespace Date

/-- A date has the fields that it is made of, if they are the fields of a date. -/
theorem ofFields?_eq_ok_iff {year : Int} {month day : Nat} {d : Date} :
    ofFields? year month day = .ok d ↔ d.year = year ∧ d.month = month ∧ d.day = day := by
  constructor
  · intro h
    unfold ofFields? at h
    split at h
    · split at h
      · split at h
        · cases h; exact ⟨rfl, rfl, rfl⟩
        · cases h
      · cases h
    · cases h
  · rintro ⟨rfl, rfl, rfl⟩
    rw [ofFields?, dif_pos d.year_mem, dif_pos d.month_mem, dif_pos d.day_mem]

/-- **The date of a day number** is the one with that number. -/
theorem ofDayNumber?_eq_ok_iff {n : Int} {d : Date} : ofDayNumber? n = .ok d ↔ d.dayNumber = n := by
  unfold ofDayNumber?
  constructor
  · intro h
    split at h
    · next c hc =>
      cases h
      obtain ⟨hy, hm, hd⟩ := ofFields?_eq_ok_iff.1 hc
      rw [dayNumber, hy, hm, hd, dayNumber_ofDay]
    · cases h
  · rintro rfl
    obtain ⟨hy, hm, hd⟩ := ofDay_dayNumber d.year d.month_mem d.day_mem
    have hfields : ofFields? (yearOfDay d.dayNumber) (monthOfDay d.dayNumber)
        (dayOfMonth d.dayNumber) = .ok d :=
      ofFields?_eq_ok_iff.2 ⟨hy.symm, hm.symm, hd.symm⟩
    rw [hfields]

/-- A date lies in the year of its day. -/
theorem yearOfDay_dayNumber (d : Date) : yearOfDay d.dayNumber = d.year :=
  (ofDay_dayNumber d.year d.month_mem d.day_mem).1

/-- **A day number is a date** exactly if it lies in the years 1 to 9999. -/
theorem exists_ofDayNumber?_iff {n : Int} :
    (∃ d, ofDayNumber? n = .ok d) ↔ 1 ≤ yearOfDay n ∧ yearOfDay n ≤ 9999 := by
  constructor
  · rintro ⟨d, h⟩
    rw [← ofDayNumber?_eq_ok_iff.1 h, yearOfDay_dayNumber]
    exact d.year_mem
  · intro hy
    obtain ⟨hm, hd, -⟩ := daysBeforeMonth_monthOfDay n
    exact ⟨⟨_, _, _, hy, hm, hd⟩, ofDayNumber?_eq_ok_iff.2 (dayNumber_ofDay n)⟩

/-- The only failure of a day number is to be no date. -/
theorem ofDayNumber?_eq_error_iff {n : Int} {e : Overflow} :
    ofDayNumber? n = .error e ↔ e = .date ∧ ¬(1 ≤ yearOfDay n ∧ yearOfDay n ≤ 9999) := by
  rw [← exists_ofDayNumber?_iff]
  constructor
  · intro h
    refine ⟨?_, fun ⟨d, hd⟩ => by rw [hd] at h; cases h⟩
    unfold ofDayNumber? at h
    split at h
    · cases h
    · cases h; rfl
  · rintro ⟨rfl, hnone⟩
    cases h : ofDayNumber? n with
    | ok d => exact absurd ⟨d, h⟩ hnone
    | error e =>
      unfold ofDayNumber? at h
      split at h
      · cases h
      · cases h; rfl

/-- **Every date but the last** is followed by a date. -/
theorem exists_tomorrow_iff (d : Date) :
    (∃ e, ofDayNumber? (d.dayNumber + 1) = .ok e) ↔
      ¬(d.year = 9999 ∧ d.month = 12 ∧ d.day = 31) := by
  have hlast : d.dayNumber = Calendar.dayNumber 9999 12 31 ↔
      d.year = 9999 ∧ d.month = 12 ∧ d.day = 31 := by
    constructor
    · intro h
      obtain ⟨hy, hm, hd⟩ := ofDay_dayNumber d.year d.month_mem d.day_mem
      obtain ⟨gy, gm, gd⟩ : yearOfDay (Calendar.dayNumber 9999 12 31) = 9999 ∧
          monthOfDay (Calendar.dayNumber 9999 12 31) = 12 ∧
          dayOfMonth (Calendar.dayNumber 9999 12 31) = 31 :=
        ofDay_dayNumber 9999 (by decide) (by decide)
      rw [← dayNumber, h] at hy hm hd
      exact ⟨hy.symm.trans gy, hm.symm.trans gm, hd.symm.trans gd⟩
    · rintro ⟨hy, hm, hd⟩
      rw [dayNumber, hy, hm, hd]
  have hmem := d.year_mem
  rw [← yearOfDay_dayNumber, le_yearOfDay_iff, yearOfDay_le_iff] at hmem
  rw [exists_ofDayNumber?_iff, le_yearOfDay_iff, yearOfDay_le_iff, ← hlast,
    show Calendar.dayNumber 9999 12 31 = 2932896 by decide]
  have hfirst : daysBeforeYear 1 = 0 := by decide
  have hend : daysBeforeYear (9999 + 1) = 3652059 := by decide
  rw [hfirst, hend] at hmem ⊢
  unfold epochDay at hmem ⊢
  omega

end Date

/-! ## Times of day -/

namespace TimeOfDay

/-- A time of day has the fields that it is made of, if they are the fields of one. -/
theorem ofFields?_eq_ok_iff {hour minute second microsecond : Nat} {t : TimeOfDay} :
    ofFields? hour minute second microsecond = .ok t ↔
      t.hour = hour ∧ t.minute = minute ∧ t.second = second ∧ t.microsecond = microsecond := by
  constructor
  · intro h
    unfold ofFields? at h
    split at h
    · split at h
      · split at h
        · split at h
          · cases h; exact ⟨rfl, rfl, rfl, rfl⟩
          · cases h
        · cases h
      · cases h
    · cases h
  · rintro ⟨rfl, rfl, rfl, rfl⟩
    rw [ofFields?, dif_pos t.hour_lt, dif_pos t.minute_lt, dif_pos t.second_lt,
      dif_pos t.microsecond_lt]

/-- A time of day is less than a day after midnight. -/
theorem microseconds_lt (t : TimeOfDay) : t.microseconds < 86400000000 := by
  have := t.hour_lt
  have := t.minute_lt
  have := t.second_lt
  have := t.microsecond_lt
  unfold microseconds seconds
  omega

/-- The time of day a number of microseconds after midnight is that many after midnight. -/
theorem microseconds_ofMicroseconds {n : Nat} (h : n < 86400000000) :
    (ofMicroseconds n).microseconds = n := by
  simp only [microseconds, seconds, ofMicroseconds]
  omega

/-- A time of day is determined by its microseconds. -/
theorem ofMicroseconds_microseconds (t : TimeOfDay) : ofMicroseconds t.microseconds = t := by
  have := t.hour_lt
  have := t.minute_lt
  have := t.second_lt
  have := t.microsecond_lt
  rcases t with ⟨hour, minute, second, microsecond, _, _, _, _⟩
  simp only [ofMicroseconds, microseconds, seconds, mk.injEq] at *
  omega

end TimeOfDay

/-! ## Date-times -/

namespace DateTime

/-- The day and the time of day of a count. -/
theorem microseconds_div_mod (d : DateTime) :
    d.microseconds / dayMicroseconds = d.date.dayNumber ∧
      d.microseconds % dayMicroseconds = d.time.microseconds := by
  have := d.time.microseconds_lt
  unfold microseconds dayMicroseconds
  omega

/-- **The date-time of a count** is the one with that count. -/
theorem ofMicroseconds?_eq_ok_iff {n : Int} {d : DateTime} :
    ofMicroseconds? n = .ok d ↔ d.microseconds = n := by
  rw [ofMicroseconds?, bind_eq_ok_iff]
  constructor
  · rintro ⟨date, hdate, h⟩
    obtain rfl := pure_eq_ok_iff.1 h
    have hday := Date.ofDayNumber?_eq_ok_iff.1 hdate
    have hmod : 0 ≤ n % dayMicroseconds ∧ n % dayMicroseconds < 86400000000 := by
      unfold dayMicroseconds
      omega
    have htime := TimeOfDay.microseconds_ofMicroseconds
      (show (n % dayMicroseconds).toNat < 86400000000 by omega)
    rw [microseconds, hday, htime]
    unfold dayMicroseconds
    omega
  · rintro rfl
    obtain ⟨hday, htime⟩ := d.microseconds_div_mod
    refine ⟨d.date, Date.ofDayNumber?_eq_ok_iff.2 hday.symm, pure_eq_ok_iff.2 ?_⟩
    rw [htime, Int.toNat_natCast, TimeOfDay.ofMicroseconds_microseconds]

/-- **A count is a date-time** exactly if its day lies in the years 1 to 9999. -/
theorem exists_ofMicroseconds?_iff {n : Int} :
    (∃ d, ofMicroseconds? n = .ok d) ↔
      1 ≤ yearOfDay (n / dayMicroseconds) ∧ yearOfDay (n / dayMicroseconds) ≤ 9999 := by
  rw [← Date.exists_ofDayNumber?_iff]
  constructor
  · rintro ⟨d, h⟩
    exact (bind_eq_ok_iff.1 h).imp fun _ hd => hd.1
  · rintro ⟨date, h⟩
    exact ⟨_, bind_eq_ok_iff.2 ⟨date, h, rfl⟩⟩

/-- A date-time has the fields that it is made of, if they are the fields of one. -/
theorem ofFields?_eq_ok_iff {year : Int} {month day hour minute second microsecond : Nat}
    {d : DateTime} :
    ofFields? year month day hour minute second microsecond = .ok d ↔
      (d.date.year = year ∧ d.date.month = month ∧ d.date.day = day) ∧
        d.time.hour = hour ∧ d.time.minute = minute ∧ d.time.second = second ∧
          d.time.microsecond = microsecond := by
  rw [ofFields?, bind_eq_ok_iff, ← Date.ofFields?_eq_ok_iff, ← TimeOfDay.ofFields?_eq_ok_iff]
  constructor
  · rintro ⟨date, hdate, h⟩
    obtain ⟨time, htime, h⟩ := bind_eq_ok_iff.1 h
    obtain rfl := pure_eq_ok_iff.1 h
    exact ⟨hdate, htime⟩
  · rintro ⟨hdate, htime⟩
    exact ⟨d.date, hdate, bind_eq_ok_iff.2 ⟨d.time, htime, rfl⟩⟩

end DateTime

end TimeWindow.Calendar
