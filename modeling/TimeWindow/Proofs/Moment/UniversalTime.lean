import TimeWindow.Proofs.Moment.Showing

set_option autoImplicit false

/-!
# Instants in universal time

The clock of universal time shows an instant to the microsecond, and the text of an instant is that
of its second, with all nanoseconds as its fraction. The two are made from different counts, but the
counts lie on the same day, and the day alone decides whether there is a date and, if there is none,
which bound is broken. So the two exist for the same instants, say the same of them, and fail in the
same way for all others.

## Main definitions

* `TimeWindow.Calendar.DateTime.wholeSecond` — a date-time without its microseconds.

## Main results

* `TimeWindow.Moment.ofNanoseconds_utc_eq_ok_iff`,
  `TimeWindow.Moment.ofNanoseconds_utc_eq_error_iff` — the moment at which universal time shows an
  instant, or why it shows none.
* `TimeWindow.Moment.format_of_ofNanoseconds_utc` — the text of an instant, from its moment.
* `TimeWindow.Moment.ofNanoseconds_utc_format` — the text and the moment of an instant agree.
-/

namespace TimeWindow

open Outcome

/-! ## Seconds and microseconds -/

namespace Calendar.DateTime

/-- A date-time **without its microseconds**. -/
def wholeSecond (d : DateTime) : DateTime where
  date := d.date
  time :=
    { d.time with
      microsecond := 0
      microsecond_lt := Nat.lt_of_le_of_lt (Nat.zero_le _) d.time.microsecond_lt }

/-- The count of a date-time without its microseconds. -/
theorem microseconds_wholeSecond (d : DateTime) :
    d.wholeSecond.microseconds = d.microseconds / 1000000 * 1000000 := by
  have := d.time.microsecond_lt
  simp only [wholeSecond, microseconds, dayMicroseconds, TimeOfDay.microseconds, TimeOfDay.seconds]
  push_cast
  omega

/-- The microseconds of a date-time are what is left of its count. -/
theorem microseconds_mod (d : DateTime) : d.microseconds % 1000000 = d.time.microsecond := by
  have := d.time.microsecond_lt
  simp only [microseconds, dayMicroseconds, TimeOfDay.microseconds, TimeOfDay.seconds]
  push_cast
  omega

end Calendar.DateTime

namespace Timestamp

/-- The microsecond of an instant lies on its day. -/
theorem microsecond_div_day (n : Int) :
    n / 1000 / Calendar.DateTime.dayMicroseconds = dayAt n := by
  unfold Calendar.DateTime.dayMicroseconds dayAt
  omega

/-- The text of a fraction is its digits behind a point, or nothing if it has no digits. -/
theorem fractionText_eq {part : Nat} (h : part < 10 ^ 9) :
    fractionText part =
      if Numeral.fraction 9 part = [] then []
      else CodePoint.ofChar '.' :: Numeral.fraction 9 part := by
  unfold fractionText
  refine if_congr ⟨?_, fun hnil => ?_⟩ rfl rfl
  · rintro rfl
    exact Numeral.fraction_zero (by decide)
  · by_contra hpart
    have hlen := (Numeral.length_fraction_mem (by decide) h hpart).1
    rw [hnil] at hlen
    cases hlen

end Timestamp

/-! ## Texts and moments -/

namespace Moment

/-- **The moment at which universal time shows an instant** has the count of its microsecond. -/
theorem ofNanoseconds_utc_eq_ok_iff {n : Int} {m : Moment} :
    ofNanoseconds n "UTC" = .ok m ↔
      m.dateTime.microseconds = n / 1000 ∧ m.place = .zone Zone.utc ∧ m.fold = false := by
  have hfind : ∀ z, Zone.find? "UTC" = .ok z ↔ z = Zone.utc := by
    intro z
    rw [show Zone.find? "UTC" = .ok Zone.utc from rfl, Except.ok.injEq, eq_comm]
  have hoffset : Zone.utc.offsetAt (n / 1000 / 1000000) = 0 := rfl
  have hfold : Zone.utc.foldAt (n / 1000 / 1000000) = false := rfl
  rw [ofNanoseconds, ofMicroseconds_eq_ok_iff]
  simp only [hfind, exists_eq_left, hoffset, hfold, Int.zero_mul, Int.add_zero]
  constructor
  · rintro ⟨-, hplace, hfold, hcount⟩
    exact ⟨hcount, hplace, hfold⟩
  · rintro ⟨hcount, hplace, hfold⟩
    exact ⟨⟨_, hcount⟩, hplace, hfold, hcount⟩

/-- Universal time shows exactly the instants of the years 1 to 9999. -/
theorem exists_ofNanoseconds_utc_iff {n : Int} :
    (∃ m, ofNanoseconds n "UTC" = .ok m) ↔
      1 ≤ Timestamp.yearAt n ∧ Timestamp.yearAt n ≤ 9999 := by
  rw [yearAt_mem_iff]
  constructor
  · rintro ⟨m, hm⟩
    exact ⟨m.dateTime, (ofNanoseconds_utc_eq_ok_iff.1 hm).1⟩
  · rintro ⟨d, hd⟩
    exact ⟨⟨d, .zone Zone.utc, false⟩, ofNanoseconds_utc_eq_ok_iff.2 ⟨hd, rfl, rfl⟩⟩

/-- **Other instants are not shown**; the failure is the overflow of the bound that the day
breaks. -/
theorem ofNanoseconds_utc_eq_error_iff {n : Int} {f : Failure} :
    ofNanoseconds n "UTC" = .error f ↔
      ¬(1 ≤ Timestamp.yearAt n ∧ Timestamp.yearAt n ≤ 9999) ∧
        f = .overflow (Calendar.overflowOfDay (Timestamp.dayAt n)) := by
  have hdate : Timestamp.dateTimeAt? (n / 1000) = .error f ↔
      ¬(1 ≤ Timestamp.yearAt n ∧ Timestamp.yearAt n ≤ 9999) ∧
        f = .overflow (Calendar.overflowOfDay (Timestamp.dayAt n)) := by
    rw [Timestamp.dateTimeAt?_eq_error_iff, Timestamp.microsecond_div_day,
      Timestamp.yearOfDay_dayAt]
  constructor
  · intro h
    have hyear : ¬(1 ≤ Timestamp.yearAt n ∧ Timestamp.yearAt n ≤ 9999) := by
      rw [← exists_ofNanoseconds_utc_iff, h]
      rintro ⟨m, hm⟩
      cases hm
    rcases bind_eq_error_iff.1 h with h | ⟨d, hd, -⟩
    · exact hdate.1 h
    · -- a date-time at this microsecond would be one of the years 1 to 9999
      exact absurd (yearAt_mem_iff.2 ⟨d, Timestamp.dateTimeAt?_eq_ok_iff.1 hd⟩) hyear
  · intro h
    rw [ofNanoseconds, ofMicroseconds, hdate.2 h]
    rfl

/-- The text of an instant is that of the moment at which universal time shows it, with the
nanoseconds that the moment does not keep. -/
theorem format_of_ofNanoseconds_utc {n : Int} {m : Moment} (h : ofNanoseconds n "UTC" = .ok m) :
    Timestamp.format n = .ok (Timestamp.dateTimeText m.dateTime ++
      (Timestamp.fractionText (1000 * m.dateTime.time.microsecond + (n % 1000).toNat) ++
        [CodePoint.ofChar 'Z'])) := by
  have hcount := (ofNanoseconds_utc_eq_ok_iff.1 h).1
  have hmicro := m.dateTime.microseconds_mod
  have hpart : (n % 1000000000).toNat =
      1000 * m.dateTime.time.microsecond + (n % 1000).toNat := by
    rw [hcount] at hmicro
    omega
  refine Timestamp.format_eq_ok_iff.2 ⟨m.dateTime.wholeSecond, ?_, ?_⟩
  · rw [Calendar.DateTime.microseconds_wholeSecond, hcount]
    omega
  · rw [hpart]
    rfl

/-- **The text of an instant and the moment at which universal time shows it** agree. Both exist
exactly for the instants of the years 1 to 9999. For any other instant they fail in the same way:
the day of the instant does not fit in 32 bits, or it is out of the range of spans, or only out of
that of dates. And the text has the fields of the moment: its year, month, day, hour, minute and
second, and digits of a fraction that are those of the microsecond and of the nanoseconds behind
it, once the zeros at the end are put back. -/
theorem ofNanoseconds_utc_format (n : Int) :
    ((∃ t, Timestamp.format n = .ok t) ↔ 1 ≤ Timestamp.yearAt n ∧ Timestamp.yearAt n ≤ 9999) ∧
    ((∃ m, ofNanoseconds n "UTC" = .ok m) ↔
      1 ≤ Timestamp.yearAt n ∧ Timestamp.yearAt n ≤ 9999) ∧
    (∀ f, Timestamp.format n = .error f ↔
      ¬(1 ≤ Timestamp.yearAt n ∧ Timestamp.yearAt n ≤ 9999) ∧
        f = .overflow (Calendar.overflowOfDay (Timestamp.dayAt n))) ∧
    (∀ f, ofNanoseconds n "UTC" = .error f ↔ Timestamp.format n = .error f) ∧
    ∀ m, ofNanoseconds n "UTC" = .ok m →
      m.place = .zone Zone.utc ∧ m.fold = false ∧
      ∃ digits : Text,
        Timestamp.format n = .ok (Text.concat [Numeral.int m.dateTime.date.year, "-",
          Numeral.padded 2 m.dateTime.date.month, "-", Numeral.padded 2 m.dateTime.date.day, "T",
          Numeral.padded 2 m.dateTime.time.hour, ":", Numeral.padded 2 m.dateTime.time.minute, ":",
          Numeral.padded 2 m.dateTime.time.second,
          if digits = [] then [] else CodePoint.ofChar '.' :: digits, "Z"]) ∧
        digits ++ List.replicate (9 - digits.length) (CodePoint.ofChar '0') =
          Numeral.padded 9 (1000 * m.dateTime.time.microsecond + (n % 1000).toNat) := by
  refine ⟨Timestamp.exists_format_iff, exists_ofNanoseconds_utc_iff,
    fun f => Timestamp.format_eq_error_iff, fun f => ?_, fun m h => ?_⟩
  · rw [ofNanoseconds_utc_eq_error_iff, Timestamp.format_eq_error_iff]
  · obtain ⟨-, hplace, hfold⟩ := ofNanoseconds_utc_eq_ok_iff.1 h
    have hmicro := m.dateTime.time.microsecond_lt
    have hpart : 1000 * m.dateTime.time.microsecond + (n % 1000).toNat < 10 ^ 9 := by omega
    refine ⟨hplace, hfold, Numeral.fraction 9 _, ?_, Numeral.fraction_append_zeros (by decide) hpart⟩
    rw [format_of_ofNanoseconds_utc h, Timestamp.fractionText_eq hpart]
    simp only [Timestamp.dateTimeText, Text.concat, List.flatten_cons, List.flatten_nil,
      List.append_nil, List.append_assoc]
    rfl

/-- The last nanosecond of the calendar is shown and written, and the next one is neither. -/
theorem ofNanoseconds_utc_format_last :
    (∃ m, ofNanoseconds 253402300799999999999 "UTC" = .ok m ∧
      m.dateTime.time.microsecond = 999999 ∧
      ∃ digits : Text,
        digits ++ List.replicate (9 - digits.length) (CodePoint.ofChar '0') =
          Numeral.padded 9 999999999 ∧
        Timestamp.format 253402300799999999999 =
          .ok (Text.concat [Numeral.int 9999, "-", Numeral.padded 2 12, "-", Numeral.padded 2 31,
            "T", Numeral.padded 2 23, ":", Numeral.padded 2 59, ":", Numeral.padded 2 59,
            if digits = [] then [] else CodePoint.ofChar '.' :: digits, "Z"])) ∧
      Timestamp.format 253402300800000000000 = .error (.overflow .date) ∧
      ofNanoseconds 253402300800000000000 "UTC" = .error (.overflow .date) := by
  have hshown : ofNanoseconds 253402300799999999999 "UTC" =
      .ok ⟨⟨⟨9999, 12, 31, by decide, by decide, by decide⟩,
        ⟨23, 59, 59, 999999, by decide, by decide, by decide, by decide⟩⟩, .zone Zone.utc, false⟩ := by
    rfl
  obtain ⟨-, -, digits, hformat, hdigits⟩ := (ofNanoseconds_utc_format _).2.2.2.2 _ hshown
  have hpast : Timestamp.format 253402300800000000000 = .error (.overflow .date) := by
    decide +kernel
  exact ⟨⟨_, hshown, rfl, digits, hdigits, hformat⟩, hpast,
    ((ofNanoseconds_utc_format 253402300800000000000).2.2.2.1 _).2 hpast⟩

end Moment

end TimeWindow
