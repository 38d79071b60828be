import TimeWindow.Proofs.Timestamp.Writing

set_option autoImplicit false

/-!
# Normal forms of timestamps

A timestamp can be written in many ways: with different offsets, with zeros behind the fraction,
with digits of other scripts in it, with the hour 24, or with blanks around it. The text of the
instant that it names is its normal form. Two timestamps name the same instant exactly if they have
the same normal form, and a timestamp that is canonical already is its own normal form. All this is
so from the year 1000 on: the years before are not written in four digits, and such a text is no
timestamp.

## Main definitions

* `TimeWindow.Timestamp.normalForm` — the text of the instant that a timestamp names.
* `TimeWindow.Timestamp.IsCanonical` — a text is the timestamp of a canonical spelling.

## Main results

* `TimeWindow.Timestamp.format_nanoseconds` — a canonical spelling is the text of its instant.
* `TimeWindow.Timestamp.normalForm_isCanonical` — normal forms are canonical, tell instants apart,
  and are kept.
-/

namespace TimeWindow.Timestamp

open Outcome

/-- The **normal form** of a timestamp: the text of the instant that it names. -/
def normalForm (t : Text) : Except Failure Text := do
  let n ← parse t
  format n

/-- A text is a **canonical timestamp** if it is that of a canonical spelling, with nothing around
it. -/
def IsCanonical (t : Text) : Prop :=
  ∃ s : Spelling, s.IsCanonical ∧ s.text = t

/-! ## Canonical spellings -/

/-- A canonical fraction is written as it is spelled. -/
theorem fractionText_nanoseconds {fraction : Option FractionSpelling}
    (h : ∀ f ∈ fraction, f.IsCanonical) :
    fractionText ((fraction.map FractionSpelling.nanoseconds).getD 0) =
      (fraction.map FractionSpelling.text).getD [] := by
  cases fraction with
  | none => rfl
  | some f =>
    obtain ⟨hpoint, hdigit, hlast⟩ := h f rfl
    have hnumber : f.nanoseconds = Numeral.ofDigits f.digits * 10 ^ (9 - f.digits.length) := by
      rw [FractionSpelling.nanoseconds, FractionSpelling.number, ← Numeral.value_eq_ofDigits,
        ← digitsValue_of_isDigit hdigit]
      rfl
    have hdigits : Numeral.fraction 9 f.nanoseconds = f.digits := by
      rw [hnumber, Numeral.fraction_ofDigits hdigit f.length_mem hlast]
    have hne : f.nanoseconds ≠ 0 := by
      intro hzero
      have hlen := f.length_mem.1
      rw [← hdigits, hzero] at hlen
      exact absurd hlen (by decide +kernel)
    simp only [Option.map_some, Option.getD_some, fractionText, if_neg hne, hdigits,
      FractionSpelling.text, hpoint, Bool.false_eq_true, if_false]

namespace Spelling.IsCanonical

variable {s : Spelling} (h : s.IsCanonical)

include h in
/-- The time of a canonical spelling is one of the day itself. -/
theorem time_mem : s.hour < 24 ∧ s.minute < 60 ∧ s.second < 60 := by
  have hhour := h.hour_le
  rcases s.isTime with ⟨-, hminute, hsecond⟩ | ⟨⟨hmidnight, -⟩, -⟩
  · omega
  · omega

/-- The **date and time** of a canonical spelling, to the second. -/
def dateTime : Calendar.DateTime where
  date := s.isDate.date
  time := ⟨s.hour, s.minute, s.second, 0, h.time_mem.1, h.time_mem.2.1, h.time_mem.2.2, by decide⟩

include h in
/-- The instant of a canonical spelling: its days, its time of day, and its fraction of a second. -/
theorem nanoseconds_eq :
    s.nanoseconds = 10 ^ 9 * (86400 * Calendar.daysSinceEpoch s.year s.month s.day +
      3600 * s.hour + 60 * s.minute + s.second) +
        ((s.fraction.map FractionSpelling.nanoseconds).getD 0 : Nat) := by
  rw [nanoseconds, h.offset_eq, OffsetSpelling.seconds, Int.sub_zero]

/-- **The date and time of a canonical spelling** are those of the second of its instant. -/
theorem microseconds_dateTime :
    h.dateTime.microseconds = s.nanoseconds / 1000000000 * 1000000 := by
  have hfraction := s.fraction_lt
  have hday := s.isDate.dayNumber_date
  rw [h.nanoseconds_eq]
  simp only [dateTime, Calendar.DateTime.microseconds, Calendar.DateTime.dayMicroseconds,
    Calendar.TimeOfDay.microseconds, Calendar.TimeOfDay.seconds, hday]
  push_cast
  omega

include h in
/-- The instant of a canonical spelling lies in the year that is written. -/
theorem yearAt_nanoseconds : yearAt s.nanoseconds = s.year :=
  (yearAt_eq h.microseconds_dateTime).symm

end Spelling.IsCanonical

/-- **A canonical spelling is the text of its instant**, from the year 1000 on.

**Proof sketch.** The date and time of the spelling are those of the instant, because dates and day
numbers determine each other. The fields are padded in the same way, and the fraction is the one
that is left when the zeros behind it are left out (`fractionText_nanoseconds`). -/
theorem format_nanoseconds {s : Spelling} (h : s.IsCanonical) (hyear : 1000 ≤ s.year) :
    format s.nanoseconds = .ok s.text := by
  refine format_eq_ok_iff.2 ⟨h.dateTime, h.microseconds_dateTime, ?_⟩
  have hfraction := s.fraction_lt
  have hpart : (s.nanoseconds % 1000000000).toNat =
      (s.fraction.map FractionSpelling.nanoseconds).getD 0 := by
    rw [h.nanoseconds_eq]
    omega
  have hy : Numeral.int (s.year : Int) = Numeral.padded 4 s.year :=
    int_eq_padded (by omega) (by have := s.isDate.1; omega)
  rw [hpart, fractionText_nanoseconds h.fraction]
  simp only [Spelling.text, Spelling.fractionText, h.offset_eq, OffsetSpelling.text, dateTimeText,
    Spelling.IsCanonical.dateTime, IsDate.date, hy, Text.concat, List.flatten_cons,
    List.flatten_nil, List.append_nil, List.append_assoc]
  rfl

/-! ## Normal forms -/

/-- The text of a spelling is read as its instant. -/
theorem parse_text_self (s : Spelling) : parse s.text = .ok s.nanoseconds := by
  have hnone : ∀ c ∈ ([] : Text), c.isBlank = true := by simp
  simpa using parse_text s hnone hnone

/-- A timestamp has the text of its instant as its normal form. -/
theorem normalForm_of_parse {t : Text} {n : Int} (h : parse t = .ok n) : normalForm t = format n := by
  rw [normalForm, h]
  rfl

/-- **Instants of the years 1000 to 9999 have canonical texts**, which are read as these
instants. -/
theorem exists_canonical_format {n : Int} (hyear : 1000 ≤ yearAt n ∧ yearAt n ≤ 9999) :
    ∃ r, format n = .ok r ∧ IsCanonical r ∧ parse r = .ok n := by
  obtain ⟨r, hr⟩ := exists_format_iff.2 ⟨by omega, hyear.2⟩
  obtain ⟨s, hs, rfl, rfl⟩ := exists_canonical_of_format hr hyear.1
  exact ⟨s.text, hr, ⟨s, hs, rfl⟩, parse_text_self s⟩

/-- **The normal form of a timestamp** whose instant lies in the years 1000 to 9999. It exists and
is canonical; another such timestamp has the same normal form exactly if it names the same instant;
and a timestamp that is canonical already is its own normal form. -/
theorem normalForm_isCanonical {t : Text} {n : Int} (ht : parse t = .ok n)
    (hyear : 1000 ≤ yearAt n ∧ yearAt n ≤ 9999) :
    ∃ r, normalForm t = .ok r ∧ IsCanonical r ∧
      (∀ s m, parse s = .ok m → 1000 ≤ yearAt m ∧ yearAt m ≤ 9999 →
        (normalForm s = normalForm t ↔ parse s = parse t)) ∧
      (IsCanonical t → r = t) := by
  obtain ⟨r, hr, hcanonical, hread⟩ := exists_canonical_format hyear
  refine ⟨r, (normalForm_of_parse ht).trans hr, hcanonical, fun s m hs hm => ?_, ?_⟩
  · obtain ⟨r', hr', -, hread'⟩ := exists_canonical_format hm
    rw [normalForm_of_parse hs, normalForm_of_parse ht, hr, hr', hs, ht]
    constructor
    · intro heq
      rw [← hread, ← hread', Except.ok.inj heq]
    · intro heq
      obtain rfl := Except.ok.inj heq
      rw [← hr, ← hr']
  · rintro ⟨s, hs, rfl⟩
    obtain rfl : s.nanoseconds = n := Except.ok.inj ((parse_text_self s).symm.trans ht)
    have hfour : 1000 ≤ s.year := by
      have := hs.yearAt_nanoseconds
      omega
    exact Except.ok.inj (hr.symm.trans (format_nanoseconds hs hfour))

/-- A timestamp with blanks around it, an offset, a comma and zeros behind its fraction, and its
normal form. -/
theorem normalForm_isCanonical_offset :
    normalForm " 2023-01-01T00:30:00,500+02:00\n" = .ok (Text.ofString "2022-12-31T22:30:00.5Z") ∧
      IsCanonical "2022-12-31T22:30:00.5Z" := by
  have hread : parse " 2023-01-01T00:30:00,500+02:00\n" = .ok 1672525800500000000 := by
    decide +kernel
  have hform : normalForm " 2023-01-01T00:30:00,500+02:00\n" =
      .ok (Text.ofString "2022-12-31T22:30:00.5Z") := by
    decide +kernel
  obtain ⟨r, hr, hcanonical, -⟩ := normalForm_isCanonical hread (by decide +kernel)
  rw [hform] at hr
  obtain rfl := Except.ok.inj hr
  exact ⟨hform, hcanonical⟩

end TimeWindow.Timestamp
