import TimeWindow.Proofs.Calendar.Span
import TimeWindow.Proofs.Numeral.Fraction
import TimeWindow.Proofs.Timestamp.Reading
import TimeWindow.Timestamp.Writing

set_option autoImplicit false

/-!
# What is written of instants

An instant has a text exactly if it lies in the years 1 to 9999 of universal time. From the year
1000 on the text is a timestamp, and reading it gives back the instant. Before that the year is
written in fewer than four digits, and the text is no timestamp.

## Main definitions

* `TimeWindow.Timestamp.yearAt`, `TimeWindow.Timestamp.dayAt` — the year and the day of universal
  time in which an instant lies.

## Main results

* `TimeWindow.Timestamp.dateTimeAt?_eq_ok_iff`, `TimeWindow.Timestamp.dateTimeAt?_eq_error_iff` —
  the date and time of an instant, or why it has none.
* `TimeWindow.Timestamp.format_eq_ok_iff`, `TimeWindow.Timestamp.format_eq_error_iff` — the text of
  an instant, or why it has none.
* `TimeWindow.Timestamp.exists_canonical_of_format` — it is a canonical spelling from the year 1000
  on.
* `TimeWindow.Timestamp.parse_format_iff` — when the instant is read back from its text.
-/

namespace TimeWindow.Timestamp

open Outcome

/-! ## Dates and times of instants -/

/-- A count of microseconds that is a date-time is also a span. -/
theorem exists_span_of_dateTime (d : Calendar.DateTime) :
    ∃ s, Calendar.Span.ofMicroseconds? d.microseconds = .ok s := by
  have hyear := d.date.year_mem
  rw [← Calendar.Date.yearOfDay_dayNumber, ← d.microseconds_div_mod.1] at hyear
  exact Calendar.Span.exists_ofMicroseconds? (Calendar.day_mem_of_year_mem hyear)

/-- **The date and time of an instant** are those with its count of microseconds. -/
theorem dateTimeAt?_eq_ok_iff {n : Int} {d : Calendar.DateTime} :
    dateTimeAt? n = .ok d ↔ d.microseconds = n := by
  rw [dateTimeAt?, bind_eq_ok_iff]
  simp only [mapError_eq_ok_iff, Calendar.DateTime.ofMicroseconds?_eq_ok_iff]
  constructor
  · rintro ⟨-, -, h⟩
    exact h
  · rintro rfl
    obtain ⟨s, hs⟩ := exists_span_of_dateTime d
    exact ⟨s, hs, rfl⟩

/-- **An instant has no date and time** if its day is outside the years 1 to 9999; the failure is
the overflow of the bound that the day breaks. -/
theorem dateTimeAt?_eq_error_iff {n : Int} {f : Failure} :
    dateTimeAt? n = .error f ↔
      ¬(1 ≤ Calendar.yearOfDay (n / Calendar.DateTime.dayMicroseconds) ∧
          Calendar.yearOfDay (n / Calendar.DateTime.dayMicroseconds) ≤ 9999) ∧
        f = .overflow (Calendar.overflowOfDay (n / Calendar.DateTime.dayMicroseconds)) := by
  rw [dateTimeAt?, bind_eq_error_iff]
  simp only [mapError_eq_error_iff, mapError_eq_ok_iff, Calendar.Span.ofMicroseconds?_eq_error_iff,
    Calendar.DateTime.ofMicroseconds?_eq_error_iff]
  constructor
  · rintro (⟨e, ⟨hmem, rfl⟩, rfl⟩ | ⟨s, hs, e, ⟨rfl, hyear⟩, rfl⟩)
    · exact ⟨fun hyear => hmem (Calendar.day_mem_of_year_mem hyear), rfl⟩
    · have hmem : ¬¬(-999999999 ≤ n / Calendar.DateTime.dayMicroseconds ∧
          n / Calendar.DateTime.dayMicroseconds ≤ 999999999) := by
        intro hmem
        rw [Calendar.Span.ofMicroseconds?_eq_error_iff.2 ⟨hmem, rfl⟩] at hs
        cases hs
      exact ⟨hyear, by rw [Calendar.overflowOfDay_of_mem (not_not.1 hmem)]⟩
  · rintro ⟨hyear, rfl⟩
    by_cases hmem : -999999999 ≤ n / Calendar.DateTime.dayMicroseconds ∧
        n / Calendar.DateTime.dayMicroseconds ≤ 999999999
    · obtain ⟨s, hs⟩ := Calendar.Span.exists_ofMicroseconds? hmem
      exact .inr ⟨s, hs, _, ⟨Calendar.overflowOfDay_of_mem hmem, hyear⟩, rfl⟩
    · exact .inl ⟨_, ⟨hmem, rfl⟩, rfl⟩

/-- The **year** of universal time in which an instant lies, given in nanoseconds. -/
def yearAt (n : Int) : Int :=
  Calendar.yearOfDay (n / (86400 * 10 ^ 9))

/-- The **day** of universal time in which an instant lies, given in nanoseconds. -/
def dayAt (n : Int) : Int :=
  n / (86400 * 10 ^ 9)

theorem yearOfDay_dayAt (n : Int) : Calendar.yearOfDay (dayAt n) = yearAt n :=
  rfl

/-- **The instants of the years 1 to 9999**, in nanoseconds since the epoch. -/
theorem yearAt_mem_iff_bounds {n : Int} :
    (1 ≤ yearAt n ∧ yearAt n ≤ 9999) ↔
      -62135596800 * 10 ^ 9 ≤ n ∧ n < 253402300800 * 10 ^ 9 := by
  rw [yearAt, Calendar.yearOfDay_mem_iff]
  omega

/-- What lies **between two instants** of the years 1 to 9999 is less than these years have. -/
theorem between_bounds {a b : Int} (ha : 1 ≤ yearAt a ∧ yearAt a ≤ 9999)
    (hfinish : 1 ≤ yearAt (a + b) ∧ yearAt (a + b) ≤ 9999) :
    -315537897600 * 10 ^ 9 < b ∧ b < 315537897600 * 10 ^ 9 := by
  rw [yearAt_mem_iff_bounds] at ha hfinish
  omega

/-- The second of an instant lies on its day. -/
theorem second_div_day (n : Int) :
    n / 1000000000 * 1000000 / Calendar.DateTime.dayMicroseconds = dayAt n := by
  unfold Calendar.DateTime.dayMicroseconds dayAt
  omega

/-- The date-time of the second in which an instant lies is in the year of the instant. -/
theorem yearAt_eq {n : Int} {d : Calendar.DateTime}
    (h : d.microseconds = n / 1000000000 * 1000000) : d.date.year = yearAt n := by
  rw [← Calendar.Date.yearOfDay_dayNumber, ← d.microseconds_div_mod.1, h, second_div_day,
    yearOfDay_dayAt]

/-- **An instant is a date-time** exactly if it lies in the years 1 to 9999. -/
theorem exists_dateTimeAt?_iff {n : Int} :
    (∃ d, dateTimeAt? (n / 1000000000 * 1000000) = .ok d) ↔ 1 ≤ yearAt n ∧ yearAt n ≤ 9999 := by
  constructor
  · rintro ⟨d, hd⟩
    rw [← yearAt_eq (dateTimeAt?_eq_ok_iff.1 hd)]
    exact d.date.year_mem
  · intro hyear
    rw [← yearOfDay_dayAt, ← second_div_day] at hyear
    obtain ⟨d, hd⟩ := Calendar.DateTime.exists_ofMicroseconds?_iff.2 hyear
    exact ⟨d, dateTimeAt?_eq_ok_iff.2 (Calendar.DateTime.ofMicroseconds?_eq_ok_iff.1 hd)⟩

/-! ## Texts of instants -/

/-- The text of a fraction of a second in nanoseconds. -/
def fractionText (part : Nat) : Text :=
  if part = 0 then [] else CodePoint.ofChar '.' :: Numeral.fraction 9 part

/-- **The text of an instant** is that of its date and time, its fraction and the letter of
universal time. -/
theorem format_eq_ok_iff {n : Int} {t : Text} :
    format n = .ok t ↔
      ∃ d : Calendar.DateTime, d.microseconds = n / 1000000000 * 1000000 ∧
        t = dateTimeText d ++ (fractionText (n % 1000000000).toNat ++ [CodePoint.ofChar 'Z']) := by
  rw [format, bind_eq_ok_iff]
  simp only [dateTimeAt?_eq_ok_iff, pure_eq_ok_iff]
  exact exists_congr fun d => and_congr_right fun _ => ⟨fun h => h ▸ rfl, fun h => h ▸ rfl⟩

/-- An instant has a text exactly if it lies in the years 1 to 9999. -/
theorem exists_format_iff {n : Int} :
    (∃ t, format n = .ok t) ↔ 1 ≤ yearAt n ∧ yearAt n ≤ 9999 := by
  rw [← exists_dateTimeAt?_iff]
  constructor
  · rintro ⟨t, h⟩
    obtain ⟨d, hd, -⟩ := format_eq_ok_iff.1 h
    exact ⟨d, dateTimeAt?_eq_ok_iff.2 hd⟩
  · rintro ⟨d, hd⟩
    exact ⟨_, format_eq_ok_iff.2 ⟨d, dateTimeAt?_eq_ok_iff.1 hd, rfl⟩⟩

/-- **An instant has no text** if it lies outside the years 1 to 9999; the failure is the overflow
of the bound that its day breaks. -/
theorem format_eq_error_iff {n : Int} {f : Failure} :
    format n = .error f ↔
      ¬(1 ≤ yearAt n ∧ yearAt n ≤ 9999) ∧ f = .overflow (Calendar.overflowOfDay (dayAt n)) := by
  rw [format, bind_eq_error_iff, dateTimeAt?_eq_error_iff, second_div_day, yearOfDay_dayAt]
  refine or_iff_left ?_
  rintro ⟨_, -, h⟩
  cases h

/-! ## From the year 1000 on -/

/-- The fraction of a second as it is written, if there is one. -/
def writtenFraction (part : Nat) (h : part < 10 ^ 9) : Option FractionSpelling :=
  if hpart : part = 0 then none
  else some
    { comma := false
      digits := Numeral.fraction 9 part
      length_mem := Numeral.length_fraction_mem (by decide) h hpart
      isDecimal := fun c hc => isDecimal_of_isDigit (Numeral.isDigit_of_mem_fraction c hc) }

theorem writtenFraction_text (part : Nat) (h : part < 10 ^ 9) :
    ((writtenFraction part h).map FractionSpelling.text).getD [] = fractionText part := by
  unfold writtenFraction fractionText
  split <;> rfl

/-- The digits of a written fraction say how many nanoseconds it has. -/
theorem writtenFraction_nanoseconds (part : Nat) (h : part < 10 ^ 9) :
    ((writtenFraction part h).map FractionSpelling.nanoseconds).getD 0 = part := by
  rw [← fractionNanoseconds_digits]
  unfold writtenFraction
  split
  · next hpart => rw [hpart]; rfl
  · next hpart =>
    show fractionNanoseconds (Numeral.fraction 9 part) = part
    rw [fractionNanoseconds, digitsValue_of_isDigit Numeral.isDigit_of_mem_fraction]
    exact Numeral.ofDigits_fraction (by decide) h

/-- A written fraction is canonical. -/
theorem isCanonical_writtenFraction {part : Nat} (h : part < 10 ^ 9) {f : FractionSpelling}
    (hf : f ∈ writtenFraction part h) : f.IsCanonical := by
  unfold writtenFraction at hf
  split at hf
  · cases hf
  · next hpart =>
    obtain rfl := Option.some.inj hf
    have hne : Numeral.fraction 9 part ≠ [] :=
      List.ne_nil_of_length_pos (Numeral.length_fraction_mem (by decide) h hpart).1
    exact ⟨rfl, fun c hc => Numeral.isDigit_of_mem_fraction c hc, Numeral.getLast?_fraction_ne hne⟩

/-- A year of four digits is written as a padded one. -/
theorem int_eq_padded {year : Int} (h₁ : 1000 ≤ year) (h₂ : year ≤ 9999) :
    Numeral.int year = Numeral.padded 4 year.toNat := by
  have habs : year.natAbs = year.toNat := by omega
  have hle : (Numeral.nat year.toNat).length ≤ 3 → year.toNat < 10 ^ 3 :=
    (Numeral.length_nat_le_iff (by decide)).1
  have hge : 4 ≤ (Numeral.nat year.toNat).length := by
    by_contra hlt
    have := hle (by omega)
    omega
  rw [Numeral.int, if_neg (by omega), habs, Numeral.padded, Nat.sub_eq_zero_of_le hge]
  rfl

/-- **An instant is put together** from the day and time of day of its second, which have no
microseconds, and its part of a second. -/
theorem nanoseconds_of_seconds {n day : Int} {hour minute second microsecond : Nat}
    (hmicro : microsecond < 1000000)
    (h : day * 86400000000 + (((hour * 3600 + minute * 60 + second : Nat) : Int) * 1000000 +
      microsecond) = n / 1000000000 * 1000000) :
    10 ^ 9 * (86400 * day + 3600 * hour + 60 * minute + second - 0) + (n % 1000000000).toNat = n := by
  push_cast at h
  omega

/-- **The text of an instant is a canonical spelling** from the year 1000 on, of the instant itself.

**Proof sketch.** The fields are those of the date-time, which has no microseconds because it stands
for whole seconds. Its day number is counted day by day (`dayNumber_eq_daysSinceEpoch`). -/
theorem exists_canonical_of_format {n : Int} {t : Text} (h : format n = .ok t)
    (hyear : 1000 ≤ yearAt n) :
    ∃ s : Spelling, s.IsCanonical ∧ s.text = t ∧ s.nanoseconds = n := by
  obtain ⟨d, hd, rfl⟩ := format_eq_ok_iff.1 h
  have hy := d.date.year_mem
  have hmo := d.date.month_mem
  have hda := d.date.day_mem
  have hhour := d.time.hour_lt
  have hminute := d.time.minute_lt
  have hsecond := d.time.second_lt
  have hmicro := d.time.microsecond_lt
  have hyear' := yearAt_eq hd
  have hpart : (n % 1000000000).toNat < 10 ^ 9 := by omega
  have hnat : ((d.date.year.toNat : Nat) : Int) = d.date.year := by omega
  have hdate : IsDate d.date.year.toNat d.date.month d.date.day :=
    ⟨by omega, hmo, by rw [hnat]; exact hda⟩
  have hday := Calendar.dayNumber_eq_daysSinceEpoch hdate.1.1 hmo.1 hmo.2 hda.1
  rw [hnat, ← Calendar.Date.dayNumber] at hday
  have hcount : d.microseconds = d.date.dayNumber * 86400000000 +
      (((d.time.hour * 3600 + d.time.minute * 60 + d.time.second : Nat) : Int) * 1000000 +
        d.time.microsecond) := by
    simp [Calendar.DateTime.microseconds, Calendar.DateTime.dayMicroseconds,
      Calendar.TimeOfDay.microseconds, Calendar.TimeOfDay.seconds]
  refine ⟨⟨d.date.year.toNat, d.date.month, d.date.day, d.time.hour, d.time.minute, d.time.second,
    writtenFraction _ hpart, .zulu true, hdate, .inl (by omega)⟩,
    ⟨by dsimp only; omega, rfl, fun _ hf => isCanonical_writtenFraction hpart hf⟩, ?_, ?_⟩
  · simp only [Spelling.text, Spelling.fractionText, writtenFraction_text, dateTimeText,
      int_eq_padded (show 1000 ≤ d.date.year by omega) hy.2, OffsetSpelling.text, Text.concat,
      List.flatten_cons, List.flatten_nil, List.append_nil, List.append_assoc]
    rfl
  · simp only [Spelling.nanoseconds, writtenFraction_nanoseconds, OffsetSpelling.seconds, ← hday]
    exact nanoseconds_of_seconds hmicro (hcount.symm.trans hd)

/-- The text of an instant is a spelling of it from the year 1000 on. -/
theorem exists_spelling_of_format {n : Int} {t : Text} (h : format n = .ok t)
    (hyear : 1000 ≤ yearAt n) : ∃ s : Spelling, s.text = t ∧ s.nanoseconds = n := by
  obtain ⟨s, -, htext, hn⟩ := exists_canonical_of_format h hyear
  exact ⟨s, htext, hn⟩

/-! ## Before the year 1000 -/

/-- A text that begins with less than four digits does not begin with four. -/
theorem takeDigits?_eq_none {digits rest : Text} {c : CodePoint} {n : Nat}
    (hlen : digits.length < n) (hc : isDecimal c = false) :
    takeDigits? n (digits ++ c :: rest) = none := by
  cases h : takeDigits? n (digits ++ c :: rest) with
  | none => rfl
  | some r =>
    obtain ⟨heq, hn, hall⟩ := takeDigits?_eq_some_iff.1 h
    have hmem : c ∈ r.1 := by
      have hget : (digits ++ c :: rest)[digits.length]? = some c := by simp
      rw [heq, List.getElem?_append_left (by omega)] at hget
      exact List.mem_of_getElem? hget
    rw [hall c hmem] at hc
    cases hc

/-- The text of a date and time begins with the numeral of its year. -/
theorem exists_dateTimeText_eq (d : Calendar.DateTime) :
    ∃ u, dateTimeText d = Numeral.nat d.date.year.natAbs ++ CodePoint.ofChar '-' :: u := by
  have := d.date.year_mem
  refine ⟨Text.concat [Numeral.padded 2 d.date.month, "-", Numeral.padded 2 d.date.day, "T",
    Numeral.padded 2 d.time.hour, ":", Numeral.padded 2 d.time.minute, ":",
    Numeral.padded 2 d.time.second], ?_⟩
  rw [dateTimeText, Numeral.int, if_neg (by omega)]
  rfl

/-- The text of an instant begins with a digit and ends with a letter, so stripping leaves it. -/
theorem strip_format {n : Int} {t : Text} (h : format n = .ok t) : t.strip = t := by
  obtain ⟨d, -, rfl⟩ := format_eq_ok_iff.1 h
  obtain ⟨u, hu⟩ := exists_dateTimeText_eq d
  rw [hu]
  generalize fractionText (n % 1000000000).toNat = f
  refine Text.stripBy_of_ends (fun c hc => ?_) (fun c hc => ?_)
  · rw [List.append_assoc, List.head?_append_of_ne_nil _ (Numeral.nat_ne_nil _)] at hc
    exact isBlank_of_isDigit (Numeral.isDigit_of_mem_nat _ c (List.mem_of_mem_head? hc))
  · rw [← List.append_assoc, List.getLast?_append_of_ne_nil _ (by simp)] at hc
    obtain rfl : _ = c := by simpa using hc
    decide

/-- **A year of less than four digits** makes no timestamp. -/
theorem parse_format_of_short {n : Int} {t : Text} (h : format n = .ok t) (hyear : yearAt n < 1000) :
    parse t = .error (.notTimestamp t.quoted) := by
  have hstrip := strip_format h
  obtain ⟨d, hd, ht⟩ := format_eq_ok_iff.1 h
  obtain ⟨u, hu⟩ := exists_dateTimeText_eq d
  have hy := d.date.year_mem
  rw [← yearAt_eq hd] at hyear
  have hlen : (Numeral.nat d.date.year.natAbs).length < 4 := by
    have hle : (Numeral.nat d.date.year.natAbs).length ≤ 3 :=
      (Numeral.length_nat_le_iff (by decide)).2 (by omega)
    omega
  have hread : Shape.read? t = none := by
    rw [ht, hu, Shape.read?, List.append_assoc, List.cons_append,
      takeDigits?_eq_none hlen (by decide)]
    rfl
  unfold parse
  rw [hstrip, hread]
  rfl

/-! ## Reading back -/

/-- **Instants are read back from their texts** exactly from the year 1000 on. An instant has a text
if it lies in the years 1 to 9999; from the year 1000 on, reading the text gives the instant to the
nanosecond, and before that the text is refused as no timestamp. -/
theorem parse_format_iff (n : Int) :
    ((∃ t, format n = .ok t) ↔ 1 ≤ yearAt n ∧ yearAt n ≤ 9999) ∧
      ∀ t, format n = .ok t →
        (parse t = .ok n ↔ 1000 ≤ yearAt n) ∧
          (yearAt n < 1000 → parse t = .error (.notTimestamp t.quoted)) := by
  refine ⟨exists_format_iff, fun t h => ⟨⟨fun hparse => ?_, fun hyear => ?_⟩,
    parse_format_of_short h⟩⟩
  · by_contra hyear
    rw [parse_format_of_short h (by omega)] at hparse
    cases hparse
  · obtain ⟨s, rfl, rfl⟩ := exists_spelling_of_format h hyear
    have hread : parse ([] ++ s.text ++ []) = .ok s.nanoseconds :=
      parse_text s (by simp) (by simp)
    rwa [List.nil_append, List.append_nil] at hread

/-- The last nanosecond before 1970, and what is read of its text. -/
theorem parse_format_before_epoch :
    format (-1) = .ok (Text.ofString "1969-12-31T23:59:59.999999999Z") ∧
      parse (Text.ofString "1969-12-31T23:59:59.999999999Z") = .ok (-1) := by
  have h : format (-1) = .ok (Text.ofString "1969-12-31T23:59:59.999999999Z") := by decide +kernel
  exact ⟨h, ((parse_format_iff (-1)).2 _ h).1.2 (by decide)⟩

/-- The first instant of year 1 has a text that is no timestamp, because its year has one digit. -/
theorem format_first_instant :
    format (-62135596800000000000) = .ok (Text.ofString "1-01-01T00:00:00Z") ∧
      parse (Text.ofString "1-01-01T00:00:00Z") ≠ .ok (-62135596800000000000) := by
  decide +kernel

end TimeWindow.Timestamp
