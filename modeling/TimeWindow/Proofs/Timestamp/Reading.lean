import TimeWindow.Proofs.Calendar.DateTime
import TimeWindow.Proofs.Text.Strip
import TimeWindow.Proofs.Timestamp.Spelling
import TimeWindow.Timestamp.Reading

set_option autoImplicit false

/-!
# What timestamps say

Reading a text as a timestamp succeeds exactly on the texts that spell one, with blanks around
them, and then gives the instant that is spelled.

## Main results

* `TimeWindow.Timestamp.Shape.localSeconds?_eq_ok_iff` — which dates and times exist, and where
  they lie.
* `TimeWindow.Timestamp.parse_eq_ok_iff_shape` — when reading succeeds, in terms of the parts.
* `TimeWindow.Timestamp.parse_text` — the timestamp of a spelling is read.
* `TimeWindow.Timestamp.parse_eq_ok_iff_exists_spelling` — nothing else is.
-/

namespace TimeWindow.Timestamp

open Outcome

/-! ## Fractions and offsets -/

/-- The nanoseconds of a fraction are what its digits say. -/
theorem fractionNanoseconds_digits (f : Option FractionSpelling) :
    fractionNanoseconds ((f.map FractionSpelling.digits).getD []) =
      (f.map FractionSpelling.nanoseconds).getD 0 := by
  cases f with
  | none => rfl
  | some f =>
    show digitsValue f.digits * 10 ^ (9 - f.digits.length) = _
    rw [digitsValue, Numeral.value_eq_ofDigits]
    rfl

/-- The seconds of an offset with hours and minutes that are in range. -/
theorem OffsetShape.seconds?_numeric_eq_ok_iff {west : Bool} {hours minutes : Text} {n : Int} :
    (OffsetShape.numeric west hours minutes).seconds? = .ok n ↔
      digitsValue minutes ≤ 59 ∧ digitsValue hours ≤ 23 ∧
        n = (if west then -1 else 1) * (3600 * digitsValue hours + 60 * digitsValue minutes) := by
  have hn : (if west then -((digitsValue hours : Int) * 3600 + digitsValue minutes * 60)
        else (digitsValue hours : Int) * 3600 + digitsValue minutes * 60) =
      (if west then -1 else 1) * (3600 * digitsValue hours + 60 * digitsValue minutes) := by
    cases west
    · simp only [Bool.false_eq_true, ↓reduceIte]; omega
    · simp only [↓reduceIte]; omega
  simp only [OffsetShape.seconds?, hn]
  split
  · next h => simp [show ¬digitsValue minutes ≤ 59 by omega]
  · next hm =>
    split
    · next h => simp [show ¬digitsValue hours ≤ 23 by omega]
    · next hh =>
      simp only [Except.ok.injEq]
      constructor
      · rintro rfl
        exact ⟨by omega, by omega, rfl⟩
      · rintro ⟨-, -, rfl⟩
        rfl

/-- The seconds of a written offset are read off its shape. -/
theorem OffsetSpelling.seconds?_shape (w : OffsetSpelling) : w.shape.seconds? = .ok w.seconds := by
  cases w with
  | zulu capital => rfl
  | hours west h =>
    refine OffsetShape.seconds?_numeric_eq_ok_iff.2 ?_
    rw [digitsValue_padded]
    exact ⟨by decide, by omega, by simp [seconds, digitsValue]⟩
  | minutes west h colon m =>
    refine OffsetShape.seconds?_numeric_eq_ok_iff.2 ?_
    rw [digitsValue_padded, digitsValue_padded]
    exact ⟨by omega, by omega, rfl⟩

/-- **Every offset that is read** is a written one, if its digits are in ASCII. -/
theorem exists_offsetSpelling {z : Text} {o : OffsetShape} {n : Int} (h : SpellsOffset z o)
    (hascii : ∀ c ∈ o.digits, c.isAscii = true) (hsec : o.seconds? = .ok n) :
    ∃ w : OffsetSpelling, w.text = z ∧ w.seconds = n := by
  cases h with
  | zulu h =>
    obtain rfl : (0 : Int) = n := Except.ok.inj hsec
    rcases h with rfl | rfl
    · exact ⟨.zulu true, rfl, rfl⟩
    · exact ⟨.zulu false, rfl, rfl⟩
  | @hours west hours hlen hall =>
    obtain ⟨-, hle, rfl⟩ := OffsetShape.seconds?_numeric_eq_ok_iff.1 hsec
    have htext := eq_padded_digitsValue (by decide) hlen hall fun c hc =>
      hascii c (by simpa [OffsetShape.digits] using hc)
    refine ⟨.hours west ⟨digitsValue hours, by omega⟩, ?_, ?_⟩
    · exact congrArg (signMark west :: ·) htext.symm
    · simp [OffsetSpelling.seconds, digitsValue]
  | @minutes west hours colon minutes hlen hall hcolon mlen mall =>
    obtain ⟨mle, hle, rfl⟩ := OffsetShape.seconds?_numeric_eq_ok_iff.1 hsec
    have hh := eq_padded_digitsValue (by decide) hlen hall fun c hc =>
      hascii c (List.mem_append_left _ hc)
    have hm := eq_padded_digitsValue (by decide) mlen mall fun c hc =>
      hascii c (List.mem_append_right _ hc)
    rcases hcolon with rfl | rfl
    · refine ⟨.minutes west ⟨digitsValue hours, by omega⟩ false ⟨digitsValue minutes, by omega⟩, ?_, rfl⟩
      simp only [OffsetSpelling.text, ← hh, ← hm]
      rfl
    · refine ⟨.minutes west ⟨digitsValue hours, by omega⟩ true ⟨digitsValue minutes, by omega⟩, ?_, rfl⟩
      simp only [OffsetSpelling.text, ← hh, ← hm]
      rfl

/-! ## Dates and times -/

/-- A date-time at midnight or at a later full second. -/
theorem Shape.dateTime?_eq_ok_iff {s : Shape} {hour : Nat} {d : Calendar.DateTime} :
    s.dateTime? hour = .ok d ↔
      (d.date.year = digitsValue s.year ∧ d.date.month = digitsValue s.month ∧
          d.date.day = digitsValue s.day) ∧
        d.time.hour = hour ∧ d.time.minute = digitsValue s.minute ∧
          d.time.second = digitsValue s.second ∧ d.time.microsecond = 0 := by
  rw [Shape.dateTime?, mapError_eq_ok_iff, Calendar.DateTime.ofFields?_eq_ok_iff]

/-- The date of fields that are one. -/
def IsDate.date {year month day : Nat} (h : IsDate year month day) : Calendar.Date :=
  ⟨year, month, day, by have := h.1; omega, h.2.1, h.2.2⟩

theorem IsDate.dayNumber_date {year month day : Nat} (h : IsDate year month day) :
    h.date.dayNumber = Calendar.daysSinceEpoch year month day :=
  Calendar.dayNumber_eq_daysSinceEpoch h.1.1 h.2.1.1 h.2.1.2 h.2.2.1

/-- The fields of a date are one. -/
theorem isDate_of_date {d : Calendar.Date} {year : Nat} (h : d.year = year) :
    IsDate year d.month d.day := by
  have hy := d.year_mem
  have hd := d.day_mem
  rw [h] at hy hd
  exact ⟨by omega, d.month_mem, hd⟩

/-- The hour 24 is midnight at the end of a day, if the day is followed by another one. -/
theorem Shape.localSeconds?_of_midnight {s : Shape} (h : digitsValue s.hour = 24) {n : Int} :
    s.localSeconds? = .ok n ↔
      ∃ d : Calendar.Date, (d.year = digitsValue s.year ∧ d.month = digitsValue s.month ∧
          d.day = digitsValue s.day) ∧
        (digitsValue s.minute = 0 ∧ digitsValue s.second = 0) ∧
        ¬(d.year = 9999 ∧ d.month = 12 ∧ d.day = 31) ∧ n = 86400 * d.dayNumber + 86400 := by
  have hnot : (¬(0 < digitsValue s.minute ∨ 0 < digitsValue s.second)) ↔
      digitsValue s.minute = 0 ∧ digitsValue s.second = 0 := by omega
  simp only [Shape.localSeconds?, h, ↓reduceIte]
  split
  · next hpast =>
    constructor
    · intro hthrow
      cases hthrow
    · rintro ⟨d, -, hzero, -⟩
      exact absurd hpast (hnot.2 hzero)
  · next hpast =>
    have hzero := hnot.1 hpast
    simp only [bind_eq_ok_iff, pure_eq_ok_iff, mapError_eq_ok_iff]
    constructor
    · rintro ⟨today, htoday, tomorrow, hnext, rfl⟩
      obtain ⟨hdate, -⟩ := Shape.dateTime?_eq_ok_iff.1 htoday
      have := Calendar.Date.ofDayNumber?_eq_ok_iff.1 hnext
      exact ⟨today.date, hdate, hzero, (Calendar.Date.exists_tomorrow_iff _).1 ⟨_, hnext⟩,
        by omega⟩
    · rintro ⟨d, hdate, -, hlast, rfl⟩
      obtain ⟨e, he⟩ := (Calendar.Date.exists_tomorrow_iff d).2 hlast
      have := Calendar.Date.ofDayNumber?_eq_ok_iff.1 he
      refine ⟨⟨d, ⟨0, 0, 0, 0, by decide, by decide, by decide, by decide⟩⟩,
        Shape.dateTime?_eq_ok_iff.2 ⟨hdate, rfl, hzero.1.symm, hzero.2.symm, rfl⟩, e, he, by omega⟩

/-- Any other hour is an hour of the day itself. -/
theorem Shape.localSeconds?_of_hour {s : Shape} (h : digitsValue s.hour ≠ 24) {n : Int} :
    s.localSeconds? = .ok n ↔
      ∃ d : Calendar.Date, (d.year = digitsValue s.year ∧ d.month = digitsValue s.month ∧
          d.day = digitsValue s.day) ∧
        (digitsValue s.hour ≤ 23 ∧ digitsValue s.minute ≤ 59 ∧ digitsValue s.second ≤ 59) ∧
        n = 86400 * d.dayNumber + 3600 * digitsValue s.hour + 60 * digitsValue s.minute +
          digitsValue s.second := by
  simp only [Shape.localSeconds?, h, ↓reduceIte, bind_eq_ok_iff, pure_eq_ok_iff]
  constructor
  · rintro ⟨d, hd, rfl⟩
    obtain ⟨hdate, hhour, hminute, hsecond, -⟩ := Shape.dateTime?_eq_ok_iff.1 hd
    have := d.time.hour_lt
    have := d.time.minute_lt
    have := d.time.second_lt
    refine ⟨d.date, hdate, by omega, ?_⟩
    rw [Calendar.TimeOfDay.seconds, hhour, hminute, hsecond]
    push_cast
    omega
  · rintro ⟨d, hdate, ⟨hhour, hminute, hsecond⟩, rfl⟩
    refine ⟨⟨d, ⟨digitsValue s.hour, digitsValue s.minute, digitsValue s.second, 0, by omega,
      by omega, by omega, by decide⟩⟩,
      Shape.dateTime?_eq_ok_iff.2 ⟨hdate, rfl, rfl, rfl, rfl⟩, ?_⟩
    simp only [Calendar.TimeOfDay.seconds]
    push_cast
    omega

/-- **A date and a time exist** if their fields are a date and a time of day, and then they lie as
many days and seconds after the epoch as are counted. -/
theorem Shape.localSeconds?_eq_ok_iff {s : Shape} {n : Int} :
    s.localSeconds? = .ok n ↔
      IsDate (digitsValue s.year) (digitsValue s.month) (digitsValue s.day) ∧
        IsTime (digitsValue s.year) (digitsValue s.month) (digitsValue s.day) (digitsValue s.hour)
          (digitsValue s.minute) (digitsValue s.second) ∧
        n = 86400 * Calendar.daysSinceEpoch (digitsValue s.year) (digitsValue s.month)
              (digitsValue s.day) +
            3600 * digitsValue s.hour + 60 * digitsValue s.minute + digitsValue s.second := by
  by_cases h24 : digitsValue s.hour = 24
  · rw [Shape.localSeconds?_of_midnight h24]
    constructor
    · rintro ⟨d, ⟨hy, hm, hd⟩, hzero, hlast, rfl⟩
      have hdate := isDate_of_date hy
      rw [hm, hd] at hdate
      refine ⟨hdate, .inr ⟨⟨h24, hzero⟩, by omega⟩, ?_⟩
      rw [← hdate.dayNumber_date, Calendar.Date.dayNumber, hy, hm, hd]
      simp only [Calendar.Date.dayNumber, IsDate.date]
      omega
    · rintro ⟨hdate, htime, hn⟩
      have hzero : digitsValue s.minute = 0 ∧ digitsValue s.second = 0 := by
        rcases htime with h | h <;> omega
      refine ⟨hdate.date, ⟨rfl, rfl, rfl⟩, hzero, ?_, ?_⟩
      · rcases htime with h | ⟨-, h⟩
        · omega
        · simp only [IsDate.date]
          omega
      · rw [hdate.dayNumber_date]
        omega
  · rw [Shape.localSeconds?_of_hour h24]
    constructor
    · rintro ⟨d, ⟨hy, hm, hd⟩, htime, rfl⟩
      have hdate := isDate_of_date hy
      rw [hm, hd] at hdate
      refine ⟨hdate, .inl htime, ?_⟩
      rw [← hdate.dayNumber_date, Calendar.Date.dayNumber, hy, hm, hd]
      rfl
    · rintro ⟨hdate, htime, hn⟩
      refine ⟨hdate.date, ⟨rfl, rfl, rfl⟩, ?_, ?_⟩
      · rcases htime with h | ⟨h, -⟩
        · exact h
        · exact absurd h.1 h24
      · rw [hdate.dayNumber_date, hn]

/-! ## Reading a shape -/

/-- **Reading succeeds** exactly if what stands between the blanks has the shape of a timestamp with
an offset, its digits but those of the fraction are in ASCII, and the offset, the date and the time
exist. -/
theorem parse_eq_ok_iff_shape {t : Text} {n : Int} :
    parse t = .ok n ↔
      ∃ s o, Shape.read? t.strip = some s ∧ s.offset = some o ∧
        (∀ c ∈ s.digits, c.isAscii = true) ∧
        ∃ offset seconds, o.seconds? = .ok offset ∧ s.localSeconds? = .ok seconds ∧
          n = (seconds - offset) * 1000000000 + fractionNanoseconds s.fraction := by
  constructor
  · intro h
    unfold parse at h
    split at h
    · next s hs =>
      split at h
      · next o ho =>
        split at h
        · cases h
        · next hascii =>
          simp only [bind_eq_ok_iff, pure_eq_ok_iff] at h
          obtain ⟨offset, hoffset, seconds, hseconds, rfl⟩ := h
          refine ⟨s, o, hs, ho, ?_, offset, seconds, hoffset, hseconds, rfl⟩
          simpa using hascii
      · cases h
    · cases h
  · rintro ⟨s, o, hs, ho, hascii, offset, seconds, hoffset, hseconds, rfl⟩
    have hall : (s.digits.all CodePoint.isAscii) = true := List.all_eq_true.2 hascii
    unfold parse
    simp only [hs, ho, hall, hoffset, hseconds]
    rfl

/-! ## Written offsets -/

/-- A padded numeral is in ASCII. -/
theorem isAscii_of_mem_padded {width n : Nat} :
    ∀ c ∈ Numeral.padded width n, c.isAscii = true := by
  intro c hc
  have := CodePoint.isDigit_eq_true_iff.1 (Numeral.isDigit_of_mem_padded c hc)
  rw [CodePoint.isAscii, decide_eq_true_eq]
  omega

/-- The digits of a written offset are in ASCII. -/
theorem OffsetSpelling.isAscii_shape (w : OffsetSpelling) :
    ∀ c ∈ w.shape.digits, c.isAscii = true := by
  intro c hc
  cases w with
  | zulu capital => simp [shape, OffsetShape.digits] at hc
  | hours west h =>
    exact isAscii_of_mem_padded c (by simpa [shape, OffsetShape.digits] using hc)
  | minutes west h colon m =>
    rcases List.mem_append.1 hc with hc | hc
    · exact isAscii_of_mem_padded c hc
    · exact isAscii_of_mem_padded c hc

/-- An offset ends with a letter or a digit, which is no blank. -/
theorem OffsetSpelling.isBlank_getLast? (w : OffsetSpelling) (t : Text) :
    ∀ c ∈ (t ++ w.text).getLast?, c.isBlank = false := by
  have hpadded : ∀ n : Nat, n < 100 → ∀ (t : Text) (c : CodePoint),
      c ∈ (t ++ Numeral.padded 2 n).getLast? → c.isBlank = false := by
    intro n hn t c hc
    have hne : Numeral.padded 2 n ≠ [] := by
      have := (padded_two_spec hn).1
      intro h
      simp [h] at this
    rw [List.getLast?_append_of_ne_nil _ hne] at hc
    exact isBlank_of_isDigit (Numeral.isDigit_of_mem_padded c (List.mem_of_getLast? hc))
  intro c hc
  cases w with
  | zulu capital =>
    cases capital <;> simp [OffsetSpelling.text, Text.ofString] at hc <;> rw [← hc] <;> decide
  | hours west h =>
    rw [OffsetSpelling.text, ← List.singleton_append, ← List.append_assoc] at hc
    exact hpadded h (by omega) _ c hc
  | minutes west h colon m =>
    rw [OffsetSpelling.text, ← List.singleton_append, ← List.append_assoc, ← List.append_assoc,
      ← List.append_assoc] at hc
    exact hpadded m (by omega) _ c hc

/-! ## Reading a spelling -/

namespace Spelling

/-- The fields of a spelling are within the reach of their digits. -/
theorem fields_lt (s : Spelling) :
    s.year < 10 ^ 4 ∧ s.month < 100 ∧ s.day < 100 ∧ s.hour < 100 ∧ s.minute < 100 ∧
      s.second < 100 := by
  obtain ⟨hy, hm, -, hd⟩ := s.isDate
  have hlen : Calendar.daysInMonth s.year s.month ≤ 31 := by
    unfold Calendar.daysInMonth
    split_ifs <;> decide
  rcases s.isTime with ⟨hh, hmi, hs⟩ | ⟨⟨hh, hmi, hs⟩, -⟩ <;> omega

theorem digital_shape (s : Spelling) : s.shape.Digital := by
  obtain ⟨hy, hm, hd, hh, hmi, hs⟩ := s.fields_lt
  exact ⟨⟨Numeral.length_padded (by decide) hy, fun c hc =>
      isDecimal_of_isDigit (Numeral.isDigit_of_mem_padded c hc)⟩,
    padded_two_spec hm, padded_two_spec hd, padded_two_spec hh, padded_two_spec hmi,
    padded_two_spec hs⟩

/-- The timestamp of a spelling is the date and the time, the fraction and the offset. -/
theorem text_eq_append (s : Spelling) :
    s.text = s.shape.dateTimePart ++ (s.fractionText ++ s.offset.text) := by
  simp only [text, Text.concat, List.flatten_cons, List.flatten_nil, List.append_nil,
    Shape.dateTimePart, shape, List.append_assoc, List.cons_append]
  rfl

/-- **The parts of a spelling** are read off its timestamp. -/
theorem read?_text (s : Spelling) : Shape.read? s.text = some s.shape :=
  (Shape.read?_eq_some_iff rfl).2
    ⟨s.digital_shape, s.fractionText, s.offset.text, s.spellsFraction, s.offset.spells,
      s.text_eq_append⟩

/-- All digits of a spelling but those of the fraction are in ASCII. -/
theorem isAscii_shape (s : Spelling) : ∀ c ∈ s.shape.digits, c.isAscii = true := by
  intro c hc
  simp only [Shape.digits, shape, Option.map_some, Option.getD_some, List.mem_append] at hc
  rcases hc with (((((hc | hc) | hc) | hc) | hc) | hc) | hc
  · exact isAscii_of_mem_padded c hc
  · exact isAscii_of_mem_padded c hc
  · exact isAscii_of_mem_padded c hc
  · exact isAscii_of_mem_padded c hc
  · exact isAscii_of_mem_padded c hc
  · exact isAscii_of_mem_padded c hc
  · exact s.offset.isAscii_shape c hc

/-- A timestamp ends with its offset, and so with no blank. -/
theorem isBlank_getLast? (s : Spelling) : ∀ c ∈ s.text.getLast?, c.isBlank = false := by
  rw [text_eq_append, ← List.append_assoc]
  exact s.offset.isBlank_getLast? _

/-- A date begins with a digit, which is no blank. -/
theorem isBlank_head? (s : Spelling) : ∀ c ∈ s.text.head?, c.isBlank = false := by
  have hne : Numeral.padded 4 s.year ≠ [] := by
    have := s.digital_shape.year.1
    intro h
    simp [shape, h] at this
  intro c hc
  rw [text_eq_append, Shape.dateTimePart, shape, List.append_assoc,
    List.head?_append_of_ne_nil _ hne] at hc
  exact isBlank_of_isDigit (Numeral.isDigit_of_mem_padded c (List.mem_of_mem_head? hc))

/-- Blanks around a timestamp are stripped, and nothing else. -/
theorem strip_text (s : Spelling) {before after : Text} (hb : ∀ c ∈ before, c.isBlank = true)
    (ha : ∀ c ∈ after, c.isBlank = true) : (before ++ s.text ++ after).strip = s.text := by
  refine Text.stripBy_append hb ha s.isBlank_head? s.isBlank_getLast? ?_
  have hlen := congrArg List.length s.text_eq_append
  intro h
  simp [h, Shape.dateTimePart] at hlen

end Spelling

/-- The local seconds of a spelling. -/
theorem Spelling.localSeconds?_shape (s : Spelling) :
    s.shape.localSeconds? = .ok (86400 * Calendar.daysSinceEpoch s.year s.month s.day +
      3600 * s.hour + 60 * s.minute + s.second) := by
  rw [Shape.localSeconds?_eq_ok_iff]
  simp only [shape, digitsValue_padded]
  exact ⟨s.isDate, s.isTime, trivial⟩

/-- **A timestamp is read**: with any blanks around it, the text of a spelling names the instant
that the spelling counts. -/
theorem parse_text (s : Spelling) {before after : Text} (hb : ∀ c ∈ before, c.isBlank = true)
    (ha : ∀ c ∈ after, c.isBlank = true) :
    parse (before ++ s.text ++ after) = .ok s.nanoseconds := by
  rw [parse_eq_ok_iff_shape, s.strip_text hb ha]
  refine ⟨s.shape, s.offset.shape, s.read?_text, rfl, s.isAscii_shape, _, _,
    s.offset.seconds?_shape, s.localSeconds?_shape, ?_⟩
  rw [Spelling.nanoseconds, Spelling.shape, Spelling.fractionDigits, fractionNanoseconds_digits]
  omega

/-- **A text that has the shape of a timestamp** is written in the padded numerals of its fields, a
fraction and an offset, if the digits of its fields are in ASCII and its offset is in range. -/
theorem Shape.exists_text_of_read? {t : Text} {s : Shape} {o : OffsetShape} {offset : Int}
    (hs : Shape.read? t = some s) (ho : s.offset = some o)
    (hascii : ∀ c ∈ s.digits, c.isAscii = true) (hoffset : o.seconds? = .ok offset) :
    ∃ (fraction : Option FractionSpelling) (w : OffsetSpelling),
      (fraction.map FractionSpelling.digits).getD [] = s.fraction ∧ w.seconds = offset ∧
        t = Text.concat [Numeral.padded 4 (digitsValue s.year), "-",
          Numeral.padded 2 (digitsValue s.month), "-", Numeral.padded 2 (digitsValue s.day), "T",
          Numeral.padded 2 (digitsValue s.hour), ":", Numeral.padded 2 (digitsValue s.minute), ":",
          Numeral.padded 2 (digitsValue s.second), (fraction.map FractionSpelling.text).getD [],
          w.text] := by
  obtain ⟨hdigital, f, z, hf, hz, htext⟩ := (Shape.read?_eq_some_iff ho).1 hs
  have hall : ∀ t : Text, (∀ c ∈ t, c ∈ s.digits) → ∀ c ∈ t, c.isAscii = true :=
    fun t ht c hc => hascii c (ht c hc)
  simp only [Shape.digits, ho, Option.map_some, Option.getD_some, List.mem_append] at hall
  obtain ⟨w, rfl, rfl⟩ := exists_offsetSpelling hz (hall _ (by tauto)) hoffset
  obtain ⟨fraction, rfl, hdigits⟩ := exists_of_spellsFraction hf
  have hyear := eq_padded_digitsValue (by decide) hdigital.year.1 hdigital.year.2
    (hall _ (by tauto))
  have hmonth := eq_padded_digitsValue (by decide) hdigital.month.1 hdigital.month.2
    (hall _ (by tauto))
  have hday := eq_padded_digitsValue (by decide) hdigital.day.1 hdigital.day.2 (hall _ (by tauto))
  have hhour := eq_padded_digitsValue (by decide) hdigital.hour.1 hdigital.hour.2
    (hall _ (by tauto))
  have hminute := eq_padded_digitsValue (by decide) hdigital.minute.1 hdigital.minute.2
    (hall _ (by tauto))
  have hsecond := eq_padded_digitsValue (by decide) hdigital.second.1 hdigital.second.2
    (hall _ (by tauto))
  refine ⟨fraction, w, hdigits, rfl, ?_⟩
  rw [htext, Shape.dateTimePart]
  simp only [← hyear, ← hmonth, ← hday, ← hhour, ← hminute, ← hsecond, Text.concat,
    List.flatten_cons, List.flatten_nil, List.append_nil, List.append_assoc, List.cons_append]
  rfl

/-- **Nothing else is read**: a text that names an instant is the timestamp of a spelling that
counts it, with blanks around it.

**Proof sketch.** The shape that was read is written in the padded numerals of its fields, a fraction
and an offset (`Shape.exists_text_of_read?`), and the date and the time exist
(`Shape.localSeconds?_eq_ok_iff`). -/
theorem exists_spelling_of_parse {t : Text} {n : Int} (h : parse t = .ok n) :
    ∃ (s : Spelling) (before after : Text), (∀ c ∈ before, c.isBlank = true) ∧
      (∀ c ∈ after, c.isBlank = true) ∧ t = before ++ s.text ++ after ∧ n = s.nanoseconds := by
  obtain ⟨s, o, hs, ho, hascii, offset, seconds, hoffset, hseconds, rfl⟩ :=
    parse_eq_ok_iff_shape.1 h
  obtain ⟨fraction, w, hdigits, rfl, htext⟩ := Shape.exists_text_of_read? hs ho hascii hoffset
  obtain ⟨hdate, htime, hseconds⟩ := Shape.localSeconds?_eq_ok_iff.1 hseconds
  obtain ⟨before, after, hb, ha, ht⟩ := Text.exists_eq_append_stripBy CodePoint.isBlank t
  refine ⟨⟨_, _, _, _, _, _, fraction, w, hdate, htime⟩, before, after, hb, ha, ?_, ?_⟩
  · rw [ht]
    congr 2
  · rw [hseconds, ← hdigits, fractionNanoseconds_digits, Spelling.nanoseconds]
    dsimp only
    omega

/-- The first day of year 1 and the last day of year 9999. -/
theorem daysSinceEpoch_bounds :
    Calendar.daysSinceEpoch 1 1 1 = -719162 ∧ Calendar.daysSinceEpoch 9999 12 31 = 2932896 := by
  constructor
  · rw [← Calendar.dayNumber_eq_daysSinceEpoch] <;> decide
  · rw [← Calendar.dayNumber_eq_daysSinceEpoch] <;> decide

/-- **The texts that name instants** are exactly the timestamps of spellings with blanks around
them, and each names the instant that is counted from its spelling. An offset may carry the instant
out of the years 1 to 9999, in either direction. -/
theorem parse_eq_ok_iff_exists_spelling :
    (∀ (t : Text) (n : Int), parse t = .ok n ↔
      ∃ (s : Spelling) (before after : Text), (∀ c ∈ before, c.isBlank = true) ∧
        (∀ c ∈ after, c.isBlank = true) ∧ t = before ++ s.text ++ after ∧ n = s.nanoseconds) ∧
    (∃ t n, parse t = .ok n ∧ n < 10 ^ 9 * 86400 * Calendar.daysSinceEpoch 1 1 1) ∧
    ∃ t n, parse t = .ok n ∧ 10 ^ 9 * 86400 * (Calendar.daysSinceEpoch 9999 12 31 + 1) ≤ n := by
  refine ⟨fun t n => ⟨exists_spelling_of_parse, ?_⟩, ?_, ?_⟩
  · rintro ⟨s, before, after, hb, ha, rfl, hn⟩
    rw [hn, parse_text s hb ha]
  · rw [daysSinceEpoch_bounds.1]
    exact ⟨"0001-01-01T00:00:00+00:01", -62135596860000000000, by decide +kernel, by decide⟩
  · rw [daysSinceEpoch_bounds.2]
    exact ⟨"9999-12-31T23:59:59-23:59", 253402387139000000000, by decide +kernel, by decide⟩

end TimeWindow.Timestamp
