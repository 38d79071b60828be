import TimeWindow.Proofs.Duration.Reading

set_option autoImplicit false

/-!
# Durations are written canonically

The text of a duration is that of its spelling. There is a text as long as the hours have one, and
since it can be read back, it belongs to one duration alone.

## Main results

* `TimeWindow.Duration.magnitudeText_nanoseconds` — a magnitude is written as its text, unless it
  has too many hours.
* `TimeWindow.Duration.format_nanoseconds` — so is a spelling.
* `TimeWindow.Duration.exists_format_iff` — which durations have a text.
* `TimeWindow.Duration.read?_of_format`, `TimeWindow.Duration.eq_of_format` — the text of a duration
  denotes it, and no other one has the same.
* `TimeWindow.Duration.format_neg` — a negative duration is written with a minus sign in front.
* `TimeWindow.Duration.format_canonical` — all of this together.
-/

namespace TimeWindow.Duration

open Numeral

/-! ## Magnitudes -/

/-- **A decimal** of a unit up to a second, with a whole part of three digits, is written. -/
theorem decimal?_units_of_le {places scale : Nat} (d : Decimal places) (hscale : 10 ^ places = scale)
    (hplaces : places ≤ 9) (h : d.whole ≤ 999) : decimal? d.units scale = .ok d.text := by
  have hlimit : WithinLimit (d.whole : Int) :=
    withinLimit_of_fitsInt64 (fitsInt64_eq_true_iff.2 (by unfold int64Min int64Max; omega))
  rw [← hscale, d.decimal?_units (.inr (Nat.lt_of_le_of_lt hplaces (by decide))),
    int?_eq_ok_iff.2 ⟨hlimit, rfl⟩]
  rfl

/-- The seconds of a clock are written. -/
theorem decimal?_seconds {s : Decimal 9} (h : s.whole ≤ 59) :
    decimal? s.units 1000000000 = .ok s.text :=
  decimal?_units_of_le s rfl (by decide) (by omega)

/-- **A short duration** is written as one number of its unit. -/
theorem magnitudeText_units {unit : TimeUnit} (number : Decimal unit.places)
    (isShort : unit.nanoseconds < Units.second)
    (whole_mem : 1 ≤ number.whole ∧ number.whole ≤ 999) :
    magnitudeText number.units = .ok (number.text ++ unit.mark) := by
  have hunits := number.units_mem
  cases unit with
  | hour | minute | second => exact absurd isShort (by decide)
  | millisecond =>
    have hdecimal : decimal? number.units 1000000 = .ok number.text :=
      decimal?_units_of_le number rfl (by decide) whole_mem.2
    simp only [TimeUnit.places] at whole_mem hunits hdecimal ⊢
    rw [magnitudeText, if_neg (by omega), if_neg (by omega), if_pos (by omega), hdecimal]
    simp [Text.concat, TimeUnit.mark, bind, Except.bind, pure, Except.pure]
  | microsecond =>
    have hdecimal : decimal? number.units 1000 = .ok number.text :=
      decimal?_units_of_le number rfl (by decide) whole_mem.2
    simp only [TimeUnit.places] at whole_mem hunits hdecimal ⊢
    rw [magnitudeText, if_neg (by omega), if_pos (by omega), hdecimal]
    simp [Text.concat, TimeUnit.mark, bind, Except.bind, pure, Except.pure]
  | nanosecond =>
    -- Nanoseconds have no fraction, and are written as a whole number.
    have hfraction : number.fraction = [] :=
      List.length_eq_zero_iff.1 (Nat.le_zero.1 number.length_le)
    have hpart : number.part = 0 := number.part_eq_zero_iff.2 hfraction
    rw [Decimal.units, hpart]
    simp only [TimeUnit.places, Nat.pow_zero, Nat.mul_one, Nat.add_zero] at whole_mem ⊢
    rw [magnitudeText, if_pos (by omega)]
    simp [Text.concat, TimeUnit.mark, Decimal.text, hfraction, pure, Except.pure]

/-- The hours, minutes and seconds of a duration. -/
theorem clock_parts {h m : Nat} {s : Decimal 9} (minutes_le : m ≤ 59) (whole_le : s.whole ≤ 59) :
    let n := 3600000000000 * h + 60000000000 * m + s.units
    n / 3600000000000 = h ∧ n % 3600000000000 / 60000000000 = m ∧ n % 60000000000 = s.units := by
  have hunits := s.units_mem
  omega

/-- A duration of a second or more is written as a clock. -/
theorem magnitudeText_of_le {n : Nat} (h : 1000000000 ≤ n) : magnitudeText n = clockText n := by
  rw [magnitudeText, if_neg (by omega), if_neg (by omega), if_neg (by omega)]

/-- Few hours are within the digit limit. -/
theorem map_int?_zero (t : Text) : ((int? 0).map fun _ => t) = .ok t := by
  have hzero : int? 0 = .ok (int 0) := int?_eq_ok_iff.2 ⟨Nat.pow_pos (by decide), rfl⟩
  rw [hzero]
  rfl

/-- **A magnitude is written** as its text if its hours are within the digit limit. -/
theorem magnitudeText_nanoseconds (m : Magnitude) :
    magnitudeText m.nanoseconds =
      (int? (m.nanoseconds / 3600000000000 : Nat)).map fun _ => m.text := by
  cases m with
  | short unit number isShort whole_mem =>
    have hlt := Magnitude.units_lt number isShort whole_mem.2
    have hhours : number.units / 3600000000000 = 0 := by omega
    rw [Magnitude.nanoseconds, magnitudeText_units number isShort whole_mem, hhours, Int.ofNat_zero,
      map_int?_zero, Magnitude.text_short]
  | seconds s whole_mem =>
    obtain ⟨hhours, hminutes, hseconds⟩ := clock_parts (h := 0) (m := 0) (by decide) whole_mem.2
    simp only [Nat.mul_zero, Nat.zero_add] at hhours hminutes hseconds
    have hle : 1000000000 ≤ s.units := by
      have := s.units_mem
      omega
    rw [Magnitude.nanoseconds, magnitudeText_of_le hle, clockText, hhours, hminutes, hseconds,
      decimal?_seconds whole_mem.2, Int.ofNat_zero, map_int?_zero]
    simp [bind, Except.bind, pure, Except.pure, Text.concat]
  | minutes m s minutes_mem whole_le =>
    obtain ⟨hhours, hminutes, hseconds⟩ := clock_parts (h := 0) minutes_mem.2 whole_le
    simp only [Nat.mul_zero, Nat.zero_add] at hhours hminutes hseconds
    have hne : m ≠ 0 := by omega
    rw [Magnitude.nanoseconds, magnitudeText_of_le (by omega), clockText, hhours, hminutes,
      hseconds, decimal?_seconds whole_le, Int.ofNat_zero, map_int?_zero]
    simp [bind, Except.bind, pure, Except.pure, Text.concat, hne]
  | hours h m s hours_pos minutes_le whole_le =>
    obtain ⟨hhours, hminutes, hseconds⟩ := clock_parts (h := h) minutes_le whole_le
    have hne : h ≠ 0 := by omega
    rw [Magnitude.nanoseconds, magnitudeText_of_le (by omega), clockText, hhours, hminutes,
      hseconds, decimal?_seconds whole_le]
    cases hint : int? h with
    | error f => simp [bind, Except.bind, Except.map, hne]
    | ok t =>
      obtain rfl := eq_nat_of_int? hint
      simp [bind, Except.bind, pure, Except.pure, Except.map, Text.concat, hne]

/-! ## Signed durations -/

/-- **A spelling is written** as its text if its hours are within the digit limit. -/
theorem format_nanoseconds (s : Spelling) :
    format s.nanoseconds =
      (int? (s.nanoseconds.natAbs / 3600000000000 : Nat)).map fun _ => s.text := by
  cases s with
  | zero => exact (map_int?_zero _).symm
  | signed negative m =>
    have hpos := m.nanoseconds_pos
    have habs : (Spelling.signed negative m).nanoseconds.natAbs = m.nanoseconds := by
      cases negative <;> simp [Spelling.nanoseconds]
    have hne : (Spelling.signed negative m).nanoseconds ≠ 0 := by omega
    have hneg : (Spelling.signed negative m).nanoseconds < 0 ↔ negative = true := by
      cases negative with
      | true =>
        simp only [Spelling.nanoseconds, if_true, iff_true]
        omega
      | false => simp [Spelling.nanoseconds]
    rw [format, if_neg hne, habs, magnitudeText_nanoseconds]
    cases int? (m.nanoseconds / 3600000000000 : Nat) with
    | error f => rfl
    | ok t => simp [bind, Except.bind, pure, Except.pure, Except.map, Spelling.text, hneg]

/-- **A negative duration** is written with a minus sign in front. -/
theorem format_neg {n : Int} (h : 0 < n) :
    format (-n) = (format n).map (CodePoint.ofChar '-' :: ·) := by
  rw [format, format, if_neg (by omega), if_neg (by omega), Int.natAbs_neg]
  cases magnitudeText n.natAbs with
  | error f => rfl
  | ok t =>
    have hneg : ¬n < 0 := by omega
    simp [bind, Except.bind, pure, Except.pure, Except.map, h, hneg]

/-! ## What is written -/

/-- A duration has a text exactly if its hours are within the digit limit. -/
theorem exists_format_iff {n : Int} :
    (∃ t, format n = .ok t) ↔ WithinLimit (n.natAbs / 3600000000000 : Nat) := by
  obtain ⟨s, rfl⟩ := Spelling.exists_nanoseconds_eq n
  rw [format_nanoseconds]
  simp only [Outcome.map_eq_ok_iff, int?_eq_ok_iff]
  exact ⟨fun ⟨_, _, ⟨h, _⟩, _⟩ => h, fun h => ⟨_, _, ⟨h, rfl⟩, rfl⟩⟩

/-- A duration without a text has too many hours. -/
theorem format_eq_error {n : Int} (h : ¬WithinLimit (n.natAbs / 3600000000000 : Nat)) :
    format n = .error .digitLimit := by
  obtain ⟨s, rfl⟩ := Spelling.exists_nanoseconds_eq n
  rw [format_nanoseconds, int?_eq_error h]
  rfl

/-- The text of a duration is that of a spelling of it. -/
theorem exists_spelling_of_format {n : Int} {t : Text} (h : format n = .ok t) :
    ∃ s : Spelling, s.text = t ∧ s.nanoseconds = n := by
  obtain ⟨s, rfl⟩ := Spelling.exists_nanoseconds_eq n
  rw [format_nanoseconds] at h
  obtain ⟨_, -, htext⟩ := Outcome.map_eq_ok_iff.1 h
  exact ⟨s, htext, rfl⟩

/-- **The text of a duration denotes it.** -/
theorem read?_of_format {n : Int} {t : Text} (h : format n = .ok t) : read? t = some (n : ℚ) := by
  obtain ⟨s, rfl, rfl⟩ := exists_spelling_of_format h
  exact read?_text s

/-- **No two durations share a text.** -/
theorem eq_of_format {n m : Int} {t : Text} (hn : format n = .ok t) (hm : format m = .ok t) :
    n = m := by
  have hread : some (n : ℚ) = some (m : ℚ) := by
    rw [← read?_of_format hn, read?_of_format hm]
  exact_mod_cast Option.some.inj hread

/-- **A duration is written** exactly if its hours have no more digits than are written. The text is
canonical, denotes the duration and belongs to no other one, and a minus sign is all that is added
for a negative duration. -/
theorem format_canonical (n : Int) :
    ((∃ t, format n = .ok t) ↔ n.natAbs / (3600 * 10 ^ 9) < 10 ^ digitLimit) ∧
      (¬n.natAbs / (3600 * 10 ^ 9) < 10 ^ digitLimit →
        format n = .error .digitLimit ∧ Failure.digitLimit.category = .badValue) ∧
      (∀ t, format n = .ok t →
        (∃ s : Spelling, s.text = t ∧ s.nanoseconds = n) ∧ read? t = some (n : ℚ) ∧
          ∀ m, format m = .ok t → m = n) ∧
      (0 < n → format (-n) = (format n).map (CodePoint.ofChar '-' :: ·)) := by
  have hlimit : n.natAbs / (3600 * 10 ^ 9) < 10 ^ digitLimit ↔
      WithinLimit (n.natAbs / 3600000000000 : Nat) := by
    rw [WithinLimit, Int.natAbs_natCast, show 3600 * 10 ^ 9 = 3600000000000 from rfl]
  refine ⟨?_, ?_, ?_, format_neg⟩
  · rw [hlimit, exists_format_iff]
  · intro h
    rw [hlimit] at h
    exact ⟨format_eq_error h, rfl⟩
  · intro t ht
    exact ⟨exists_spelling_of_format ht, read?_of_format ht, fun m hm => eq_of_format hm ht⟩

end TimeWindow.Duration
