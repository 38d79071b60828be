import TimeWindow.Proofs.Timestamp.Writing

set_option autoImplicit false

/-!
# Texts of instants are distinct

No two instants share a text. From the year 1000 on this follows from reading the text back, but the
text of an earlier instant is no timestamp. What holds in all years is that the text can be taken
apart: the year goes on to the first dash, the other fields have two digits each, and the fraction
goes on to the letter of universal time.

## Main definitions

* `TimeWindow.Timestamp.isMark` — the code points of which texts of instants are made.

## Main results

* `TimeWindow.Timestamp.dateTimeText_append_inj` — a date and time in front of a text is determined
  by the text.
* `TimeWindow.Timestamp.eq_of_format` — no two instants share a text.
* `TimeWindow.Timestamp.isMark_of_format` — what the text of an instant is made of.
-/

namespace TimeWindow.Timestamp

open Calendar

/-! ## Taking a text apart -/

/-- The text of a date and time, field by field, in front of a text. -/
theorem dateTimeText_append (d : DateTime) (s : Text) :
    dateTimeText d ++ s =
      Numeral.nat d.date.year.natAbs ++ CodePoint.ofChar '-' ::
        (Numeral.padded 2 d.date.month ++ CodePoint.ofChar '-' ::
          (Numeral.padded 2 d.date.day ++ CodePoint.ofChar 'T' ::
            (Numeral.padded 2 d.time.hour ++ CodePoint.ofChar ':' ::
              (Numeral.padded 2 d.time.minute ++ CodePoint.ofChar ':' ::
                (Numeral.padded 2 d.time.second ++ s))))) := by
  have hyear := d.date.year_mem
  rw [dateTimeText, Numeral.int, if_neg (by omega)]
  simp only [Text.concat, List.flatten_cons, List.flatten_nil, List.append_nil, List.append_assoc]
  rfl

/-- A numeral in front of a dash is determined by the text. -/
theorem nat_append_inj {m n : Nat} {s s' : Text}
    (h : Numeral.nat m ++ CodePoint.ofChar '-' :: s = Numeral.nat n ++ CodePoint.ofChar '-' :: s') :
    m = n ∧ s = s' := by
  obtain ⟨hnumeral, hrest⟩ := Text.append_mark_inj (p := CodePoint.isDigit) (by rfl)
    (Numeral.isDigit_of_mem_nat m) (Numeral.isDigit_of_mem_nat n) h
  have hnumber := congrArg Numeral.ofDigits hnumeral
  rw [Numeral.ofDigits_nat, Numeral.ofDigits_nat] at hnumber
  exact ⟨hnumber, hrest⟩

/-- Each field of a date and time behind the year has at most two digits. -/
theorem fields_lt_hundred (d : DateTime) :
    d.date.month < 10 ^ 2 ∧ d.date.day < 10 ^ 2 ∧ d.time.hour < 10 ^ 2 ∧ d.time.minute < 10 ^ 2 ∧
      d.time.second < 10 ^ 2 := by
  have hmonth := d.date.month_mem
  have hday := d.date.day_mem
  have hlength := (daysInMonth_mem d.date.year d.date.month).2
  have hhour := d.time.hour_lt
  have hminute := d.time.minute_lt
  have hsecond := d.time.second_lt
  omega

/-- **A date and time in front of a text** is determined by the text, to the second. -/
theorem dateTimeText_append_inj {d d' : DateTime} {s s' : Text}
    (h : dateTimeText d ++ s = dateTimeText d' ++ s') :
    d.date.dayNumber = d'.date.dayNumber ∧ d.time.seconds = d'.time.seconds ∧ s = s' := by
  obtain ⟨hmonth, hday, hhour, hminute, hsecond⟩ := fields_lt_hundred d
  obtain ⟨hmonth', hday', hhour', hminute', hsecond'⟩ := fields_lt_hundred d'
  have hpositive := d.date.year_mem
  have hpositive' := d'.date.year_mem
  rw [dateTimeText_append, dateTimeText_append] at h
  obtain ⟨hy, h⟩ := nat_append_inj h
  obtain ⟨hmo, h⟩ := Numeral.padded_append_inj (by decide) hmonth hmonth' h
  obtain ⟨hd, h⟩ := Numeral.padded_append_inj (by decide) hday hday' (List.cons.inj h).2
  obtain ⟨hh, h⟩ := Numeral.padded_append_inj (by decide) hhour hhour' (List.cons.inj h).2
  obtain ⟨hmi, h⟩ := Numeral.padded_append_inj (by decide) hminute hminute' (List.cons.inj h).2
  obtain ⟨hs, h⟩ := Numeral.padded_append_inj (by decide) hsecond hsecond' (List.cons.inj h).2
  have hyear : d.date.year = d'.date.year := by omega
  refine ⟨?_, ?_, h⟩
  · rw [Date.dayNumber, Date.dayNumber, hyear, hmo, hd]
  · rw [TimeOfDay.seconds, TimeOfDay.seconds, hh, hmi, hs]

/-- The digits of a fraction stand behind its point. -/
theorem tail_fractionText (part : Nat) : (fractionText part).tail = Numeral.fraction 9 part := by
  unfold fractionText
  split
  · next hpart => rw [hpart, Numeral.fraction_zero (by decide), List.tail_nil]
  · rw [List.tail_cons]

/-- **No two instants share a text**, in whatever years they lie. -/
theorem eq_of_format {n m : Int} {t : Text} (hn : format n = .ok t) (hm : format m = .ok t) :
    n = m := by
  obtain ⟨d, hd, rfl⟩ := format_eq_ok_iff.1 hn
  obtain ⟨d', hd', heq⟩ := format_eq_ok_iff.1 hm
  obtain ⟨hday, hseconds, hrest⟩ := dateTimeText_append_inj heq
  have hfraction : Numeral.fraction 9 (n % 1000000000).toNat =
      Numeral.fraction 9 (m % 1000000000).toNat := by
    rw [← tail_fractionText, ← tail_fractionText, List.append_cancel_right hrest]
  have hpart := Numeral.eq_of_fraction (by decide) (by omega) (by omega) hfraction
  have hmicro := d.time.microsecond_lt
  have hmicro' := d'.time.microsecond_lt
  simp only [DateTime.microseconds, DateTime.dayMicroseconds, TimeOfDay.microseconds] at hd hd'
  rw [← hday, ← hseconds] at hd'
  push_cast at hd hd'
  omega

/-! ## What a text is made of -/

/-- The code points of which **texts of instants** are made: digits, and the marks between and behind
them. -/
def isMark (c : CodePoint) : Bool :=
  c.isDigit || c ∈ (Text.ofString "-T:.Z")

/-- A digit is one of them. -/
theorem isMark_of_isDigit {c : CodePoint} (h : c.isDigit = true) : isMark c = true := by
  rw [isMark, h, Bool.true_or]

/-- **The text of an instant** is made of digits and of the marks between and behind them. -/
theorem isMark_of_format {n : Int} {t : Text} (h : format n = .ok t) : ∀ c ∈ t, isMark c = true := by
  obtain ⟨d, -, rfl⟩ := format_eq_ok_iff.1 h
  have hpadded : ∀ k, ∀ c ∈ Numeral.padded 2 k, isMark c = true := fun k c hc =>
    isMark_of_isDigit (Numeral.isDigit_of_mem_padded c hc)
  have hyear : ∀ c ∈ Numeral.nat d.date.year.natAbs, isMark c = true := fun c hc =>
    isMark_of_isDigit (Numeral.isDigit_of_mem_nat _ c hc)
  have hfraction : ∀ part, ∀ c ∈ fractionText part, isMark c = true := by
    intro part c hc
    unfold fractionText at hc
    split at hc
    · cases hc
    · rcases List.mem_cons.1 hc with rfl | hc
      · decide
      · exact isMark_of_isDigit (Numeral.isDigit_of_mem_fraction c hc)
  have hmarks : isMark (CodePoint.ofChar '-') = true ∧ isMark (CodePoint.ofChar 'T') = true ∧
      isMark (CodePoint.ofChar ':') = true ∧ isMark (CodePoint.ofChar 'Z') = true := by decide
  rw [dateTimeText_append]
  simp only [List.forall_mem_append, List.forall_mem_cons, hmarks, true_and]
  exact ⟨hyear, hpadded _, hpadded _, hpadded _, hpadded _, hpadded _, hfraction _, by simp⟩

end TimeWindow.Timestamp
