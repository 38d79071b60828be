import TimeWindow.Proofs.Timestamp.Reading

set_option autoImplicit false

/-!
# What can become of a timestamp

A text that is read as a timestamp is an instant, or it is refused as a bad value: whatever is wrong
with its shape, its digits, its offset, its date or its time. There is one exception, the midnight
that ends the last day of the calendar. It is written as the hour 24 like any other midnight, but the
day that it begins does not exist, and the text fails with an overflow.

## Main definitions

* `TimeWindow.Timestamp.lastMidnight` — the texts of the midnight that ends the calendar.

## Main results

* `TimeWindow.Timestamp.Shape.localSeconds?_eq_error` — the failures of dates and times.
* `TimeWindow.Timestamp.parse_eq_error` — the failures of timestamps.
* `TimeWindow.Timestamp.parse_outcome` — what becomes of every text.
-/

namespace TimeWindow.Timestamp

open Outcome

/-- The **midnight that ends the calendar**, as it may be written. -/
def lastMidnight (fraction : Option FractionSpelling) (offset : OffsetSpelling) : Text :=
  Text.concat ["9999-12-31T24:00:00", (fraction.map FractionSpelling.text).getD [], offset.text]

/-! ## Failures of the parts -/

/-- An offset that is out of range is a bad value. -/
theorem OffsetShape.failsOnly_seconds? (o : OffsetShape) :
    FailsOnly (fun f => f.category = .badValue) o.seconds? := by
  cases o with
  | zulu => exact .ok 0
  | numeric west hours minutes =>
    unfold seconds?
    dsimp only
    split
    · exact .error rfl
    · split
      · exact .error rfl
      · exact .ok _

/-- A date or a time that does not exist is a bad value. -/
theorem Shape.failsOnly_dateTime? (s : Shape) (hour : Nat) :
    FailsOnly (fun f => f.category = .badValue) (s.dateTime? hour) :=
  .mapError fun _ => rfl

/-! ## The last midnight -/

/-- The fields of a shape are those of the **midnight that ends the calendar**. -/
structure Shape.IsLastMidnight (s : Shape) : Prop where
  year : digitsValue s.year = 9999
  month : digitsValue s.month = 12
  day : digitsValue s.day = 31
  hour : digitsValue s.hour = 24
  minute : digitsValue s.minute = 0
  second : digitsValue s.second = 0

/-- **Dates and times that are refused** are bad values, but for the midnight that ends the
calendar. -/
theorem Shape.localSeconds?_eq_error {s : Shape} {f : Failure} (h : s.localSeconds? = .error f) :
    f.category = .badValue ∨ f = .overflow .date ∧ s.IsLastMidnight := by
  unfold localSeconds? at h
  dsimp only at h
  split at h
  · next hhour =>
    split at h
    · cases h
      exact .inl rfl
    · next hpast =>
      rcases bind_eq_error_iff.1 h with h | ⟨today, htoday, h⟩
      · exact .inl (s.failsOnly_dateTime? 0 f h)
      rcases bind_eq_error_iff.1 h with h | ⟨tomorrow, -, h⟩
      · right
        have hnone : ¬∃ e, Calendar.Date.ofDayNumber? (today.date.dayNumber + 1) = .ok e := by
          rintro ⟨e, he⟩
          rw [he] at h
          cases h
        rw [Calendar.Date.exists_tomorrow_iff, not_not] at hnone
        obtain ⟨⟨hy, hm, hd⟩, -⟩ := dateTime?_eq_ok_iff.1 htoday
        obtain ⟨e, he, rfl⟩ := mapError_eq_error_iff.1 h
        obtain ⟨rfl, -⟩ := Calendar.Date.ofDayNumber?_eq_error_iff.1 he
        exact ⟨rfl, by omega, by omega, by omega, hhour, by omega, by omega⟩
      · cases h
  · rcases bind_eq_error_iff.1 h with h | ⟨d, -, h⟩
    · exact .inl (s.failsOnly_dateTime? _ f h)
    · cases h

/-- **The midnight that ends the calendar** overflows it. -/
theorem Shape.IsLastMidnight.localSeconds? {s : Shape} (h : s.IsLastMidnight) :
    s.localSeconds? = .error (.overflow .date) := by
  have hdate : s.dateTime? 0 = .ok ⟨⟨9999, 12, 31, by decide, by decide, by decide⟩,
      ⟨0, 0, 0, 0, by decide, by decide, by decide, by decide⟩⟩ := by
    rw [dateTime?_eq_ok_iff, h.year, h.month, h.day, h.minute, h.second]
    exact ⟨⟨rfl, rfl, rfl⟩, rfl, rfl, rfl, rfl⟩
  simp only [Shape.localSeconds?, h.hour, h.minute, h.second, ↓reduceIte, hdate]
  decide +kernel

/-! ## Failures of timestamps -/

/-- **The failures of timestamps** are bad values, but for shapes of the midnight that ends the
calendar, of which all else is in order. -/
theorem parse_eq_error {t : Text} {f : Failure} (h : parse t = .error f) :
    f.category = .badValue ∨ f = .overflow .date ∧
      ∃ s o, Shape.read? t.strip = some s ∧ s.offset = some o ∧
        (∀ c ∈ s.digits, c.isAscii = true) ∧ (∃ n, o.seconds? = .ok n) ∧ s.IsLastMidnight := by
  unfold parse at h
  split at h
  · next s hs =>
    split at h
    · next o ho =>
      split at h
      · cases h
        exact .inl rfl
      · next hascii =>
        rcases bind_eq_error_iff.1 h with h | ⟨offset, hoffset, h⟩
        · exact .inl (o.failsOnly_seconds? f h)
        rcases bind_eq_error_iff.1 h with h | ⟨seconds, -, h⟩
        · rcases Shape.localSeconds?_eq_error h with hf | ⟨hf, hlast⟩
          · exact .inl hf
          · exact .inr ⟨hf, s, o, hs, ho, by simpa using hascii, ⟨offset, hoffset⟩, hlast⟩
        · cases h
    · cases h
      exact .inl rfl
  · cases h
    exact .inl rfl

section LastMidnight

variable (fraction : Option FractionSpelling) (offset : OffsetSpelling)

/-- A spelling of the hour before the midnight that ends the calendar. -/
def lastHour : Spelling :=
  ⟨9999, 12, 31, 23, 0, 0, fraction, offset, by decide, by decide⟩

/-- The shape of the midnight that ends the calendar. -/
def lastMidnightShape : Shape :=
  { (lastHour fraction offset).shape with hour := Numeral.padded 2 24 }

/-- The midnight that ends the calendar is cut into its parts. -/
theorem read?_lastMidnight :
    Shape.read? (lastMidnight fraction offset) = some (lastMidnightShape fraction offset) := by
  have hdigital : (lastMidnightShape fraction offset).Digital :=
    { (lastHour fraction offset).digital_shape with hour := padded_two_spec (by decide) }
  refine (Shape.read?_eq_some_iff rfl).2 ⟨hdigital, _, _, (lastHour fraction offset).spellsFraction,
    offset.spells, ?_⟩
  have hpart : (lastMidnightShape none (.zulu true)).dateTimePart =
      Text.ofString "9999-12-31T24:00:00" := by decide +kernel
  rw [show (lastMidnightShape fraction offset).dateTimePart = _ from hpart, lastMidnight,
    Text.concat]
  simp only [List.flatten_cons, List.flatten_nil, List.append_nil]
  rfl

/-- Its digits are in ASCII. -/
theorem isAscii_lastMidnightShape :
    ∀ c ∈ (lastMidnightShape fraction offset).digits, c.isAscii = true := by
  intro c hc
  have hmem : c ∈ Numeral.padded 2 24 ∨ c ∈ (lastHour fraction offset).shape.digits := by
    simp only [lastMidnightShape, Shape.digits, List.mem_append] at hc ⊢
    tauto
  rcases hmem with hc | hc
  · exact isAscii_of_mem_padded c hc
  · exact (lastHour fraction offset).isAscii_shape c hc

theorem isLastMidnight_lastMidnightShape : (lastMidnightShape fraction offset).IsLastMidnight :=
  ⟨digitsValue_padded 4 9999, digitsValue_padded 2 12, digitsValue_padded 2 31,
    digitsValue_padded 2 24, digitsValue_padded 2 0, digitsValue_padded 2 0⟩

/-- Blanks around it are stripped, and nothing else. -/
theorem strip_lastMidnight {before after : Text} (hb : ∀ c ∈ before, c.isBlank = true)
    (ha : ∀ c ∈ after, c.isBlank = true) :
    (before ++ lastMidnight fraction offset ++ after).strip = lastMidnight fraction offset := by
  have hne : lastMidnight fraction offset ≠ [] := by simp [lastMidnight, Text.concat, Text.ofString]
  refine Text.stripBy_append hb ha (fun c hc => ?_) (fun c hc => ?_) hne
  · obtain rfl : CodePoint.ofChar '9' = c := Option.some.inj hc
    decide
  · have hend : lastMidnight fraction offset = (Text.ofString "9999-12-31T24:00:00" ++
        (fraction.map FractionSpelling.text).getD []) ++ offset.text := by
      simp [lastMidnight, Text.concat]
    rw [hend] at hc
    exact offset.isBlank_getLast? _ c hc

/-- **The midnight that ends the calendar fails** with an overflow, in whatever way it is written. -/
theorem parse_lastMidnight {before after : Text} (hb : ∀ c ∈ before, c.isBlank = true)
    (ha : ∀ c ∈ after, c.isBlank = true) :
    parse (before ++ lastMidnight fraction offset ++ after) = .error (.overflow .date) := by
  have hall : (lastMidnightShape fraction offset).digits.all CodePoint.isAscii = true :=
    List.all_eq_true.2 (isAscii_lastMidnightShape fraction offset)
  have hoffset : (lastMidnightShape fraction offset).offset = some offset.shape := rfl
  have hseconds := (isLastMidnight_lastMidnightShape fraction offset).localSeconds?
  unfold parse
  simp only [strip_lastMidnight fraction offset hb ha, read?_lastMidnight, hoffset, hall,
    offset.seconds?_shape, hseconds]
  rfl

end LastMidnight

/-- **What can become of a text.** It names an instant, or it is refused as a bad value; the only
other failure is the overflow of the midnight that ends the calendar. That is the failure of exactly
the texts that write this midnight, with any fraction and any offset, and with any blanks around
it. -/
theorem parse_outcome (t : Text) :
    ((∃ n, parse t = .ok n) ∨
        ∃ f, parse t = .error f ∧ (f.category = .badValue ∨ f = .overflow .date)) ∧
      (parse t = .error (.overflow .date) ↔
        ∃ (fraction : Option FractionSpelling) (offset : OffsetSpelling) (before after : Text),
          (∀ c ∈ before, c.isBlank = true) ∧ (∀ c ∈ after, c.isBlank = true) ∧
            t = before ++ lastMidnight fraction offset ++ after) := by
  constructor
  · cases h : parse t with
    | ok n => exact .inl ⟨n, rfl⟩
    | error f => exact .inr ⟨f, rfl, (parse_eq_error h).imp_right And.left⟩
  · constructor
    · intro h
      rcases parse_eq_error h with hf | ⟨-, s, o, hs, ho, hascii, ⟨n, hn⟩, hlast⟩
      · cases hf
      obtain ⟨fraction, offset, -, -, htext⟩ := Shape.exists_text_of_read? hs ho hascii hn
      obtain ⟨before, after, hb, ha, ht⟩ := Text.exists_eq_append_stripBy CodePoint.isBlank t
      refine ⟨fraction, offset, before, after, hb, ha, ?_⟩
      rw [ht, show t.stripBy CodePoint.isBlank = t.strip from rfl, htext, hlast.year, hlast.month,
        hlast.day, hlast.hour, hlast.minute, hlast.second]
      have hdate : Text.concat [Numeral.padded 4 9999, "-", Numeral.padded 2 12, "-",
          Numeral.padded 2 31, "T", Numeral.padded 2 24, ":", Numeral.padded 2 0, ":",
          Numeral.padded 2 0] = Text.ofString "9999-12-31T24:00:00" := by decide +kernel
      rw [lastMidnight, ← hdate]
      simp only [Text.concat, List.flatten_cons, List.flatten_nil, List.append_nil,
        List.append_assoc]
    · rintro ⟨fraction, offset, before, after, hb, ha, rfl⟩
      exact parse_lastMidnight fraction offset hb ha

/-- The midnight that ends the calendar in universal time is refused, but not as a bad value. -/
theorem parse_calendar_end :
    parse "9999-12-31T24:00:00Z" = .error (.overflow .date) ∧
      (Failure.overflow .date).category ≠ .badValue := by
  decide +kernel

end TimeWindow.Timestamp
