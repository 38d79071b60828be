import TimeWindow.Proofs.Timestamp.Reading

set_option autoImplicit false

/-!
# The order of timestamps

Of two timestamps with the same offset, the one with the earlier fields names the earlier instant:
later dates have later day numbers, and the fields of a time of day are the digits of its count of
nanoseconds. There is one exception. The hour 24 stands for midnight at the end of a day, but a
fraction written with it is added all the same, so that the instant lies behind the midnight with
which the next day begins.

## Main definitions

* `TimeWindow.Timestamp.Spelling.fields` — the fields of a spelling, down to the nanosecond.
* `TimeWindow.Timestamp.Spelling.IsNoLater` — the lexicographic order of fields.
* `TimeWindow.Timestamp.Spelling.Overruns` — a fraction of the hour 24 passes another timestamp.
* `TimeWindow.Timestamp.Spelling.IsWrittenIn` — a text is the timestamp with blanks around it.

## Main results

* `TimeWindow.Timestamp.Spelling.days_lt_or_of_isNoLater` — earlier fields are those of an earlier
  day, or of an earlier time of the same day.
* `TimeWindow.Timestamp.Spelling.nanoseconds_le_iff` — when earlier fields name an earlier instant.
* `TimeWindow.Timestamp.parse_order` — the same for the texts that are read.
-/

namespace TimeWindow.Timestamp

namespace Spelling

/-! ## Fields -/

/-- The nanoseconds of the fraction, zero if there is none. -/
def fractionNanoseconds (s : Spelling) : Nat :=
  (s.fraction.map FractionSpelling.nanoseconds).getD 0

theorem fractionNanoseconds_lt (s : Spelling) : s.fractionNanoseconds < 10 ^ 9 :=
  s.fraction_lt

/-- The **day** of a spelling, counted from the epoch. -/
def days (s : Spelling) : Int :=
  Calendar.daysSinceEpoch s.year s.month s.day

/-- The **fields** of a spelling, from the year down to the nanoseconds of the fraction. -/
def fields (s : Spelling) : List Nat :=
  [s.year, s.month, s.day, s.hour, s.minute, s.second, s.fractionNanoseconds]

/-- The fields of a spelling are **no later** than those of another: they are the same, or the first
field that differs is less. -/
def IsNoLater (s t : Spelling) : Prop :=
  s.fields = t.fields ∨ List.Lex (· < ·) s.fields t.fields

instance (s t : Spelling) : Decidable (s.IsNoLater t) :=
  inferInstanceAs (Decidable (s.fields = t.fields ∨ List.Lex (· < ·) s.fields t.fields))

/-- A spelling **overruns** another: it has the hour 24 and a fraction, and the other one is of the
first second of the day after, with a smaller fraction or none. -/
structure Overruns (s t : Spelling) : Prop where
  hour : s.hour = 24
  nextDay : t.days = s.days + 1
  midnight : t.hour = 0 ∧ t.minute = 0 ∧ t.second = 0
  fraction : t.fractionNanoseconds < s.fractionNanoseconds

/-- A spelling is **written in** a text if the text is its timestamp with blanks around it. -/
def IsWrittenIn (s : Spelling) (u : Text) : Prop :=
  ∃ before after : Text, (∀ c ∈ before, c.isBlank = true) ∧ (∀ c ∈ after, c.isBlank = true) ∧
    u = before ++ s.text ++ after

/-! ## Days and times of day -/

variable {s t : Spelling}

/-- The nanoseconds from the midnight that begins the day. -/
def timeNanoseconds (s : Spelling) : Nat :=
  10 ^ 9 * (3600 * s.hour + 60 * s.minute + s.second) + s.fractionNanoseconds

/-- An instant is put together from the day, the time of day and the offset. -/
theorem nanoseconds_eq_day_add (s : Spelling) :
    s.nanoseconds =
      10 ^ 9 * (86400 * s.days) + s.timeNanoseconds - 10 ^ 9 * s.offset.seconds := by
  rw [nanoseconds, days, timeNanoseconds, fractionNanoseconds]
  push_cast
  omega

/-- The **time of day** is one of the day itself, but for the hour 24, which is the midnight after
the day and the fraction. -/
theorem timeNanoseconds_mem (s : Spelling) :
    s.hour ≤ 23 ∧ s.timeNanoseconds < 10 ^ 9 * 86400 ∨
      s.hour = 24 ∧ s.timeNanoseconds = 10 ^ 9 * 86400 + s.fractionNanoseconds := by
  have hfraction := s.fractionNanoseconds_lt
  rw [timeNanoseconds]
  rcases s.isTime with ⟨hhour, hminute, hsecond⟩ | ⟨⟨hhour, hminute, hsecond⟩, -⟩
  · exact .inl ⟨hhour, by omega⟩
  · exact .inr ⟨hhour, by omega⟩

/-- Later dates are more days after the epoch. -/
theorem days_lt
    (h : s.year < t.year ∨
      s.year = t.year ∧ (s.month < t.month ∨ s.month = t.month ∧ s.day < t.day)) :
    s.days < t.days := by
  obtain ⟨hy, hm, hd⟩ := s.isDate
  obtain ⟨hy', hm', hd'⟩ := t.isDate
  rw [days, days, ← Calendar.dayNumber_eq_daysSinceEpoch hy.1 hm.1 hm.2 hd.1,
    ← Calendar.dayNumber_eq_daysSinceEpoch hy'.1 hm'.1 hm'.2 hd'.1]
  exact Calendar.dayNumber_lt_dayNumber hm hd hm' hd'.1 (by omega)

/-- Later times of day are more nanoseconds after midnight, because minutes and seconds are below 60
and fractions below a second; so they are at the hour 24, too. -/
theorem timeNanoseconds_lt
    (h : s.hour < t.hour ∨ s.hour = t.hour ∧ (s.minute < t.minute ∨ s.minute = t.minute ∧
      (s.second < t.second ∨
        s.second = t.second ∧ s.fractionNanoseconds < t.fractionNanoseconds))) :
    s.timeNanoseconds < t.timeNanoseconds := by
  have hfraction := s.fractionNanoseconds_lt
  have hsixty : s.minute < 60 ∧ s.second < 60 := by
    rcases s.isTime with hs | hs <;> omega
  rw [timeNanoseconds, timeNanoseconds]
  rcases h with hhour | ⟨hhour, hminute | ⟨hminute, hsecond | ⟨hsecond, hless⟩⟩⟩
  · omega
  · rw [hhour]
    omega
  · rw [hhour, hminute]
    omega
  · rw [hhour, hminute, hsecond]
    omega

/-- Less than a second after midnight there are only fractions. -/
theorem timeNanoseconds_lt_iff {part : Nat} (hpart : part < 10 ^ 9) :
    t.timeNanoseconds < part ↔
      (t.hour = 0 ∧ t.minute = 0 ∧ t.second = 0) ∧ t.fractionNanoseconds < part := by
  rw [timeNanoseconds]
  omega

/-- **Earlier fields** are those of an earlier day, or of the same day and an earlier time. -/
theorem days_lt_or_of_isNoLater (h : s.IsNoLater t) :
    s.days < t.days ∨ s.days = t.days ∧ s.timeNanoseconds ≤ t.timeNanoseconds := by
  rcases h with h | h
  · simp only [fields, List.cons.injEq, and_true] at h
    obtain ⟨hy, hm, hd, hhour, hminute, hsecond, hfraction⟩ := h
    refine .inr ⟨by rw [days, days, hy, hm, hd], ?_⟩
    rw [timeNanoseconds, timeNanoseconds, hhour, hminute, hsecond, hfraction]
  · simp only [fields, List.cons_lex_cons_iff, List.not_lex_nil, and_false, or_false] at h
    rcases h with hy | ⟨hy, hm | ⟨hm, hd | ⟨hd, htime⟩⟩⟩
    · exact .inl (days_lt (.inl hy))
    · exact .inl (days_lt (.inr ⟨hy, .inl hm⟩))
    · exact .inl (days_lt (.inr ⟨hy, .inr ⟨hm, hd⟩⟩))
    · exact .inr ⟨by rw [days, days, hy, hm, hd], (timeNanoseconds_lt htime).le⟩

/-! ## Instants -/

/-- **Earlier fields name an earlier instant**, or the same one, unless they overrun the later
fields.

**Proof sketch.** On the same day the times of day are in order. On different days a time of day
before midnight is out of the way; at the hour 24 the fraction is counted from the midnight with
which the next day begins, and so it is compared with the time on that day. -/
theorem nanoseconds_le_iff (hoffset : s.offset.seconds = t.offset.seconds) (h : s.IsNoLater t) :
    s.nanoseconds ≤ t.nanoseconds ↔ ¬s.Overruns t := by
  rw [s.nanoseconds_eq_day_add, t.nanoseconds_eq_day_add, hoffset]
  rcases days_lt_or_of_isNoLater h with hday | ⟨hday, htime⟩
  · rcases s.timeNanoseconds_mem with ⟨hhour, htime⟩ | ⟨hhour, htime⟩
    · have hnot : ¬s.Overruns t := fun hover => by
        have := hover.hour
        omega
      simp only [hnot, not_false_iff, iff_true]
      omega
    · have hfraction := s.fractionNanoseconds_lt
      have hmidnight := timeNanoseconds_lt_iff (t := t) hfraction
      constructor
      · rintro hle ⟨-, hnext, hzero, hless⟩
        have := hmidnight.2 ⟨hzero, hless⟩
        omega
      · intro hnot
        by_contra hlt
        obtain ⟨hzero, hless⟩ := hmidnight.1 (by omega)
        exact hnot ⟨hhour, by omega, hzero, hless⟩
  · constructor
    · rintro - ⟨-, hnext, -, -⟩
      omega
    · intro
      omega

end Spelling

/-! ## Texts -/

/-- A text in which a spelling is written is read as the instant of the spelling. -/
theorem Spelling.IsWrittenIn.parse {s : Spelling} {u : Text} (h : s.IsWrittenIn u) :
    Timestamp.parse u = .ok s.nanoseconds := by
  obtain ⟨before, after, hb, ha, rfl⟩ := h
  exact parse_text s hb ha

/-- A text is read exactly if a spelling is written in it. -/
theorem exists_parse_iff {u : Text} :
    (∃ m, parse u = .ok m) ↔ ∃ s : Spelling, s.IsWrittenIn u := by
  constructor
  · rintro ⟨m, h⟩
    obtain ⟨s, before, after, hb, ha, hu, -⟩ := exists_spelling_of_parse h
    exact ⟨s, before, after, hb, ha, hu⟩
  · rintro ⟨s, h⟩
    exact ⟨_, h.parse⟩

/-- **The order of fields is kept** by reading, with one exception. The texts that are read are
those in which spellings are written. If two of them have the same offset, the one with no later
fields is read as no later an instant, unless it has the hour 24 and a fraction, and the other one
is of the first second of the next day with a smaller fraction: in that case, and only then, it is
read as a later one. -/
theorem parse_order (u v : Text) :
    ((∃ m, parse u = .ok m) ↔ ∃ s : Spelling, s.IsWrittenIn u) ∧
      ((∃ n, parse v = .ok n) ↔ ∃ t : Spelling, t.IsWrittenIn v) ∧
        ∀ s t : Spelling, s.IsWrittenIn u → t.IsWrittenIn v →
          s.offset.seconds = t.offset.seconds → s.IsNoLater t →
            ∃ m n, parse u = .ok m ∧ parse v = .ok n ∧ (m ≤ n ↔ ¬s.Overruns t) := by
  refine ⟨exists_parse_iff, exists_parse_iff, fun s t hs ht hoffset hfields => ?_⟩
  refine ⟨s.nanoseconds, t.nanoseconds, hs.parse, ht.parse, ?_⟩
  exact Spelling.nanoseconds_le_iff hoffset hfields

/-- A quarter of a second behind the last midnight of a leap month, and half a second behind the
same midnight in the next month: the order is kept. -/
theorem parse_order_leap :
    ∃ m n, parse " 2024-02-29T24:00:00.25+02:00" = .ok m ∧
      parse "2024-03-01T00:00:00,5+0200\n" = .ok n ∧ m ≤ n := by
  let s : Spelling := ⟨2024, 2, 29, 24, 0, 0, some ⟨false, "25", by decide, by decide⟩,
    .minutes false 2 true 0, by decide, by decide⟩
  let t : Spelling := ⟨2024, 3, 1, 0, 0, 0, some ⟨true, "5", by decide, by decide⟩,
    .minutes false 2 false 0, by decide, by decide⟩
  have hs : s.IsWrittenIn " 2024-02-29T24:00:00.25+02:00" :=
    ⟨" ", [], by decide, by decide, by decide +kernel⟩
  have ht : t.IsWrittenIn "2024-03-01T00:00:00,5+0200\n" :=
    ⟨[], "\n", by decide, by decide, by decide +kernel⟩
  obtain ⟨m, n, hm, hn, horder⟩ := (parse_order _ _).2.2 s t hs ht rfl (by decide +kernel)
  refine ⟨m, n, hm, hn, horder.2 fun hover => ?_⟩
  have hless : t.fractionNanoseconds < s.fractionNanoseconds := hover.fraction
  revert hless
  decide +kernel

/-- Half a second behind midnight, written with the hour 24, is later than the midnight with which
the next day begins, although its date is the earlier one. -/
theorem parse_midnight_overruns :
    ∃ (s t : Spelling) (m n : Int), s.IsWrittenIn "2023-01-01T24:00:00.5Z" ∧
      t.IsWrittenIn "2023-01-02T00:00:00Z" ∧ s.offset.seconds = t.offset.seconds ∧
        s.IsNoLater t ∧ parse "2023-01-01T24:00:00.5Z" = .ok m ∧
          parse "2023-01-02T00:00:00Z" = .ok n ∧ n < m := by
  refine ⟨⟨2023, 1, 1, 24, 0, 0, some ⟨false, "5", by decide, by decide⟩, .zulu true, by decide,
      by decide⟩, ⟨2023, 1, 2, 0, 0, 0, none, .zulu true, by decide, by decide⟩,
    1672617600500000000, 1672617600000000000, ?_, ?_, rfl, by decide +kernel, by decide +kernel,
    by decide +kernel, by decide⟩
  · exact ⟨[], [], by decide, by decide, by decide +kernel⟩
  · exact ⟨[], [], by decide, by decide, by decide +kernel⟩

end TimeWindow.Timestamp
