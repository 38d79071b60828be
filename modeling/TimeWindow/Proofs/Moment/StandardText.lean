import TimeWindow.Moment.Building
import TimeWindow.Proofs.Timestamp.Canonical
import TimeWindow.Proofs.Zone.Offsets
import TimeWindow.Value.Instant

set_option autoImplicit false

/-!
# Standard texts as timestamps

The standard text of a moment is a timestamp, if the offset of the clock is a whole number of
minutes. What the text says is the instant of the moment, also if the offset carries the instant out
of the years 1 to 9999.

## Main definitions

* `TimeWindow.Place.Clocked` — the places that are built with a fixed offset or in a zone.
* `TimeWindow.Zone.offsets` — the offsets that a zone keeps.
* `TimeWindow.Moment.spelling` — what the standard text of a moment says.

## Main results

* `TimeWindow.Place.Clocked.offset_mem` — the offset of a clock is less than a day.
* `TimeWindow.Moment.text_spelling`, `TimeWindow.Moment.nanoseconds_spelling` — the standard text is
  the timestamp of a spelling, which names the instant of the moment.
* `TimeWindow.Moment.parse_isoText` — the standard text is read as the instant of the moment.
-/

namespace TimeWindow

open Outcome

/-! ## Offsets of clocks -/

namespace Zone

/-- The **offsets of a zone**: the standard one, the one with the saving, and those of its eras. -/
def offsets (z : Zone) : List Int :=
  z.standard :: (z.season.toList.map fun s => z.standard + s.saving) ++
    z.past.map fun era => era.offset

/-- **The offset of a local time** is one of those that the zone keeps. -/
theorem offsetOfLocal_mem_offsets (z : Zone) (localSeconds : Int) (fold : Bool) :
    z.offsetOfLocal localSeconds fold ∈ z.offsets := by
  rw [offsetOfLocal]
  split
  · next era hera =>
    have hmem := List.mem_of_find?_eq_some hera
    exact List.mem_append_right _ (List.mem_map_of_mem hmem)
  · refine List.mem_append_left _ ?_
    rw [presentOffsetOfLocal]
    split
    · exact List.mem_cons_self
    · next s hs =>
      dsimp only
      generalize localSeconds - z.standard - (if fold then 0 else s.saving) = instant
      rw [hs]
      by_cases hcovers : s.covers instant = true
      · simp [hcovers]
      · simp [hcovers]

/-- A known zone keeps offsets of less than a day. -/
theorem offsets_of_find? {key : Text} {z : Zone} (h : find? key = .ok z) :
    ∀ offset ∈ z.offsets, -86400 < offset ∧ offset < 86400 := by
  have hknown : ∀ z ∈ known, ∀ offset ∈ z.offsets, -86400 < offset ∧ offset < 86400 := by decide
  exact hknown z (mem_known_of_find? h)

end Zone

namespace Place

/-- A place is **clocked** if it is built with a fixed offset or in a zone. -/
inductive Clocked (p : Place) : Prop
  | fixed {seconds : Int} (h : ofSeconds? seconds = .ok p)
  | zone {key : Text} (h : ofKey? key = .ok p)

/-- A place is built with the offset that is asked for, which is less than a day. -/
theorem eq_of_ofSeconds? {seconds : Int} {p : Place} (h : ofSeconds? seconds = .ok p) :
    p = .fixed seconds ∧ -86400 < seconds ∧ seconds < 86400 := by
  obtain ⟨span, -, h⟩ := bind_eq_ok_iff.1 h
  split at h
  · next hday => exact ⟨(pure_eq_ok_iff.1 h).symm, hday⟩
  · cases h

/-- A place is built in a zone that has a key. -/
theorem exists_zone_of_ofKey? {key : Text} {p : Place} (h : ofKey? key = .ok p) :
    ∃ z, Zone.find? key = .ok z ∧ p = .zone z := by
  obtain ⟨z, hz, hp⟩ := map_eq_ok_iff.1 h
  exact ⟨z, mapError_eq_ok_iff.1 hz, hp.symm⟩

/-- A clock has an offset. -/
theorem Clocked.exists_offset {m : Moment} (h : m.place.Clocked) :
    ∃ offset, m.offset? = some offset := by
  rcases h with @⟨seconds, h⟩ | @⟨key, h⟩
  · exact ⟨seconds, by rw [Moment.offset?, (eq_of_ofSeconds? h).1]⟩
  · obtain ⟨z, -, hplace⟩ := exists_zone_of_ofKey? h
    exact ⟨z.offsetOfLocal m.localSeconds m.fold, by rw [Moment.offset?, hplace]⟩

/-- **The offset of a clock** is less than a day. -/
theorem Clocked.offset_mem {m : Moment} (h : m.place.Clocked) {offset : Int}
    (hoffset : m.offset? = some offset) : -86400 < offset ∧ offset < 86400 := by
  rcases h with @⟨seconds, h⟩ | @⟨key, h⟩
  · obtain ⟨hplace, hday⟩ := eq_of_ofSeconds? h
    rw [Moment.offset?, hplace] at hoffset
    obtain rfl := Option.some.inj hoffset
    exact hday
  · obtain ⟨z, hz, hplace⟩ := exists_zone_of_ofKey? h
    rw [Moment.offset?, hplace] at hoffset
    obtain rfl := Option.some.inj hoffset
    exact Zone.offsets_of_find? hz _ (z.offsetOfLocal_mem_offsets m.localSeconds m.fold)

end Place

namespace Moment

open Timestamp

/-! ## The spelling of a moment -/

/-- The microseconds of a moment as they are written. -/
def writtenMicroseconds (m : Moment) : FractionSpelling where
  comma := false
  digits := Numeral.padded 6 m.dateTime.time.microsecond
  length_mem := by
    rw [Numeral.length_padded (by decide) m.dateTime.time.microsecond_lt]
    decide
  isDecimal := fun c hc => isDecimal_of_isDigit (Numeral.isDigit_of_mem_padded c hc)

/-- Six digits are microseconds. -/
theorem nanoseconds_writtenMicroseconds (m : Moment) :
    m.writtenMicroseconds.nanoseconds = m.dateTime.time.microsecond * 1000 := by
  have hlen : (Numeral.padded 6 m.dateTime.time.microsecond).length = 6 :=
    Numeral.length_padded (by decide) m.dateTime.time.microsecond_lt
  have hdigits := fractionNanoseconds_digits (some m.writtenMicroseconds)
  simp only [Option.map_some, Option.getD_some] at hdigits
  rw [← hdigits, writtenMicroseconds, fractionNanoseconds, digitsValue_padded, hlen]

/-- An offset of less than a day as it is written, in hours and minutes. -/
def writtenOffset (offset : Int) (hday : -86400 < offset ∧ offset < 86400) : OffsetSpelling :=
  .minutes (decide (offset < 0)) ⟨offset.natAbs / 3600, by omega⟩ true
    ⟨offset.natAbs / 60 % 60, by omega⟩

section Offset

variable {offset : Int} (hday : -86400 < offset ∧ offset < 86400) (hminutes : offset % 60 = 0)

include hminutes in
/-- **An offset of whole minutes** is written without seconds. -/
theorem text_writtenOffset : (writtenOffset offset hday).text = TimeWindow.offsetText offset := by
  have hwhole : offset.natAbs % 60 = 0 := by omega
  have hsign : (if offset < 0 then Text.ofString "-" else Text.ofString "+") =
      [signMark (decide (offset < 0))] := by
    split
    · next h => simp [signMark, h, Text.ofString]
    · next h => simp [signMark, h, Text.ofString]
  simp only [writtenOffset, OffsetSpelling.text, TimeWindow.offsetText, hwhole, hsign, Text.concat,
    List.flatten_cons, List.flatten_nil, List.append_nil, if_true, List.singleton_append]

include hminutes in
/-- An offset of whole minutes is said by its hours and minutes. -/
theorem seconds_writtenOffset : (writtenOffset offset hday).seconds = offset := by
  simp only [writtenOffset, OffsetSpelling.seconds, decide_eq_true_eq]
  split
  · omega
  · omega

end Offset

/-- The **spelling of a moment** on a clock with an offset of less than a day. -/
def spelling (m : Moment) (offset : Int) (hday : -86400 < offset ∧ offset < 86400) : Spelling where
  year := m.dateTime.date.year.natAbs
  month := m.dateTime.date.month
  day := m.dateTime.date.day
  hour := m.dateTime.time.hour
  minute := m.dateTime.time.minute
  second := m.dateTime.time.second
  fraction := some m.writtenMicroseconds
  offset := writtenOffset offset hday
  isDate := isDate_of_date (by have := m.dateTime.date.year_mem; omega)
  isTime := by
    have := m.dateTime.time.hour_lt
    have := m.dateTime.time.minute_lt
    have := m.dateTime.time.second_lt
    exact .inl (by omega)

section Spelling

variable {m : Moment} {offset : Int} (hday : -86400 < offset ∧ offset < 86400)
  (hminutes : offset % 60 = 0)

include hminutes in
/-- **The standard text is the timestamp** of the spelling. -/
theorem text_spelling (hoffset : m.offset? = some offset) :
    (m.spelling offset hday).text = m.isoText := by
  simp only [Spelling.text, Spelling.fractionText, spelling, text_writtenOffset hday hminutes,
    Option.map_some, Option.getD_some, FractionSpelling.text, writtenMicroseconds, isoText,
    offsetText, hoffset, Calendar.Date.text, Calendar.TimeOfDay.text, Text.concat,
    List.flatten_cons, List.flatten_nil, List.append_nil, List.append_assoc]
  rfl

include hminutes in
/-- **The spelling names the instant** of the moment: the date-time less the offset. -/
theorem nanoseconds_spelling :
    (m.spelling offset hday).nanoseconds =
      (m.dateTime.microseconds - offset * 1000000) * 1000 := by
  have hdate := (m.spelling offset hday).isDate.dayNumber_date
  have hyear : ((m.dateTime.date.year.natAbs : Nat) : Int) = m.dateTime.date.year := by
    have := m.dateTime.date.year_mem
    omega
  have hday' : Calendar.daysSinceEpoch m.dateTime.date.year.natAbs m.dateTime.date.month
      m.dateTime.date.day = m.dateTime.date.dayNumber := by
    rw [Calendar.Date.dayNumber, ← hyear]
    exact hdate.symm
  simp only [Spelling.nanoseconds, spelling, seconds_writtenOffset hday hminutes, hday',
    Option.map_some, Option.getD_some, nanoseconds_writtenMicroseconds,
    Calendar.DateTime.microseconds, Calendar.DateTime.dayMicroseconds,
    Calendar.TimeOfDay.microseconds, Calendar.TimeOfDay.seconds]
  push_cast
  omega

end Spelling

/-! ## Reading standard texts -/

/-- **The standard text of a moment is read as its instant**, if the offset of its clock is a whole
number of minutes. The instant may lie outside the years 1 to 9999, where the offset takes it. -/
theorem parse_isoText {m : Moment} {offset : Int} (hplace : m.place.Clocked)
    (hoffset : m.offset? = some offset) (hminutes : offset % 60 = 0) :
    ∃ n, parse m.isoText = .ok n ∧ ∀ edge, (Value.moment m).toInstant edge = .ok n := by
  have hday := hplace.offset_mem hoffset
  refine ⟨(m.dateTime.microseconds - offset * 1000000) * 1000, ?_, fun edge => ?_⟩
  · rw [← text_spelling hday hminutes hoffset, parse_text_self,
      nanoseconds_spelling hday hminutes]
  · rw [Value.toInstant, nanoseconds?, microseconds?, hoffset]
    rfl

/-- The first microseconds of the year 1 on a clock far in the east, whose instant lies before that
year, and a quarter to two on Lord Howe Island on the day on which it is shown twice, an offset of
ten hours and a half later. -/
theorem parse_isoText_east :
    (∃ m : Moment, m.place.Clocked ∧ m.isoText = "0001-01-01T00:00:00.000001+23:59" ∧
      parse m.isoText = .ok (-62135683139999999000) ∧
        ∀ edge, (Value.moment m).toInstant edge = .ok (-62135683139999999000)) ∧
      ∃ m : Moment, m.place.Clocked ∧ m.fold = true ∧
        m.isoText = "2023-04-02T01:45:00.000000+10:30" ∧
        parse m.isoText = .ok 1680362100000000000 ∧
          ∀ edge, (Value.moment m).toInstant edge = .ok 1680362100000000000 := by
  let first : Moment :=
    ⟨⟨⟨1, 1, 1, by decide, by decide, by decide⟩,
      ⟨0, 0, 0, 1, by decide, by decide, by decide, by decide⟩⟩, .fixed 86340, false⟩
  let repeated : Moment :=
    ⟨⟨⟨2023, 4, 2, by decide, by decide, by decide⟩,
      ⟨1, 45, 0, 0, by decide, by decide, by decide, by decide⟩⟩, .zone Zone.lordHowe, true⟩
  have hfixed : first.place.Clocked := .fixed (show Place.ofSeconds? 86340 = _ from rfl)
  have hzone : repeated.place.Clocked :=
    .zone (show Place.ofKey? "Australia/Lord_Howe" = _ from rfl)
  constructor
  · obtain ⟨n, hread, hinstant⟩ := parse_isoText hfixed rfl (by decide)
    have hcount : (Value.moment first).toInstant .start = .ok (-62135683139999999000) := by
      decide +kernel
    obtain rfl : n = -62135683139999999000 := Except.ok.inj ((hinstant .start).symm.trans hcount)
    exact ⟨first, hfixed, by decide +kernel, hread, hinstant⟩
  · have hoffset : repeated.offset? = some 37800 := by decide +kernel
    obtain ⟨n, hread, hinstant⟩ := parse_isoText hzone hoffset (by decide)
    have hcount : (Value.moment repeated).toInstant .start = .ok 1680362100000000000 := by
      decide +kernel
    obtain rfl : n = 1680362100000000000 := Except.ok.inj ((hinstant .start).symm.trans hcount)
    exact ⟨repeated, hzone, rfl, by decide +kernel, hread, hinstant⟩

end Moment

end TimeWindow
