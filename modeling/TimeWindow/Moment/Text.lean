import TimeWindow.Moment.Basic
import TimeWindow.Text.Quoted

set_option autoImplicit false

/-!
# Moments and spans as text

Moments have a standard text, `2023-01-01T12:00:00.000000+02:00`. Moments and spans also have a
written form, which is how failures show them: the expression that builds them.

## Main definitions

* `TimeWindow.Moment.isoText` — the standard text of a moment.
* `TimeWindow.Moment.written`, `TimeWindow.Calendar.Span.written` — the written forms.
* `TimeWindow.Moment.display`, `TimeWindow.Calendar.Span.display` — the readable forms.
-/

namespace TimeWindow

/-! ## Standard text -/

/-- An offset as text: the sign, hours and minutes, and seconds if there are any. -/
def offsetText (offset : Int) : Text :=
  let n := offset.natAbs
  Text.concat [if offset < 0 then "-" else "+", Numeral.padded 2 (n / 3600), ":",
    Numeral.padded 2 (n / 60 % 60),
    if n % 60 = 0 then [] else CodePoint.ofChar ':' :: Numeral.padded 2 (n % 60)]

/-- A date as text, the year in four digits. -/
def Calendar.Date.text (d : Calendar.Date) : Text :=
  Text.concat [Numeral.padded 4 d.year.natAbs, "-", Numeral.padded 2 d.month, "-",
    Numeral.padded 2 d.day]

/-- A time of day as text, to the second. -/
def Calendar.TimeOfDay.text (t : Calendar.TimeOfDay) : Text :=
  Text.concat [Numeral.padded 2 t.hour, ":", Numeral.padded 2 t.minute, ":",
    Numeral.padded 2 t.second]

/-- The offset of a moment as text; nothing if there is none. -/
def Moment.offsetText (m : Moment) : Text :=
  (m.offset?.map TimeWindow.offsetText).getD []

/-- The **standard text** of a moment, to the microsecond. -/
def Moment.isoText (m : Moment) : Text :=
  Text.concat [m.dateTime.date.text, "T", m.dateTime.time.text, ".",
    Numeral.padded 6 m.dateTime.time.microsecond, m.offsetText]

/-! ## Written forms -/

/-- The parts of a span that are not zero, by name; zero alone if all are. -/
def spanParts (days : Int) (seconds microseconds : Nat) : List Text :=
  let parts : List Text :=
    (if days = 0 then [] else [Text.concat ["days=", Numeral.int days]]) ++
    (if seconds = 0 then [] else [Text.concat ["seconds=", Numeral.nat seconds]]) ++
    (if microseconds = 0 then [] else [Text.concat ["microseconds=", Numeral.nat microseconds]])
  if parts = [] then [Text.ofString "0"] else parts

/-- The written form of a span with given parts. -/
def writtenSpan (days : Int) (seconds microseconds : Nat) : Text :=
  Text.concat ["datetime.timedelta(",
    Text.separated ", " (spanParts days seconds microseconds), ")"]

/-- The **written form** of a span. -/
def Calendar.Span.written (s : Calendar.Span) : Text :=
  writtenSpan s.days s.seconds s.microseconds

/-- The written form of a place, if there is anything to write. -/
def Place.written : Place → Option Text
  | .naive => none
  | .withoutOffset => some "NoOffset()"
  | .fixed seconds =>
    if seconds = 0 then some "datetime.timezone.utc"
    else some (Text.concat ["datetime.timezone(",
      writtenSpan (seconds / 86400) (seconds % 86400).toNat 0, ")"])
  | .zone z => some (Text.concat ["zoneinfo.ZoneInfo(key=", (Text.ofString z.key).quoted, ")"])

/-- The fields of a moment: seconds and microseconds only as far as they are needed. -/
def Moment.writtenFields (m : Moment) : List Text :=
  let d := m.dateTime.date
  let t := m.dateTime.time
  [Numeral.int d.year, Numeral.nat d.month, Numeral.nat d.day, Numeral.nat t.hour,
    Numeral.nat t.minute] ++
    (if t.second = 0 ∧ t.microsecond = 0 then [] else [Numeral.nat t.second]) ++
    (if t.microsecond = 0 then [] else [Numeral.nat t.microsecond])

/-- The **written form** of a moment. -/
def Moment.written (m : Moment) : Text :=
  let fold : List Text := if m.fold then ["fold=1"] else []
  let place := m.place.written.toList.map fun p => Text.concat ["tzinfo=", p]
  Text.concat ["datetime.datetime(", Text.separated ", " (m.writtenFields ++ fold ++ place), ")"]

/-! ## Readable forms -/

/-- The **readable form** of a span: days, and the rest as a clock. -/
def Calendar.Span.display (s : Calendar.Span) : Text :=
  let days : Text :=
    if s.days = 0 then []
    else Text.concat [Numeral.int s.days, if s.days.natAbs = 1 then " day, " else " days, "]
  let part : Text :=
    if s.microseconds = 0 then [] else CodePoint.ofChar '.' :: Numeral.padded 6 s.microseconds
  Text.concat [days, Numeral.nat (s.seconds / 3600), ":", Numeral.padded 2 (s.seconds / 60 % 60),
    ":", Numeral.padded 2 (s.seconds % 60), part]

/-- The **readable form** of a moment. -/
def Moment.display (m : Moment) : Text :=
  let part : Text :=
    if m.dateTime.time.microsecond = 0 then []
    else CodePoint.ofChar '.' :: Numeral.padded 6 m.dateTime.time.microsecond
  Text.concat [m.dateTime.date.text, " ", m.dateTime.time.text, part, m.offsetText]

end TimeWindow
