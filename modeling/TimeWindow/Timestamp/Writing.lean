import TimeWindow.Calendar.DateTime
import TimeWindow.Calendar.Span
import TimeWindow.Numeral.Decimal

set_option autoImplicit false

/-!
# Writing timestamps

The text of an instant is a timestamp in universal time. The year is written as it is and all
other fields in two digits; zeros at the end of the fraction are left out, and so is a fraction of
zero.

## Main definitions

* `TimeWindow.Timestamp.dateTimeAt?` — the date and time of an instant.
* `TimeWindow.Timestamp.dateTimeText` — the text of a date and time.
* `TimeWindow.Timestamp.format` — the text of an instant.
-/

namespace TimeWindow.Timestamp

/-- The **date and time of an instant** in microseconds, in universal time. The instant must be a
span away from the epoch, and then a date. -/
def dateTimeAt? (microseconds : Int) : Except Failure Calendar.DateTime := do
  let _ ← (Calendar.Span.ofMicroseconds? microseconds).mapError .overflow
  (Calendar.DateTime.ofMicroseconds? microseconds).mapError .overflow

/-- The **text of a date and time** to the second. -/
def dateTimeText (d : Calendar.DateTime) : Text :=
  Text.concat [Numeral.int d.date.year, "-", Numeral.padded 2 d.date.month, "-",
    Numeral.padded 2 d.date.day, "T", Numeral.padded 2 d.time.hour, ":",
    Numeral.padded 2 d.time.minute, ":", Numeral.padded 2 d.time.second]

/-- The **text of an instant** given in nanoseconds since the epoch. -/
def format (n : Int) : Except Failure Text := do
  let d ← dateTimeAt? (n / 1000000000 * 1000000)
  let part := (n % 1000000000).toNat
  let fraction : Text := if part = 0 then [] else CodePoint.ofChar '.' :: Numeral.fraction 9 part
  return Text.concat [dateTimeText d, fraction, "Z"]

end TimeWindow.Timestamp
