import TimeWindow.Calendar.DateTime
import TimeWindow.Text.Quoted
import TimeWindow.Timestamp.Shape

set_option autoImplicit false

/-!
# Reading timestamps

The instant that a timestamp names, in nanoseconds since the epoch. The offset is required; the
date must exist; the hour 24 is midnight at the end of the day. The instant itself may lie outside
the years 1 to 9999, if the offset takes it there.

Reading is done in two parts. That the text has the shape of a timestamp and an offset is checked
here, and the fraction is read here. The date, the time and the offset are handed on, without the
fraction, to a general reader of standard timestamps, which is a library of its own. Of that reader
only what it does with texts of this shape is defined: it takes no digits but those of ASCII, and
then checks the offset, the hour 24, the date and the time, in this order.

## Main definitions

* `TimeWindow.Timestamp.OffsetShape.seconds?` — the seconds of an offset.
* `TimeWindow.Timestamp.Shape.localSeconds?` — the seconds of the date and the time.
* `TimeWindow.Timestamp.parse` — the instant of a text.
-/

namespace TimeWindow.Timestamp

/-- The **seconds of an offset**, positive east of UTC. The general reader checks the minutes before
the hours. -/
def OffsetShape.seconds? : OffsetShape → Except Failure Int
  | .zulu => .ok 0
  | .numeric west hours minutes =>
    let h := digitsValue hours
    let m := digitsValue minutes
    if 59 < m then .error .offsetMinutes
    else if 23 < h then .error .offsetHours
    else
      let seconds : Int := h * 3600 + m * 60
      .ok (if west then -seconds else seconds)

/-- The date-time of a shape whose hour is replaced. -/
def Shape.dateTime? (s : Shape) (hour : Nat) : Except Failure Calendar.DateTime :=
  (Calendar.DateTime.ofFields? (digitsValue s.year) (digitsValue s.month) (digitsValue s.day) hour
    (digitsValue s.minute) (digitsValue s.second) 0).mapError .calendar

/-- The **seconds of the date and the time**, as if they were universal time. Hour 24 is hour zero
of the next day, which has to exist. These are rules of the general reader, which is not given the
fraction. -/
def Shape.localSeconds? (s : Shape) : Except Failure Int := do
  let hour := digitsValue s.hour
  if hour = 24 then
    if 0 < digitsValue s.minute ∨ 0 < digitsValue s.second then throw .pastMidnight
    let today ← s.dateTime? 0
    let tomorrow ← (Calendar.Date.ofDayNumber? (today.date.dayNumber + 1)).mapError .overflow
    return tomorrow.dayNumber * 86400
  else
    let d ← s.dateTime? hour
    return d.date.dayNumber * 86400 + d.time.seconds

/-- The nanoseconds of a fraction of at most nine digits. -/
def fractionNanoseconds (digits : Text) : Nat :=
  digitsValue digits * Nat.pow 10 (9 - digits.length)

/-- The **instant that a text names**, in nanoseconds since the epoch. Blanks around the timestamp
do not matter. -/
def parse (t : Text) : Except Failure Int := do
  let some s := Shape.read? t.strip | throw (.notTimestamp t.quoted)
  let some offset := s.offset | throw (.noOffset t.quoted)
  -- From here on up to the last line it is the general reader that checks.
  if !s.digits.all CodePoint.isAscii then throw .foreignDigits
  let offset ← offset.seconds?
  let seconds ← s.localSeconds?
  return (seconds - offset) * 1000000000 + fractionNanoseconds s.fraction

end TimeWindow.Timestamp
