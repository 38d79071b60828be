import TimeWindow.Timestamp.Writing
import TimeWindow.Zone.Key

set_option autoImplicit false

/-!
# Moments

A moment is a date and time as a clock shows it, with what is known of the place of the clock: a
zone, a fixed offset, or nothing. If the place has an offset, the moment names an instant. The
fold tells the two occurrences of a repeated time apart.

## Main definitions

* `TimeWindow.Moment` — a date-time with its place and fold.
* `TimeWindow.Moment.offset?` — the offset of the clock.
* `TimeWindow.Moment.nanoseconds?` — the instant of a moment.
* `TimeWindow.Moment.since?` — the span from one moment to another.
* `TimeWindow.Moment.ofNanoseconds` — the moment at which a zone's clock shows an instant.
-/

namespace TimeWindow

/-- A **place** of a clock. -/
inductive Place where
  /-- Nothing is known. -/
  | naive
  /-- A place is named, but it keeps no offset. -/
  | withoutOffset
  /-- A fixed offset in seconds east of UTC, less than a day. -/
  | fixed (seconds : Int)
  | zone (zone : Zone)
deriving DecidableEq

/-- A **moment**: a date-time at a place. -/
structure Moment where
  dateTime : Calendar.DateTime
  place : Place
  fold : Bool
deriving DecidableEq

namespace Moment

/-- The seconds from 1970-01-01 00:00 on the clock of the moment. -/
def localSeconds (m : Moment) : Int :=
  m.dateTime.microseconds / 1000000

/-- The **offset** of the clock in seconds, if there is one. -/
def offset? (m : Moment) : Option Int :=
  match m.place with
  | .naive | .withoutOffset => none
  | .fixed seconds => some seconds
  | .zone zone => some (zone.offsetOfLocal m.localSeconds m.fold)

/-- The instant of a moment in microseconds since the epoch, if the clock has an offset. -/
def microseconds? (m : Moment) : Option Int :=
  m.offset?.map fun offset => m.dateTime.microseconds - offset * 1000000

/-- The **instant** of a moment in nanoseconds since the epoch, if the clock has an offset. -/
def nanoseconds? (m : Moment) : Option Int :=
  m.microseconds?.map (· * 1000)

/-- The seconds by which the clock of a moment is **ahead** of that of another. Two clocks at the same
place go alike; otherwise each must have an offset, or none of them. -/
def ahead? (m m' : Moment) : Option Int :=
  if m.place = m'.place then some 0
  else match m.offset?, m'.offset? with
    | some x, some y => some (x - y)
    | none, none => some 0
    | _, _ => none

/-- The **span from one moment to another**, if the two clocks can be compared: what the first shows
more than the second, less the time that it is ahead. -/
def since? (m earlier : Moment) : Option Calendar.Span := do
  let ahead ← m.ahead? earlier
  (Calendar.Span.ofMicroseconds?
    (m.dateTime.microseconds - earlier.dateTime.microseconds - ahead * 1000000)).toOption

/-- The moment at which the clock of a zone shows an instant given in microseconds. The instant
has to be a date in universal time before the zone is looked up, and a date on the clock. -/
def ofMicroseconds (n : Int) (key : Text) : Except Failure Moment := do
  let _ ← Timestamp.dateTimeAt? n
  let zone ← (Zone.find? key).mapError .zone
  let instant := n / 1000000
  let shown ←
    (Calendar.DateTime.ofMicroseconds? (n + zone.offsetAt instant * 1000000)).mapError .overflow
  return ⟨shown, .zone zone, zone.foldAt instant⟩

/-- The **moment of an instant** given in nanoseconds, on the clock of a zone. Parts of a
microsecond are dropped, towards the past. -/
def ofNanoseconds (n : Int) (key : Text) : Except Failure Moment :=
  ofMicroseconds (n / 1000) key

end Moment

end TimeWindow
