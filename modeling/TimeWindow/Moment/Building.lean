import TimeWindow.Moment.Text

set_option autoImplicit false

/-!
# Building moments

A moment is built from the fields of its date and time and from its place. The place is settled
first. A fixed offset is an amount of time of less than a day.

## Main definitions

* `TimeWindow.Place.ofSeconds?` — the place with a fixed offset.
* `TimeWindow.Place.ofKey?` — the place in the zone with a key.
-/

namespace TimeWindow.Place

/-- The **place with a fixed offset** in seconds. The offset has to be a span before it can be
compared with a day. -/
def ofSeconds? (seconds : Int) : Except Failure Place := do
  let span ← (Calendar.Span.ofParts? 0 seconds 0).mapError .overflow
  if -86400 < seconds ∧ seconds < 86400 then return .fixed seconds
  throw (.calendar (.offset span.written))

/-- The **place in a zone**. -/
def ofKey? (key : Text) : Except Failure Place :=
  ((Zone.find? key).mapError .zone).map .zone

end TimeWindow.Place
