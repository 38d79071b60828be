import TimeWindow.Numeral.Decimal

set_option autoImplicit false

/-!
# Writing durations

The compact text of a signed duration: a minus sign if it is negative, and then nanoseconds,
microseconds or milliseconds alone if it is shorter than a second, or else seconds, with minutes
and hours before them as far as they are needed.

## Main definitions

* `TimeWindow.Duration.magnitudeText` — the text of a positive number of nanoseconds.
* `TimeWindow.Duration.format` — the text of a signed number of nanoseconds.
-/

namespace TimeWindow.Duration

/-- The text of a duration of a second or more: hours are written if there are any, and minutes if
there are minutes or hours. -/
def clockText (n : Nat) : Except Failure Text := do
  let hours := n / 3600000000000
  let minutes := n % 3600000000000 / 60000000000
  let seconds ← Numeral.decimal? (n % 60000000000) 1000000000
  if hours ≠ 0 then
    let h ← Numeral.int? hours
    return Text.concat [h, "h", Numeral.nat minutes, "m", seconds, "s"]
  else if minutes ≠ 0 then
    return Text.concat [Numeral.nat minutes, "m", seconds, "s"]
  else
    return Text.concat [seconds, "s"]

/-- The text of a positive number of nanoseconds. -/
def magnitudeText (n : Nat) : Except Failure Text :=
  if n < 1000 then do
    return Text.concat [Numeral.nat n, "ns"]
  else if n < 1000000 then do
    let t ← Numeral.decimal? n 1000
    return Text.concat [t, "µs"]
  else if n < 1000000000 then do
    let t ← Numeral.decimal? n 1000000
    return Text.concat [t, "ms"]
  else clockText n

/-- The **text of a duration** in nanoseconds. -/
def format (n : Int) : Except Failure Text :=
  if n = 0 then .ok "0s"
  else do
    let t ← magnitudeText n.natAbs
    return if n < 0 then CodePoint.ofChar '-' :: t else t

end TimeWindow.Duration
