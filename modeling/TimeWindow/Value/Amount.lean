import TimeWindow.Binary64.Arithmetic
import TimeWindow.Binary64.Writing
import TimeWindow.Duration.Writing
import TimeWindow.Timestamp.Writing
import TimeWindow.Value.Sum

set_option autoImplicit false

/-!
# Values as amounts of time

Views of an interval read its fields as counts of nanoseconds. An integer of any size is one, and
so is a truth value; a binary number is rounded down where whole units are needed, and has a text
only as far as no padding is needed; any other value fails at the first operation on it.

## Main definitions

* `TimeWindow.Value.microseconds` — a count of nanoseconds in whole microseconds.
* `TimeWindow.Value.instantText` — a count of nanoseconds as a timestamp.
* `TimeWindow.Value.durationText` — a count of nanoseconds as a duration.
* `TimeWindow.Value.windowText` — a start and a duration as a window.
-/

namespace TimeWindow

namespace Binary64

/-- The integer that a whole number is. -/
def toInteger : Binary64 → Except Failure Int
  | .nan _ => .error .nanToInteger
  | .infinity _ => .error .infinityToInteger
  | x => .ok (x.floor?.getD 0)

/-- A binary count of nanoseconds as a timestamp: it must be a count of whole seconds. -/
def instantText (x : Binary64) : Except Failure Text := do
  let seconds ← (x.floorDiv 1000000000).toInteger
  let d ← Timestamp.dateTimeAt? (seconds * 1000000)
  if x.integer? = some (seconds * 1000000000) then
    return Text.concat [Timestamp.dateTimeText d, "Z"]
  throw .paddedBinary

/-- A quotient as a binary number, in text. -/
def wholeText (n divisor : Nat) : Text :=
  (Binary64.ofInt (n / divisor : Nat)).text

/-- A positive whole number of nanoseconds as a duration, all numbers written as binary ones. -/
def wholeDurationText (n : Nat) : Except Failure Text :=
  let seconds := wholeText (n % 60000000000) 1000000000
  if n < 1000000 then
    if n % 1000 = 0 then .ok (Text.concat [wholeText n 1000, "µs"]) else .error .paddedBinary
  else if n < 1000000000 then
    if n % 1000000 = 0 then .ok (Text.concat [wholeText n 1000000, "ms"])
    else .error .paddedBinary
  else if n % 1000000000 ≠ 0 then .error .paddedBinary
  else if 3600000000000 ≤ n then
    let hours := ((Binary64.ofInt n).floorDiv 3600000000000).text
    .ok (Text.concat [hours, "h", wholeText (n % 3600000000000) 60000000000, "m", seconds, "s"])
  else if 60000000000 ≤ n then
    .ok (Text.concat [wholeText n 60000000000, "m", seconds, "s"])
  else .ok (Text.concat [seconds, "s"])

/-- A binary count of nanoseconds as a duration. -/
def durationText : Binary64 → Except Failure Text
  | .nan _ | .infinity _ => .error .paddedBinary
  | .finite negative m e =>
    if m = 0 then .ok "0s"
    else do
      let magnitude := Binary64.finite false m e
      let (num, den) := scaledByTwo m 1 e
      let text ←
        if num < 1000 * den then .ok (Text.concat [magnitude.text, "ns"])
        else match magnitude.integer? with
          | some n => wholeDurationText n.natAbs
          | none => .error .paddedBinary
      return if negative then CodePoint.ofChar '-' :: text else text

end Binary64

namespace Value

/-- A count of nanoseconds in whole **microseconds**, rounded down. -/
def microseconds : Value → Except Failure Int
  | .float x => (x.floorDiv 1000).toInteger
  | .span s => .error (.notAmount (Value.span s).fullTypeName)
  | v =>
    match v.number? with
    | some n => .ok (n / 1000)
    | Option.none => .error (.operands "//" v.fullTypeName (Value.int 0).fullTypeName)

/-- A count of nanoseconds since the epoch as a **timestamp**. -/
def instantText : Value → Except Failure Text
  | .float x => x.instantText
  | v =>
    match v.number? with
    | some n => Timestamp.format n
    | Option.none => .error (.operands "divmod()" v.fullTypeName (Value.int 0).fullTypeName)

/-- A count of nanoseconds as a **duration**. -/
def durationText : Value → Except Failure Text
  | .float x => x.durationText
  | v =>
    match v.number? with
    | some n => Duration.format n
    | Option.none => .error (.unordered "<" v.fullTypeName (Value.int 0).fullTypeName)

/-- A start and a duration as a **window**: the start, the end and the duration, of which the first
that has no text fails. -/
def windowText (start duration : Value) : Except Failure Text := do
  let opening ← start.instantText
  let finish ← start.add duration
  let closing ← finish.instantText
  let length ← duration.durationText
  return Text.concat ["Interval(", opening, "→", closing, ", ", length, ")"]

end Value

end TimeWindow
