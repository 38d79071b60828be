import TimeWindow.Numeral.Basic
import TimeWindow.Text.Blank
import TimeWindow.Text.DecimalDigit

set_option autoImplicit false

/-!
# The shape of timestamps

A timestamp is a date, a `T`, a time of day, an optional fraction and an offset:
`2023-01-01T12:00:00.5+02:00`. Here it is only cut into its parts. Digits of any script have the
right shape, and it does not matter yet whether the date exists.

## Main definitions

* `TimeWindow.Timestamp.Shape` — the parts of a timestamp, as they are written.
* `TimeWindow.Timestamp.Shape.read?` — the parts of a text that has the shape.
-/

namespace TimeWindow.Timestamp

/-! ## Parts -/

/-- An **offset** as it is written: `Z`, or a sign with two digits for the hours and none or two
for the minutes. -/
inductive OffsetShape where
  | zulu
  | numeric (west : Bool) (hours minutes : Text)
deriving DecidableEq

/-- The **parts** of a timestamp, as they are written. -/
structure Shape where
  year : Text
  month : Text
  day : Text
  hour : Text
  minute : Text
  second : Text
  fraction : Text
  offset : Option OffsetShape
deriving DecidableEq

/-- The number that a run of decimal digits denotes. -/
def digitsValue (digits : Text) : Nat :=
  Numeral.value (digits.map fun c => c.decimalValue?.getD 0)

/-- The digits of an offset. -/
def OffsetShape.digits : OffsetShape → Text
  | .zulu => []
  | .numeric _ hours minutes => hours ++ minutes

/-- The digits of a shape, except those of the fraction. -/
def Shape.digits (s : Shape) : Text :=
  s.year ++ s.month ++ s.day ++ s.hour ++ s.minute ++ s.second ++
    (s.offset.map OffsetShape.digits).getD []

/-! ## Cutting -/

/-- The code point is a decimal digit of some script. -/
def isDecimal (c : CodePoint) : Bool :=
  c.decimalValue?.isSome

/-- Exactly `n` decimal digits, and what follows them. -/
def takeDigits? : (n : Nat) → Text → Option (Text × Text)
  | 0, t => some ([], t)
  | _ + 1, [] => none
  | n + 1, c :: t =>
    if isDecimal c then (takeDigits? n t).map fun r => (c :: r.1, r.2) else none

/-- What follows a given mark. -/
def skip? (mark : CodePoint) : Text → Option Text
  | [] => none
  | c :: t => if c = mark then some t else none

/-- The optional fraction, and what follows it: a point or a comma with one to nine digits. -/
def takeFraction? : Text → Option (Text × Text)
  | [] => some ([], [])
  | c :: t =>
    if c = CodePoint.ofChar '.' ∨ c = CodePoint.ofChar ',' then
      let digits := t.takeWhile isDecimal
      if 1 ≤ digits.length ∧ digits.length ≤ 9 then some (digits, t.dropWhile isDecimal) else none
    else some ([], c :: t)

/-- The minutes of an offset, with a colon or without, up to the end of the text. -/
def readMinutes? : Text → Option Text
  | [] => some []
  | c :: t =>
    match takeDigits? 2 (if c = CodePoint.ofChar ':' then t else c :: t) with
    | some (minutes, []) => some minutes
    | _ => none

/-- The offset, up to the end of the text; it may be missing. -/
def readOffset? : Text → Option (Option OffsetShape)
  | [] => some none
  | c :: t =>
    if c = CodePoint.ofChar 'Z' ∨ c = CodePoint.ofChar 'z' then
      if t = [] then some (some .zulu) else none
    else if c = CodePoint.ofChar '+' ∨ c = CodePoint.ofChar '-' then do
      let (hours, t) ← takeDigits? 2 t
      let minutes ← readMinutes? t
      return some (.numeric (c = CodePoint.ofChar '-') hours minutes)
    else none

/-- The **parts of a text** that has the shape of a timestamp. -/
def Shape.read? (t : Text) : Option Shape := do
  let (year, t) ← takeDigits? 4 t
  let t ← skip? '-' t
  let (month, t) ← takeDigits? 2 t
  let t ← skip? '-' t
  let (day, t) ← takeDigits? 2 t
  let t ← skip? 'T' t
  let (hour, t) ← takeDigits? 2 t
  let t ← skip? ':' t
  let (minute, t) ← takeDigits? 2 t
  let t ← skip? ':' t
  let (second, t) ← takeDigits? 2 t
  let (fraction, t) ← takeFraction? t
  let offset ← readOffset? t
  return { year, month, day, hour, minute, second, fraction, offset }

end TimeWindow.Timestamp
