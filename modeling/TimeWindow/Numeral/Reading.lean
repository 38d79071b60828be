import TimeWindow.Failure.Basic
import TimeWindow.Numeral.Limit
import TimeWindow.Text.Blank
import TimeWindow.Text.DecimalDigit
import TimeWindow.Text.Quoted

set_option autoImplicit false

/-!
# Reading numerals

Numerals as people write them: blanks around them, a sign, digits of any script, and single
underscores between digits.

## Main definitions

* `TimeWindow.Numeral.trimmed` — a numeral in ASCII without the blanks around it.
* `TimeWindow.Numeral.ungroup?` — a numeral without the underscores in it.
* `TimeWindow.Numeral.splitSign` — the sign of a numeral, and what follows it.
* `TimeWindow.Numeral.read` — the integer that a text spells.
-/

namespace TimeWindow.Numeral

/-- A code point of a numeral in ASCII: digits of all scripts become ASCII digits, blanks become
spaces, and other code points outside ASCII a question mark. -/
def asciiForm (c : CodePoint) : CodePoint :=
  if c.val < 0x7F then c
  else if c.isBlank then ' '
  else match c.decimalValue? with
    | some d => .ofDigit d
    | none => '?'

/-- The blanks of ASCII that may surround a numeral. -/
def isSpace (c : CodePoint) : Bool :=
  c.inRange 0x09 0x0D || c.val == 0x20

/-- A numeral in ASCII **without the blanks around it**. A text that is in ASCII already stays as it
is. -/
def trimmed (t : Text) : Text :=
  (if t.all CodePoint.isAscii then t else t.map asciiForm).stripBy isSpace

/-- A numeral without its underscores, each of which must stand between two digits; `afterDigit`
says whether a digit comes before the text. -/
def ungroupAfter? (afterDigit : Bool) : Text → Option Text
  | [] => some []
  | c :: rest =>
    if c = CodePoint.ofChar '_' then
      if afterDigit && rest.head?.any CodePoint.isDigit then ungroupAfter? false rest else none
    else (ungroupAfter? c.isDigit rest).map (c :: ·)

/-- A numeral **without its underscores**. -/
def ungroup? (t : Text) : Option Text :=
  ungroupAfter? false t

/-- Whether a numeral is negative, and what follows its **sign**. -/
def splitSign : Text → Bool × Text
  | [] => (false, [])
  | c :: rest =>
    if c = CodePoint.ofChar '-' then (true, rest)
    else if c = CodePoint.ofChar '+' then (false, rest)
    else (false, c :: rest)

/-- The number that ASCII digits denote. -/
def ofDigits (digits : Text) : Nat :=
  value (digits.map fun c => c.val - 0x30)

/-- The **integer that a text spells**. The digits are counted before what follows them is looked
at. -/
def read (t : Text) : Except Failure Int :=
  let (negative, rest) := splitSign (trimmed t)
  let grouped := rest.takeWhile fun c => c.isDigit || c = CodePoint.ofChar '_'
  match ungroup? grouped with
  | none | some [] => .error (.notNumeral t.quoted)
  | some digits =>
    if digitLimit < digits.length then .error (.numeralLimit digits.length)
    else if grouped.length < rest.length then .error (.notNumeral t.quoted)
    else
      let n : Int := ofDigits digits
      .ok (if negative then -n else n)

end TimeWindow.Numeral
