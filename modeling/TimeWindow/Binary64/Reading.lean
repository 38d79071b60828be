import TimeWindow.Binary64.Basic
import TimeWindow.Numeral.Reading

set_option autoImplicit false

/-!
# Reading binary numbers

A binary number is spelled as a decimal: a sign, digits with a point before, among or after them,
and an exponent. Infinities and what is not a number are spelled by their names, in any case.

## Main definitions

* `TimeWindow.Binary64.read` — the number nearest to what a text spells.
-/

namespace TimeWindow.Binary64

/-- A text with its ASCII capitals in lower case. -/
def lowered (t : Text) : Text :=
  t.map fun c => if h : 0x41 ≤ c.val ∧ c.val ≤ 0x5A then ⟨c.val + 0x20, by omega⟩ else c

/-- The exponent after the digits, which is zero if nothing follows them. -/
def exponent? : Text → Option Int
  | [] => some 0
  | c :: rest =>
    if c = CodePoint.ofChar 'e' then
      let (negative, digits) := Numeral.splitSign rest
      if digits = [] || !digits.all CodePoint.isDigit then none
      else
        let n : Int := Numeral.ofDigits digits
        some (if negative then -n else n)
    else none

/-- The number that an unsigned decimal in lower case spells. -/
def decimal? (negative : Bool) (t : Text) : Option Binary64 :=
  let whole := t.takeWhile CodePoint.isDigit
  let after := t.dropWhile CodePoint.isDigit
  let pointed := after.head? = some (CodePoint.ofChar '.')
  let fraction := if pointed then (after.drop 1).takeWhile CodePoint.isDigit else []
  let rest := if pointed then (after.drop 1).dropWhile CodePoint.isDigit else after
  if whole ++ fraction = [] then none
  else (exponent? rest).map fun e =>
    ofDecimal negative (Numeral.ofDigits (whole ++ fraction)) (e - fraction.length)

/-- The number that an unsigned text in lower case spells. -/
def unsigned? (negative : Bool) (t : Text) : Option Binary64 :=
  if t = Text.ofString "inf" ∨ t = Text.ofString "infinity" then some (.infinity negative)
  else if t = Text.ofString "nan" then some (.nan 0)
  else decimal? negative t

/-- The **number nearest to what a text spells**. -/
def read (t : Text) : Except Failure Binary64 :=
  let number := (Numeral.ungroup? (Numeral.trimmed t)).bind fun numeral =>
    let (negative, rest) := Numeral.splitSign (lowered numeral)
    unsigned? negative rest
  match number with
  | some x => .ok x
  | none => .error (.notBinary t.quoted)

end TimeWindow.Binary64
