import TimeWindow.Binary64.Shortest
import TimeWindow.Numeral.Decimal

set_option autoImplicit false

/-!
# Writing binary numbers

A binary number is written as its shortest decimal. The point stands where it belongs if the
leading digit counts less than ten to the 16 and at least a ten-thousandth; otherwise an exponent
of at least two digits follows. A whole number has a zero after the point.

## Main definitions

* `TimeWindow.Binary64.text` — the text of a number.
-/

namespace TimeWindow.Binary64

/-- The digits with a point among, before or after them; the leading digit counts ten to the
`leading`. -/
def positional (digits : Text) (leading : Int) : Text :=
  if leading < 0 then
    Text.concat ["0.", List.replicate (leading.natAbs - 1) '0', digits]
  else
    let whole := leading.natAbs + 1
    let rest := digits.drop whole
    Text.concat [digits.take whole, List.replicate (whole - digits.length) '0', ".",
      if rest = [] then "0" else rest]

/-- The digits with a point after the first, if there are more, and an exponent. -/
def scientific (digits : Text) (leading : Int) : Text :=
  let rest := digits.drop 1
  Text.concat [digits.take 1, if rest = [] then [] else CodePoint.ofChar '.' :: rest, "e",
    if leading < 0 then "-" else "+", Numeral.padded 2 leading.natAbs]

/-- The text of a decimal. -/
def Decimal.text (d : Decimal) : Text :=
  let written := Numeral.nat d.digits
  let leading := d.exponent + written.length - 1
  let digits := Numeral.trimZeros written
  if -4 ≤ leading ∧ leading < 16 then positional digits leading else scientific digits leading

/-- The **text of a number**. -/
def text : Binary64 → Text
  | .nan _ => "nan"
  | .infinity negative => if negative then "-inf" else "inf"
  | .finite negative significand exponent =>
    let magnitude : Text :=
      if significand = 0 then "0.0" else (shortest significand exponent).text
    if negative then CodePoint.ofChar '-' :: magnitude else magnitude

end TimeWindow.Binary64
