import TimeWindow.Numeral.Limit

set_option autoImplicit false

/-!
# Decimal fractions

The shortest decimal numeral of a number of hundredths, thousandths and so on: no zeros at the end
of the fraction, and no point if nothing is left of it.

## Main definitions

* `TimeWindow.Numeral.trimZeros` — a text without the zeros at its end.
* `TimeWindow.Numeral.fraction` — the digits after the point.
* `TimeWindow.Numeral.decimal?` — the numeral of a number divided by a power of ten.
-/

namespace TimeWindow.Numeral

/-- A text without the zeros at its end. -/
def trimZeros (t : Text) : Text :=
  (t.reverse.dropWhile (· == CodePoint.ofChar '0')).reverse

/-- The digits after the point of `part / 10 ^ places`, where `part < 10 ^ places`, without the
zeros at the end. -/
def fraction (places part : Nat) : Text :=
  trimZeros (padded places part)

/-- The **shortest decimal numeral** of `n / scale`, where the scale is a power of ten. The places of a
fraction are counted on the numeral of the scale, so this must be within the digit limit, too. -/
def decimal? (n scale : Nat) : Except Failure Text :=
  if n % scale = 0 then int? (n / scale : Nat)
  else do
    let printed ← int? scale
    let whole ← int? (n / scale : Nat)
    let part := padded (printed.length - 1) (n % scale)
    return trimZeros (whole ++ CodePoint.ofChar '.' :: part)

end TimeWindow.Numeral
