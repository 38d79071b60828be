import TimeWindow.Text.Basic

set_option autoImplicit false

/-!
# Binary floating point numbers

The numbers of the 64-bit binary format as exact data: a sign, a significand of at most 53 bits
and an exponent. Rounding is to the nearest number, and a tie goes to the even significand; it is
done in exact integer arithmetic.

## Main definitions

* `TimeWindow.Binary64` — the numbers.
* `TimeWindow.Binary64.round` — the number nearest to a quotient.
* `TimeWindow.Binary64.ofDecimal` — the number nearest to a decimal.
-/

namespace TimeWindow

/-- A **binary number**: a finite one is its significand times two to the exponent, with a sign.
The form is canonical if the significand has 53 bits, or fewer and the exponent is `-1074`. -/
inductive Binary64 where
  /-- Not a number. The payload tells results of different computations apart. -/
  | nan (payload : Nat)
  | infinity (negative : Bool)
  | finite (negative : Bool) (significand : Nat) (exponent : Int)
deriving DecidableEq

/-- The quotient of two numbers to the nearest integer, a tie going to the even one. -/
def roundedQuotient (num den : Nat) : Nat :=
  let q := num / den
  let r := num % den
  if den < 2 * r then q + 1
  else if 2 * r = den then q + q % 2
  else q

/-- A quotient times a power of two, as a quotient. -/
def scaledByTwo (num den : Nat) (exponent : Int) : Nat × Nat :=
  if exponent < 0 then (num, den * Nat.pow 2 exponent.natAbs)
  else (num * Nat.pow 2 exponent.natAbs, den)

/-- A quotient times a power of ten, as a quotient. -/
def scaledByTen (num den : Nat) (exponent : Int) : Nat × Nat :=
  if exponent < 0 then (num, den * Nat.pow 10 exponent.natAbs)
  else (num * Nat.pow 10 exponent.natAbs, den)

namespace Binary64

/-- Zero, with a sign. -/
def zero (negative : Bool) : Binary64 :=
  .finite negative 0 (-1074)

/-- The exponent at which a positive quotient has a significand of 53 bits, or the least one. -/
def exponentOf (num den : Nat) : Int :=
  let guess : Int := (num.log2 : Int) - den.log2 - 53
  let (n, d) := scaledByTwo num den (-guess)
  max (if Nat.pow 2 53 ≤ n / d then guess + 1 else guess) (-1074)

/-- A significand that rounding may have raised to 54 bits, as a number. -/
def ofSignificand (negative : Bool) (significand : Nat) (exponent : Int) : Binary64 :=
  let (m, e) :=
    if significand = Nat.pow 2 53 then (Nat.pow 2 52, exponent + 1) else (significand, exponent)
  if 971 < e then .infinity negative else .finite negative m e

/-- The **number nearest to a quotient**. -/
def round (negative : Bool) (num den : Nat) : Binary64 :=
  if num = 0 then zero negative
  else
    let e := exponentOf num den
    let (n, d) := scaledByTwo num den (-e)
    ofSignificand negative (roundedQuotient n d) e

/-- The **number nearest to a decimal**: the digits times ten to the exponent. Exponents far out
of range are not computed with. -/
def ofDecimal (negative : Bool) (digits : Nat) (exponent : Int) : Binary64 :=
  if digits = 0 then zero negative
  else if 400 < exponent then .infinity negative
  else if exponent + digits.log2 / 3 + 1 < -400 then zero negative
  else
    let (n, d) := scaledByTen digits 1 exponent
    round negative n d

/-- The number nearest to an integer. -/
def ofInt (n : Int) : Binary64 :=
  round (n < 0) n.natAbs 1

end Binary64

end TimeWindow
