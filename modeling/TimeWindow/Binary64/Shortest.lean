import TimeWindow.Binary64.Basic
import TimeWindow.Numeral.Basic

set_option autoImplicit false

/-!
# Shortest decimals

The shortest decimal that rounds to a given binary number, and of several shortest ones the
nearest. A decimal rounds to a number if it lies between the middles to the two neighbours of the
number; a middle itself rounds to the number if its significand is even.

Candidates are tried digit count by digit count. With a given count the decimals form a grid, and
only the two points of the grid next to the number need to be looked at.

## Main definitions

* `TimeWindow.Binary64.Decimal` — digits and a decimal exponent.
* `TimeWindow.Binary64.shortest` — the shortest decimal of a positive number.
-/

namespace TimeWindow.Binary64

/-- A **decimal**: the digits, as a number, times ten to the exponent. -/
structure Decimal where
  digits : Nat
  exponent : Int
deriving DecidableEq

/-- Compares a decimal with `n` quarters of two to the exponent. -/
def Decimal.compareQuarters (c : Decimal) (n : Nat) (exponent : Int) : Ordering :=
  let (a, b) := scaledByTen c.digits 1 c.exponent
  let (p, q) := scaledByTwo n 1 (exponent - 2)
  compare (a * q) (p * b)

/-- A decimal rounds to the number with this significand and exponent. Below a power of two the
neighbours are twice as close. -/
def Decimal.roundsTo (c : Decimal) (significand : Nat) (exponent : Int) : Bool :=
  let below := if significand = Nat.pow 2 52 ∧ -1074 < exponent then 1 else 2
  let even := significand % 2 = 0
  match c.compareQuarters (4 * significand - below) exponent,
      c.compareQuarters (4 * significand + 2) exponent with
  | .gt, .lt => true
  | .eq, _ => even
  | _, .eq => even
  | _, _ => false

/-- The decimal exponent of the leading digit of a number. -/
def leadingExponent (significand : Nat) (exponent : Int) : Int :=
  let guess := (significand.log2 + exponent) * 1233 / 4096
  let reaches (k : Int) : Bool :=
    Decimal.compareQuarters ⟨1, k⟩ (4 * significand) exponent != .gt
  if reaches (guess + 1) then guess + 1
  else if reaches guess then guess
  else guess - 1

/-- The better of the two decimals next to a number on the grid with a given exponent, if one of
them rounds to the number. -/
def onGrid? (significand : Nat) (exponent grid : Int) : Option Decimal :=
  let (n, d) := scaledByTwo significand 1 exponent
  let (n, d) := scaledByTen n d (-grid)
  let lower : Decimal := ⟨n / d, grid⟩
  let upper : Decimal := ⟨n / d + 1, grid⟩
  match lower.roundsTo significand exponent, upper.roundsTo significand exponent with
  | true, true =>
    let nearest := roundedQuotient n d
    some ⟨nearest, grid⟩
  | true, false => some lower
  | false, true => some upper
  | false, false => none

/-- The **shortest decimal** that rounds to a positive number. Seventeen digits always do. -/
def shortest (significand : Nat) (exponent : Int) : Decimal :=
  let leading := leadingExponent significand exponent
  let grids := (List.range 17).map fun n : Nat => leading - (n : Int)
  (grids.findSome? fun grid => onGrid? significand exponent grid).getD ⟨0, 0⟩

end TimeWindow.Binary64
