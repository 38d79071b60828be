import TimeWindow.Binary64.Basic

set_option autoImplicit false

/-!
# Arithmetic of binary numbers

Sums and floored quotients, and the integers that numbers are. A sum is computed exactly and
rounded once. A floored quotient takes the remainder off first, which is exact; the difference, the
quotient and a step to the integer below are rounded one after the other, so that the quotient of a
large number can be a neighbour of the exact one.

## Main definitions

* `TimeWindow.Binary64.integer?` — the integer that a number is.
* `TimeWindow.Binary64.ratio?`, `TimeWindow.Binary64.ofRatio` — the quotient that a number is, and
  the number nearest to a quotient.
* `TimeWindow.Binary64.add` — the sum of two numbers.
* `TimeWindow.Binary64.floorDiv` — the quotient by a positive integer, rounded down.
* `TimeWindow.Binary64.residue` — a number modulo `2 ^ 61 - 1`.
-/

namespace TimeWindow.Binary64

/-- A magnitude with a sign. -/
def signed (negative : Bool) (n : Nat) : Int :=
  if negative then -(n : Int) else n

/-- The integer that a number is, if it is one. -/
def integer? : Binary64 → Option Int
  | .finite negative m e =>
    if 0 ≤ e then some (signed negative (m * Nat.pow 2 e.natAbs))
    else if m % Nat.pow 2 e.natAbs = 0 then some (signed negative (m / Nat.pow 2 e.natAbs))
    else none
  | _ => none

/-- The least integer above a number less one: the number rounded down. -/
def floor? : Binary64 → Option Int
  | .finite negative m e =>
    if 0 ≤ e then some (signed negative (m * Nat.pow 2 e.natAbs))
    else some (signed negative m / (Nat.pow 2 e.natAbs : Nat))
  | _ => none

/-- The quotient that a finite number is. -/
def ratio? : Binary64 → Option (Int × Nat)
  | .finite negative m e =>
    let (num, den) := scaledByTwo m 1 e
    some (signed negative num, den)
  | _ => none

/-- The number nearest to a quotient. -/
def ofRatio (num : Int) (den : Nat) : Binary64 :=
  round (num < 0) num.natAbs den

/-- The **sum** of two numbers. -/
def add : Binary64 → Binary64 → Binary64
  | .nan payload, _ | _, .nan payload => .nan payload
  | .infinity s, .infinity t => if s = t then .infinity s else .nan 0
  | .infinity s, _ => .infinity s
  | _, .infinity t => .infinity t
  | .finite s m e, .finite t n f =>
    let least := min e f
    let sum := signed s (m * Nat.pow 2 (e - least).natAbs) +
      signed t (n * Nat.pow 2 (f - least).natAbs)
    if sum = 0 then zero (s && t)
    else
      let (num, den) := scaledByTwo sum.natAbs 1 least
      round (sum < 0) num den

/-- A number divided by a positive integer. -/
def dividedBy (x : Binary64) (divisor : Nat) : Binary64 :=
  match x.ratio? with
  | some (num, den) => ofRatio num (den * divisor)
  | none => x

/-- A number less one. -/
def lessOne (x : Binary64) : Binary64 :=
  match x.ratio? with
  | some (num, den) => ofRatio (num - den) den
  | none => x

/-- The integer below a number, or the next one if the number is nearer to that. -/
def settled (x : Binary64) : Binary64 :=
  match x.ratio? with
  | some (num, den) =>
    let down := num / (den : Int)
    ofInt (if (den : Int) < 2 * (num - down * den) then down + 1 else down)
  | none => x

/-- The **quotient** by a positive integer, rounded down. Infinities have none. -/
def floorDiv (x : Binary64) (divisor : Nat) : Binary64 :=
  match x.ratio? with
  | some (num, den) =>
    let rest := num.tmod ((den * divisor : Nat) : Int)
    let quotient := (ofRatio (num - rest) den).dividedBy divisor
    (if rest < 0 then quotient.lessOne else quotient).settled
  | none => .nan 0

/-- The modulus of numeric hashes. -/
def hashModulus : Nat := Nat.pow 2 61 - 1

/-- The **residue** of a finite number, with its sign: two has order 61, so that every exponent,
negative ones too, counts modulo 61. -/
def residue (negative : Bool) (m : Nat) (e : Int) : Int :=
  signed negative (m * Nat.pow 2 (e % 61).natAbs % hashModulus)

end TimeWindow.Binary64
