import TimeWindow.Text.Basic

set_option autoImplicit false

/-!
# Decimal numerals

Integers as decimal text: no leading zeros, a sign only for negative numbers, or padded with zeros
to a width.

## Main definitions

* `TimeWindow.Numeral.nat`, `TimeWindow.Numeral.int` — the numeral of a number.
* `TimeWindow.Numeral.padded` — a numeral with zeros in front, up to a width.
* `TimeWindow.Numeral.hexadecimal` — a numeral in base sixteen of a fixed width.
* `TimeWindow.Numeral.value` — the number that a list of digit values denotes.

## Main results

* `TimeWindow.Numeral.nat_of_lt`, `TimeWindow.Numeral.nat_of_ge` — a numeral of one digit, and
  the last digit of a longer one.
-/

namespace TimeWindow.Numeral

/-- The numeral of a number in front of a text. -/
def natOnto (n : Nat) (rest : Text) : Text :=
  if n < 10 then .ofDigit n :: rest else natOnto (n / 10) (.ofDigit n :: rest)

/-- The **numeral** of a natural number. -/
def nat (n : Nat) : Text :=
  natOnto n []

/-- The numeral of an integer: a negative number has a minus sign in front. -/
def int (n : Int) : Text :=
  if n < 0 then CodePoint.ofChar '-' :: nat n.natAbs else nat n.natAbs

/-- A numeral with zeros in front, so that it has at least `width` digits. -/
def padded (width n : Nat) : Text :=
  List.replicate (width - (nat n).length) (CodePoint.ofChar '0') ++ nat n

/-- The last `width` digits of a number in base sixteen, in lower case. -/
def hexadecimal : (width n : Nat) → Text
  | 0, _ => []
  | width + 1, n => hexadecimal width (n / 16) ++ [.ofHexDigit n]

/-- The number that digit values denote, the most significant first. -/
def value (digits : List Nat) : Nat :=
  digits.foldl (fun n d => 10 * n + d) 0

/-! ## Small facts -/

/-- Writing in front of a text is writing, and then the text. -/
theorem natOnto_eq_append (n : Nat) (rest : Text) : natOnto n rest = nat n ++ rest := by
  unfold nat
  induction n using Nat.strongRecOn generalizing rest with
  | _ n ih =>
    rw [natOnto, natOnto.eq_def n []]
    split
    · rfl
    · rw [ih (n / 10) (by omega), ih (n / 10) (by omega) [.ofDigit n]]
      simp

/-- A number below ten is one digit. -/
theorem nat_of_lt {n : Nat} (h : n < 10) : nat n = [.ofDigit n] := by
  rw [nat, natOnto, if_pos h]

/-- **The last digit** of a longer numeral is the remainder by ten, and the digits before it are
the numeral of the quotient. -/
theorem nat_of_ge {n : Nat} (h : 10 ≤ n) : nat n = nat (n / 10) ++ [.ofDigit n] := by
  rw [nat, natOnto, if_neg (by omega), natOnto_eq_append]

end TimeWindow.Numeral
