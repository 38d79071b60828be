import Mathlib.Algebra.Field.Rat
import Mathlib.Tactic.FieldSimp
import TimeWindow.Proofs.Numeral.Fraction
import TimeWindow.Proofs.Outcome

set_option autoImplicit false

/-!
# Shortest decimal numerals

A number of hundredths, thousandths and so on has exactly one decimal numeral in which the fraction
does not end with a zero. It is the one that is written.

## Main definitions

* `TimeWindow.Numeral.Decimal` — a whole part and a fraction without zeros at its end.
* `TimeWindow.Numeral.Decimal.text`, `TimeWindow.Numeral.Decimal.value` — its numeral, and the number
  that it denotes.
* `TimeWindow.Numeral.Decimal.units` — how many units of the last place it has.
* `TimeWindow.Numeral.Decimal.ofNat` — the decimal of a number of units.

## Main results

* `TimeWindow.Numeral.Decimal.value_mul_pow` — a decimal denotes its units, divided.
* `TimeWindow.Numeral.Decimal.units_ofNat` — every number of units has a decimal.
* `TimeWindow.Numeral.Decimal.decimal?_units` — the units of a decimal are written as its numeral.
-/

namespace TimeWindow.Numeral

/-- A **decimal** with so many places at most: a whole part, and the digits of a fraction that does
not end with a zero. -/
structure Decimal (places : Nat) where
  whole : Nat
  fraction : Text
  length_le : fraction.length ≤ places
  isDigit : ∀ c ∈ fraction, c.isDigit = true
  last_ne : fraction.getLast? ≠ some (CodePoint.ofChar '0')

namespace Decimal

variable {places : Nat}

/-- The **numeral** of a decimal: there is no point if there is no fraction. -/
def text (d : Decimal places) : Text :=
  nat d.whole ++ if d.fraction = [] then [] else CodePoint.ofChar '.' :: d.fraction

/-- The **number** that a decimal denotes. -/
def value (d : Decimal places) : ℚ :=
  d.whole + ofDigits d.fraction / 10 ^ d.fraction.length

/-- The units of the last place that the fraction has. -/
def part (d : Decimal places) : Nat :=
  ofDigits d.fraction * 10 ^ (places - d.fraction.length)

/-- The **units of the last place** that a decimal has. -/
def units (d : Decimal places) : Nat :=
  d.whole * 10 ^ places + d.part

/-- A decimal without a fraction. -/
def ofWhole (n : Nat) : Decimal places :=
  ⟨n, [], Nat.zero_le _, by simp, by simp⟩

/-! ## The number of a decimal -/

/-- The power of ten of all places is that of the fraction times that of the places after it. -/
theorem pow_eq (d : Decimal places) :
    10 ^ places = 10 ^ d.fraction.length * 10 ^ (places - d.fraction.length) := by
  rw [← Nat.pow_add, Nat.add_sub_cancel' d.length_le]

/-- A fraction is less than one. -/
theorem part_lt (d : Decimal places) : d.part < 10 ^ places := by
  have hdigits : ∀ n ∈ d.fraction.map (fun c => c.val - 0x30), n < 10 := by
    intro n hn
    obtain ⟨c, hc, rfl⟩ := List.mem_map.1 hn
    have := CodePoint.isDigit_eq_true_iff.1 (d.isDigit c hc)
    omega
  have hlt := value_lt hdigits
  rw [List.length_map] at hlt
  rw [part, d.pow_eq]
  exact Nat.mul_lt_mul_of_pos_right hlt (Nat.pow_pos (by decide))

/-- **A decimal denotes its units**, divided by as many as make one. -/
theorem value_mul_pow (d : Decimal places) : d.value * 10 ^ places = d.units := by
  have hpow : (10 : ℚ) ^ places =
      10 ^ d.fraction.length * 10 ^ (places - d.fraction.length) := by
    exact_mod_cast d.pow_eq
  have hne : (10 : ℚ) ^ d.fraction.length ≠ 0 := pow_ne_zero _ (by decide)
  rw [value, units, part]
  push_cast
  rw [hpow]
  field_simp

/-- A decimal without a fraction denotes a whole number. -/
@[simp] theorem value_ofWhole (n : Nat) : (ofWhole n : Decimal places).value = n := by
  simp [value, ofWhole]

/-- A decimal without a fraction is written as a whole number. -/
@[simp] theorem text_ofWhole (n : Nat) : (ofWhole n : Decimal places).text = nat n := by
  simp [text, ofWhole]

/-! ## The decimal of a number -/

/-- Something is behind the point only if there are places for it. -/
theorem one_le_places {n : Nat} (h : n % 10 ^ places ≠ 0) : 1 ≤ places := by
  by_contra hzero
  obtain rfl : places = 0 := by omega
  exact h (Nat.mod_one n)

/-- The **decimal of a number of units** of the last place. -/
def ofNat (places n : Nat) : Decimal places :=
  if h : n % 10 ^ places = 0 then ofWhole (n / 10 ^ places)
  else
    have hlength := length_fraction_mem (one_le_places h) (Nat.mod_lt n (Nat.pow_pos (by decide))) h
    { whole := n / 10 ^ places
      fraction := Numeral.fraction places (n % 10 ^ places)
      length_le := hlength.2
      isDigit := isDigit_of_mem_fraction
      last_ne := getLast?_fraction_ne (List.ne_nil_of_length_pos hlength.1) }

/-- The whole part of a number of units. -/
theorem whole_ofNat (places n : Nat) : (ofNat places n).whole = n / 10 ^ places := by
  unfold ofNat
  split <;> rfl

/-- **Every number of units has a decimal.** -/
theorem units_ofNat (places n : Nat) : (ofNat places n).units = n := by
  have hpart : (ofNat places n).part = n % 10 ^ places := by
    unfold ofNat
    split
    · next h => rw [h, part, ofWhole, ofDigits_nil, Nat.zero_mul]
    · next h => exact ofDigits_fraction (one_le_places h) (Nat.mod_lt n (Nat.pow_pos (by decide)))
  rw [units, whole_ofNat, hpart, Nat.mul_comm, Nat.div_add_mod]

/-! ## Writing -/

/-- The units of a decimal fall into its whole part and its fraction. -/
theorem units_div_mod (d : Decimal places) :
    d.units / 10 ^ places = d.whole ∧ d.units % 10 ^ places = d.part := by
  have hlt := d.part_lt
  have hpos : 0 < 10 ^ places := Nat.pow_pos (by decide)
  constructor
  · rw [units, Nat.add_comm, Nat.add_mul_div_right _ _ hpos, Nat.div_eq_of_lt hlt, Nat.zero_add]
  · rw [units, Nat.mul_add_mod', Nat.mod_eq_of_lt hlt]

/-- The units of a decimal lie between its whole part and the next whole number. -/
theorem units_mem (d : Decimal places) :
    d.whole * 10 ^ places ≤ d.units ∧ d.units < (d.whole + 1) * 10 ^ places := by
  have hlt := d.part_lt
  rw [units, Nat.add_mul, Nat.one_mul]
  omega

/-- **The digits of a fraction** are those that are written of its units. -/
theorem fraction_part (d : Decimal places) (h : d.fraction ≠ []) :
    Numeral.fraction places d.part = d.fraction :=
  fraction_ofDigits d.isDigit ⟨List.length_pos_iff.2 h, d.length_le⟩ d.last_ne

/-- There is nothing behind the point exactly if there are no digits. -/
theorem part_eq_zero_iff (d : Decimal places) : d.part = 0 ↔ d.fraction = [] := by
  constructor
  · intro h
    by_contra hne
    have hplaces : 1 ≤ places := Nat.le_trans (List.length_pos_iff.2 hne) d.length_le
    rw [← d.fraction_part hne, h, fraction_zero hplaces] at hne
    exact hne rfl
  · intro h
    rw [part, h, ofDigits_nil, Nat.zero_mul]

/-- **The units of a decimal are written as its numeral**, if its whole part is within the digit
limit. If it has a fraction, so must be as many units as make one.

**Proof sketch.** The numeral of these units has a digit more than there are places, so the digits
behind the point are padded to the places. The point is no zero; so what is left out at the end of
the numeral is left out of the fraction. -/
theorem decimal?_units (d : Decimal places) (h : d.fraction = [] ∨ places < digitLimit) :
    decimal? d.units (10 ^ places) = (int? d.whole).map fun _ => d.text := by
  obtain ⟨hwhole, hpart⟩ := d.units_div_mod
  unfold decimal?
  rw [hwhole, hpart]
  cases hint : int? d.whole with
  | error f =>
    by_cases hempty : d.fraction = []
    · rw [if_pos (d.part_eq_zero_iff.2 hempty)]
      rfl
    · have hprinted : int? (10 ^ places : Nat) = .ok (int (10 ^ places : Nat)) :=
        int?_eq_ok_iff.2 ⟨withinLimit_pow_iff.2 (h.resolve_left hempty), rfl⟩
      rw [if_neg fun hzero => hempty (d.part_eq_zero_iff.1 hzero), hprinted]
      rfl
  | ok t =>
    obtain rfl := eq_nat_of_int? hint
    by_cases hempty : d.fraction = []
    · rw [if_pos (d.part_eq_zero_iff.2 hempty), text, if_pos hempty, List.append_nil]
      rfl
    · have hprinted : int? (10 ^ places : Nat) = .ok (nat (10 ^ places)) :=
        int?_eq_ok_iff.2 ⟨withinLimit_pow_iff.2 (h.resolve_left hempty), int_natCast _⟩
      have htrim : trimZeros (nat d.whole ++ CodePoint.ofChar '.' :: padded places d.part) =
          nat d.whole ++ CodePoint.ofChar '.' :: d.fraction := by
        rw [trimZeros_append_cons _ _ (by decide), ← Numeral.fraction, d.fraction_part hempty]
      rw [if_neg fun hzero => hempty (d.part_eq_zero_iff.1 hzero), hprinted, text, if_neg hempty,
        ← htrim]
      simp only [bind, Except.bind, pure, Except.pure, Except.map, length_nat_pow,
        Nat.add_sub_cancel]

end Decimal

/-- **A fraction of too many places** is not written. -/
theorem decimal?_eq_error {n k : Nat} (h : n % 10 ^ k ≠ 0) (hk : digitLimit ≤ k) :
    decimal? n (10 ^ k) = .error .digitLimit := by
  rw [decimal?, if_neg h, int?_eq_error fun hlimit =>
    Nat.not_lt.2 hk (withinLimit_pow_iff.1 hlimit)]
  rfl

end TimeWindow.Numeral
