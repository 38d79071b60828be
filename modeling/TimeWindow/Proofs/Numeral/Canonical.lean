import TimeWindow.Proofs.Numeral.Digits

set_option autoImplicit false

/-!
# Canonical numerals

A canonical numeral is made of digits without a zero in front of others, with a minus sign if it is
negative. Every integer has exactly one, which is the one that is written.

## Main definitions

* `TimeWindow.Numeral.IsNat`, `TimeWindow.Numeral.IsInt` — a text is the canonical numeral of a
  number.

## Main results

* `TimeWindow.Numeral.isNat_iff`, `TimeWindow.Numeral.isInt_iff` — the canonical numeral of a number
  is the one that is written for it.
-/

namespace TimeWindow.Numeral

/-- A text is the **canonical numeral of a natural number**: digits that denote it, without a zero
in front of others. -/
structure IsNat (n : Nat) (t : Text) : Prop where
  ne_nil : t ≠ []
  isDigit : ∀ c ∈ t, c.isDigit = true
  eq_zero : t.head? = some (CodePoint.ofChar '0') → t = [CodePoint.ofChar '0']
  denotes : ofDigits t = n

/-- A text is the **canonical numeral of an integer**: that of its absolute value, with a minus sign
in front if it is negative. -/
def IsInt (n : Int) (t : Text) : Prop :=
  ∃ digits, IsNat n.natAbs digits ∧ t = if n < 0 then CodePoint.ofChar '-' :: digits else digits

/-- A numeral begins with a zero only if it is zero. -/
theorem eq_zero_of_head?_nat {n : Nat} (h : (nat n).head? = some (CodePoint.ofChar '0')) : n = 0 := by
  induction n using Nat.strongRecOn with
  | _ n ih =>
    by_cases hn : n < 10
    · rw [nat_of_lt hn, List.head?_cons, Option.some.injEq] at h
      have hval := congrArg CodePoint.val h
      rw [CodePoint.val_ofDigit, show (CodePoint.ofChar '0').val = 0x30 from rfl] at hval
      omega
    · have hhead : (nat (n / 10)).head? = some (CodePoint.ofChar '0') := by
        rw [nat_of_ge (by omega)] at h
        cases hnat : nat (n / 10) with
        | nil => exact absurd hnat (nat_ne_nil _)
        | cons c rest => rwa [hnat, List.cons_append, List.head?_cons] at h
      have := ih (n / 10) (by omega) hhead
      omega

/-- **The numeral that is written** is canonical. -/
theorem isNat_nat (n : Nat) : IsNat n (nat n) where
  ne_nil := nat_ne_nil n
  isDigit := isDigit_of_mem_nat n
  eq_zero h := by
    rw [eq_zero_of_head?_nat h, nat_of_lt (by decide)]
    rfl
  denotes := ofDigits_nat n

/-- **There is no other canonical numeral:** digits are the numeral of what they denote, with zeros
in front, of which a canonical one has none. -/
theorem isNat_iff {n : Nat} {t : Text} : IsNat n t ↔ t = nat n := by
  constructor
  · rintro ⟨hne, hdigit, hzero, hn⟩
    have ht := eq_padded hne hdigit
    rw [hn, padded] at ht
    cases hk : t.length - (nat n).length with
    | zero => rwa [hk, List.replicate_zero, List.nil_append] at ht
    | succ k =>
      rw [hk, List.replicate_succ, List.cons_append] at ht
      have hlen := congrArg List.length (hzero (by rw [ht, List.head?_cons]))
      have := List.length_pos_iff.2 (nat_ne_nil n)
      rw [List.length_singleton] at hlen
      omega
  · rintro rfl
    exact isNat_nat n

/-- **The canonical numeral of an integer** is the one that is written for it. -/
theorem isInt_iff {n : Int} {t : Text} : IsInt n t ↔ t = int n := by
  simp only [IsInt, isNat_iff, exists_eq_left, int]

end TimeWindow.Numeral
