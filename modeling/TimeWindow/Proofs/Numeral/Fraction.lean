import Mathlib.Data.List.DropRight
import TimeWindow.Numeral.Decimal
import TimeWindow.Proofs.Numeral.Digits

set_option autoImplicit false

/-!
# Fractions without zeros at the end

The digits after a point, with the zeros at the end left out. Nothing is lost with them: the digits
that remain denote the same fraction, and the last of them is not zero.

## Main results

* `TimeWindow.Numeral.exists_eq_trimZeros_append` — only zeros are left out.
* `TimeWindow.Numeral.fraction_append_zeros` — the zeros put back.
* `TimeWindow.Numeral.ofDigits_fraction` — what the digits of a fraction denote.
* `TimeWindow.Numeral.length_fraction_mem` — a fraction has a digit, and no more than its places.
* `TimeWindow.Numeral.fraction_ofDigits` — digits that do not end with zero are a fraction.
-/

namespace TimeWindow.Numeral

/-- **Only zeros are left out** at the end of a text. -/
theorem exists_eq_trimZeros_append (t : Text) :
    ∃ k, t = trimZeros t ++ List.replicate k (CodePoint.ofChar '0') := by
  have hsplit := List.rdropWhile_append_rtakeWhile (p := (· == CodePoint.ofChar '0')) (l := t)
  have hzeros : t.rtakeWhile (· == CodePoint.ofChar '0') =
      List.replicate (t.rtakeWhile (· == CodePoint.ofChar '0')).length (CodePoint.ofChar '0') :=
    List.eq_replicate_of_mem fun c hc =>
      eq_of_beq (List.mem_rtakeWhile_imp (p := (· == CodePoint.ofChar '0')) hc)
  rw [hzeros] at hsplit
  exact ⟨_, hsplit.symm⟩

/-- A text without the zeros at its end does not end with zero. -/
theorem getLast_trimZeros_ne {t : Text} (h : trimZeros t ≠ []) :
    (trimZeros t).getLast h ≠ CodePoint.ofChar '0' := by
  intro heq
  exact List.rdropWhile_last_not (· == CodePoint.ofChar '0') t h (beq_iff_eq.2 heq)

/-- **Zeros are left out** behind a text that does not end with zero itself. -/
theorem trimZeros_append_zeros {t : Text} (h : t.getLast? ≠ some (CodePoint.ofChar '0')) (k : Nat) :
    trimZeros (t ++ List.replicate k (CodePoint.ofChar '0')) = t := by
  have hzeros : ∀ c ∈ List.replicate k (CodePoint.ofChar '0'),
      (c == CodePoint.ofChar '0') = true := by
    intro c hc
    rw [(List.mem_replicate.1 hc).2, beq_self_eq_true]
  have hend : t.reverse.dropWhile (· == CodePoint.ofChar '0') = t.reverse := by
    refine List.dropWhile_eq_self_iff.2 fun hpos hlast => h ?_
    rw [← List.head?_reverse, List.head?_eq_getElem?, List.getElem?_eq_getElem hpos,
      eq_of_beq hlast]
  rw [trimZeros, List.reverse_append, List.reverse_replicate,
    List.dropWhile_append_of_pos hzeros, hend, List.reverse_reverse]

/-- **Zeros are left out** only behind the last code point that is no zero. -/
theorem trimZeros_append_cons (s t : Text) {c : CodePoint} (hc : c ≠ CodePoint.ofChar '0') :
    trimZeros (s ++ c :: t) = s ++ c :: trimZeros t := by
  obtain ⟨k, hk⟩ := exists_eq_trimZeros_append t
  have hlast : (s ++ c :: trimZeros t).getLast? ≠ some (CodePoint.ofChar '0') := by
    by_cases hempty : trimZeros t = []
    · simpa [hempty] using hc
    · rw [List.getLast?_append_cons, List.getLast?_cons_of_ne_nil hempty,
        List.getLast?_eq_some_getLast hempty]
      exact fun h => getLast_trimZeros_ne hempty (Option.some.inj h)
  have hsplit : s ++ c :: t = s ++ c :: trimZeros t ++ List.replicate k (CodePoint.ofChar '0') := by
    rw [List.append_assoc, List.cons_append, ← hk]
  rw [hsplit, trimZeros_append_zeros hlast]

/-- Nothing is left of a fraction of zero. -/
theorem fraction_zero {places : Nat} (hp : 1 ≤ places) : fraction places 0 = [] := by
  obtain ⟨k, rfl⟩ : ∃ k, places = k + 1 := ⟨places - 1, by omega⟩
  have hzeros : padded (k + 1) 0 = List.replicate (k + 1) (CodePoint.ofChar '0') := by
    rw [padded, nat_of_lt (by decide), List.length_singleton, Nat.add_sub_cancel,
      List.replicate_succ']
    rfl
  rw [fraction, hzeros, ← List.nil_append (List.replicate _ _), trimZeros_append_zeros (by simp)]

/-- Zeros behind digits count ten times each. -/
theorem ofDigits_append_zeros (t : Text) (k : Nat) :
    ofDigits (t ++ List.replicate k (CodePoint.ofChar '0')) = ofDigits t * 10 ^ k := by
  have hzeros : ((List.replicate k (CodePoint.ofChar '0')).map fun c => c.val - 0x30) =
      List.replicate k 0 := by
    rw [List.map_replicate]
    rfl
  rw [ofDigits, List.map_append, hzeros, value_append_replicate]
  rfl

/-- The places of a fraction are its digits, and zeros. -/
theorem exists_padded_eq_fraction_append (places part : Nat) :
    ∃ k, padded places part = fraction places part ++ List.replicate k (CodePoint.ofChar '0') :=
  exists_eq_trimZeros_append _

/-- A fraction is made of digits. -/
theorem isDigit_of_mem_fraction {places part : Nat} :
    ∀ c ∈ fraction places part, c.isDigit = true := by
  obtain ⟨k, hk⟩ := exists_padded_eq_fraction_append places part
  intro c hc
  have hpadded : c ∈ padded places part := by
    rw [hk]
    exact List.mem_append_left _ hc
  exact isDigit_of_mem_padded c hpadded

/-- A fraction does not end with zero. -/
theorem getLast?_fraction_ne {places part : Nat} (h : fraction places part ≠ []) :
    (fraction places part).getLast? ≠ some (CodePoint.ofChar '0') := by
  rw [List.getLast?_eq_some_getLast h]
  intro hlast
  exact getLast_trimZeros_ne h (Option.some.inj hlast)

/-- **The zeros that were left out** of a fraction, put back behind it, make up its places. -/
theorem fraction_append_zeros {places part : Nat} (hp : 1 ≤ places) (h : part < 10 ^ places) :
    fraction places part ++
      List.replicate (places - (fraction places part).length) (CodePoint.ofChar '0') =
        padded places part := by
  obtain ⟨k, hk⟩ := exists_padded_eq_fraction_append places part
  have hlen := congrArg List.length hk
  rw [length_padded hp h, List.length_append, List.length_replicate] at hlen
  rw [show places - (fraction places part).length = k by omega, hk]

/-- **What the digits of a fraction denote**, once the places that were left out are counted. -/
theorem ofDigits_fraction {places part : Nat} (hp : 1 ≤ places) (h : part < 10 ^ places) :
    ofDigits (fraction places part) * 10 ^ (places - (fraction places part).length) = part := by
  rw [← ofDigits_append_zeros, fraction_append_zeros hp h, ofDigits_padded]

/-- **No two fractions share their digits.** -/
theorem eq_of_fraction {places part part' : Nat} (hp : 1 ≤ places) (h : part < 10 ^ places)
    (h' : part' < 10 ^ places) (heq : fraction places part = fraction places part') :
    part = part' := by
  rw [← ofDigits_fraction hp h, heq, ofDigits_fraction hp h']

/-- **A fraction has a digit**, and no more digits than places. -/
theorem length_fraction_mem {places part : Nat} (hp : 1 ≤ places) (h : part < 10 ^ places)
    (hpart : part ≠ 0) :
    1 ≤ (fraction places part).length ∧ (fraction places part).length ≤ places := by
  obtain ⟨k, hk⟩ := exists_padded_eq_fraction_append places part
  have hlen := congrArg List.length hk
  rw [length_padded hp h, List.length_append] at hlen
  constructor
  · by_contra hempty
    have hnil : fraction places part = [] := List.eq_nil_of_length_eq_zero (by omega)
    have := ofDigits_fraction hp h
    rw [hnil, ofDigits_nil, Nat.zero_mul] at this
    exact hpart this.symm
  · omega

/-- **Digits that do not end with zero** are the fraction that they denote. -/
theorem fraction_ofDigits {places : Nat} {digits : Text} (hdigit : ∀ c ∈ digits, c.isDigit = true)
    (hlen : 1 ≤ digits.length ∧ digits.length ≤ places)
    (hlast : digits.getLast? ≠ some (CodePoint.ofChar '0')) :
    fraction places (ofDigits digits * 10 ^ (places - digits.length)) = digits := by
  let filled := digits ++ List.replicate (places - digits.length) (CodePoint.ofChar '0')
  have hfilled : ∀ c ∈ filled, c.isDigit = true := by
    intro c hc
    rcases List.mem_append.1 hc with hc | hc
    · exact hdigit c hc
    · rw [(List.mem_replicate.1 hc).2]
      rfl
  have hlength : filled.length = places := by
    rw [List.length_append, List.length_replicate]
    omega
  have hpadded := eq_padded (List.ne_nil_of_length_pos (by omega)) hfilled
  rw [hlength, ofDigits_append_zeros] at hpadded
  rw [fraction, ← hpadded, trimZeros_append_zeros hlast]

end TimeWindow.Numeral
