import Mathlib.Data.List.Induction
import Mathlib.Data.Nat.Digits.Defs
import TimeWindow.Numeral.Reading
import TimeWindow.Units

set_option autoImplicit false

/-!
# Digits and the numbers they denote

A numeral is made of ASCII digits that denote its number. Zeros in front change nothing, and among
the numerals of one width there is exactly one for each number that fits.

## Main results

* `TimeWindow.Numeral.ofDigits_nat`, `TimeWindow.Numeral.ofDigits_padded` — a numeral
  denotes its number.
* `TimeWindow.Numeral.length_nat_le_iff` — how many digits a number has.
* `TimeWindow.Numeral.eq_padded` — digits are the padded numeral of what they denote.
* `TimeWindow.Numeral.value_append`, `TimeWindow.Numeral.value_eq_ofDigits` — the number of digits
  written after one another, and as a sum of powers of ten.
-/

namespace TimeWindow

namespace CodePoint

/-! ## Digits -/

theorem isDigit_eq_true_iff {c : CodePoint} : c.isDigit = true ↔ 0x30 ≤ c.val ∧ c.val ≤ 0x39 :=
  inRange_eq_true_iff

/-- A written digit is a digit. -/
@[simp] theorem isDigit_ofDigit (d : Nat) : (ofDigit d).isDigit = true := by
  rw [isDigit_eq_true_iff, val_ofDigit]
  omega

/-- A digit is the written form of its value. -/
theorem eq_ofDigit {c : CodePoint} (h : c.isDigit = true) {d : Nat} (hd : d % 10 = c.val - 0x30) :
    c = ofDigit d := by
  obtain ⟨h₁, h₂⟩ := isDigit_eq_true_iff.1 h
  rcases c with ⟨val, hval⟩
  simp only [ofDigit, mk.injEq] at *
  omega

end CodePoint

namespace Numeral

/-! ## Values -/

@[simp] theorem value_nil : value [] = 0 := rfl

theorem value_foldl (n : Nat) (digits : List Nat) :
    digits.foldl (fun n d => 10 * n + d) n = n * 10 ^ digits.length + value digits := by
  induction digits generalizing n with
  | nil => simp [value]
  | cons d rest ih =>
    simp only [value, List.foldl_cons, List.length_cons, Nat.mul_zero, Nat.zero_add]
    rw [ih, ih d, Nat.pow_succ, Nat.add_mul, ← Nat.add_assoc]
    congr 2
    rw [Nat.mul_comm 10 n, Nat.mul_assoc, Nat.mul_comm 10]

/-- **Digits written after one another:** the first ones count by the places that follow them. -/
theorem value_append (xs ys : List Nat) :
    value (xs ++ ys) = value xs * 10 ^ ys.length + value ys := by
  rw [value, List.foldl_append, value_foldl]
  rfl

/-- The last digit counts once, and the digits before it ten times as much. -/
theorem value_concat (ds : List Nat) (d : Nat) : value (ds ++ [d]) = 10 * value ds + d := by
  rw [value, List.foldl_append]
  rfl

/-- Zeros in front of digits count nothing. -/
theorem value_replicate_append (k : Nat) (ds : List Nat) :
    value (List.replicate k 0 ++ ds) = value ds := by
  have hzero : value (List.replicate k 0) = 0 := by
    induction k with
    | zero => rfl
    | succ k ih => rw [List.replicate_succ', value_concat, ih]
  rw [value_append, hzero, Nat.zero_mul, Nat.zero_add]

/-- Zeros behind digits count ten times each. -/
theorem value_append_replicate (ds : List Nat) (k : Nat) :
    value (ds ++ List.replicate k 0) = value ds * 10 ^ k := by
  have hzero : value (List.replicate k 0) = 0 := by
    simpa using value_replicate_append k []
  rw [value_append, hzero, List.length_replicate, Nat.add_zero]

/-- Digits denote less than the power of ten with as many zeros. -/
theorem value_lt {ds : List Nat} (h : ∀ d ∈ ds, d < 10) : value ds < 10 ^ ds.length := by
  induction ds using List.reverseRecOn with
  | nil => decide
  | append_singleton ds d ih =>
    have hd : d < 10 := h d (by simp)
    have := ih fun e he => h e (by simp [he])
    rw [value_concat, List.length_append, List.length_singleton, Nat.pow_succ]
    omega

/-- **The number of digits** is the sum of the digits times powers of ten, the last one times
one. -/
theorem value_eq_ofDigits (ds : List Nat) : value ds = Nat.ofDigits 10 ds.reverse := by
  induction ds using List.reverseRecOn with
  | nil => rfl
  | append_singleton ds d ih =>
    rw [value_concat, List.reverse_append, List.reverse_singleton, List.singleton_append,
      Nat.ofDigits_cons, ih, Nat.add_comm]

@[simp] theorem ofDigits_nil : ofDigits [] = 0 := rfl

/-- The last digit of a text counts once, and the digits before it ten times as much. -/
theorem ofDigits_concat (t : Text) (c : CodePoint) :
    ofDigits (t ++ [c]) = 10 * ofDigits t + (c.val - 0x30) := by
  rw [ofDigits, List.map_append, List.map_singleton, value_concat]
  rfl

/-! ## Numerals -/

/-- A numeral is made of digits. -/
theorem isDigit_of_mem_nat (n : Nat) : ∀ c ∈ nat n, c.isDigit = true := by
  induction n using Nat.strongRecOn with
  | _ n ih =>
    intro c hc
    by_cases h : n < 10
    · rw [nat_of_lt h, List.mem_singleton] at hc
      rw [hc, CodePoint.isDigit_ofDigit]
    · rw [nat_of_ge (by omega), List.mem_append, List.mem_singleton] at hc
      rcases hc with hc | rfl
      · exact ih (n / 10) (by omega) c hc
      · exact CodePoint.isDigit_ofDigit n

/-- **A numeral denotes its number.** -/
@[simp] theorem ofDigits_nat (n : Nat) : ofDigits (nat n) = n := by
  induction n using Nat.strongRecOn with
  | _ n ih =>
    by_cases h : n < 10
    · rw [nat_of_lt h, ← List.nil_append [_], ofDigits_concat, ofDigits_nil, CodePoint.val_ofDigit]
      omega
    · rw [nat_of_ge (by omega), ofDigits_concat, ih (n / 10) (by omega), CodePoint.val_ofDigit]
      omega

/-- A natural number is written without a sign. -/
theorem int_natCast (n : Nat) : int n = nat n := by
  rw [int, if_neg (by omega), Int.natAbs_natCast]

/-- A numeral has a digit. -/
theorem nat_ne_nil (n : Nat) : nat n ≠ [] := by
  by_cases h : n < 10
  · simp [nat_of_lt h]
  · simp [nat_of_ge (show 10 ≤ n by omega)]

/-- **A number has no more digits** than a power of ten above it has zeros. -/
theorem length_nat_le_iff {width n : Nat} (hw : 1 ≤ width) :
    (nat n).length ≤ width ↔ n < 10 ^ width := by
  induction width, hw using Nat.le_induction generalizing n with
  | base =>
    by_cases h : n < 10
    · simp [nat_of_lt h, h]
    · have := List.length_pos_iff.2 (nat_ne_nil (n / 10))
      rw [nat_of_ge (by omega), List.length_append, List.length_singleton]
      omega
  | succ width hw ih =>
    by_cases h : n < 10
    · have : 10 ^ 1 ≤ 10 ^ (width + 1) := Nat.pow_le_pow_right (by decide) (by omega)
      rw [nat_of_lt h, List.length_singleton]
      omega
    · have := ih (n := n / 10)
      rw [nat_of_ge (by omega), List.length_append, List.length_singleton, Nat.pow_succ]
      omega

/-- **A power of ten** has one digit more than zeros. -/
theorem length_nat_pow (k : Nat) : (nat (10 ^ k)).length = k + 1 := by
  have hle : (nat (10 ^ k)).length ≤ k + 1 :=
    (length_nat_le_iff (by omega)).2 (Nat.pow_lt_pow_right (by decide) (by omega))
  have hpos := List.length_pos_iff.2 (nat_ne_nil (10 ^ k))
  rcases Nat.eq_zero_or_pos k with rfl | hk
  · omega
  · have hlt : ¬(nat (10 ^ k)).length ≤ k := by
      rw [length_nat_le_iff hk]
      exact Nat.lt_irrefl _
    omega

/-! ## Numerals of a fixed width -/

/-- A padded numeral is made of digits. -/
theorem isDigit_of_mem_padded {width n : Nat} : ∀ c ∈ padded width n, c.isDigit = true := by
  intro c hc
  rw [padded, List.mem_append, List.mem_replicate] at hc
  rcases hc with ⟨-, rfl⟩ | hc
  · rfl
  · exact isDigit_of_mem_nat n c hc

/-- A padded numeral has its width, if the number fits. -/
theorem length_padded {width n : Nat} (hw : 1 ≤ width) (h : n < 10 ^ width) :
    (padded width n).length = width := by
  have := (length_nat_le_iff hw).2 h
  rw [padded, List.length_append, List.length_replicate]
  omega

/-- **A padded numeral denotes its number.** -/
@[simp] theorem ofDigits_padded (width n : Nat) : ofDigits (padded width n) = n := by
  rw [padded, ofDigits, List.map_append, List.map_replicate]
  exact (value_replicate_append _ _).trans (ofDigits_nat n)

/-- **A padded numeral in front of a text** is determined by the text. -/
theorem padded_append_inj {width m n : Nat} (hw : 1 ≤ width) (hm : m < 10 ^ width)
    (hn : n < 10 ^ width) {s s' : Text} (h : padded width m ++ s = padded width n ++ s') :
    m = n ∧ s = s' := by
  have hlen : (padded width m).length = (padded width n).length := by
    rw [length_padded hw hm, length_padded hw hn]
  obtain ⟨hnumeral, hrest⟩ := List.append_inj h hlen
  have hnumber := congrArg ofDigits hnumeral
  rw [ofDigits_padded, ofDigits_padded] at hnumber
  exact ⟨hnumber, hrest⟩

/-- The last digit of a padded numeral, and the padded numeral before it. -/
theorem padded_succ {width n : Nat} (hw : 1 ≤ width) :
    padded (width + 1) n = padded width (n / 10) ++ [.ofDigit n] := by
  by_cases h : n < 10
  · obtain ⟨w, rfl⟩ : ∃ w, width = w + 1 := ⟨width - 1, by omega⟩
    rw [padded, padded, nat_of_lt h, nat_of_lt (show n / 10 < 10 by omega),
      show CodePoint.ofDigit (n / 10) = CodePoint.ofChar '0' by rw [Nat.div_eq_of_lt h]; rfl]
    simp only [List.length_singleton, Nat.add_sub_cancel, List.replicate_succ', List.append_assoc]
  · rw [padded, padded, nat_of_ge (by omega), List.length_append, List.length_singleton,
      Nat.add_sub_add_right, List.append_assoc]

/-- **Digits are the padded numeral** of the number that they denote, in their own width. -/
theorem eq_padded {t : Text} (hne : t ≠ []) (h : ∀ c ∈ t, c.isDigit = true) :
    t = padded t.length (ofDigits t) := by
  induction t using List.reverseRecOn with
  | nil => exact absurd rfl hne
  | append_singleton t c ih =>
    have hc := h c (by simp)
    have hrange := CodePoint.isDigit_eq_true_iff.1 hc
    rw [ofDigits_concat, List.length_append, List.length_singleton]
    by_cases ht : t = []
    · subst ht
      rw [ofDigits_nil, List.length_nil, padded, nat_of_lt (by omega)]
      exact congrArg (· :: []) (CodePoint.eq_ofDigit hc (by omega))
    · have hlast : c = .ofDigit (10 * ofDigits t + (c.val - 0x30)) :=
        CodePoint.eq_ofDigit hc (by omega)
      rw [padded_succ (List.length_pos_iff.2 ht), ← hlast,
        show (10 * ofDigits t + (c.val - 0x30)) / 10 = ofDigits t by omega,
        ← ih ht fun d hd => h d (by simp [hd])]

/-! ## The digit limit -/

/-- An integer is **within the digit limit** if its digits are no more than are written. -/
def WithinLimit (n : Int) : Prop :=
  n.natAbs < 10 ^ digitLimit

/-- **A numeral within the digit limit** is the numeral of an integer that is below the power of ten
with so many zeros. -/
theorem int?_eq_ok_iff {n : Int} {t : Text} :
    int? n = .ok t ↔ n.natAbs < 10 ^ digitLimit ∧ int n = t := by
  have hpow : ∀ k, Nat.pow 10 k = 10 ^ k := fun _ => rfl
  rw [int?, hpow]
  split
  · next h => simp [h]
  · next h => simp [h]

/-- The numeral of a natural number, if there is one. -/
theorem eq_nat_of_int? {n : Nat} {t : Text} (h : int? n = .ok t) : t = nat n := by
  obtain ⟨-, rfl⟩ := int?_eq_ok_iff.1 h
  exact int_natCast n

/-- An integer beyond the digit limit has no numeral. -/
theorem int?_eq_error {n : Int} (h : ¬WithinLimit n) : int? n = .error .digitLimit := by
  have hpow : ∀ k, Nat.pow 10 k = 10 ^ k := fun _ => rfl
  unfold WithinLimit at h
  rw [int?, hpow, if_neg h]

/-- **A power of ten** is within the digit limit if it has fewer zeros than digits are written. -/
theorem withinLimit_pow_iff {k : Nat} : WithinLimit (10 ^ k : Nat) ↔ k < digitLimit := by
  rw [WithinLimit, Int.natAbs_natCast, Nat.pow_lt_pow_iff_right (by decide)]

/-- The first integer beyond the digit limit. -/
theorem not_withinLimit_pow : ¬WithinLimit (10 ^ digitLimit) := by
  have h := withinLimit_pow_iff (k := digitLimit)
  push_cast at h
  exact fun hlimit => Nat.lt_irrefl _ (h.1 hlimit)

/-- **An integer with no more digits** than are written is within the digit limit. -/
theorem withinLimit_of_digits {n : Int} {ds : List Nat} (h : ∀ d ∈ ds, d < 10)
    (hlen : ds.length ≤ digitLimit) (hn : n.natAbs = value ds) : WithinLimit n := by
  rw [WithinLimit, hn]
  exact Nat.lt_of_lt_of_le (value_lt h) (Nat.pow_le_pow_right (by decide) hlen)

/-- **Integers of 64 bits** are within the digit limit. -/
theorem withinLimit_of_fitsInt64 {n : Int} (h : fitsInt64 n = true) : WithinLimit n := by
  obtain ⟨h₁, h₂⟩ := fitsInt64_eq_true_iff.1 h
  unfold int64Min at h₁
  unfold int64Max at h₂
  have hsmall : n.natAbs < 10 ^ 19 := by omega
  have hlimit : 19 ≤ digitLimit := by decide
  exact Nat.lt_of_lt_of_le hsmall (Nat.pow_le_pow_right (by decide) hlimit)

end Numeral

end TimeWindow
