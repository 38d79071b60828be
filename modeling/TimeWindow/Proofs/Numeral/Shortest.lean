import TimeWindow.Proofs.Numeral.Canonical
import TimeWindow.Proofs.Numeral.Decimal

set_option autoImplicit false

/-!
# The shortest numeral of a decimal fraction

A number can have many decimal numerals: zeros may stand in front of the whole part and at the end of
the fraction. One of them has none, and it is the only one that is so short. This is the numeral that
is written, for every number of hundredths, thousandths and so on, as long as its whole part is within
the digit limit and its places are, too.

## Main definitions

* `TimeWindow.Numeral.Parts` — the digits of a numeral, before and behind the point.
* `TimeWindow.Numeral.IsShortest` — a text is the shortest numeral of a number.

## Main results

* `TimeWindow.Numeral.Decimal.eq_of_value` — a number has one decimal at most.
* `TimeWindow.Numeral.Decimal.exists_zeros` — its other numerals have more zeros, and nothing else.
* `TimeWindow.Numeral.Decimal.isShortest_text` — the numeral of a decimal is the shortest one.
* `TimeWindow.Numeral.decimal?_eq_ok_iff` — what is written for a number of units.
* `TimeWindow.Numeral.decimal?_isShortest` — that it is the shortest numeral, and when there is one.
-/

namespace TimeWindow.Numeral

/-! ## Numerals -/

/-- The **parts of a numeral**: the digits of its whole part, of which there must be one, and the
digits of its fraction. Zeros may stand in front and at the end. -/
structure Parts where
  whole : Text
  fraction : Text
  whole_ne_nil : whole ≠ []
  isDigit_whole : ∀ c ∈ whole, c.isDigit = true
  isDigit_fraction : ∀ c ∈ fraction, c.isDigit = true

namespace Parts

/-- The **numeral** that is made of parts: there is a point only in front of a fraction. -/
def text (p : Parts) : Text :=
  p.whole ++ if p.fraction = [] then [] else CodePoint.ofChar '.' :: p.fraction

/-- The **number** that a numeral denotes. -/
def value (p : Parts) : ℚ :=
  ofDigits p.whole + ofDigits p.fraction / 10 ^ p.fraction.length

/-- A numeral has the digits of its parts, and a point if there is a fraction. -/
theorem length_text (p : Parts) :
    p.text.length = p.whole.length + if p.fraction = [] then 0 else p.fraction.length + 1 := by
  rw [text, List.length_append]
  split <;> rfl

end Parts

/-- A text is the **shortest numeral of a number**: it denotes the number, and every other numeral of
the number is longer. -/
structure IsShortest (q : ℚ) (t : Text) : Prop where
  denotes : ∃ p : Parts, p.text = t ∧ p.value = q
  length_lt : ∀ p : Parts, p.value = q → p.text ≠ t → t.length < p.text.length

namespace Decimal

variable {places : Nat}

/-! ## One decimal for each number -/

/-- A decimal with more places at most. -/
def widen (d : Decimal places) {more : Nat} (h : places ≤ more) : Decimal more :=
  { d with length_le := d.length_le.trans h }

/-- A decimal is determined by its units. -/
theorem eq_of_units {d e : Decimal places} (h : d.units = e.units) :
    d.whole = e.whole ∧ d.fraction = e.fraction := by
  obtain ⟨hwhole, hpart⟩ := d.units_div_mod
  obtain ⟨hwhole', hpart'⟩ := e.units_div_mod
  have hparts : d.part = e.part := by rw [← hpart, h, hpart']
  refine ⟨by rw [← hwhole, h, hwhole'], ?_⟩
  by_cases hempty : d.fraction = []
  · rw [hempty, eq_comm, ← e.part_eq_zero_iff, ← hparts, d.part_eq_zero_iff, hempty]
  · have hempty' : e.fraction ≠ [] := by
      rwa [Ne, ← e.part_eq_zero_iff, ← hparts, d.part_eq_zero_iff]
    rw [← d.fraction_part hempty, hparts, e.fraction_part hempty']

/-- **A number has one decimal at most**, whatever the places are. -/
theorem eq_of_value {places' : Nat} {d : Decimal places} {e : Decimal places'}
    (h : d.value = e.value) : d.whole = e.whole ∧ d.fraction = e.fraction := by
  let d' := d.widen (le_max_left places places')
  let e' := e.widen (le_max_right places places')
  have hvalue : d'.value = e'.value := h
  have hunits : d'.units = e'.units := by
    have hcast : (d'.units : ℚ) = e'.units := by
      rw [← d'.value_mul_pow, hvalue, e'.value_mul_pow]
    exact_mod_cast hcast
  exact eq_of_units hunits

/-! ## The other numerals of a number -/

/-- The parts of the numeral of a decimal. -/
def parts (d : Decimal places) : Parts :=
  ⟨nat d.whole, d.fraction, nat_ne_nil _, isDigit_of_mem_nat _, d.isDigit⟩

/-- The numeral of a decimal denotes its number. -/
theorem value_parts (d : Decimal places) : d.parts.value = d.value := by
  rw [Parts.value, parts, ofDigits_nat, value]

/-- The **decimal of a numeral**: the zeros at the end of its fraction are left out. -/
def ofParts (p : Parts) : Decimal p.fraction.length where
  whole := ofDigits p.whole
  fraction := trimZeros p.fraction
  length_le := by
    obtain ⟨k, hk⟩ := exists_eq_trimZeros_append p.fraction
    have hlen := congrArg List.length hk
    rw [List.length_append] at hlen
    omega
  isDigit := by
    obtain ⟨k, hk⟩ := exists_eq_trimZeros_append p.fraction
    exact fun c hc => p.isDigit_fraction c (hk ▸ List.mem_append_left _ hc)
  last_ne := by
    by_cases hempty : trimZeros p.fraction = []
    · simp [hempty]
    · rw [List.getLast?_eq_some_getLast hempty]
      exact fun h => getLast_trimZeros_ne hempty (Option.some.inj h)

/-- The decimal of a numeral has its number. -/
theorem value_ofParts (p : Parts) : (ofParts p).value = p.value := by
  obtain ⟨k, hk⟩ := exists_eq_trimZeros_append p.fraction
  have hfraction : (ofDigits p.fraction : ℚ) / 10 ^ p.fraction.length =
      ofDigits (trimZeros p.fraction) / 10 ^ (trimZeros p.fraction).length := by
    conv_lhs => rw [hk, ofDigits_append_zeros, List.length_append, List.length_replicate, pow_add]
    push_cast
    exact mul_div_mul_right _ _ (pow_ne_zero _ (by decide))
  rw [Parts.value, hfraction]
  rfl

/-- **Another numeral of the number** of a decimal has more zeros in front and at the end, and nothing
else. -/
theorem exists_zeros {d : Decimal places} {p : Parts} (h : p.value = d.value) :
    ∃ j k, p.whole = List.replicate j (CodePoint.ofChar '0') ++ nat d.whole ∧
      p.fraction = d.fraction ++ List.replicate k (CodePoint.ofChar '0') := by
  obtain ⟨hwhole, hfraction⟩ := eq_of_value ((value_ofParts p).trans h)
  obtain ⟨k, hk⟩ := exists_eq_trimZeros_append p.fraction
  have hpadded := eq_padded p.whole_ne_nil p.isDigit_whole
  rw [show ofDigits p.whole = d.whole from hwhole] at hpadded
  exact ⟨_, k, hpadded, by rw [← hfraction]; exact hk⟩

/-- **The numeral of a decimal is the shortest** of all numerals of its number.

**Proof sketch.** Another numeral has `j` zeros more in front and `k` more at the end
(`exists_zeros`). If both are none it is the same numeral; otherwise it has these digits more, and
perhaps the point in front of them. -/
theorem isShortest_text (d : Decimal places) : IsShortest d.value d.text where
  denotes := ⟨d.parts, rfl, d.value_parts⟩
  length_lt := by
    intro p hp hne
    obtain ⟨j, k, hwhole, hfraction⟩ := exists_zeros hp
    have hmore : j ≠ 0 ∨ k ≠ 0 := by
      by_contra hnone
      obtain ⟨rfl, rfl⟩ : j = 0 ∧ k = 0 := by omega
      rw [List.replicate_zero, List.nil_append] at hwhole
      rw [List.replicate_zero, List.append_nil] at hfraction
      exact hne (by rw [Parts.text, hwhole, hfraction, text])
    have hlength := p.length_text
    have hlength' : d.text.length = _ := d.parts.length_text
    simp only [hwhole, hfraction, List.length_append, List.length_replicate,
      List.append_eq_nil_iff, List.replicate_eq_nil_iff] at hlength
    simp only [parts] at hlength'
    rw [hlength, hlength']
    by_cases hempty : d.fraction = []
    · simp only [hempty, if_true, true_and, List.length_nil]
      split <;> omega
    · simp only [hempty, if_false, false_and]
      omega

/-! ## The digits of a fraction -/

/-- The digits of a fraction denote its units, divided by as many as make one. -/
theorem fraction_div_pow (d : Decimal places) :
    (ofDigits d.fraction : ℚ) / 10 ^ d.fraction.length = d.part / 10 ^ places := by
  have hpow : (10 : ℚ) ^ places = 10 ^ d.fraction.length * 10 ^ (places - d.fraction.length) := by
    exact_mod_cast d.pow_eq
  rw [part, hpow]
  push_cast
  exact (mul_div_mul_right _ _ (pow_ne_zero _ (by decide))).symm

/-- The fraction of a number of units is empty exactly if they make a whole number. -/
theorem fraction_ofNat_eq_nil_iff {n : Nat} : (ofNat places n).fraction = [] ↔ 10 ^ places ∣ n := by
  rw [← part_eq_zero_iff, ← (ofNat places n).units_div_mod.2, units_ofNat, Nat.dvd_iff_mod_eq_zero]

/-- The number of a decimal that is made of units. -/
theorem value_ofNat (n : Nat) : (ofNat places n).value = n / 10 ^ places := by
  rw [eq_div_iff (pow_ne_zero _ (by decide)), value_mul_pow, units_ofNat]

end Decimal

/-! ## What is written -/

/-- **What is written for a number of units** is the numeral of its decimal. The whole part must be
within the digit limit, and so must be the units that make one, unless there is no fraction. -/
theorem decimal?_eq_ok_iff {n k : Nat} {t : Text} :
    decimal? n (10 ^ k) = .ok t ↔
      (n / 10 ^ k < 10 ^ digitLimit ∧ (10 ^ k ∣ n ∨ k < digitLimit)) ∧
        (Decimal.ofNat k n).text = t := by
  by_cases h : 10 ^ k ∣ n ∨ k < digitLimit
  · have hwritten := (Decimal.ofNat k n).decimal?_units
      (h.imp_left Decimal.fraction_ofNat_eq_nil_iff.2)
    rw [Decimal.units_ofNat, Decimal.whole_ofNat] at hwritten
    simp only [hwritten, Outcome.map_eq_ok_iff, int?_eq_ok_iff, Int.natAbs_natCast, h, and_true]
    exact ⟨fun ⟨_, ⟨hlimit, _⟩, ht⟩ => ⟨hlimit, ht⟩, fun ⟨hlimit, ht⟩ => ⟨_, ⟨hlimit, rfl⟩, ht⟩⟩
  · have hfails : decimal? n (10 ^ k) = .error .digitLimit := by
      refine decimal?_eq_error (fun hzero => h (.inl (Nat.dvd_of_mod_eq_zero hzero))) ?_
      exact Nat.not_lt.1 fun hk => h (.inr hk)
    simp only [hfails, h, and_false, false_and, reduceCtorEq]

/-- A number of units that is not written breaks the digit limit. -/
theorem eq_digitLimit_of_decimal? {n scale : Nat} {f : Failure} (h : decimal? n scale = .error f) :
    f = .digitLimit := by
  have hint : ∀ {m : Int} {e : Failure}, int? m = .error e → e = .digitLimit := by
    intro m e hm
    unfold int? at hm
    split at hm
    · cases hm
    · exact (Except.error.inj hm).symm
  unfold decimal? at h
  split at h
  · exact hint h
  · rcases Outcome.bind_eq_error_iff.1 h with h | ⟨_, -, h⟩
    · exact hint h
    · rcases Outcome.bind_eq_error_iff.1 h with h | ⟨_, -, h⟩
      · exact hint h
      · cases h

/-- **The shortest numeral is written** of every number of units, whatever power of ten makes one. It
is written exactly if the whole part is within the digit limit and, unless there is no fraction, the
power of ten is within the limit as well; the digit limit is what fails otherwise. The numeral is the
shortest one that denotes the quotient. It consists of the canonical numeral of the whole part, and of
a point with a fraction behind it unless the quotient is a whole number. The fraction has no more
digits than the power has zeros, does not end with a zero, and denotes what is left of the whole
part. -/
theorem decimal?_isShortest (n k : Nat) :
    ((∃ t, decimal? n (10 ^ k) = .ok t) ↔
        n / 10 ^ k < 10 ^ digitLimit ∧ (10 ^ k ∣ n ∨ k < digitLimit)) ∧
      (∀ f, decimal? n (10 ^ k) = .error f → f = .digitLimit) ∧
      ∀ t, decimal? n (10 ^ k) = .ok t →
        IsShortest ((n : ℚ) / 10 ^ k) t ∧
          ∃ whole fraction : Text, IsNat (n / 10 ^ k) whole ∧
            t = whole ++ (if fraction = [] then [] else CodePoint.ofChar '.' :: fraction) ∧
            (fraction = [] ↔ 10 ^ k ∣ n) ∧ fraction.length ≤ k ∧
            (∀ c ∈ fraction, c.isDigit = true) ∧
            fraction.getLast? ≠ some (CodePoint.ofChar '0') ∧
            (ofDigits fraction : ℚ) / 10 ^ fraction.length = (n % 10 ^ k : Nat) / 10 ^ k := by
  refine ⟨?_, fun f h => eq_digitLimit_of_decimal? h, fun t h => ?_⟩
  · simp only [decimal?_eq_ok_iff]
    exact ⟨fun ⟨_, h, _⟩ => h, fun h => ⟨_, h, rfl⟩⟩
  · obtain ⟨-, rfl⟩ := decimal?_eq_ok_iff.1 h
    let d := Decimal.ofNat k n
    have hwhole : IsNat (n / 10 ^ k) (nat d.whole) := by
      rw [Decimal.whole_ofNat]
      exact isNat_nat _
    have hpart : d.part = n % 10 ^ k := by
      rw [← d.units_div_mod.2, Decimal.units_ofNat]
    refine ⟨?_, nat d.whole, d.fraction, hwhole, rfl, Decimal.fraction_ofNat_eq_nil_iff, d.length_le,
      d.isDigit, d.last_ne, ?_⟩
    · rw [← Decimal.value_ofNat]
      exact d.isShortest_text
    · rw [d.fraction_div_pow, hpart]

/-- One unit, if it takes a power of ten with one digit more than are written to make one: the whole
part is zero, but there is no numeral. -/
theorem decimal?_scale_beyond_limit :
    1 / 10 ^ 4300 < 10 ^ digitLimit ∧ ¬∃ t, decimal? 1 (10 ^ 4300) = .ok t := by
  have hone : ∀ k, digitLimit ≤ k →
      1 / 10 ^ k < 10 ^ digitLimit ∧ ¬∃ t, decimal? 1 (10 ^ k) = .ok t := by
    intro k hk
    have hpos : k ≠ 0 := fun hzero => absurd (hzero ▸ hk) (by decide)
    have hlt : 1 < 10 ^ k := Nat.one_lt_pow hpos (by decide)
    have hpart : 1 % 10 ^ k ≠ 0 := by
      rw [Nat.mod_eq_of_lt hlt]
      exact Nat.one_ne_zero
    refine ⟨?_, ?_⟩
    · rw [Nat.div_eq_of_lt hlt]
      exact Nat.pow_pos (by decide)
    · rw [decimal?_eq_error hpart hk]
      rintro ⟨t, h⟩
      cases h
  exact hone 4300 (le_refl digitLimit)

end TimeWindow.Numeral
