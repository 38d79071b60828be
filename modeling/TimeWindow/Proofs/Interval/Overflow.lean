import TimeWindow.Proofs.Interval.Columns
import TimeWindow.Proofs.Numeral.Digits
import TimeWindow.Session.Question

set_option autoImplicit false

/-!
# Integers of any size

The fields of an interval can be integers of any size, and its end is their exact sum. Only writing
is limited to 64 bits: whichever way an interval is written, the first of its fields that does not
fit is refused. The refusal shows the integer. An integer beyond the digit limit cannot be shown,
and then the limit is what is reported, and not the field.

## Main definitions

* `TimeWindow.Row.overflow?` — the first of two integers that does not fit in 64 bits.
* `TimeWindow.Field.rangeRefusal` — how an integer that does not fit is refused.

## Main results

* `TimeWindow.Field.checked_int`, `TimeWindow.Interval.toRow_int` — what is written for integers.
* `TimeWindow.Interval.integers_written_or_refused` — the same for all ways to write an interval.
-/

namespace TimeWindow

open Outcome Session

/-! ## Integers that do not fit -/

/-- How an integer that does not fit in 64 bits **is refused**: the field is named and the integer
is shown, or the digit limit is reported if it cannot be shown. -/
def Field.rangeRefusal (field : Field) (n : Int) : Failure :=
  if n.natAbs < 10 ^ Numeral.digitLimit then .fieldRange field (Numeral.int n) else .digitLimit

/-- **What is written for an integer** is the integer itself, if it fits in 64 bits. -/
theorem Field.checked_int (field : Field) (n : Int) :
    field.checked (.int n) = if fitsInt64 n then .ok n else .error (field.rangeRefusal n) := by
  show field.checkRange n = _
  rw [checkRange]
  split
  · rfl
  · unfold rangeRefusal
    split
    · next hlimit =>
      rw [Numeral.int?_eq_ok_iff.2 ⟨hlimit, rfl⟩]
      rfl
    · next hlimit =>
      rw [Numeral.int?_eq_error hlimit]
      rfl

/-- A refusal is the one for integers out of range exactly if the integer is within the digit
limit. -/
theorem Field.category_rangeRefusal_iff (field : Field) (n : Int) :
    (field.rangeRefusal n).category = .outOfRange ↔ n.natAbs < 10 ^ Numeral.digitLimit := by
  unfold rangeRefusal
  split
  · next h => simp only [Failure.category, h]
  · next h => simp only [Failure.category, h, reduceCtorEq]

/-- The **first integer of a row that does not fit** in 64 bits, with its field. The start is looked
at first. -/
def Row.overflow? (r : Row) : Option (Field × Int) :=
  if ¬(-2 ^ 63 ≤ r.start ∧ r.start ≤ 2 ^ 63 - 1) then some (.start, r.start)
  else if ¬(-2 ^ 63 ≤ r.duration ∧ r.duration ≤ 2 ^ 63 - 1) then some (.duration, r.duration)
  else none

namespace Interval

/-- **An interval of integers is written** as these, or it is refused because of the first of them
that does not fit. -/
theorem toRow_int (r : Row) (label : Option Value) :
    (Interval.mk (.int r.start) (.int r.duration) label).toRow =
      match r.overflow? with
      | none => .ok r
      | some (field, n) => .error (field.rangeRefusal n) := by
  have hfits : ∀ n, fitsInt64 n = true ↔ -2 ^ 63 ≤ n ∧ n ≤ 2 ^ 63 - 1 :=
    fun n => fitsInt64_eq_true_iff
  rw [toRow, Field.checked_int, Field.checked_int, Row.overflow?]
  simp only [hfits]
  by_cases ha : -2 ^ 63 ≤ r.start ∧ r.start ≤ 2 ^ 63 - 1
  · by_cases hb : -2 ^ 63 ≤ r.duration ∧ r.duration ≤ 2 ^ 63 - 1
    · simp only [ha, hb, and_self, if_true, not_true_eq_false, if_false]
      rfl
    · simp only [ha, hb, and_self, if_true, not_true_eq_false, not_false_eq_true, if_false]
      rfl
  · simp only [ha, not_false_eq_true, if_true, if_false]
    rfl

/-- An interval is **refused in every way** with a failure: by itself, as a row and as a document,
and behind others in a list, whatever follows. -/
def RefusedBehind (before : List Interval) (i : Interval) (f : Failure) : Prop :=
  i.toRow = .error f ∧ i.toDocument = .error f ∧
    ∀ rest, listToDocument (before ++ i :: rest) = .error f ∧
      Columns.ofIntervals (before ++ i :: rest) = .error f

/-- An interval that has no row is refused in every way, if those before it are written. -/
theorem refusedBehind_of_toRow {before : List Interval} {i : Interval} {f : Failure}
    (hbefore : ∀ j ∈ before, ∃ r, j.toRow = .ok r) (h : i.toRow = .error f) :
    RefusedBehind before i f := by
  refine ⟨h, by rw [toDocument, h]; rfl, fun rest => ?_⟩
  have hrows : (before ++ i :: rest).mapM toRow = .error f :=
    mapM_eq_error_iff.2 ⟨before, i, rest, rfl, hbefore, h⟩
  exact ⟨by rw [listToDocument, hrows]; rfl, by rw [Columns.ofIntervals_eq_map, hrows]; rfl⟩

/-- **Integers of any size are kept, and written or refused.** Start, duration and end of an
interval of integers are exact. If both integers fit in 64 bits, the interval is written in every
way. If not, it is refused in every way because of the first one that does not fit: with the refusal
for this field if the integer is within the digit limit, and otherwise with the digit limit, which
is no such refusal. -/
theorem integers_written_or_refused (r : Row) (label : Option Value) {before : List Interval}
    (hbefore : ∀ j ∈ before, ∃ row, j.toRow = .ok row) :
    let i : Interval := ⟨.int r.start, .int r.duration, label⟩
    (Part.start.look i = .ok (.int r.start) ∧ Part.duration.look i = .ok (.int r.duration) ∧
        Part.finish.look i = .ok (.int (r.start + r.duration))) ∧
      (r.overflow? = none →
        i.toRow = .ok r ∧ i.toDocument = .ok r.document ∧
          (∃ t, listToDocument (before ++ [i]) = .ok t) ∧
          ∃ c, Columns.ofIntervals (before ++ [i]) = .ok c) ∧
      ∀ field n, r.overflow? = some (field, n) →
        ∃ f, RefusedBehind before i f ∧
          (n.natAbs < 10 ^ Numeral.digitLimit → f = .fieldRange field (Numeral.int n)) ∧
          (10 ^ Numeral.digitLimit ≤ n.natAbs → f = .digitLimit) ∧
          (f.category = .outOfRange ↔ n.natAbs < 10 ^ Numeral.digitLimit) := by
  intro i
  have hrow := toRow_int r label
  refine ⟨⟨rfl, rfl, finish_int _ _ label⟩, fun hfits => ?_, fun field n hoverflow => ?_⟩
  · rw [hfits] at hrow
    have hall : ∀ j ∈ before ++ [i], ∃ row, j.toRow = .ok row := by
      simpa only [List.forall_mem_append, List.forall_mem_singleton] using
        And.intro hbefore ⟨r, hrow⟩
    obtain ⟨rows, hrows⟩ := exists_mapM_iff.2 hall
    refine ⟨hrow, by rw [toDocument, hrow]; rfl, ⟨_, by rw [listToDocument, hrows]; rfl⟩,
      ⟨_, by rw [Columns.ofIntervals_eq_map, hrows]; rfl⟩⟩
  · rw [hoverflow] at hrow
    refine ⟨field.rangeRefusal n, refusedBehind_of_toRow hbefore hrow, fun hlimit => ?_,
      fun hlimit => ?_, field.category_rangeRefusal_iff n⟩
    · exact if_pos hlimit
    · exact if_neg (Nat.not_lt.2 hlimit)

/-- One more than the greatest integer of 64 bits, as a start behind an interval that is written. -/
theorem integers_refused_behind :
    RefusedBehind [⟨.int 1, .int 2, none⟩] ⟨.int (2 ^ 63), .int (10 ^ 5000), none⟩
      (.fieldRange .start "9223372036854775808") := by
  have hbefore : ∀ j ∈ [Interval.mk (.int 1) (.int 2) none], ∃ row, j.toRow = .ok row := by
    simpa using ⟨⟨1, 2⟩, rfl⟩
  obtain ⟨-, -, h⟩ := integers_written_or_refused ⟨2 ^ 63, 10 ^ 5000⟩ none hbefore
  obtain ⟨f, hf, hshown, -⟩ := h .start (2 ^ 63) rfl
  have hlimit : (2 ^ 63 : Int).natAbs < 10 ^ Numeral.digitLimit :=
    Nat.lt_of_lt_of_le (show (2 ^ 63 : Int).natAbs < 10 ^ 19 by decide)
      (Nat.pow_le_pow_right (by decide) (by decide))
  have htext : Numeral.int (2 ^ 63) = Text.ofString "9223372036854775808" := by
    decide +kernel
  rw [← htext, ← hshown hlimit]
  exact hf

/-- A start with one digit more than are written: the digit limit is reported, and not that the
field is out of range. -/
theorem toRow_beyond_limit :
    (Interval.mk (.int (10 ^ 4300)) (.int 0) none).toRow = .error .digitLimit ∧
      Failure.digitLimit.category ≠ .outOfRange := by
  refine ⟨?_, by decide⟩
  have hrefusal : Field.start.rangeRefusal (10 ^ 4300) = .digitLimit :=
    if_neg Numeral.not_withinLimit_pow
  have hfits : ¬fitsInt64 (10 ^ 4300) = true := fun h =>
    Numeral.not_withinLimit_pow (Numeral.withinLimit_of_fitsInt64 h)
  rw [toRow, Field.checked_int, if_neg hfits, hrefusal]
  rfl

end Interval

end TimeWindow
