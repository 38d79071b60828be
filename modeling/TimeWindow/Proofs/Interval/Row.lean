import TimeWindow.Proofs.Interval.Payload

set_option autoImplicit false

/-!
# Rows and payloads

What is written for an interval and what is read from a payload are checked separately: the writer
also takes objects that stand for an integer, the reader takes integers alone, and either refuses
truth values and integers beyond 64 bits. The two agree nevertheless: a mapping that has been
written is read as the interval of its two integers, and an interval that has been read is written
as the mapping of the two integers that it was read from.

## Main definitions

* `TimeWindow.Row.Fits` — both integers of a row fit in 64 bits.

## Main results

* `TimeWindow.Field.checked_eq_ok_iff`, `TimeWindow.Interval.toRow_eq_ok_iff` — which values are
  written for a field, and which intervals are written.
* `TimeWindow.Interval.toRow_ofPayload_inverse` — writing and reading undo each other, on the same
  integers.
-/

namespace TimeWindow

open Outcome

/-! ## Fields -/

namespace Field

/-- An integer is kept if it fits in 64 bits. -/
theorem checkRange_eq_ok_iff {field : Field} {m n : Int} :
    field.checkRange m = .ok n ↔ m = n ∧ fitsInt64 n = true := by
  unfold checkRange
  constructor
  · intro h
    split at h
    · next hfits =>
      cases h
      exact ⟨rfl, hfits⟩
    · obtain ⟨_, -, h⟩ := bind_eq_ok_iff.1 h
      cases h
  · rintro ⟨rfl, hfits⟩
    rw [if_pos hfits]

/-- **A value is written** as an integer if it is that integer or stands for it, is no truth value,
and fits in 64 bits. -/
theorem checked_eq_ok_iff {field : Field} {v : Value} {n : Int} :
    field.checked v = .ok n ↔ (∀ b, v ≠ .bool b) ∧ v.integer? = some n ∧ fitsInt64 n = true := by
  unfold checked
  constructor
  · intro h
    split at h
    · obtain ⟨_, -, h⟩ := bind_eq_ok_iff.1 h
      cases h
    · next hbool =>
      split at h
      · next m hm =>
        obtain ⟨rfl, hfits⟩ := checkRange_eq_ok_iff.1 h
        exact ⟨hbool, hm, hfits⟩
      · obtain ⟨_, -, h⟩ := bind_eq_ok_iff.1 h
        cases h
  · rintro ⟨hbool, hm, hfits⟩
    split
    · next b => exact absurd rfl (hbool b)
    · rw [hm]
      exact checkRange_eq_ok_iff.2 ⟨rfl, hfits⟩

/-- An integer is written as itself. -/
theorem checked_int_eq_ok_iff {field : Field} {m n : Int} :
    field.checked (.int m) = .ok n ↔ m = n ∧ fitsInt64 n = true := by
  simp [checked_eq_ok_iff, Value.integer?, Value.number?]

end Field

/-! ## Rows -/

/-- A row **fits in 64 bits** if both integers do. -/
def Row.Fits (r : Row) : Prop :=
  fitsInt64 r.start = true ∧ fitsInt64 r.duration = true

/-- A row that fits in 64 bits is between the bounds. -/
theorem Row.Fits.bounds {r : Row} (h : r.Fits) :
    (-2 ^ 63 ≤ r.start ∧ r.start ≤ 2 ^ 63 - 1) ∧
      -2 ^ 63 ≤ r.duration ∧ r.duration ≤ 2 ^ 63 - 1 :=
  ⟨fitsInt64_eq_true_iff.1 h.1, fitsInt64_eq_true_iff.1 h.2⟩

/-- A mapping of two values under the two keys has them there. -/
theorem Field.value?_dict (a b : Value) :
    let payload : Value := .dict [(.text Field.start.key, a), (.text Field.duration.key, b)]
    Field.start.value? payload = some a ∧ Field.duration.value? payload = some b := by
  have hkeys : Field.start.key ≠ Field.duration.key := by decide
  simp [Field.value?, Value.lookup?, hkeys]

/-- The mapping of a row has the two integers under the two keys. -/
theorem Row.value?_toValue (r : Row) :
    Field.start.value? r.toValue = some (.int r.start) ∧
      Field.duration.value? r.toValue = some (.int r.duration) :=
  Field.value?_dict _ _

namespace Interval

/-- **An interval is written** if both of its fields are. -/
theorem toRow_eq_ok_iff {i : Interval} {r : Row} :
    i.toRow = .ok r ↔
      Field.start.checked i.start = .ok r.start ∧
        Field.duration.checked i.duration = .ok r.duration := by
  rw [toRow, bind_eq_ok_iff]
  constructor
  · rintro ⟨a, ha, h⟩
    obtain ⟨b, hb, h⟩ := bind_eq_ok_iff.1 h
    cases pure_eq_ok_iff.1 h
    exact ⟨ha, hb⟩
  · rintro ⟨ha, hb⟩
    exact ⟨_, ha, bind_eq_ok_iff.2 ⟨_, hb, rfl⟩⟩

/-- What is written fits in 64 bits. -/
theorem fits_of_toRow {i : Interval} {r : Row} (h : i.toRow = .ok r) : r.Fits := by
  obtain ⟨ha, hb⟩ := toRow_eq_ok_iff.1 h
  exact ⟨(Field.checked_eq_ok_iff.1 ha).2.2, (Field.checked_eq_ok_iff.1 hb).2.2⟩

@[simp] theorem start_ofKind (kind : Kind) (a b : Value) : (ofKind kind a b).start = a := by
  cases kind <;> rfl

@[simp] theorem duration_ofKind (kind : Kind) (a b : Value) : (ofKind kind a b).duration = b := by
  cases kind <;> rfl

/-- **An interval of integers is written** as these if they fit in 64 bits. -/
theorem toRow_of_int {i : Interval} {r : Row} (ha : i.start = .int r.start)
    (hb : i.duration = .int r.duration) : i.toRow = .ok r ↔ r.Fits := by
  rw [toRow_eq_ok_iff, ha, hb, Field.checked_int_eq_ok_iff, Field.checked_int_eq_ok_iff, Row.Fits]
  simp only [true_and]

/-- **The mapping of a row is read** as the interval of its integers, if they fit in 64 bits. -/
theorem ofPayload_toValue_eq_ok_iff {kind : Kind} {r : Row} {i : Interval} :
    ofPayload kind r.toValue = .ok i ↔
      r.Fits ∧ i = ofKind kind (.int r.start) (.int r.duration) := by
  obtain ⟨ha, hb⟩ := r.value?_toValue
  rw [ofPayload_eq_ok_iff]
  constructor
  · rintro ⟨x, y, ⟨hx, hxfits⟩, ⟨hy, hyfits⟩, rfl⟩
    rw [ha, Option.some.injEq, Value.int.injEq] at hx
    rw [hb, Option.some.injEq, Value.int.injEq] at hy
    subst hx hy
    exact ⟨⟨hxfits, hyfits⟩, rfl⟩
  · rintro ⟨hfits, rfl⟩
    exact ⟨_, _, ⟨ha, hfits.1⟩, ⟨hb, hfits.2⟩, rfl⟩

/-- **Writing and reading undo each other, on the same integers.** What is written for an interval,
whatever its fields are, is the mapping of two integers of 64 bits that the fields are or stand for;
it is read as the interval of these, which is written in the same way. An interval that is read from
a payload is written as the mapping of the two integers of the payload. And two integers can be
written exactly if they can be read. -/
theorem toRow_ofPayload_inverse :
    (∀ (i : Interval) (p : Value), i.toRow.map Row.toValue = .ok p →
      ∃ x y : Int, p = .dict [(.text "a", .int x), (.text "b", .int y)] ∧
        ((-2 ^ 63 ≤ x ∧ x ≤ 2 ^ 63 - 1) ∧ -2 ^ 63 ≤ y ∧ y ≤ 2 ^ 63 - 1) ∧
        (i.start.integer? = some x ∧ i.duration.integer? = some y) ∧
        (∀ m n, i.start = .int m → i.duration = .int n → x = m ∧ y = n) ∧
        ∀ kind, ofPayload kind p = .ok (ofKind kind (.int x) (.int y)) ∧
          (ofKind kind (.int x) (.int y)).toRow.map Row.toValue = .ok p) ∧
    (∀ (kind : Kind) (p : Value) (i : Interval), ofPayload kind p = .ok i →
      ∃ x y : Int, Field.start.value? p = some (.int x) ∧ Field.duration.value? p = some (.int y) ∧
        i = ofKind kind (.int x) (.int y) ∧
        i.toRow.map Row.toValue = .ok (.dict [(.text "a", .int x), (.text "b", .int y)])) ∧
    ∀ (kind : Kind) (x y : Int),
      (∃ p, (ofKind kind (.int x) (.int y)).toRow.map Row.toValue = .ok p) ↔
        ∃ i, ofPayload kind (.dict [(.text "a", .int x), (.text "b", .int y)]) = .ok i := by
  have hwrite : ∀ (kind : Kind) (r : Row),
      (ofKind kind (.int r.start) (.int r.duration)).toRow = .ok r ↔ r.Fits :=
    fun kind r => toRow_of_int (start_ofKind _ _ _) (duration_ofKind _ _ _)
  refine ⟨fun i p h => ?_, fun kind p i h => ?_, fun kind x y => ?_⟩
  · obtain ⟨r, hr, rfl⟩ := map_eq_ok_iff.1 h
    obtain ⟨ha, hb⟩ := toRow_eq_ok_iff.1 hr
    have hx := (Field.checked_eq_ok_iff.1 ha).2.1
    have hy := (Field.checked_eq_ok_iff.1 hb).2.1
    have hfits := fits_of_toRow hr
    refine ⟨r.start, r.duration, rfl, hfits.bounds, ⟨hx, hy⟩, fun m n hm hn => ?_, fun kind => ?_⟩
    · rw [hm, Field.checked_int_eq_ok_iff] at ha
      rw [hn, Field.checked_int_eq_ok_iff] at hb
      exact ⟨ha.1.symm, hb.1.symm⟩
    · exact ⟨ofPayload_toValue_eq_ok_iff.2 ⟨hfits, rfl⟩,
        map_eq_ok_iff.2 ⟨r, (hwrite kind r).2 hfits, rfl⟩⟩
  · obtain ⟨x, y, ⟨hx, hxfits⟩, ⟨hy, hyfits⟩, rfl⟩ := ofPayload_eq_ok_iff.1 h
    exact ⟨x, y, hx, hy, rfl,
      map_eq_ok_iff.2 ⟨⟨x, y⟩, (hwrite kind ⟨x, y⟩).2 ⟨hxfits, hyfits⟩, rfl⟩⟩
  · constructor
    · rintro ⟨p, h⟩
      obtain ⟨r, hr, -⟩ := map_eq_ok_iff.1 h
      obtain ⟨ha, hb⟩ := toRow_eq_ok_iff.1 hr
      rw [start_ofKind, Field.checked_int_eq_ok_iff] at ha
      rw [duration_ofKind, Field.checked_int_eq_ok_iff] at hb
      rw [ha.1, hb.1]
      exact ⟨_, ofPayload_toValue_eq_ok_iff.2 ⟨fits_of_toRow hr, rfl⟩⟩
    · rintro ⟨i, h⟩
      obtain ⟨hfits, -⟩ := (ofPayload_toValue_eq_ok_iff (r := ⟨x, y⟩)).1 h
      exact ⟨_, map_eq_ok_iff.2 ⟨⟨x, y⟩, (hwrite kind ⟨x, y⟩).2 hfits, rfl⟩⟩

/-- A labelled interval whose start only stands for an integer. The label is not written, and the
start is read as the integer itself. -/
theorem toRow_ofPayload_index :
    (Interval.mk (.indexLike ⟨0, []⟩ (.bool true)) (.int (-5)) (some .none)).toRow.map Row.toValue =
        .ok (.dict [(.text "a", .int 1), (.text "b", .int (-5))]) ∧
      ofPayload .labeled (.dict [(.text "a", .int 1), (.text "b", .int (-5))]) =
        .ok (ofKind .labeled (.int 1) (.int (-5))) := by
  obtain ⟨x, y, hp, -, -, -, h⟩ := toRow_ofPayload_inverse.1
    ⟨.indexLike ⟨0, []⟩ (.bool true), .int (-5), some .none⟩
    (.dict [(.text "a", .int 1), (.text "b", .int (-5))]) rfl
  cases hp
  exact ⟨rfl, (h .labeled).1⟩

end Interval

end TimeWindow
