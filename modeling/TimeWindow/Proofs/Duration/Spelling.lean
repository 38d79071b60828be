import TimeWindow.Duration.Writing
import TimeWindow.Proofs.Numeral.Decimal

set_option autoImplicit false

/-!
# Spellings of durations

A duration as data: a sign, and the numbers of hours, minutes and so on that stand in its canonical
text. The bounds on the numbers leave one spelling to each duration.

## Main definitions

* `TimeWindow.Duration.TimeUnit` — the units that are written, with their marks.
* `TimeWindow.Duration.Component` — a decimal number of a unit.
* `TimeWindow.Duration.Magnitude` — what may be written of a positive duration.
* `TimeWindow.Duration.Spelling` — zero, or a magnitude with a sign.

## Main results

* `TimeWindow.Duration.Magnitude.sum_nanoseconds` — the components of a magnitude make up its
  nanoseconds.
* `TimeWindow.Duration.Spelling.exists_nanoseconds_eq` — every integer has a spelling.
-/

namespace TimeWindow.Duration

open Numeral

/-! ## Units -/

/-- The **units of time** that are written. -/
inductive TimeUnit where
  | hour | minute | second | millisecond | microsecond | nanosecond
deriving DecidableEq

namespace TimeUnit

/-- The **mark** that stands behind a number of a unit. -/
def mark : TimeUnit → Text
  | .hour => "h"
  | .minute => "m"
  | .second => "s"
  | .millisecond => "ms"
  | .microsecond => "µs"
  | .nanosecond => "ns"

/-- The **nanoseconds** of a unit. -/
def nanoseconds : TimeUnit → Int
  | .hour => Units.hour
  | .minute => Units.minute
  | .second => Units.second
  | .millisecond => Units.millisecond
  | .microsecond => Units.microsecond
  | .nanosecond => Units.nanosecond

/-- The greatest number of digits behind the point: those of a nanosecond, and none in hours and
minutes. -/
def places : TimeUnit → Nat
  | .hour | .minute | .nanosecond => 0
  | .second => 9
  | .millisecond => 6
  | .microsecond => 3

/-- **A unit up to a second** is a power of ten of nanoseconds. -/
theorem nanoseconds_eq_pow {u : TimeUnit} (h : u.nanoseconds ≤ Units.second) :
    u.nanoseconds = 10 ^ u.places := by
  cases u with
  | hour | minute => exact absurd h (by decide)
  | second | millisecond | microsecond | nanosecond => rfl

end TimeUnit

/-! ## Components -/

/-- A **component** of a duration: a decimal number of a unit. -/
structure Component where
  unit : TimeUnit
  number : Decimal unit.places

namespace Component

/-- The text of a component: the number and the mark of the unit. -/
def text (c : Component) : Text :=
  c.number.text ++ c.unit.mark

/-- The **nanoseconds of a component**, as a fraction that need not be whole. -/
def nanoseconds (c : Component) : ℚ :=
  c.number.value * c.unit.nanoseconds

/-- A number of a unit up to a second, to the nanosecond. -/
theorem nanoseconds_of_le {unit : TimeUnit} (h : unit.nanoseconds ≤ Units.second)
    (number : Decimal unit.places) : nanoseconds ⟨unit, number⟩ = number.units := by
  rw [nanoseconds, TimeUnit.nanoseconds_eq_pow h, ← number.value_mul_pow]
  push_cast
  rfl

/-- A whole number of a unit. -/
theorem nanoseconds_ofWhole (unit : TimeUnit) (n : Nat) :
    nanoseconds ⟨unit, .ofWhole n⟩ = n * unit.nanoseconds := by
  rw [nanoseconds, Decimal.value_ofWhole]

end Component

/-! ## Magnitudes -/

/-- What may be **written of a positive duration**: one number from 1 to 999 of a unit below a
second; or seconds below 60, alone if they are not below one, or behind minutes from 1 to 59, or
behind hours and minutes from 0 to 59. -/
inductive Magnitude where
  | short (unit : TimeUnit) (number : Decimal unit.places)
      (isShort : unit.nanoseconds < Units.second)
      (whole_mem : 1 ≤ number.whole ∧ number.whole ≤ 999)
  | seconds (s : Decimal 9) (whole_mem : 1 ≤ s.whole ∧ s.whole ≤ 59)
  | minutes (m : Nat) (s : Decimal 9) (minutes_mem : 1 ≤ m ∧ m ≤ 59) (whole_le : s.whole ≤ 59)
  | hours (h m : Nat) (s : Decimal 9) (hours_pos : 1 ≤ h) (minutes_le : m ≤ 59)
      (whole_le : s.whole ≤ 59)

namespace Magnitude

/-- The **components** of a magnitude, the greatest unit first. -/
def components : Magnitude → List Component
  | .short unit number _ _ => [⟨unit, number⟩]
  | .seconds s _ => [⟨.second, s⟩]
  | .minutes m s _ _ => [⟨.minute, .ofWhole m⟩, ⟨.second, s⟩]
  | .hours h m s _ _ _ => [⟨.hour, .ofWhole h⟩, ⟨.minute, .ofWhole m⟩, ⟨.second, s⟩]

/-- The text of a magnitude: its components one after another. -/
def text (m : Magnitude) : Text :=
  m.components.flatMap Component.text

@[simp] theorem text_short (unit : TimeUnit) (number : Decimal unit.places)
    (isShort : unit.nanoseconds < Units.second)
    (whole_mem : 1 ≤ number.whole ∧ number.whole ≤ 999) :
    (short unit number isShort whole_mem).text = number.text ++ unit.mark := by
  simp [text, components, Component.text]

@[simp] theorem text_seconds (s : Decimal 9) (whole_mem : 1 ≤ s.whole ∧ s.whole ≤ 59) :
    (seconds s whole_mem).text = s.text ++ Text.ofString "s" := by
  simp [text, components, Component.text, TimeUnit.mark]
  rfl

@[simp] theorem text_minutes (m : Nat) (s : Decimal 9) (minutes_mem : 1 ≤ m ∧ m ≤ 59)
    (whole_le : s.whole ≤ 59) :
    (minutes m s minutes_mem whole_le).text =
      nat m ++ (Text.ofString "m" ++ (s.text ++ Text.ofString "s")) := by
  simp [text, components, Component.text, TimeUnit.mark]
  rfl

@[simp] theorem text_hours (h m : Nat) (s : Decimal 9) (hours_pos : 1 ≤ h) (minutes_le : m ≤ 59)
    (whole_le : s.whole ≤ 59) :
    (hours h m s hours_pos minutes_le whole_le).text =
      nat h ++ (Text.ofString "h" ++
        (nat m ++ (Text.ofString "m" ++ (s.text ++ Text.ofString "s")))) := by
  simp [text, components, Component.text, TimeUnit.mark]
  rfl

/-- The **nanoseconds** of a magnitude. -/
def nanoseconds : Magnitude → Nat
  | .short _ number _ _ => number.units
  | .seconds s _ => s.units
  | .minutes m s _ _ => 60000000000 * m + s.units
  | .hours h m s _ _ _ => 3600000000000 * h + 60000000000 * m + s.units

/-- A duration of a short unit is shorter than a second. -/
theorem units_lt {unit : TimeUnit} (number : Decimal unit.places)
    (isShort : unit.nanoseconds < Units.second) (whole_le : number.whole ≤ 999) :
    number.units < 1000000000 := by
  have hplaces : unit.places ≤ 6 := by
    cases unit with
    | hour | minute | second => exact absurd isShort (by decide)
    | millisecond | microsecond | nanosecond => decide
  calc number.units
      < (number.whole + 1) * 10 ^ unit.places := number.units_mem.2
    _ ≤ 1000 * 10 ^ 6 :=
      Nat.mul_le_mul (by omega) (Nat.pow_le_pow_right (by decide) hplaces)

/-- A magnitude is positive. -/
theorem nanoseconds_pos (m : Magnitude) : 0 < m.nanoseconds := by
  cases m with
  | short unit number isShort whole_mem =>
    have hpos : 0 < number.whole * 10 ^ unit.places :=
      Nat.mul_pos whole_mem.1 (Nat.pow_pos (by decide))
    exact Nat.lt_of_lt_of_le hpos number.units_mem.1
  | seconds s whole_mem =>
    have := s.units_mem
    rw [nanoseconds]
    omega
  | minutes m s minutes_mem whole_le =>
    rw [nanoseconds]
    omega
  | hours h m s hours_pos minutes_le whole_le =>
    rw [nanoseconds]
    omega

/-- **The components of a magnitude** make up its nanoseconds. -/
theorem sum_nanoseconds (m : Magnitude) :
    (m.components.map Component.nanoseconds).sum = m.nanoseconds := by
  have hsecond (s : Decimal 9) : Component.nanoseconds ⟨.second, s⟩ = s.units :=
    Component.nanoseconds_of_le (le_refl TimeUnit.second.nanoseconds) s
  have hminute (k : Nat) : Component.nanoseconds ⟨.minute, .ofWhole k⟩ = 60000000000 * k := by
    rw [Component.nanoseconds_ofWhole, mul_comm]
    rfl
  have hhour (k : Nat) : Component.nanoseconds ⟨.hour, .ofWhole k⟩ = 3600000000000 * k := by
    rw [Component.nanoseconds_ofWhole, mul_comm]
    rfl
  cases m with
  | short unit number isShort _ =>
    simp [components, nanoseconds, Component.nanoseconds_of_le (le_of_lt isShort) number]
  | seconds s _ => simp [components, nanoseconds, hsecond]
  | minutes m s _ _ => simp [components, nanoseconds, hminute, hsecond]
  | hours h m s _ _ _ => simp [components, nanoseconds, hhour, hminute, hsecond, add_assoc]

/-- **Every positive number of nanoseconds** is that of a magnitude. -/
theorem exists_nanoseconds_eq {n : Nat} (h : 0 < n) :
    ∃ m : Magnitude, m.nanoseconds = n := by
  by_cases hnano : n < 1000
  · refine ⟨.short .nanosecond (.ofNat 0 n) (by decide) ?_, Decimal.units_ofNat 0 n⟩
    rw [Decimal.whole_ofNat]
    omega
  by_cases hmicro : n < 1000000
  · refine ⟨.short .microsecond (.ofNat 3 n) (by decide) ?_, Decimal.units_ofNat 3 n⟩
    rw [Decimal.whole_ofNat]
    omega
  by_cases hmilli : n < 1000000000
  · refine ⟨.short .millisecond (.ofNat 6 n) (by decide) ?_, Decimal.units_ofNat 6 n⟩
    rw [Decimal.whole_ofNat]
    omega
  -- From one second on, the seconds are what is left of whole minutes.
  have hseconds : (Decimal.ofNat 9 (n % 60000000000)).whole = n % 60000000000 / 1000000000 :=
    Decimal.whole_ofNat 9 _
  by_cases hhours : n / 3600000000000 = 0
  · by_cases hminutes : n / 60000000000 = 0
    · refine ⟨.seconds (.ofNat 9 (n % 60000000000)) (by omega), ?_⟩
      rw [nanoseconds, Decimal.units_ofNat]
      omega
    · refine ⟨.minutes (n / 60000000000) (.ofNat 9 (n % 60000000000)) (by omega) (by omega), ?_⟩
      rw [nanoseconds, Decimal.units_ofNat]
      omega
  · refine ⟨.hours (n / 3600000000000) (n % 3600000000000 / 60000000000)
      (.ofNat 9 (n % 60000000000)) (by omega) (by omega) (by omega), ?_⟩
    rw [nanoseconds, Decimal.units_ofNat]
    omega

end Magnitude

/-! ## Spellings -/

/-- A **spelling** of a duration: zero, or a positive duration with or without a minus sign. -/
inductive Spelling where
  | zero
  | signed (negative : Bool) (magnitude : Magnitude)

namespace Spelling

/-- The **text** of a spelling. -/
def text : Spelling → Text
  | .zero => "0s"
  | .signed negative magnitude =>
    if negative then CodePoint.ofChar '-' :: magnitude.text else magnitude.text

/-- The **nanoseconds** of a spelling. -/
def nanoseconds : Spelling → Int
  | .zero => 0
  | .signed negative magnitude =>
    if negative then -(magnitude.nanoseconds : Int) else magnitude.nanoseconds

/-- **Every integer** is the number of nanoseconds of a spelling. -/
theorem exists_nanoseconds_eq (n : Int) : ∃ s : Spelling, s.nanoseconds = n := by
  by_cases hzero : n = 0
  · exact ⟨.zero, hzero.symm⟩
  · obtain ⟨m, hm⟩ := Magnitude.exists_nanoseconds_eq (Int.natAbs_pos.2 hzero)
    refine ⟨.signed (decide (n < 0)) m, ?_⟩
    by_cases hneg : n < 0
    · simp only [nanoseconds, hm, hneg, decide_true, if_true]
      omega
    · simp only [nanoseconds, hm, hneg, decide_false, Bool.false_eq_true, if_false]
      omega

end Spelling

end TimeWindow.Duration
