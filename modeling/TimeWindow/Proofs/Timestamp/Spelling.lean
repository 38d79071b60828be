import TimeWindow.Proofs.Calendar.Counting
import TimeWindow.Proofs.Timestamp.Cutting

set_option autoImplicit false

/-!
# Spellings of instants

A timestamp as data: the date, the time of day, the fraction and the offset that somebody has
written down, in all the ways in which a timestamp may be written. What a spelling says is counted
from the lengths of years and months, without the arithmetic of day numbers.

## Main definitions

* `TimeWindow.Timestamp.Spelling` — what is written in a timestamp.
* `TimeWindow.Timestamp.Spelling.text` — the timestamp.
* `TimeWindow.Timestamp.Spelling.nanoseconds` — the instant that it names.
* `TimeWindow.Timestamp.Spelling.IsCanonical` — the spellings that are normal forms.

## Main results

* `TimeWindow.Timestamp.OffsetSpelling.spells`, `TimeWindow.Timestamp.Spelling.spellsFraction` — the
  offset and the fraction of a spelling have the shapes of one.
* `TimeWindow.Timestamp.exists_of_spellsFraction` — every text of that shape is a fraction.
-/

namespace TimeWindow.Timestamp

/-! ## Offsets -/

/-- An **offset as it may be written**: `Z` in either case, or a sign and hours, or a sign, hours
and minutes with a colon between them or without. -/
inductive OffsetSpelling where
  | zulu (capital : Bool)
  | hours (west : Bool) (h : Fin 24)
  | minutes (west : Bool) (h : Fin 24) (colon : Bool) (m : Fin 60)
deriving DecidableEq

namespace OffsetSpelling

/-- The text of an offset. -/
def text : OffsetSpelling → Text
  | .zulu capital => if capital then "Z" else "z"
  | .hours west h => signMark west :: Numeral.padded 2 h
  | .minutes west h colon m =>
    signMark west ::
      (Numeral.padded 2 h ++ ((if colon then Text.ofString ":" else []) ++ Numeral.padded 2 m))

/-- The **signed seconds** of an offset, positive east of UTC. -/
def seconds : OffsetSpelling → Int
  | .zulu _ => 0
  | .hours west h => (if west then -1 else 1) * (3600 * (h : Nat))
  | .minutes west h _ m => (if west then -1 else 1) * (3600 * (h : Nat) + 60 * (m : Nat))

/-- The shape that the text of an offset has. -/
def shape : OffsetSpelling → OffsetShape
  | .zulu _ => .zulu
  | .hours west h => .numeric west (Numeral.padded 2 h) []
  | .minutes west h _ m => .numeric west (Numeral.padded 2 h) (Numeral.padded 2 m)

end OffsetSpelling

/-! ## Fractions -/

/-- A **fraction as it may be written**: a point or a comma, and one to nine digits of any
script. -/
structure FractionSpelling where
  comma : Bool
  digits : Text
  length_mem : 1 ≤ digits.length ∧ digits.length ≤ 9
  isDecimal : ∀ c ∈ digits, isDecimal c = true

namespace FractionSpelling

/-- The text of a fraction. -/
def text (f : FractionSpelling) : Text :=
  CodePoint.ofChar (if f.comma then ',' else '.') :: f.digits

/-- The number that the digits of a fraction spell, each by its value in its script. -/
def number (f : FractionSpelling) : Nat :=
  Nat.ofDigits 10 (f.digits.map fun c => c.decimalValue?.getD 0).reverse

/-- The **nanoseconds** of a fraction. -/
def nanoseconds (f : FractionSpelling) : Nat :=
  f.number * 10 ^ (9 - f.digits.length)

/-- **A fraction is less than a second**, whatever the script of its digits is. -/
theorem nanoseconds_lt (f : FractionSpelling) : f.nanoseconds < 10 ^ 9 := by
  have hdigits : ∀ d ∈ f.digits.map (fun c => c.decimalValue?.getD 0), d < 10 := by
    intro d hd
    obtain ⟨c, -, rfl⟩ := List.mem_map.1 hd
    cases hvalue : c.decimalValue? with
    | none => decide
    | some d => exact CodePoint.decimalValue?_lt hvalue
  have hnumber : f.number < 10 ^ f.digits.length := by
    rw [number, ← Numeral.value_eq_ofDigits]
    simpa using Numeral.value_lt hdigits
  calc f.nanoseconds
      < 10 ^ f.digits.length * 10 ^ (9 - f.digits.length) :=
        Nat.mul_lt_mul_of_pos_right hnumber (Nat.pow_pos (by decide))
    _ = 10 ^ 9 := by rw [← Nat.pow_add, Nat.add_sub_cancel' f.length_mem.2]

/-- A fraction is **canonical** if it has a point and its digits are in ASCII, without a zero at the
end. -/
structure IsCanonical (f : FractionSpelling) : Prop where
  point : f.comma = false
  isDigit : ∀ c ∈ f.digits, c.isDigit = true
  last_ne : f.digits.getLast? ≠ some (CodePoint.ofChar '0')

end FractionSpelling

/-! ## Timestamps -/

/-- The fields **are a date** of the years 1 to 9999. -/
def IsDate (year month day : Nat) : Prop :=
  (1 ≤ year ∧ year ≤ 9999) ∧ (1 ≤ month ∧ month ≤ 12) ∧
    1 ≤ day ∧ day ≤ Calendar.daysInMonth year month

/-- The fields **are a time of day** on a date: at most 23:59:59, or 24:00:00, which is a time of
every day but the last. -/
def IsTime (year month day hour minute second : Nat) : Prop :=
  (hour ≤ 23 ∧ minute ≤ 59 ∧ second ≤ 59) ∨
    (hour = 24 ∧ minute = 0 ∧ second = 0) ∧ ¬(year = 9999 ∧ month = 12 ∧ day = 31)

instance (year month day : Nat) : Decidable (IsDate year month day) := by
  unfold IsDate; infer_instance

instance (year month day hour minute second : Nat) :
    Decidable (IsTime year month day hour minute second) := by
  unfold IsTime; infer_instance

/-- A **spelling**: what is written in a timestamp. -/
structure Spelling where
  year : Nat
  month : Nat
  day : Nat
  hour : Nat
  minute : Nat
  second : Nat
  fraction : Option FractionSpelling
  offset : OffsetSpelling
  isDate : IsDate year month day
  isTime : IsTime year month day hour minute second

namespace Spelling

/-- The text of the fraction, empty if there is none. -/
def fractionText (s : Spelling) : Text :=
  (s.fraction.map FractionSpelling.text).getD []

/-- The digits of the fraction. -/
def fractionDigits (s : Spelling) : Text :=
  (s.fraction.map FractionSpelling.digits).getD []

/-- The **timestamp** of a spelling: `YYYY-MM-DDThh:mm:ss`, the fraction and the offset. -/
def text (s : Spelling) : Text :=
  Text.concat [Numeral.padded 4 s.year, "-", Numeral.padded 2 s.month, "-",
    Numeral.padded 2 s.day, "T", Numeral.padded 2 s.hour, ":", Numeral.padded 2 s.minute, ":",
    Numeral.padded 2 s.second, s.fractionText, s.offset.text]

/-- The **instant** that a spelling names, in nanoseconds since the epoch: whole days counted one by
one, the time of day less the offset, and the fraction. -/
def nanoseconds (s : Spelling) : Int :=
  10 ^ 9 * (86400 * Calendar.daysSinceEpoch s.year s.month s.day + 3600 * s.hour + 60 * s.minute +
      s.second - s.offset.seconds) +
    (s.fraction.map FractionSpelling.nanoseconds).getD 0

/-- The fraction of a spelling is less than a second. -/
theorem fraction_lt (s : Spelling) :
    (s.fraction.map FractionSpelling.nanoseconds).getD 0 < 10 ^ 9 := by
  cases s.fraction with
  | none => decide
  | some f => exact f.nanoseconds_lt

/-- A spelling is **canonical** if it is in universal time, written with a capital letter, of an
hour of the day itself, with a canonical fraction or none. -/
structure IsCanonical (s : Spelling) : Prop where
  hour_le : s.hour ≤ 23
  offset_eq : s.offset = .zulu true
  fraction : ∀ f ∈ s.fraction, f.IsCanonical

/-- The shape that the timestamp of a spelling has. -/
def shape (s : Spelling) : Shape where
  year := Numeral.padded 4 s.year
  month := Numeral.padded 2 s.month
  day := Numeral.padded 2 s.day
  hour := Numeral.padded 2 s.hour
  minute := Numeral.padded 2 s.minute
  second := Numeral.padded 2 s.second
  fraction := s.fractionDigits
  offset := some s.offset.shape

end Spelling

/-! ## Written fields -/

/-- A field of two digits. -/
theorem padded_two_spec {n : Nat} (h : n < 100) :
    (Numeral.padded 2 n).length = 2 ∧ ∀ c ∈ Numeral.padded 2 n, isDecimal c = true :=
  ⟨Numeral.length_padded (by decide) h, fun c hc =>
    isDecimal_of_isDigit (Numeral.isDigit_of_mem_padded c hc)⟩

/-- What a padded field says. -/
theorem digitsValue_padded (width n : Nat) : digitsValue (Numeral.padded width n) = n := by
  rw [digitsValue_of_isDigit Numeral.isDigit_of_mem_padded, Numeral.ofDigits_padded]

/-- **A field of ASCII digits** is the padded numeral of what it says. -/
theorem eq_padded_digitsValue {t : Text} {width : Nat} (hw : 1 ≤ width) (hlen : t.length = width)
    (hdec : ∀ c ∈ t, isDecimal c = true) (hascii : ∀ c ∈ t, c.isAscii = true) :
    t = Numeral.padded width (digitsValue t) := by
  have hdig : ∀ c ∈ t, c.isDigit = true := fun c hc => isDigit_of_isDecimal (hdec c hc) (hascii c hc)
  have hne : t ≠ [] := by
    rintro rfl
    simp at hlen
    omega
  rw [digitsValue_of_isDigit hdig, ← hlen]
  exact Numeral.eq_padded hne hdig

/-- A digit is no blank. -/
theorem isBlank_of_isDigit {c : CodePoint} (h : c.isDigit = true) : c.isBlank = false := by
  have := CodePoint.isDigit_eq_true_iff.1 h
  simp only [CodePoint.isBlank, CodePoint.inRange, Bool.or_eq_false_iff, decide_eq_false_iff_not,
    beq_eq_false_iff_ne]
  omega

/-! ## Offsets and fractions as shapes -/

theorem OffsetSpelling.spells (w : OffsetSpelling) : SpellsOffset w.text w.shape := by
  cases w with
  | zulu capital =>
    cases capital
    · exact .zulu (.inr rfl)
    · exact .zulu (.inl rfl)
  | hours west h =>
    have hh := padded_two_spec (show (h : Nat) < 100 by omega)
    exact SpellsOffset.hours west hh.1 hh.2
  | minutes west h colon m =>
    have hh := padded_two_spec (show (h : Nat) < 100 by omega)
    have hm := padded_two_spec (show (m : Nat) < 100 by omega)
    refine SpellsOffset.minutes west hh.1 hh.2 ?_ hm.1 hm.2
    cases colon
    · exact .inl rfl
    · exact .inr rfl

theorem FractionSpelling.spells (f : FractionSpelling) : SpellsFraction f.text f.digits :=
  .inr ⟨_, by cases f.comma <;> simp, rfl, f.length_mem, f.isDecimal⟩

theorem Spelling.spellsFraction (s : Spelling) :
    SpellsFraction s.fractionText s.fractionDigits := by
  unfold fractionText fractionDigits
  cases s.fraction with
  | none => exact .inl ⟨rfl, rfl⟩
  | some f => exact f.spells

/-- Every text that spells a fraction is the text of one. -/
theorem exists_of_spellsFraction {t digits : Text} (h : SpellsFraction t digits) :
    ∃ f : Option FractionSpelling, (f.map FractionSpelling.text).getD [] = t ∧
      (f.map FractionSpelling.digits).getD [] = digits := by
  rcases h with ⟨rfl, rfl⟩ | ⟨mark, hmark, rfl, hlen, hall⟩
  · exact ⟨none, rfl, rfl⟩
  · refine ⟨some ⟨decide (mark = CodePoint.ofChar ','), digits, hlen, hall⟩, ?_, rfl⟩
    rcases hmark with rfl | rfl <;> rfl

end TimeWindow.Timestamp
