import TimeWindow.Text.Basic

set_option autoImplicit false

/-!
# Decimal digits of all scripts

The code points of general category Nd (Unicode 14). They come in runs of ten with ascending
values, so a table of the zeros fixes both the class and the value of each digit.

## Main definitions

* `TimeWindow.CodePoint.decimalZeros` — the zero of each run.
* `TimeWindow.CodePoint.decimalValue?` — the value of a digit of any script.
-/

namespace TimeWindow.CodePoint

/-- The digit zero of each script, in ascending order; the nine digits after it follow it. -/
def decimalZeros : List Nat :=
  [0x30, 0x660, 0x6F0, 0x7C0, 0x966, 0x9E6, 0xA66, 0xAE6, 0xB66, 0xBE6, 0xC66, 0xCE6, 0xD66,
    0xDE6, 0xE50, 0xED0, 0xF20, 0x1040, 0x1090, 0x17E0, 0x1810, 0x1946, 0x19D0, 0x1A80, 0x1A90,
    0x1B50, 0x1BB0, 0x1C40, 0x1C50, 0xA620, 0xA8D0, 0xA900, 0xA9D0, 0xA9F0, 0xAA50, 0xABF0,
    0xFF10, 0x104A0, 0x10D30, 0x11066, 0x110F0, 0x11136, 0x111D0, 0x112F0, 0x11450, 0x114D0,
    0x11650, 0x116C0, 0x11730, 0x118E0, 0x11950, 0x11C50, 0x11D50, 0x11DA0, 0x16A60, 0x16AC0,
    0x16B50, 0x1D7CE, 0x1D7D8, 0x1D7E2, 0x1D7EC, 0x1D7F6, 0x1E140, 0x1E2F0, 0x1E950, 0x1FBF0]

/-- The **value of a decimal digit** of any script, and nothing for any other code point. -/
def decimalValue? (c : CodePoint) : Option Nat :=
  (decimalZeros.find? fun z => c.inRange z (z + 9)).map (c.val - ·)

/-- The ASCII digits are decimal digits, with their own value. -/
theorem decimalValue?_ofDigit (d : Nat) : decimalValue? (ofDigit d) = some (d % 10) := by
  have hr : (ofDigit d).inRange 0x30 0x39 = true := by
    rw [inRange_eq_true_iff, val_ofDigit]
    omega
  rw [decimalValue?, decimalZeros,
    List.find?_cons_of_pos (p := fun z => (ofDigit d).inRange z (z + 9)) hr]
  simp

/-- The value of a decimal digit is below ten. -/
theorem decimalValue?_lt {c : CodePoint} {d : Nat} (h : c.decimalValue? = some d) : d < 10 := by
  obtain ⟨z, hz, rfl⟩ := Option.map_eq_some_iff.1 h
  have hrange : c.inRange z (z + 9) = true := by simpa using List.find?_some hz
  have := inRange_eq_true_iff.1 hrange
  omega

end TimeWindow.CodePoint
