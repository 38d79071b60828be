set_option autoImplicit false

/-!
# Code points and text

A text is a list of code points. Surrogates are allowed to stand alone, because a JSON document
may spell one with an escape and the text read from it must keep it; so a text is not a `String`,
but every `String` is a text.

## Main definitions

* `TimeWindow.CodePoint` — a number below `0x110000`.
* `TimeWindow.Text` — a list of code points, with `Text.ofString` and `Text.concat`.
* `TimeWindow.Text.before` — the order of texts by code point.
* `TimeWindow.Text.stripBy` — a text without the code points of a class at its two ends.
-/

namespace TimeWindow

/-! ## Code points -/

/-- A **code point**: a number below `0x110000`, surrogates included. -/
structure CodePoint where
  /-- The number of the code point. -/
  val : Nat
  val_lt : val < 0x110000
deriving DecidableEq

namespace CodePoint

/-- The code point of a character. -/
def ofChar (c : Char) : CodePoint :=
  ⟨c.toNat, by
    have h := c.valid
    simp only [UInt32.isValidChar, Nat.isValidChar] at h
    show c.val.toNat < 0x110000
    omega⟩

instance : Coe Char CodePoint := ⟨ofChar⟩

instance : Inhabited CodePoint := ⟨ofChar '?'⟩

/-- The code point with a given number, if the number is in range. -/
def ofNat? (n : Nat) : Option CodePoint :=
  if h : n < 0x110000 then some ⟨n, h⟩ else none

/-- The code point with a given number, and the replacement character if the number is out of
range. -/
def ofNat (n : Nat) : CodePoint :=
  (ofNat? n).getD (ofChar '\uFFFD')

/-- The code point of a byte, which is the byte itself. -/
def ofByte (b : UInt8) : CodePoint :=
  ⟨b.toNat, by have := b.toNat_lt; omega⟩

/-- The code points from `lo` to `hi`, both included. -/
def inRange (lo hi : Nat) (c : CodePoint) : Bool :=
  decide (lo ≤ c.val ∧ c.val ≤ hi)

/-- The code points of ASCII. -/
def isAscii (c : CodePoint) : Bool :=
  c.val < 0x80

theorem inRange_eq_true_iff {lo hi : Nat} {c : CodePoint} :
    c.inRange lo hi = true ↔ lo ≤ c.val ∧ c.val ≤ hi := by
  simp [inRange]

/-- The ten ASCII digits. -/
def isDigit (c : CodePoint) : Bool :=
  c.inRange 0x30 0x39

/-- The ASCII digit of a number below ten, or of its last decimal place. -/
def ofDigit (d : Nat) : CodePoint :=
  ⟨0x30 + d % 10, by omega⟩

@[simp] theorem val_ofDigit (d : Nat) : (ofDigit d).val = 0x30 + d % 10 := rfl

/-- The lower-case hexadecimal digit of a number below sixteen, or of its last place. -/
def ofHexDigit (d : Nat) : CodePoint :=
  if d % 16 < 10 then ⟨0x30 + d % 16, by omega⟩ else ⟨0x57 + d % 16, by omega⟩

/-- The value of an ASCII hexadecimal digit in either case. -/
def hexValue? (c : CodePoint) : Option Nat :=
  if c.inRange 0x30 0x39 then some (c.val - 0x30)
  else if c.inRange 0x61 0x66 then some (c.val - 0x57)
  else if c.inRange 0x41 0x46 then some (c.val - 0x37)
  else none

end CodePoint

/-! ## Texts -/

/-- A **text**: the list of its code points. -/
abbrev Text : Type := List CodePoint

namespace Text

/-- The text of a string. -/
def ofString (s : String) : Text :=
  s.toList.map CodePoint.ofChar

instance : Coe String Text := ⟨ofString⟩

/-- One text after another. -/
def concat (parts : List Text) : Text :=
  parts.flatten

/-- A text repeated `n` times. -/
def times (n : Nat) (t : Text) : Text :=
  (List.replicate n t).flatten

/-- Texts with a separator between each two neighbours. -/
def separated (separator : Text) : List Text → Text
  | [] => []
  | [t] => t
  | t :: rest => t ++ separator ++ separated separator rest

/-- The order of texts: the first code point that differs decides, and a text comes after its
own beginnings. -/
def before : Text → Text → Bool
  | [], _ => true
  | _ :: _, [] => false
  | c :: s, d :: t => if c = d then before s t else c.val < d.val

/-- A text without the code points of a class at its two ends. -/
def stripBy (p : CodePoint → Bool) (t : Text) : Text :=
  ((t.dropWhile p).reverse.dropWhile p).reverse

/-- A text split at each occurrence of a separator, which belongs to no part. -/
def splitAt (separator : CodePoint) : Text → List Text
  | [] => [[]]
  | c :: rest =>
    if c = separator then [] :: splitAt separator rest
    else match splitAt separator rest with
      | [] => [[c]]
      | part :: parts => (c :: part) :: parts

end Text

end TimeWindow
