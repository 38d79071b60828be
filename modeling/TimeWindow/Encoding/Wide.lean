import TimeWindow.Encoding.Fault

set_option autoImplicit false

/-!
# Text in units of two or four bytes

In units of two bytes a code point is one unit, or a pair of surrogates; a surrogate without its
partner stands for itself. In units of four bytes every code point is one unit.

## Main definitions

* `TimeWindow.Encoding.utf16Decode` — the text that units of two bytes spell.
* `TimeWindow.Encoding.utf32Decode` — the text that units of four bytes spell.
-/

namespace TimeWindow.Encoding

/-- The number that bytes in a given order denote. -/
def unitValue (order : ByteOrder) (bytes : List UInt8) : Nat :=
  let bigEndian := match order with
    | .big => bytes
    | .little => bytes.reverse
  bigEndian.foldl (fun n b => n * 256 + b.toNat) 0

/-! ## Units of two bytes -/

/-- The units of two bytes, the first of which is at position `start`. A single byte at the end is
no unit. -/
def units16 (order : ByteOrder) : (start : Nat) → List UInt8 → Except Fault (List Nat)
  | _, [] => .ok []
  | start, [b] => .error ⟨.utf16 order, b, start, 1, .truncated⟩
  | start, b :: c :: rest =>
    (units16 order (start + 2) rest).map (unitValue order [b, c] :: ·)

/-- The first half of a pair of surrogates. -/
def isHighSurrogate (n : Nat) : Bool :=
  0xD800 ≤ n && n < 0xDC00

/-- The second half of a pair of surrogates. -/
def isLowSurrogate (n : Nat) : Bool :=
  0xDC00 ≤ n && n < 0xE000

/-- The code point of a pair of surrogates. -/
def joinSurrogates (high low : Nat) : CodePoint :=
  .ofNat (0x10000 + high % 1024 * 1024 + low % 1024)

/-- The text of units, surrogate pairs joined. -/
def joinUnits : List Nat → Text
  | [] => []
  | [n] => [.ofNat n]
  | n :: m :: rest =>
    if isHighSurrogate n && isLowSurrogate m then joinSurrogates n m :: joinUnits rest
    else .ofNat n :: joinUnits (m :: rest)

/-- The **text that units of two bytes spell**. -/
def utf16Decode (order : ByteOrder) (start : Nat) (bytes : List UInt8) : Except Fault Text :=
  (units16 order start bytes).map joinUnits

/-! ## Units of four bytes -/

/-- The **text that units of four bytes spell**. -/
def utf32Decode (order : ByteOrder) : (start : Nat) → List UInt8 → Except Fault Text
  | _, [] => .ok []
  | start, b :: c :: d :: e :: rest =>
    match CodePoint.ofNat? (unitValue order [b, c, d, e]) with
    | some point => (utf32Decode order (start + 4) rest).map (point :: ·)
    | none => .error ⟨.utf32 order, b, start, 4, .outOfRange⟩
  | start, b :: rest => .error ⟨.utf32 order, b, start, rest.length + 1, .truncated⟩

end TimeWindow.Encoding
