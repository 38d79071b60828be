import TimeWindow.Encoding.Fault

set_option autoImplicit false

/-!
# Text in bytes

A code point below 128 is its byte. Any other is a leading byte, which says how many bytes follow
and holds the high bits, and one to three continuation bytes of six bits each. The range of the
first continuation byte depends on the leading byte, so that no code point has two spellings.
Surrogates are spelled like other code points.

## Main definitions

* `TimeWindow.Encoding.utf8Decode` — the text that bytes spell.
* `TimeWindow.Encoding.utf8Encode` — the bytes that spell a text.
-/

namespace TimeWindow.Encoding

/-! ## Reading -/

/-- A **leading byte**: how many bytes follow, the range of the first of them, and the high bits of
the code point. -/
structure Lead where
  count : Nat
  low : Nat
  high : Nat
  bits : Nat

/-- What a byte says as a leading byte of a longer sequence. -/
def lead? (b : Nat) : Option Lead :=
  if b < 0xC2 then none
  else if b < 0xE0 then some ⟨1, 0x80, 0xBF, b - 0xC0⟩
  else if b < 0xF0 then
    some ⟨2, if b = 0xE0 then 0xA0 else 0x80, if b = 0xED then 0x9F else 0xBF, b - 0xE0⟩
  else if b < 0xF5 then
    some ⟨3, if b = 0xF0 then 0x90 else 0x80, if b = 0xF4 then 0x8F else 0xBF, b - 0xF0⟩
  else none

/-- The number that continuation bytes complete. The first byte has a range of its own; `seen`
bytes of the sequence come before. A failure says how many bytes are to blame. -/
def continuations : (count low high seen bits : Nat) → List UInt8 → Except (Nat × Reason) Nat
  | 0, _, _, _, bits, _ => .ok bits
  | _ + 1, _, _, seen, _, [] => .error (seen, .endOfData)
  | count + 1, low, high, seen, bits, b :: rest =>
    if low ≤ b.toNat ∧ b.toNat ≤ high then
      continuations count 0x80 0xBF (seen + 1) (bits * 64 + b.toNat % 64) rest
    else .error (seen, .continuationByte)

/-- A surrogate that the byte `0xED` leads: the one sequence outside the ranges that is read. -/
def surrogate? : List UInt8 → Option CodePoint
  | b :: c :: _ =>
    if 0xA0 ≤ b.toNat ∧ b.toNat ≤ 0xBF ∧ 0x80 ≤ c.toNat ∧ c.toNat ≤ 0xBF then
      some (.ofNat (0xD000 + b.toNat % 64 * 64 + c.toNat % 64))
    else none
  | _ => none

/-- The code point that a byte begins, and how many bytes after it belong to it. -/
def utf8Sequence (b : UInt8) (rest : List UInt8) : Except (Nat × Reason) (CodePoint × Nat) :=
  if b.toNat < 0x80 then .ok (.ofByte b, 0)
  else match (if b = 0xED then surrogate? rest else none) with
    | some c => .ok (c, 2)
    | none =>
      match lead? b.toNat with
      | none => .error (1, .startByte)
      | some lead =>
        (continuations lead.count lead.low lead.high 1 lead.bits rest).map fun n =>
          (.ofNat n, lead.count)

/-- The text that bytes spell, if the first of them is at position `start`. -/
def utf8DecodeFrom (start : Nat) : List UInt8 → Except Fault Text
  | [] => .ok []
  | b :: rest =>
    match utf8Sequence b rest with
    | .error (count, reason) => .error ⟨.utf8, b, start, count, reason⟩
    | .ok (c, more) =>
      (utf8DecodeFrom (start + 1 + more) (rest.drop more)).map (c :: ·)
termination_by bytes => bytes.length
decreasing_by simp only [List.length_drop, List.length_cons]; omega

/-- The **text that bytes spell**. -/
def utf8Decode (bytes : List UInt8) : Except Fault Text :=
  utf8DecodeFrom 0 bytes

/-! ## Writing -/

/-- A continuation byte with the last six bits of a number. -/
def continuationByte (n : Nat) : UInt8 :=
  UInt8.ofNat (0x80 + n % 64)

/-- The bytes of a code point. -/
def utf8Bytes (c : CodePoint) : List UInt8 :=
  let n := c.val
  if n < 0x80 then [UInt8.ofNat n]
  else if n < 0x800 then [UInt8.ofNat (0xC0 + n / 64), continuationByte n]
  else if n < 0x10000 then
    [UInt8.ofNat (0xE0 + n / 4096), continuationByte (n / 64), continuationByte n]
  else
    [UInt8.ofNat (0xF0 + n / 262144), continuationByte (n / 4096), continuationByte (n / 64),
      continuationByte n]

/-- The **bytes that spell a text**. -/
def utf8Encode (t : Text) : List UInt8 :=
  t.flatMap utf8Bytes

end TimeWindow.Encoding
