import TimeWindow.Encoding.Utf8
import TimeWindow.Proofs.Outcome

set_option autoImplicit false

/-!
# Text in bytes and back

Every text is read back from the bytes that spell it, surrogates included: each code point is the
one that its leading byte begins, and the bytes that belong to it are the ones that were written for
it.

## Main results

* `TimeWindow.Encoding.utf8Sequence_utf8Bytes` — a code point is read back in front of any bytes.
* `TimeWindow.Encoding.utf8Decode_utf8Encode` — a text is read back.
-/

namespace TimeWindow

/-- A code point is the one with its number. -/
@[simp] theorem CodePoint.ofNat_val (c : CodePoint) : CodePoint.ofNat c.val = c := by
  rw [ofNat, ofNat?, dif_pos c.val_lt]
  rfl

namespace Encoding

/-! ## Bytes -/

/-- The number of a byte that is made from a number below 256. -/
theorem toNat_ofNat {n : Nat} (h : n < 256) : (UInt8.ofNat n).toNat = n :=
  UInt8.toNat_ofNat_of_lt' h

@[simp] theorem toNat_continuationByte (n : Nat) : (continuationByte n).toNat = 0x80 + n % 64 :=
  toNat_ofNat (by omega)

/-- **A continuation byte** in its range adds six bits. -/
theorem continuations_cons {count low high seen bits n : Nat} {rest : List UInt8}
    (hlow : low ≤ 0x80 + n % 64) (hhigh : 0x80 + n % 64 ≤ high) :
    continuations (count + 1) low high seen bits (continuationByte n :: rest) =
      continuations count 0x80 0xBF (seen + 1) (bits * 64 + n % 64) rest := by
  have hbits : (0x80 + n % 64) % 64 = n % 64 := by omega
  rw [continuations, toNat_continuationByte, if_pos ⟨hlow, hhigh⟩, hbits]

/-- A surrogate is read from two continuation bytes, and no other code point is. -/
theorem surrogate?_continuationBytes {n : Nat} (h₁ : 0xD000 ≤ n) (h₂ : n < 0xE000)
    (rest : List UInt8) :
    surrogate? (continuationByte (n / 64) :: continuationByte n :: rest) =
      if 0xD800 ≤ n then some (.ofNat n) else none := by
  have hnumber : 0xD000 + (0x80 + n / 64 % 64) % 64 * 64 + (0x80 + n % 64) % 64 = n := by omega
  simp only [surrogate?, toNat_continuationByte, hnumber]
  by_cases h : 0xD800 ≤ n
  · rw [if_pos h, if_pos (by omega)]
  · rw [if_neg h, if_neg (by omega)]

/-! ## Leading bytes -/

/-- A leading byte of two. -/
theorem lead?_two {k : Nat} (h₁ : 2 ≤ k) (h₂ : k < 32) :
    lead? (0xC0 + k) = some ⟨1, 0x80, 0xBF, k⟩ := by
  rw [lead?, if_neg (by omega), if_pos (by omega), Nat.add_sub_cancel_left]

/-- A leading byte of three. -/
theorem lead?_three {k : Nat} (h : k < 16) :
    lead? (0xE0 + k) =
      some ⟨2, if k = 0 then 0xA0 else 0x80, if k = 13 then 0x9F else 0xBF, k⟩ := by
  have hfirst : 0xE0 + k = 0xE0 ↔ k = 0 := by omega
  have hlast : 0xE0 + k = 0xED ↔ k = 13 := by omega
  rw [lead?, if_neg (by omega), if_neg (by omega), if_pos (by omega), Nat.add_sub_cancel_left]
  simp only [hfirst, hlast]

/-- A leading byte of four. -/
theorem lead?_four {k : Nat} (h : k < 5) :
    lead? (0xF0 + k) = some ⟨3, if k = 0 then 0x90 else 0x80, if k = 4 then 0x8F else 0xBF, k⟩ := by
  have hfirst : 0xF0 + k = 0xF0 ↔ k = 0 := by omega
  have hlast : 0xF0 + k = 0xF4 ↔ k = 4 := by omega
  rw [lead?, if_neg (by omega), if_neg (by omega), if_neg (by omega), if_pos (by omega),
    Nat.add_sub_cancel_left]
  simp only [hfirst, hlast]

/-! ## Code points -/

/-- A code point below 128 is its byte. -/
theorem utf8Sequence_one {c : CodePoint} (h : c.val < 0x80) (rest : List UInt8) :
    utf8Sequence (UInt8.ofNat c.val) rest = .ok (c, 0) := by
  have hb := toNat_ofNat (show c.val < 256 by omega)
  have hc : CodePoint.ofByte (UInt8.ofNat c.val) = c := by
    rcases c with ⟨n, hn⟩
    simpa [CodePoint.ofByte] using hb
  rw [utf8Sequence, if_pos (by omega), hc]

/-- Any other byte begins a sequence of the length that it says. -/
theorem utf8Sequence_of_lead {k n count low high bits : Nat} {rest : List UInt8}
    (hk : 0x80 ≤ k ∧ k < 256) (hsurrogate : k = 0xED → surrogate? rest = none)
    (hlead : lead? k = some ⟨count, low, high, bits⟩)
    (hrest : continuations count low high 1 bits rest = .ok n) :
    utf8Sequence (UInt8.ofNat k) rest = .ok (.ofNat n, count) := by
  have hb := toNat_ofNat hk.2
  have hnone : (if UInt8.ofNat k = 0xED then surrogate? rest else none) = none := by
    split
    · next h => exact hsurrogate (by rw [← hb, h]; rfl)
    · rfl
  rw [utf8Sequence, if_neg (by omega), hnone, hb]
  simp only [hlead, hrest]
  rfl

/-- A code point below 0x800 has two bytes. -/
theorem utf8Sequence_two {n : Nat} (h₁ : 0x80 ≤ n) (h₂ : n < 0x800) (rest : List UInt8) :
    utf8Sequence (UInt8.ofNat (0xC0 + n / 64)) (continuationByte n :: rest) = .ok (.ofNat n, 1) := by
  refine utf8Sequence_of_lead (by omega) (by omega) (lead?_two (by omega) (by omega)) ?_
  have hnumber : n / 64 * 64 + n % 64 = n := by omega
  rw [continuations_cons (by omega) (by omega), continuations, hnumber]

/-- A code point below 0x10000 has three bytes. The first of them is `0xED` for the surrogates and
the code points before them alone. -/
theorem utf8Sequence_three {n : Nat} (h₁ : 0x800 ≤ n) (h₂ : n < 0x10000) (rest : List UInt8) :
    utf8Sequence (UInt8.ofNat (0xE0 + n / 4096))
      (continuationByte (n / 64) :: continuationByte n :: rest) = .ok (.ofNat n, 2) := by
  by_cases hsurrogate : 0xD800 ≤ n ∧ n < 0xE000
  · have hbyte : 0xE0 + n / 4096 = 0xED := by omega
    rw [hbyte, utf8Sequence, if_neg (by decide), if_pos (show UInt8.ofNat 0xED = 0xED from rfl),
      surrogate?_continuationBytes (by omega) hsurrogate.2, if_pos hsurrogate.1]
  · refine utf8Sequence_of_lead (by omega) (fun h => ?_) (lead?_three (by omega)) ?_
    · rw [surrogate?_continuationBytes (by omega) (by omega), if_neg (by omega)]
    · have hnumber : (n / 4096 * 64 + n / 64 % 64) * 64 + n % 64 = n := by omega
      rw [continuations_cons (by split <;> omega) (by split <;> omega),
        continuations_cons (by omega) (by omega), continuations, hnumber]

/-- Any other code point has four bytes. -/
theorem utf8Sequence_four {n : Nat} (h₁ : 0x10000 ≤ n) (h₂ : n < 0x110000) (rest : List UInt8) :
    utf8Sequence (UInt8.ofNat (0xF0 + n / 262144))
      (continuationByte (n / 4096) :: continuationByte (n / 64) :: continuationByte n :: rest) =
        .ok (.ofNat n, 3) := by
  refine utf8Sequence_of_lead (by omega) (by omega) (lead?_four (by omega)) ?_
  have hnumber : ((n / 262144 * 64 + n / 4096 % 64) * 64 + n / 64 % 64) * 64 + n % 64 = n := by
    omega
  rw [continuations_cons (by split <;> omega) (by split <;> omega),
    continuations_cons (by omega) (by omega), continuations_cons (by omega) (by omega),
    continuations, hnumber]

/-- **A code point is read back** in front of any bytes: the first of its bytes begins it, and the
others belong to it. -/
theorem utf8Sequence_utf8Bytes (c : CodePoint) (rest : List UInt8) :
    ∃ b more, utf8Bytes c = b :: more ∧ utf8Sequence b (more ++ rest) = .ok (c, more.length) := by
  have hlt := c.val_lt
  by_cases h₁ : c.val < 0x80
  · exact ⟨_, [], by rw [utf8Bytes, if_pos h₁], utf8Sequence_one h₁ rest⟩
  by_cases h₂ : c.val < 0x800
  · refine ⟨_, _, by rw [utf8Bytes, if_neg h₁, if_pos h₂], ?_⟩
    have := utf8Sequence_two (Nat.le_of_not_lt h₁) h₂ rest
    rwa [c.ofNat_val] at this
  by_cases h₃ : c.val < 0x10000
  · refine ⟨_, _, by rw [utf8Bytes, if_neg h₁, if_neg h₂, if_pos h₃], ?_⟩
    have := utf8Sequence_three (Nat.le_of_not_lt h₂) h₃ rest
    rwa [c.ofNat_val] at this
  · refine ⟨_, _, by rw [utf8Bytes, if_neg h₁, if_neg h₂, if_neg h₃], ?_⟩
    have := utf8Sequence_four (Nat.le_of_not_lt h₃) hlt rest
    rwa [c.ofNat_val] at this

/-! ## Texts -/

/-- The bytes of a text are those of its code points, one after another. -/
theorem utf8Encode_cons (c : CodePoint) (t : Text) :
    utf8Encode (c :: t) = utf8Bytes c ++ utf8Encode t :=
  List.flatMap_cons

theorem utf8DecodeFrom_utf8Encode (t : Text) (start : Nat) :
    utf8DecodeFrom start (utf8Encode t) = .ok t := by
  induction t generalizing start with
  | nil => rw [utf8Encode, List.flatMap_nil, utf8DecodeFrom]
  | cons c rest ih =>
    obtain ⟨b, more, hbytes, hread⟩ := utf8Sequence_utf8Bytes c (utf8Encode rest)
    rw [utf8Encode_cons, hbytes, List.cons_append, utf8DecodeFrom, hread]
    simp only [List.drop_left, ih]
    rfl

/-- **A text is read back** from the bytes that spell it. -/
theorem utf8Decode_utf8Encode (t : Text) : utf8Decode (utf8Encode t) = .ok t :=
  utf8DecodeFrom_utf8Encode t 0

end Encoding

end TimeWindow
