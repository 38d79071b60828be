import TimeWindow.Encoding.Detection
import TimeWindow.Proofs.Encoding.Utf8

set_option autoImplicit false

/-!
# Documents without a mark

A text that begins neither with a byte order mark nor with a NUL among its first two code points is
not taken for one in another encoding: its bytes in single units begin with no mark, and none of the
first two of them is zero. So it is read back from these bytes.

## Main definitions

* `TimeWindow.Encoding.BeginsUnmarked` — how the texts begin that are read back without a mark.

## Main results

* `TimeWindow.Encoding.detect_utf8Encode` — the encoding of such a text is detected.
* `TimeWindow.Encoding.decode_utf8Encode` — such a text is read back.
-/

namespace TimeWindow.Encoding

/-- A text **begins unmarked** if it begins with no byte order mark and has no NUL among its first
two code points. -/
def BeginsUnmarked (t : Text) : Prop :=
  t.head? ≠ some (.ofNat 0xFEFF) ∧ ∀ c ∈ t.take 2, c.val ≠ 0

/-- Two code points in front decide how a text begins. -/
theorem beginsUnmarked_cons_cons {c d : CodePoint} (hmark : c ≠ .ofNat 0xFEFF) (hc : c.val ≠ 0)
    (hd : d.val ≠ 0) (rest : Text) : BeginsUnmarked (c :: d :: rest) := by
  refine ⟨fun h => hmark (Option.some.inj h), ?_⟩
  simp only [List.take_succ_cons, List.take_zero, List.forall_mem_cons]
  exact ⟨hc, hd, by simp⟩

/-! ## The bytes of a code point -/

/-- The bytes of a code point are below `0xF8`, and zero for NUL alone. -/
theorem exists_of_mem_utf8Bytes {c : CodePoint} {b : UInt8} (hb : b ∈ utf8Bytes c) :
    ∃ n < 0xF8, b = UInt8.ofNat n ∧ (n = 0 → c.val = 0) := by
  have hlt := c.val_lt
  unfold utf8Bytes continuationByte at hb
  dsimp only at hb
  split at hb
  · exact ⟨c.val, by omega, List.mem_singleton.1 hb, id⟩
  · split at hb
    · simp only [List.mem_cons, List.not_mem_nil, or_false] at hb
      rcases hb with rfl | rfl <;> exact ⟨_, by omega, rfl, by omega⟩
    · split at hb
      · simp only [List.mem_cons, List.not_mem_nil, or_false] at hb
        rcases hb with rfl | rfl | rfl <;> exact ⟨_, by omega, rfl, by omega⟩
      · simp only [List.mem_cons, List.not_mem_nil, or_false] at hb
        rcases hb with rfl | rfl | rfl | rfl <;> exact ⟨_, by omega, rfl, by omega⟩

/-- No byte of a code point other than NUL is zero, and none is as great as those of the marks of
wide units. -/
theorem mem_utf8Bytes {c : CodePoint} {b : UInt8} (hc : c.val ≠ 0) (hb : b ∈ utf8Bytes c) :
    b ≠ 0 ∧ b.toNat < 0xF8 := by
  obtain ⟨n, hn, rfl, hzero⟩ := exists_of_mem_utf8Bytes hb
  have hnat := toNat_ofNat (show n < 256 by omega)
  refine ⟨fun h => hc (hzero ?_), by omega⟩
  rw [← hnat, h]
  rfl

/-- A code point that begins with the three bytes of the mark is the mark. -/
theorem eq_mark_of_utf8Encode {c : CodePoint} {t : Text} {rest : List UInt8}
    (h : utf8Encode (c :: t) = 0xEF :: 0xBB :: 0xBF :: rest) : c = .ofNat 0xFEFF := by
  obtain ⟨b, more, hbytes, hread⟩ := utf8Sequence_utf8Bytes c (utf8Encode t)
  rw [utf8Encode_cons, hbytes, List.cons_append, List.cons.injEq] at h
  have hmark : utf8Sequence 0xEF (0xBB :: 0xBF :: rest) = .ok (.ofNat 0xFEFF, 2) := by rfl
  rw [h.1, h.2, hmark] at hread
  exact (congrArg Prod.fst (Except.ok.inj hread)).symm

/-! ## Detection -/

/-- Without zeros among the first two bytes, units are single bytes. -/
theorem detectByZeros_of_ne_zero {bytes : List UInt8} (h : ∀ b ∈ bytes.take 2, b ≠ 0) :
    detectByZeros bytes = .utf8 := by
  unfold detectByZeros
  split
  · rw [if_neg (h _ (by simp)), if_neg (h _ (by simp))]
  · rw [if_neg (h _ (by simp)), if_neg (h _ (by simp))]
  · rfl

/-- The first two bytes of a text are bytes of its first two code points. -/
theorem mem_take_utf8Encode {t : Text} {b : UInt8} (h : b ∈ (utf8Encode t).take 2) :
    ∃ c ∈ t.take 2, b ∈ utf8Bytes c := by
  have hne : ∀ c, 1 ≤ (utf8Bytes c).length := by
    intro c
    obtain ⟨b, more, hbytes, -⟩ := utf8Sequence_utf8Bytes c []
    rw [hbytes]
    simp
  match t with
  | [] => simp [utf8Encode] at h
  | [c] => exact ⟨c, by simp, by simpa [utf8Encode] using List.mem_of_mem_take h⟩
  | c :: d :: rest =>
    have hlen := hne c
    have hlen' := hne d
    have hmem : b ∈ utf8Bytes c ++ utf8Bytes d := by
      rw [utf8Encode_cons, utf8Encode_cons, ← List.append_assoc,
        List.take_append_of_le_length (by rw [List.length_append]; omega)] at h
      exact List.mem_of_mem_take h
    rcases List.mem_append.1 hmem with hmem | hmem
    · exact ⟨c, by simp, hmem⟩
    · exact ⟨d, by simp, hmem⟩

/-- **The encoding of an unmarked text** is detected from its bytes. -/
theorem detect_utf8Encode {t : Text} (h : BeginsUnmarked t) : detect (utf8Encode t) = (.utf8, 0) := by
  have hbytes : ∀ b ∈ (utf8Encode t).take 2, b ≠ 0 ∧ b.toNat < 0xF8 := by
    intro b hb
    obtain ⟨c, hc, hb⟩ := mem_take_utf8Encode hb
    exact mem_utf8Bytes (h.2 c hc) hb
  have hmark : marks.find? (fun mark => mark.1.isPrefixOf (utf8Encode t)) = none := by
    rw [List.find?_eq_none]
    intro mark hmem hprefix
    obtain ⟨rest, hrest⟩ := List.isPrefixOf_iff_prefix.1 hprefix
    rw [← hrest] at hbytes
    simp only [marks, List.mem_cons, List.not_mem_nil, or_false] at hmem
    -- each mark has a zero or a great byte in front, but for that of single bytes
    rcases hmem with rfl | rfl | rfl | rfl | rfl
    · exact (hbytes 0x00 (by simp)).1 rfl
    · exact absurd (hbytes 0xFF (by simp)).2 (by decide)
    · exact absurd (hbytes 0xFE (by simp)).2 (by decide)
    · exact absurd (hbytes 0xFF (by simp)).2 (by decide)
    · cases t with
      | nil => simp [utf8Encode] at hrest
      | cons c t => exact h.1 (congrArg some (eq_mark_of_utf8Encode hrest.symm))
  rw [detect, hmark]
  simp only [detectByZeros_of_ne_zero fun b hb => (hbytes b hb).1]

/-- **An unmarked text is read back** from the bytes that spell it. -/
theorem decode_utf8Encode {t : Text} (h : BeginsUnmarked t) : decode (utf8Encode t) = .ok t := by
  rw [decode, detect_utf8Encode h]
  exact utf8Decode_utf8Encode t

end TimeWindow.Encoding
