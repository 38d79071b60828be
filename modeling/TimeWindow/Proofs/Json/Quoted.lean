import TimeWindow.Proofs.Json.Spelling

set_option autoImplicit false

/-!
# Reading spelled texts

The reader of quoted texts takes the pieces of a spelled text off the front of what stands there,
and gives the text that they stand for. The closing quote ends the pieces, so nothing has to be
known of what follows.

## Main definitions

* `TimeWindow.Json.Reads` — a reader gives something on a text, and leaves a rest.

## Main results

* `TimeWindow.Json.quoted_append` — the reader of quoted texts takes exactly the pieces.
-/

namespace TimeWindow.Json

/-! ## What a reader gives -/

/-- A **reader gives** something on a text and leaves a rest. That the rest is shorter is part of
what a reader gives, but it follows from the two texts. -/
def Reads {α : Type} (reader : Reader α) (s : Text) (x : α) (rest : Text) : Prop :=
  ∃ h, reader s = .ok ⟨x, rest, h⟩

/-! ## Escapes -/

/-- A hexadecimal digit is read as its value. -/
theorem hexValue?_point (d : HexDigit) : d.point.hexValue? = some (d.value : Nat) := by
  have hall : ∀ (v : Fin 16) (capital : Bool),
      (HexDigit.point ⟨v, capital⟩).hexValue? = some (v : Nat) := by decide
  exact hall d.value d.capital

/-- **The four digits of a unit** are read as its number, if something follows them. -/
theorem hexQuad?_append (u : CodeUnit) {rest : Text} (h : rest ≠ []) :
    hexQuad? (u.digits ++ rest) = some (u.value, rest) := by
  cases rest with
  | nil => exact absurd rfl h
  | cons c rest =>
    simp only [CodeUnit.digits, List.cons_append, List.nil_append, hexQuad?, hexValue?_point]
    rfl

/-- A letter after a backslash is read as its code point. -/
theorem letterEscape?_letter (e : LetterEscape) : letterEscape? e.letter = some e.point := by
  cases e <;> rfl

/-- No letter of an escape announces a unit. -/
theorem LetterEscape.letter_ne (e : LetterEscape) : e.letter ≠ CodePoint.ofChar 'u' := by
  cases e <;> decide

/-- The text of a unit as an escape. -/
theorem Piece.text_unit (u : CodeUnit) (rest : Text) :
    (Piece.unit u).text ++ rest =
      CodePoint.ofChar '\\' :: CodePoint.ofChar 'u' :: (u.digits ++ rest) := rfl

/-- What follows an escape **in front of pieces**: the second half of a pair if the first of the
pieces is one, and otherwise nothing that could be a second half. -/
theorem secondHalf?_unit (u : CodeUnit) {rest : Text} (h : rest ≠ []) :
    secondHalf? ((Piece.unit u).text ++ rest) =
      .ok (if Encoding.isLowSurrogate u.value then some (u.value, rest) else none) := by
  have hlen : 4 < (u.digits ++ rest).length := by
    have := List.length_pos_iff.2 h
    simp only [CodeUnit.digits, List.length_append, List.length_cons, List.length_nil]
    omega
  rw [Piece.text_unit, secondHalf?, if_pos ⟨rfl, rfl, hlen⟩, hexQuad?_append u h]

/-- Pieces that do not begin with a unit are no second half of a pair. -/
theorem secondHalf?_pieces {pieces : List Piece} (h : ∀ u rest, pieces ≠ .unit u :: rest)
    (rest : Text) :
    secondHalf? (pieces.flatMap Piece.text ++ (CodePoint.ofChar '"' :: rest)) = .ok none := by
  have hplain : ∀ (c : CodePoint) (t : Text), c ≠ CodePoint.ofChar '\\' →
      secondHalf? (c :: t) = .ok none := fun c t hc => by
    cases t with
    | nil => rfl
    | cons d t => rw [secondHalf?, if_neg fun hcond => hc hcond.1]
  cases pieces with
  | nil => exact hplain _ _ (by decide)
  | cons p pieces =>
    cases p with
    | plain c hc => exact hplain c _ hc.2.2
    | letter e =>
      simp only [List.flatMap_cons, Piece.text, List.cons_append, List.nil_append]
      rw [secondHalf?, if_neg fun hcond => e.letter_ne hcond.2.1]
    | unit u => exact absurd rfl (h u pieces)

/-- An escape of one letter. -/
theorem escape_letter (opening : Text) (e : LetterEscape) (rest : Text) :
    Reads (escape opening) (e.letter :: rest) e.point rest := by
  refine ⟨Nat.lt_succ_self _, ?_⟩
  rw [escape, if_neg e.letter_ne]
  simp only [letterEscape?_letter]

/-- An escape of a unit that is **not the first half of a pair**. -/
theorem escape_unit (opening : Text) (u : CodeUnit) {rest : Text} (h : rest ≠ [])
    (hpair : Encoding.isHighSurrogate u.value = true → secondHalf? rest = .ok none) :
    Reads (escape opening) (CodePoint.ofChar 'u' :: (u.digits ++ rest)) (.ofNat u.value) rest := by
  refine ⟨by simp [CodeUnit.digits]; omega, ?_⟩
  rw [escape, if_pos rfl]
  split
  · next hnone => rw [hexQuad?_append u h] at hnone; cases hnone
  · next n after hquad =>
    rw [hexQuad?_append u h] at hquad
    cases hquad
    by_cases hhigh : Encoding.isHighSurrogate u.value = true
    · rw [if_pos hhigh]
      split
      · next hstop => rw [hpair hhigh] at hstop; cases hstop
      · rfl
      · next hsome => rw [hpair hhigh] at hsome; cases hsome
    · rw [if_neg hhigh]

/-- Escapes of **both halves of a pair**. -/
theorem escape_pair (opening : Text) {u v : CodeUnit} (hu : Encoding.isHighSurrogate u.value = true)
    (hv : Encoding.isLowSurrogate v.value = true) {rest : Text} (h : rest ≠ []) :
    Reads (escape opening) (CodePoint.ofChar 'u' :: (u.digits ++ ((Piece.unit v).text ++ rest)))
      (Encoding.joinSurrogates u.value v.value) rest := by
  have hne : (Piece.unit v).text ++ rest ≠ [] := by simp [h]
  have hsecond : secondHalf? ((Piece.unit v).text ++ rest) = .ok (some (v.value, rest)) := by
    rw [secondHalf?_unit v h, if_pos hv]
  refine ⟨by simp [Piece.text]; omega, ?_⟩
  rw [escape, if_pos rfl]
  split
  · next hnone => rw [hexQuad?_append u hne] at hnone; cases hnone
  · next n after hquad =>
    rw [hexQuad?_append u hne] at hquad
    cases hquad
    rw [if_pos hu]
    split
    · next hstop => rw [hsecond] at hstop; cases hstop
    · next hnone => rw [hsecond] at hnone; cases hnone
    · next low last hsome =>
      rw [hsecond] at hsome
      cases hsome
      rfl

/-! ## Texts -/

/-- The closing quote ends a text. -/
theorem quoted_close (opening rest : Text) :
    Reads (quoted opening) (CodePoint.ofChar '"' :: rest) [] rest :=
  ⟨Nat.lt_succ_self _, by rw [quoted, if_pos rfl]⟩

/-- A plain code point is the first one of a text. -/
theorem quoted_plain {opening s t rest : Text} {c : CodePoint} (hc : IsPlain c)
    (h : Reads (quoted opening) s t rest) : Reads (quoted opening) (c :: s) (c :: t) rest := by
  obtain ⟨hlen, h⟩ := h
  refine ⟨Nat.lt_succ_of_lt hlen, ?_⟩
  rw [quoted, if_neg hc.2.1, if_neg hc.2.2, if_neg (by have := hc.1; omega)]
  simp only [h]
  rfl

/-- An escape is the first code point of a text. -/
theorem quoted_escape {opening s t rest after : Text} {point : CodePoint}
    (hescape : Reads (escape opening) s point after) (h : Reads (quoted opening) after t rest) :
    Reads (quoted opening) (CodePoint.ofChar '\\' :: s) (point :: t) rest := by
  obtain ⟨hafter, hescape⟩ := hescape
  obtain ⟨hlen, h⟩ := h
  refine ⟨Nat.lt_succ_of_lt (Nat.lt_trans hlen hafter), ?_⟩
  rw [quoted, if_neg (by decide), if_pos rfl]
  simp only [hescape, h]
  rfl

/-- **Spelled texts are read back.** After the opening quote, the reader takes the pieces and the
closing quote, and gives the text that the pieces stand for.

**Proof sketch.** By the recursion of `unescaped`. A unit before another one is the first half of a
pair exactly if the two are one, so the reader joins what `unescaped` joins; a unit before anything
else is read alone, because no other piece begins like a second half. -/
theorem quoted_append (opening : Text) (pieces : List Piece) (rest : Text) :
    Reads (quoted opening) (pieces.flatMap Piece.text ++ (CodePoint.ofChar '"' :: rest))
      (unescaped pieces) rest := by
  have hne : ∀ ps : List Piece, ps.flatMap Piece.text ++ (CodePoint.ofChar '"' :: rest) ≠ [] :=
    fun ps => by simp
  induction pieces using unescaped.induct with
  | case1 => exact quoted_close opening rest
  | case2 c hc pieces ih => exact quoted_plain hc ih
  | case3 e pieces ih => exact quoted_escape (escape_letter opening e _) ih
  | case4 u v pieces hpair ih =>
    rw [unescaped, if_pos hpair]
    simp only [List.flatMap_cons, Piece.text_unit] at ih ⊢
    exact quoted_escape (escape_pair opening hpair.1 hpair.2 (hne pieces)) ih
  | case5 u v pieces hpair ih =>
    rw [unescaped, if_neg hpair]
    rw [List.flatMap_cons, List.append_assoc, Piece.text_unit]
    refine quoted_escape (escape_unit opening u (hne _) fun hhigh => ?_) ih
    rw [List.flatMap_cons, List.append_assoc, secondHalf?_unit v (hne pieces),
      if_neg fun hlow => hpair ⟨hhigh, hlow⟩]
  | case6 u pieces hunit ih =>
    rw [unescaped.eq_5 _ _ hunit]
    rw [List.flatMap_cons, List.append_assoc, Piece.text_unit]
    exact quoted_escape (escape_unit opening u (hne _) fun _ => secondHalf?_pieces hunit rest) ih

end TimeWindow.Json
