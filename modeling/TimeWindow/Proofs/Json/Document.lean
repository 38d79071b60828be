import TimeWindow.Proofs.Json.Containers

set_option autoImplicit false

/-!
# Reading spelled documents

Every document that is spelled by the rules is read, and read as what it says: escapes, the spelling
of numbers and the blanks between parts leave no trace. The only bound is that on nesting.

## Main results

* `TimeWindow.Json.value_append` — the reader of values takes exactly a spelled document off the
  front of what may follow it.
* `TimeWindow.Json.ofText_spelling` — a spelled document with blanks around it is read as its
  meaning.
-/

namespace TimeWindow.Json

/-! ## Words and numbers -/

/-- **Words are read back.** -/
theorem literal?_append (w : Word) (rest : Text) :
    literal? (w.text ++ rest) = some (w.text, w.meaning) := by
  cases w <;> rfl

/-- A number does not begin with a word. Only one word begins with a minus sign, and no digit
follows it there. -/
theorem literal?_number (n : NumberSpelling) (rest : Text) :
    literal? (n.text ++ rest) = none := by
  have hall : ∀ d : Fin 10, ∀ s : Text, literal? (CodePoint.ofDigit d :: s) = none ∧
      literal? (CodePoint.ofChar '-' :: CodePoint.ofDigit d :: s) = none := by
    intro d s
    match d with
    | 0 | 1 | 2 | 3 | 4 | 5 | 6 | 7 | 8 | 9 => exact ⟨rfl, rfl⟩
  cases hwhole : n.whole with
  | nil => exact absurd hwhole n.whole_ne_nil
  | cons d ds =>
    rw [NumberSpelling.text, NumberSpelling.unsignedText, hwhole]
    cases n.negative
    · exact (hall d _).1
    · exact (hall d _).2

theorem scalar_word (w : Word) (rest : Text) :
    Reads scalar (w.text ++ rest) w.meaning rest := by
  have hw : 0 < w.text.length := by cases w <;> decide
  refine ⟨by rw [List.length_append]; omega, ?_⟩
  rw [scalar]
  split
  · next word j hsome =>
    rw [literal?_append] at hsome
    cases hsome
    simp only [List.drop_left]
  · next hnone => rw [literal?_append] at hnone; cases hnone

theorem scalar_number (n : NumberSpelling) {rest : Text} (h : Follows rest) :
    Reads scalar (n.text ++ rest) n.meaning rest := by
  obtain ⟨hlen, hread⟩ := number_append n h
  refine ⟨hlen, ?_⟩
  rw [scalar]
  split
  · next word j hsome => rw [literal?_number] at hsome; cases hsome
  · exact hread

/-! ## Kinds of values -/

section Kinds

variable {array : Reader (List Json)} {object : Reader (List (Text × Json))}

/-- A quote begins a text. -/
theorem valueWith_quoted {s rest t : Text}
    (h : Reads (quoted (CodePoint.ofChar '"' :: s)) s t rest) :
    Reads (valueWith array object) (CodePoint.ofChar '"' :: s) (.text t) rest := by
  obtain ⟨hlen, h⟩ := h
  refine ⟨Nat.lt_succ_of_lt hlen, ?_⟩
  rw [valueWith, if_pos rfl, h]
  rfl

/-- A square bracket begins an array. -/
theorem valueWith_array {s rest : Text} {items : List Json} (h : Reads array s items rest) :
    Reads (valueWith array object) (CodePoint.ofChar '[' :: s) (.array items) rest := by
  obtain ⟨hlen, h⟩ := h
  refine ⟨Nat.lt_succ_of_lt hlen, ?_⟩
  rw [valueWith, if_neg (by decide), if_pos rfl, h]
  rfl

/-- A curly bracket begins an object. -/
theorem valueWith_object {s rest : Text} {members : List (Text × Json)}
    (h : Reads object s members rest) :
    Reads (valueWith array object) (CodePoint.ofChar '\x7b' :: s) (.object members) rest := by
  obtain ⟨hlen, h⟩ := h
  refine ⟨Nat.lt_succ_of_lt hlen, ?_⟩
  rw [valueWith, if_neg (by decide), if_neg (by decide), if_pos rfl, h]
  rfl

/-- Anything else begins a word or a number. -/
theorem valueWith_scalar {c : CodePoint} {s rest : Text} {j : Json}
    (hc : c ≠ CodePoint.ofChar '"' ∧ c ≠ CodePoint.ofChar '[' ∧ c ≠ CodePoint.ofChar '\x7b')
    (h : Reads scalar (c :: s) j rest) : Reads (valueWith array object) (c :: s) j rest := by
  obtain ⟨hlen, h⟩ := h
  refine ⟨hlen, ?_⟩
  rw [valueWith, if_neg hc.1, if_neg hc.2.1, if_neg hc.2.2, h]

end Kinds

/-! ## How spellings begin -/

/-- A code point that begins a word or a number. -/
def BeginsScalar (c : CodePoint) : Prop :=
  (c ∉ followers ∧ c.isAscii = true) ∧
    c ≠ CodePoint.ofChar '"' ∧ c ≠ CodePoint.ofChar '[' ∧ c ≠ CodePoint.ofChar '\x7b'

theorem Word.exists_text_eq (w : Word) : ∃ c t, w.text = c :: t ∧ BeginsScalar c := by
  cases w <;> exact ⟨_, _, rfl, by unfold BeginsScalar; decide⟩

theorem NumberSpelling.exists_text_eq (n : NumberSpelling) :
    ∃ c t, n.text = c :: t ∧ BeginsScalar c := by
  have hall : ∀ d : Fin 10, BeginsScalar (CodePoint.ofDigit d) := by
    unfold BeginsScalar
    decide
  cases hwhole : n.whole with
  | nil => exact absurd hwhole n.whole_ne_nil
  | cons d ds =>
    rw [text, unsignedText, hwhole]
    cases n.negative
    · exact ⟨_, _, rfl, hall d⟩
    · exact ⟨_, _, rfl, by unfold BeginsScalar; decide⟩

/-- **Every spelling begins like a value.** -/
theorem Spelling.begins_text (s : Spelling) : Begins s.text := by
  cases s with
  | word w =>
    obtain ⟨c, t, htext, hc, -⟩ := w.exists_text_eq
    exact ⟨c, t, by rw [text, htext], hc⟩
  | number n =>
    obtain ⟨c, t, htext, hc, -⟩ := n.exists_text_eq
    exact ⟨c, t, by rw [text, htext], hc⟩
  | quoted pieces => rw [text]; exact begins_quotedText pieces
  | array inside items => rw [text]; exact ⟨_, _, rfl, by decide, by decide⟩
  | object inside members => rw [text]; exact ⟨_, _, rfl, by decide, by decide⟩

/-! ## Values -/

/-- Words, numbers and texts are read whatever is done with containers. -/
theorem valueWith_of_depth_zero {array : Reader (List Json)}
    {object : Reader (List (Text × Json))} {s : Spelling} (hs : s.depth = 0) {rest : Text}
    (h : Follows rest) : Reads (valueWith array object) (s.text ++ rest) s.meaning rest := by
  cases s with
  | word w =>
    obtain ⟨c, t, htext, -, hc⟩ := w.exists_text_eq
    have hread := scalar_word w rest
    rw [Spelling.text, Spelling.meaning]
    rw [htext] at hread ⊢
    exact valueWith_scalar hc hread
  | number n =>
    obtain ⟨c, t, htext, -, hc⟩ := n.exists_text_eq
    have hread := scalar_number n h
    rw [Spelling.text, Spelling.meaning]
    rw [htext] at hread ⊢
    exact valueWith_scalar hc hread
  | quoted pieces =>
    have htext : quotedText pieces ++ rest = CodePoint.ofChar '"' ::
        (pieces.flatMap Piece.text ++ (CodePoint.ofChar '"' :: rest)) := by
      simp only [quotedText, List.cons_append, List.append_assoc, List.nil_append]
    rw [Spelling.text, Spelling.meaning, htext]
    exact valueWith_quoted (quoted_append _ pieces rest)
  | array inside items => exact absurd hs (Nat.succ_ne_zero _)
  | object inside members => exact absurd hs (Nat.succ_ne_zero _)

/-- **Spelled documents are read back**, in front of what may follow a value.

**Proof sketch.** By induction on the number of containers that may be open. The parts of a
container are spellings that need one level less, so by induction their reader takes each of them
off the front of what may follow it; then the reader of sequences takes the container. -/
theorem value_append {depth : Nat} {s : Spelling} (hs : s.depth ≤ depth) {rest : Text}
    (h : Follows rest) : Reads (value depth) (s.text ++ rest) s.meaning rest := by
  induction depth generalizing s rest with
  | zero => exact valueWith_of_depth_zero (Nat.le_zero.1 hs) h
  | succ depth ih =>
    cases s with
    | word w => exact valueWith_of_depth_zero rfl h
    | number n => exact valueWith_of_depth_zero rfl h
    | quoted pieces => exact valueWith_of_depth_zero rfl h
    | array inside items =>
      have hitems := Spelling.itemDepth_le_iff.1 (Nat.le_of_succ_le_succ hs)
      rw [Spelling.text, Spelling.meaning, Spelling.itemTexts_eq_map, Spelling.itemMeanings_eq_map,
        bracketedText]
      simp only [List.cons_append, List.append_assoc, List.nil_append]
      exact valueWith_array (sequence_append Spelling.meaning (by decide) (by decide) (by decide)
        (fun item _ => item.content.begins_text)
        (fun item hitem _ hrest => ih (hitems item hitem) hrest) inside rest)
    | object inside members =>
      have hmembers := Spelling.memberDepth_le_iff.1 (Nat.le_of_succ_le_succ hs)
      rw [Spelling.text, Spelling.meaning, Spelling.memberTexts_eq_map,
        Spelling.memberMeanings_eq_map, bracketedText]
      simp only [List.cons_append, List.append_assoc, List.nil_append]
      exact valueWith_object (sequence_append
        (fun m : Member Spelling => (unescaped m.name, m.value.meaning)) (by decide)
        (by decide) (by decide) (fun m _ => (begins_quotedText m.content.name).append _)
        (fun m hm _ hrest => member_append m.content m.content.value.begins_text
          (ih (hmembers m hm) hrest)) inside rest)

/-! ## Documents -/

/-- The text of a document with blanks around it does not begin with a byte order mark. -/
theorem head?_padded_ne (p : Padded Spelling) :
    (p.text Spelling.text).head? ≠ some (CodePoint.ofNat 0xFEFF) := by
  obtain ⟨c, t, htext, -, hascii⟩ := p.content.begins_text
  rw [Padded.text, htext]
  cases hbefore : p.before with
  | nil =>
    intro h
    obtain rfl : c = CodePoint.ofNat 0xFEFF := by simpa using h
    exact absurd hascii (by decide)
  | cons b bs =>
    intro h
    have hb : b.point = CodePoint.ofNat 0xFEFF := by simpa using h
    cases b <;> exact absurd hb (by decide)

/-- **Spelled documents are read as what they say**, if no more containers are open at once than may
be: the spelling and the blanks around it leave no trace. -/
theorem ofText_spelling {p : Padded Spelling} (h : p.content.depth ≤ nestingLimit) :
    ofText (p.text Spelling.text) = .ok p.content.meaning := by
  have hend : Follows (p.after.map Blank.point) := by
    have hnil : Follows [] := fun c hc => by cases hc
    have := hnil.blanks p.after
    rwa [List.append_nil] at this
  have hskip : skipBlanks (p.text Spelling.text) =
      p.content.text ++ p.after.map Blank.point := by
    have := skipBlanks_padded p p.content.begins_text []
    rwa [List.append_nil, List.append_nil] at this
  have hafter : skipBlanks (p.after.map Blank.point) = [] := by
    have := skipBlanks_append p.after []
    rwa [List.append_nil] at this
  have hread := value_append h hend
  rw [← hskip] at hread
  obtain ⟨hlen, hread⟩ := hread
  rw [ofText, if_neg (head?_padded_ne p), read, hread]
  simp only [hafter]

/-- **Nothing may stand behind a document.** A spelled document with something other than blanks
behind it is refused where that begins. -/
theorem ofText_append_extra {s : Spelling} (hs : s.depth ≤ nestingLimit) {rest more : Text}
    {c : CodePoint} (hrest : Follows rest) (hmore : skipBlanks rest = c :: more) :
    ofText (s.text ++ rest) =
      .error ((Stop.complaint .extraData (c :: more).length).toFault (s.text ++ rest)) := by
  have hbegins := s.begins_text.append rest
  have hmark : (s.text ++ rest).head? ≠ some (CodePoint.ofNat 0xFEFF) := by
    obtain ⟨d, t, ht, -, hascii⟩ := hbegins
    rw [ht]
    intro h
    obtain rfl := Option.some.inj h
    exact absurd hascii (by decide)
  have hread := value_append hs hrest
  rw [← hbegins.skipBlanks_eq] at hread
  obtain ⟨hlen, hread⟩ := hread
  rw [ofText, if_neg hmark, read, hread]
  simp only [hmore]

end TimeWindow.Json
