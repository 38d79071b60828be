import TimeWindow.Proofs.Json.Quoted
import TimeWindow.Proofs.Text.Strip

set_option autoImplicit false

/-!
# Reading spelled numbers

The reader of numbers takes a spelled number off the front of what stands there. Nothing in a number
says where it ends, so what follows it matters: it may be the end of the document, a blank, a comma
or a closing bracket, none of which can be part of a number.

## Main definitions

* `TimeWindow.Json.Follows` — what may follow a value in a document.

## Main results

* `TimeWindow.Json.number_append` — the reader of numbers takes exactly a spelled number, and gives
  what it says.
-/

namespace TimeWindow.Json

/-! ## What follows a value -/

/-- The code points that may follow a value. -/
def followers : List CodePoint :=
  [' ', '\t', '\n', '\r', ',', ']', '\x7d']

/-- A text **follows a value**: it is at its end, or begins with a code point that may stand
there. -/
def Follows (rest : Text) : Prop :=
  ∀ c ∈ rest.head?, c ∈ followers

/-- A text does not begin with a digit. -/
def NoDigit (rest : Text) : Prop :=
  ∀ c ∈ rest.head?, c.isDigit = false

/-- **Nothing that follows a value can be part of a number.** -/
theorem followers_spec {c : CodePoint} (h : c ∈ followers) :
    c.isDigit = false ∧ c ≠ CodePoint.ofChar '.' ∧ c ≠ CodePoint.ofChar 'e' ∧
      c ≠ CodePoint.ofChar 'E' := by
  have hall : ∀ c ∈ followers, c.isDigit = false ∧ c ≠ CodePoint.ofChar '.' ∧
      c ≠ CodePoint.ofChar 'e' ∧ c ≠ CodePoint.ofChar 'E' := by decide
  exact hall c h

theorem Follows.noDigit {rest : Text} (h : Follows rest) : NoDigit rest :=
  fun c hc => (followers_spec (h c hc)).1

/-! ## Digits -/

/-- Written digits are digits. -/
theorem isDigit_of_mem_digitsText {ds : List (Fin 10)} :
    ∀ c ∈ digitsText ds, c.isDigit = true := by
  intro c hc
  obtain ⟨d, -, rfl⟩ := List.mem_map.1 hc
  exact CodePoint.isDigit_ofDigit d

@[simp] theorem length_digitsText (ds : List (Fin 10)) : (digitsText ds).length = ds.length :=
  List.length_map _

@[simp] theorem digitsText_eq_nil_iff {ds : List (Fin 10)} : digitsText ds = [] ↔ ds = [] :=
  List.map_eq_nil_iff

/-- **Digits are read** up to what is no digit. -/
theorem digitRun_append (ds : List (Fin 10)) {rest : Text} (h : NoDigit rest) :
    digitRun (digitsText ds ++ rest) = digitsText ds :=
  Text.takeWhile_append isDigit_of_mem_digitsText h

/-- The number of written digits. -/
@[simp] theorem digitsNumber_digitsText (ds : List (Fin 10)) :
    digitsNumber (digitsText ds) = digitsValue ds := by
  rw [digitsNumber, digitsText, digitsValue, List.map_map]
  congr 1
  refine List.map_congr_left fun d _ => ?_
  simp only [Function.comp_apply, CodePoint.val_ofDigit]
  omega

/-! ## The parts of a number -/

/-- **The integer part** is read up to what is no digit. A zero is an integer part alone. -/
theorem integerPart?_append {n : NumberSpelling} {rest : Text} (h : NoDigit rest) :
    integerPart? (digitsText n.whole ++ rest) = some (digitsText n.whole) := by
  have hzero := n.whole_of_zero
  cases hwhole : n.whole with
  | nil => exact absurd hwhole n.whole_ne_nil
  | cons d ds =>
    rw [hwhole, List.head?_cons, Option.some.injEq] at hzero
    by_cases hd : d = 0
    · rw [hzero hd]
      rfl
    · have hne : CodePoint.ofDigit d ≠ CodePoint.ofChar '0' := by
        have hall : ∀ d : Fin 10, d ≠ 0 → CodePoint.ofDigit d ≠ CodePoint.ofChar '0' := by decide
        exact hall d hd
      have hcons : digitsText (d :: ds) = CodePoint.ofDigit d :: digitsText ds := rfl
      rw [hcons, List.cons_append, integerPart?, if_neg hne, if_pos (CodePoint.isDigit_ofDigit d),
        digitRun_append ds h]

/-- Text that begins with no point has no fraction. -/
theorem fractionPart_eq_nil {s : Text} (h : ∀ c ∈ s.head?, c ≠ CodePoint.ofChar '.') :
    fractionPart s = [] := by
  cases s with
  | nil => rfl
  | cons c s => rw [fractionPart, if_neg (h c rfl)]

/-- **The fraction** is read up to what is neither a digit nor a point. -/
theorem fractionPart_append (n : NumberSpelling) {rest : Text} (h : NoDigit rest)
    (hpoint : ∀ c ∈ rest.head?, c ≠ CodePoint.ofChar '.') :
    fractionPart (n.fractionText ++ rest) = digitsText n.fraction ∧
      afterFraction (n.fractionText ++ rest) = rest := by
  by_cases hnone : n.fraction = []
  · have hpart := fractionPart_eq_nil hpoint
    rw [NumberSpelling.fractionText, if_pos hnone, hnone, List.nil_append, afterFraction,
      if_pos hpart]
    exact ⟨hpart, rfl⟩
  · have hpart : fractionPart (CodePoint.ofChar '.' :: (digitsText n.fraction ++ rest)) =
        digitsText n.fraction := by
      rw [fractionPart, if_pos rfl, digitRun_append _ h]
    rw [NumberSpelling.fractionText, if_neg hnone, List.cons_append, afterFraction, hpart,
      if_neg (by simpa using hnone), Nat.add_comm, List.drop_succ_cons, List.drop_left]
    exact ⟨rfl, rfl⟩

/-- **An exponent** is read up to what is no digit. -/
theorem exponentPart?_text (e : ExponentSpelling) {rest : Text} (h : NoDigit rest) :
    exponentPart? (e.text ++ rest) = some (e.number, e.text.length) := by
  have hletter : CodePoint.ofChar (if e.capital then 'E' else 'e') = CodePoint.ofChar 'e' ∨
      CodePoint.ofChar (if e.capital then 'E' else 'e') = CodePoint.ofChar 'E' := by
    cases e.capital
    · exact .inl rfl
    · exact .inr rfl
  have hsign : signPart (e.sign.text ++ (digitsText e.digits ++ rest)) =
      (decide (e.sign = .minus), e.sign.text.length) := by
    cases hs : e.sign with
    | plus => rfl
    | minus => rfl
    | none =>
      cases hdigits : e.digits with
      | nil => exact absurd hdigits e.digits_ne_nil
      | cons d ds =>
        have hall : ∀ d : Fin 10, CodePoint.ofDigit d ≠ CodePoint.ofChar '-' ∧
            CodePoint.ofDigit d ≠ CodePoint.ofChar '+' := by decide
        have hcons : ExponentSign.none.text ++ (digitsText (d :: ds) ++ rest) =
            CodePoint.ofDigit d :: (digitsText ds ++ rest) := rfl
        rw [hcons, signPart, if_neg (hall d).1, if_neg (hall d).2]
        rfl
  have hrun : digitRun ((e.sign.text ++ (digitsText e.digits ++ rest)).drop e.sign.text.length) =
      digitsText e.digits := by
    rw [List.drop_left, digitRun_append _ h]
  rw [ExponentSpelling.text, List.cons_append, List.append_assoc, exponentPart?, if_pos hletter]
  simp only [hsign, hrun, digitsText_eq_nil_iff, e.digits_ne_nil, if_false,
    digitsNumber_digitsText, decide_eq_true_eq, ExponentSpelling.number, List.length_cons,
    List.length_append]
  congr 2
  omega

/-- Text that begins with no letter of an exponent has none. -/
theorem exponentPart?_eq_none {s : Text} (h : Follows s) : exponentPart? s = none := by
  cases s with
  | nil => rfl
  | cons c s =>
    obtain ⟨-, -, he, hE⟩ := followers_spec (h c rfl)
    rw [exponentPart?, if_neg (not_or.2 ⟨he, hE⟩)]

/-- **The exponent** is read up to what follows a value. -/
theorem exponentPart?_append (n : NumberSpelling) {rest : Text} (h : Follows rest) :
    (exponentPart? (n.exponentText ++ rest)).map Prod.fst =
        n.exponent.map ExponentSpelling.number ∧
      afterExponent (n.exponentText ++ rest) = rest := by
  rw [afterExponent, NumberSpelling.exponentText]
  cases n.exponent with
  | none =>
    have hnone := exponentPart?_eq_none h
    simp [hnone]
  | some e =>
    have hsome := exponentPart?_text e h.noDigit
    simp [hsome]

/-- What stands behind the fraction of a number begins with neither a digit nor a point. -/
theorem exponentText_append_head (n : NumberSpelling) {rest : Text} (h : Follows rest) :
    ∀ c ∈ (n.exponentText ++ rest).head?, c.isDigit = false ∧ c ≠ CodePoint.ofChar '.' := by
  intro c hc
  rw [NumberSpelling.exponentText] at hc
  cases hexp : n.exponent with
  | none =>
    rw [hexp] at hc
    have := followers_spec (h c hc)
    exact ⟨this.1, this.2.1⟩
  | some e =>
    rw [hexp] at hc
    obtain rfl : CodePoint.ofChar (if e.capital then 'E' else 'e') = c := by
      simpa [ExponentSpelling.text] using hc
    cases e.capital <;> decide

/-- What stands behind the integer part of a number does not begin with a digit. -/
theorem fractionText_append_noDigit (n : NumberSpelling) {rest : Text} (h : Follows rest) :
    NoDigit (n.fractionText ++ (n.exponentText ++ rest)) := by
  intro c hc
  by_cases hnone : n.fraction = []
  · rw [NumberSpelling.fractionText, if_pos hnone] at hc
    exact (exponentText_append_head n h c hc).1
  · rw [NumberSpelling.fractionText, if_neg hnone] at hc
    obtain rfl : CodePoint.ofChar '.' = c := by simpa using hc
    decide

/-! ## Numbers -/

/-- The parts of a number say what the number says. -/
theorem numberOf_parts (n : NumberSpelling) :
    numberOf n.negative (digitsText n.whole) (digitsText n.fraction)
      (n.exponent.map ExponentSpelling.number) = .ok n.meaning := by
  have happend : digitsText n.whole ++ digitsText n.fraction = digitsText (n.whole ++ n.fraction) :=
    List.map_append.symm
  rw [numberOf, NumberSpelling.meaning, NumberSpelling.integer?]
  by_cases hint : n.fraction = [] ∧ n.exponent = none
  · have hlen := n.whole_length_le hint
    simp [hint, hlen, NumberSpelling.signedWhole]
  · have hparts : ¬(digitsText n.fraction = [] ∧ n.exponent.map ExponentSpelling.number = none) := by
      simpa using hint
    rw [if_neg hparts, if_neg hint, happend, digitsNumber_digitsText, length_digitsText]

/-- A number **without its sign** is read, with the sign given. -/
theorem unsignedNumber_append (n : NumberSpelling) {rest : Text} (h : Follows rest) :
    Reads (unsignedNumber n.negative) (n.unsignedText ++ rest) n.meaning rest := by
  have hassoc : n.unsignedText ++ rest =
      digitsText n.whole ++ (n.fractionText ++ (n.exponentText ++ rest)) := by
    simp only [NumberSpelling.unsignedText, List.append_assoc]
  have hwhole := integerPart?_append (n := n) (fractionText_append_noDigit n h)
  have hhead := exponentText_append_head n h
  obtain ⟨hfraction, hafter⟩ := fractionPart_append n (fun c hc => (hhead c hc).1)
    (fun c hc => (hhead c hc).2)
  obtain ⟨hexponent, hrest⟩ := exponentPart?_append n h
  have hshorter : rest.length < (n.unsignedText ++ rest).length := by
    have := List.length_pos_iff.2 n.whole_ne_nil
    rw [hassoc]
    simp only [List.length_append, length_digitsText]
    omega
  refine ⟨hshorter, ?_⟩
  rw [← hassoc] at hwhole
  rw [unsignedNumber]
  split
  · next hnone => rw [hwhole] at hnone; cases hnone
  · next whole hsome =>
    rw [hwhole, Option.some.injEq] at hsome
    subst hsome
    have hdrop : (n.unsignedText ++ rest).drop (digitsText n.whole).length =
        n.fractionText ++ (n.exponentText ++ rest) := by rw [hassoc, List.drop_left]
    simp only [hdrop, hfraction, hafter, hexponent, numberOf_parts, hrest]

/-- A number without its sign begins with a digit, which is not a sign. -/
theorem NumberSpelling.exists_unsignedText_append_eq (n : NumberSpelling) (rest : Text) :
    ∃ c t, n.unsignedText ++ rest = c :: t ∧ c ≠ CodePoint.ofChar '-' := by
  have hall : ∀ d : Fin 10, CodePoint.ofDigit d ≠ CodePoint.ofChar '-' := by decide
  cases hwhole : n.whole with
  | nil => exact absurd hwhole n.whole_ne_nil
  | cons d ds =>
    rw [unsignedText, hwhole]
    exact ⟨CodePoint.ofDigit d, _, rfl, hall d⟩

/-- **Spelled numbers are read back**, in front of what may follow a value. -/
theorem number_append (n : NumberSpelling) {rest : Text} (h : Follows rest) :
    Reads number (n.text ++ rest) n.meaning rest := by
  have hread := unsignedNumber_append n h
  cases hsign : n.negative with
  | false =>
    have htext : n.text = n.unsignedText := by rw [NumberSpelling.text, hsign]; rfl
    obtain ⟨c, t, hcons, hc⟩ := n.exists_unsignedText_append_eq rest
    rw [hsign, hcons] at hread
    rw [htext, hcons]
    obtain ⟨hlen, hread⟩ := hread
    exact ⟨hlen, by rw [number, if_neg hc, hread]⟩
  | true =>
    have htext : n.text ++ rest = CodePoint.ofChar '-' :: (n.unsignedText ++ rest) := by
      rw [NumberSpelling.text, hsign]
      rfl
    rw [hsign] at hread
    rw [htext]
    obtain ⟨hlen, hread⟩ := hread
    refine ⟨Nat.lt_succ_of_lt hlen, ?_⟩
    rw [number, if_pos rfl, hread]
    rfl

end TimeWindow.Json
