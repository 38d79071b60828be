import TimeWindow.Proofs.Duration.Spelling
import TimeWindow.Proofs.Text.Strip

set_option autoImplicit false

/-!
# Reading durations back

A reader that knows nothing of canonical texts: it takes an optional minus sign, and then adds up
numbers with a unit until the text is used up. It gives back what a spelling denotes, so no two
durations share a text.

## Main definitions

* `TimeWindow.Duration.run?` — the characters of a class in front of a text.
* `TimeWindow.Duration.number?` — the decimal number in front of a text.
* `TimeWindow.Duration.component?` — the nanoseconds of a number with its unit in front of a text.
* `TimeWindow.Duration.total?` — the nanoseconds of one component or more.
* `TimeWindow.Duration.read?` — the nanoseconds that a text denotes.

## Main results

* `TimeWindow.Duration.component?_append` — one component is read, whatever component stands behind
  it.
* `TimeWindow.Duration.read?_text` — reading gives back the nanoseconds of a spelling.
-/

namespace TimeWindow.Duration

open Numeral

/-! ## Parts of a text -/

/-- The **characters of a class** in front of a text, of which there must be one, and the rest. -/
def run? (p : CodePoint → Bool) (t : Text) : Option (Text × Text) :=
  if t.takeWhile p = [] then none else some (t.takeWhile p, t.dropWhile p)

/-- The **decimal number** in front of a text, and the rest: digits, and a fraction if there is a
point behind them. -/
def number? (t : Text) : Option (ℚ × Text) := do
  let (whole, behind) ← run? CodePoint.isDigit t
  if behind.head? = some (CodePoint.ofChar '.') then
    let (fraction, rest) ← run? CodePoint.isDigit behind.tail
    return (ofDigits whole + ofDigits fraction / 10 ^ fraction.length, rest)
  return (ofDigits whole, behind)

/-- The **unit with a given mark**. -/
def TimeUnit.ofMark? (t : Text) : Option TimeUnit :=
  [.hour, .minute, .second, .millisecond, .microsecond, .nanosecond].find? (·.mark = t)

/-- The **nanoseconds of a number with its unit** in front of a text, and the rest. The mark of the
unit goes on to the next digit. -/
def component? (t : Text) : Option (ℚ × Text) := do
  let (number, behind) ← number? t
  let (mark, rest) ← run? (!·.isDigit) behind
  let unit ← TimeUnit.ofMark? mark
  return (number * unit.nanoseconds, rest)

/-! ## The rest is shorter -/

theorem length_of_run? {p : CodePoint → Bool} {t s rest : Text} (h : run? p t = some (s, rest)) :
    rest.length < t.length := by
  unfold run? at h
  split at h
  · cases h
  next hne =>
  obtain ⟨rfl, rfl⟩ := Prod.mk.inj (Option.some.inj h)
  have hlen := congrArg List.length (List.takeWhile_append_dropWhile (p := p) (l := t))
  have hpos := List.length_pos_iff.2 hne
  rw [List.length_append] at hlen
  omega

theorem length_of_number? {t rest : Text} {n : ℚ} (h : number? t = some (n, rest)) :
    rest.length < t.length := by
  obtain ⟨⟨whole, behind⟩, hwhole, h⟩ := Option.bind_eq_some_iff.1 h
  have hbehind := length_of_run? hwhole
  simp only at h
  split at h
  · obtain ⟨⟨fraction, after⟩, hfraction, h⟩ := Option.bind_eq_some_iff.1 h
    cases h
    have hafter : after.length < behind.tail.length := length_of_run? hfraction
    rw [List.length_tail] at hafter
    show after.length < t.length
    omega
  · cases h
    exact hbehind

theorem length_of_component? {t rest : Text} {n : ℚ} (h : component? t = some (n, rest)) :
    rest.length < t.length := by
  obtain ⟨⟨number, behind⟩, hnumber, h⟩ := Option.bind_eq_some_iff.1 h
  obtain ⟨⟨mark, after⟩, hmark, h⟩ := Option.bind_eq_some_iff.1 h
  obtain ⟨unit, -, h⟩ := Option.bind_eq_some_iff.1 h
  cases h
  exact Nat.lt_trans (length_of_run? hmark) (length_of_number? hnumber)

/-! ## The reader -/

/-- The **sum of the components** of a text, of which there must be one. -/
def total? (t : Text) : Option ℚ :=
  match h : component? t with
  | none => none
  | some (n, rest) =>
    if rest = [] then some n
    else
      have := length_of_component? h
      (total? rest).map (n + ·)
termination_by t.length

/-- The **number of nanoseconds** that a text denotes: components behind an optional minus sign. -/
def read? : Text → Option ℚ
  | [] => none
  | c :: rest =>
    if c = CodePoint.ofChar '-' then (total? rest).map (- ·) else total? (c :: rest)

/-! ## Reading what is written -/

theorem run?_append {p : CodePoint → Bool} {s rest : Text} (hne : s ≠ [])
    (hs : ∀ c ∈ s, p c = true) (hrest : ∀ c ∈ rest.head?, p c = false) :
    run? p (s ++ rest) = some (s, rest) := by
  rw [run?, Text.takeWhile_append hs hrest, Text.dropWhile_append hs hrest, if_neg hne]

/-- **A decimal** is read in front of what does not go on with a digit or a point. -/
theorem number?_append {places : Nat} (d : Decimal places) {rest : Text}
    (hrest : ∀ c ∈ rest.head?, c.isDigit = false ∧ c ≠ CodePoint.ofChar '.') :
    number? (d.text ++ rest) = some (d.value, rest) := by
  have hdigit : ∀ c ∈ rest.head?, c.isDigit = false := fun c hc => (hrest c hc).1
  by_cases hempty : d.fraction = []
  · have hpoint : rest.head? ≠ some (CodePoint.ofChar '.') := fun h => (hrest _ h).2 rfl
    have hrun := run?_append (nat_ne_nil d.whole) (isDigit_of_mem_nat d.whole) hdigit
    simp [number?, Decimal.text, Decimal.value, hempty, hrun, hpoint]
  · have hpoint : ∀ c ∈ (CodePoint.ofChar '.' :: (d.fraction ++ rest)).head?,
        c.isDigit = false := by
      intro c hc
      obtain rfl : CodePoint.ofChar '.' = c := Option.some.inj hc
      decide
    have hrun := run?_append (nat_ne_nil d.whole) (isDigit_of_mem_nat d.whole) hpoint
    have hfraction := run?_append hempty d.isDigit hdigit
    simp [number?, Decimal.text, Decimal.value, hempty, hrun, hfraction]

/-- A unit is found by its mark. -/
theorem TimeUnit.ofMark?_mark (u : TimeUnit) : ofMark? u.mark = some u := by
  cases u <;> decide

/-- A mark is made of characters that are not part of a number. -/
theorem TimeUnit.mark_spec (u : TimeUnit) :
    u.mark ≠ [] ∧ ∀ c ∈ u.mark, c.isDigit = false ∧ c ≠ CodePoint.ofChar '.' := by
  cases u <;> decide

/-- The text of components begins with a digit. -/
theorem exists_flatMap_text_eq_cons (c : Component) (cs : List Component) :
    ∃ d rest, (c :: cs).flatMap Component.text = d :: rest ∧ d.isDigit = true := by
  obtain ⟨d, digits, hnat⟩ := List.exists_cons_of_ne_nil (nat_ne_nil c.number.whole)
  have hd : d ∈ nat c.number.whole := by
    rw [hnat]
    exact List.mem_cons_self
  rw [List.flatMap_cons, Component.text, Decimal.text, hnat]
  exact ⟨d, _, rfl, isDigit_of_mem_nat c.number.whole d hd⟩

/-- **A component is read** in front of another one or of the end. -/
theorem component?_append (c : Component) {rest : Text}
    (hrest : ∀ d ∈ rest.head?, d.isDigit = true) :
    component? (c.text ++ rest) = some (c.nanoseconds, rest) := by
  obtain ⟨hne, hmark⟩ := c.unit.mark_spec
  have hnumber : number? (c.number.text ++ (c.unit.mark ++ rest)) =
      some (c.number.value, c.unit.mark ++ rest) := by
    refine number?_append c.number fun d hd => hmark d ?_
    rw [List.head?_append_of_ne_nil _ hne] at hd
    exact List.mem_of_mem_head? hd
  have hrun : run? (!·.isDigit) (c.unit.mark ++ rest) = some (c.unit.mark, rest) :=
    run?_append hne (fun d hd => by rw [(hmark d hd).1]; rfl)
      (fun d hd => by rw [hrest d hd]; rfl)
  simp [component?, Component.text, Component.nanoseconds, hnumber, hrun, TimeUnit.ofMark?_mark]

/-- The components of a text are the first one, and those of the rest if there is a rest. -/
theorem total?_of_component? {t rest : Text} {n : ℚ} (h : component? t = some (n, rest)) :
    total? t = if rest = [] then some n else (total? rest).map (n + ·) := by
  rw [total?]
  split
  · next hnone => rw [hnone] at h; cases h
  · next n' rest' hsome =>
    rw [hsome] at h
    cases h
    rfl

/-- **Components are summed up.** -/
theorem total?_flatMap (c : Component) (cs : List Component) :
    total? ((c :: cs).flatMap Component.text) =
      some (((c :: cs).map Component.nanoseconds).sum) := by
  induction cs generalizing c with
  | nil =>
    have hread : component? (c.text ++ []) = some (c.nanoseconds, []) :=
      component?_append c (by simp)
    rw [List.append_nil] at hread
    simp [total?_of_component? hread]
  | cons next cs ih =>
    obtain ⟨d, after, hrest, hd⟩ := exists_flatMap_text_eq_cons next cs
    have hread : component? (c.text ++ (next :: cs).flatMap Component.text) =
        some (c.nanoseconds, (next :: cs).flatMap Component.text) := by
      refine component?_append c fun e he => ?_
      rw [hrest, List.head?_cons, Option.mem_some] at he
      exact he ▸ hd
    have hne : (next :: cs).flatMap Component.text ≠ [] := by
      rw [hrest]
      exact List.cons_ne_nil _ _
    rw [List.flatMap_cons, total?_of_component? hread, if_neg hne, ih next, List.map_cons,
      List.sum_cons]
    rfl

/-- Without a sign, the components alone are read. -/
theorem read?_flatMap (c : Component) (cs : List Component) :
    read? ((c :: cs).flatMap Component.text) =
      some (((c :: cs).map Component.nanoseconds).sum) := by
  obtain ⟨d, rest, htext, hd⟩ := exists_flatMap_text_eq_cons c cs
  have hsign : d ≠ CodePoint.ofChar '-' := by
    rintro rfl
    cases hd
  rw [← total?_flatMap, htext, read?, if_neg hsign]

/-- **Reading gives back** the nanoseconds of a spelling. -/
theorem read?_text (s : Spelling) : read? s.text = some (s.nanoseconds : ℚ) := by
  cases s with
  | zero =>
    have htext : Spelling.zero.text = [⟨.second, .ofWhole 0⟩].flatMap Component.text := by
      simp [Spelling.text, Component.text, nat_of_lt, TimeUnit.mark]
      rfl
    rw [htext, read?_flatMap]
    simp [Component.nanoseconds, Spelling.nanoseconds]
  | signed negative m =>
    obtain ⟨c, cs, hcomponents⟩ : ∃ c cs, m.components = c :: cs := by
      cases m <;> exact ⟨_, _, rfl⟩
    have hsum := m.sum_nanoseconds
    rw [hcomponents] at hsum
    cases negative with
    | true =>
      have htotal : total? m.text = some (m.nanoseconds : ℚ) := by
        rw [Magnitude.text, hcomponents, total?_flatMap, hsum]
      simp [Spelling.text, Spelling.nanoseconds, read?, htotal]
    | false =>
      have hread : read? m.text = some (m.nanoseconds : ℚ) := by
        rw [Magnitude.text, hcomponents, read?_flatMap, hsum]
      simp [Spelling.text, Spelling.nanoseconds, hread]

end TimeWindow.Duration
