set_option autoImplicit false

/-!
# Outcomes

Operations answer with a value or with a failure. A sequence of operations has a value exactly if
each of them has one in turn, and it fails with the failure of the first one that has none. So the
failures of a sequence are those of its parts, and what is true of them all can be shown part by
part.

## Main definitions

* `TimeWindow.Outcome.FailsOnly` — all failures of an operation have a property.

## Main results

* `TimeWindow.Outcome.bind_eq_ok_iff`, `TimeWindow.Outcome.bind_eq_error_iff` — the outcome of a
  sequence of two operations.
* `TimeWindow.Outcome.exists_mapM_iff`, `TimeWindow.Outcome.mapM_eq_ok_iff`,
  `TimeWindow.Outcome.mapM_eq_error_iff` — when an operation on each item of a list has values,
  which ones they are, and with which failure it fails.
* `TimeWindow.Outcome.mapError_eq_ok_iff` — the outcome of an operation whose failure is changed.
* `TimeWindow.Outcome.FailsOnly.bind` — the failures of a sequence are those of its parts.
-/

namespace TimeWindow.Outcome

variable {ε ε' α β : Type} {x : Except ε α}

/-- **A sequence has a value** exactly if both operations have one. -/
theorem bind_eq_ok_iff {f : α → Except ε β} {b : β} :
    (x >>= f) = .ok b ↔ ∃ a, x = .ok a ∧ f a = .ok b := by
  cases x <;> simp [bind, Except.bind]

/-- **A sequence fails** with the failure of the first operation, or else of the second. -/
theorem bind_eq_error_iff {f : α → Except ε β} {e : ε} :
    (x >>= f) = .error e ↔ x = .error e ∨ ∃ a, x = .ok a ∧ f a = .error e := by
  cases x <;> simp [bind, Except.bind]

/-- An operation that returns a value has that value. -/
theorem pure_eq_ok_iff {a b : α} : (pure a : Except ε α) = .ok b ↔ a = b := by
  simp [pure, Except.pure]

/-- What is made from a value is made from the value that there is. -/
theorem map_eq_ok_iff {f : α → β} {b : β} : x.map f = .ok b ↔ ∃ a, x = .ok a ∧ f a = b := by
  cases x <;> simp [Except.map]

/-- Other words for a failure make no value. -/
theorem mapError_eq_ok_iff {f : ε → ε'} {a : α} : x.mapError f = .ok a ↔ x = .ok a := by
  cases x with
  | ok b =>
    constructor
    · intro h; cases h; rfl
    · intro h; cases h; rfl
  | error e =>
    constructor
    · intro h; cases h
    · intro h; cases h

/-- Other words for a failure are made from the failure that there is. -/
theorem mapError_eq_error_iff {f : ε → ε'} {e : ε'} :
    x.mapError f = .error e ↔ ∃ d, x = .error d ∧ f d = e := by
  cases x with
  | ok b =>
    constructor
    · intro h; cases h
    · rintro ⟨d, h, -⟩; cases h
  | error d =>
    constructor
    · intro h; cases h; exact ⟨d, rfl, rfl⟩
    · rintro ⟨d, h, rfl⟩; cases h; rfl

/-- **An operation on each item of a list** has values exactly if the one on every item has one. -/
theorem exists_mapM_iff {f : α → Except ε β} {items : List α} :
    (∃ bs, items.mapM f = .ok bs) ↔ ∀ a ∈ items, ∃ b, f a = .ok b := by
  induction items with
  | nil => exact ⟨fun _ => by simp, fun _ => ⟨[], rfl⟩⟩
  | cons a rest ih =>
    rw [List.mapM_cons, List.forall_mem_cons, ← ih]
    constructor
    · rintro ⟨_, h⟩
      obtain ⟨b, hb, h⟩ := bind_eq_ok_iff.1 h
      obtain ⟨bs, hbs, -⟩ := bind_eq_ok_iff.1 h
      exact ⟨⟨b, hb⟩, bs, hbs⟩
    · rintro ⟨⟨b, hb⟩, bs, hbs⟩
      exact ⟨b :: bs, by rw [hb, hbs]; rfl⟩

/-- **The values of an operation on each item** of a list are those on the items, in order. -/
theorem mapM_eq_ok_iff {f : α → Except ε β} {items : List α} {bs : List β} :
    items.mapM f = .ok bs ↔ items.map f = bs.map .ok := by
  induction items generalizing bs with
  | nil => cases bs <;> simp [pure_eq_ok_iff]
  | cons a rest ih =>
    rw [List.mapM_cons, List.map_cons, bind_eq_ok_iff]
    constructor
    · rintro ⟨b, hb, h⟩
      obtain ⟨rest', hrest, h⟩ := bind_eq_ok_iff.1 h
      obtain rfl := pure_eq_ok_iff.1 h
      rw [hb, ih.1 hrest, List.map_cons]
    · intro h
      obtain ⟨b, rest', rfl, hb, hrest⟩ := List.map_eq_cons_iff.1 h.symm
      exact ⟨b, hb.symm, bind_eq_ok_iff.2 ⟨rest', ih.2 hrest.symm, rfl⟩⟩

/-- The values of an operation on each item of a list stand where the items do. -/
theorem exists_getElem?_of_mapM {f : α → Except ε β} {items : List α} {bs : List β}
    (h : items.mapM f = .ok bs) {k : Nat} {a : α} (ha : items[k]? = some a) :
    ∃ b, bs[k]? = some b ∧ f a = .ok b := by
  have hplace := congrArg (fun l => l[k]?) (mapM_eq_ok_iff.1 h)
  simp only [List.getElem?_map, ha, Option.map_some] at hplace
  obtain ⟨b, hb, heq⟩ := Option.map_eq_some_iff.1 hplace.symm
  exact ⟨b, hb, heq.symm⟩

/-- There are as many values of an operation on each item of a list as there are items. -/
theorem length_of_mapM {f : α → Except ε β} {items : List α} {bs : List β}
    (h : items.mapM f = .ok bs) : bs.length = items.length := by
  simpa using (congrArg List.length (mapM_eq_ok_iff.1 h)).symm

/-- Two operations that have the same values on the items of a list have the same values on the
list. -/
theorem mapM_eq_ok_congr {f g : α → Except ε β} {items : List α}
    (h : ∀ a ∈ items, ∀ b, f a = .ok b ↔ g a = .ok b) {bs : List β} :
    items.mapM f = .ok bs ↔ items.mapM g = .ok bs := by
  induction items generalizing bs with
  | nil => rfl
  | cons a rest ih =>
    obtain ⟨ha, hrest⟩ := List.forall_mem_cons.1 h
    simp only [List.mapM_cons, bind_eq_ok_iff, ha, ih hrest]

/-- **An operation on each item of a list fails** with its failure on the first item on which it has
no value. -/
theorem mapM_eq_error_iff {f : α → Except ε β} {items : List α} {e : ε} :
    items.mapM f = .error e ↔
      ∃ before a rest, items = before ++ a :: rest ∧ (∀ x ∈ before, ∃ b, f x = .ok b) ∧
        f a = .error e := by
  constructor
  · intro h
    induction items with
    | nil => cases h
    | cons a rest ih =>
      rw [List.mapM_cons] at h
      rcases bind_eq_error_iff.1 h with h | ⟨b, hb, h⟩
      · exact ⟨[], a, rest, rfl, by simp, h⟩
      · rcases bind_eq_error_iff.1 h with h | ⟨bs, -, h⟩
        · obtain ⟨before, x, after, rfl, hbefore, hx⟩ := ih h
          exact ⟨a :: before, x, after, rfl, List.forall_mem_cons.2 ⟨⟨b, hb⟩, hbefore⟩, hx⟩
        · cases h
  · rintro ⟨before, a, rest, rfl, hbefore, ha⟩
    obtain ⟨bs, hbs⟩ := exists_mapM_iff.2 hbefore
    rw [List.mapM_append, List.mapM_cons, hbs, ha]
    rfl

/-! ## The failures of an operation -/

/-- An operation **fails only so** if every failure that it can have has a property. -/
def FailsOnly (P : ε → Prop) (x : Except ε α) : Prop :=
  ∀ e, x = .error e → P e

namespace FailsOnly

variable {P : ε → Prop}

/-- A value is no failure. -/
theorem ok (a : α) : FailsOnly P (.ok a : Except ε α) := by
  intro e h
  cases h

/-- A failure is the only one that it can be. -/
theorem error {e : ε} (h : P e) : FailsOnly P (.error e : Except ε α) := by
  intro e' h'
  cases h'
  exact h

/-- An operation has a value or one of the failures that it can have. -/
theorem ok_or_error (h : FailsOnly P x) : (∃ a, x = .ok a) ∨ ∃ e, x = .error e ∧ P e := by
  cases x with
  | ok a => exact .inl ⟨a, rfl⟩
  | error e => exact .inr ⟨e, rfl, h e rfl⟩

/-- **The failures of a sequence** are those of its parts. -/
theorem bind {f : α → Except ε β} (hx : FailsOnly P x) (hf : ∀ a, FailsOnly P (f a)) :
    FailsOnly P (x >>= f) := by
  intro e h
  rcases bind_eq_error_iff.1 h with h | ⟨a, -, h⟩
  · exact hx e h
  · exact hf a e h

/-- What is made from a value does not change a failure. -/
theorem map {f : α → β} (hx : FailsOnly P x) : FailsOnly P (x.map f) := by
  intro e h
  cases x with
  | ok a => cases h
  | error e' =>
    cases h
    exact hx e rfl

/-- Changed failures are what failures are changed to. -/
theorem mapError {f : ε' → ε} {y : Except ε' α} (h : ∀ e, P (f e)) :
    FailsOnly P (y.mapError f) := by
  intro e he
  cases y with
  | ok a => cases he
  | error e' =>
    cases he
    exact h e'

/-- The failures of an operation on each item of a list are those on the items. -/
theorem mapM {f : α → Except ε β} {items : List α} (h : ∀ a ∈ items, FailsOnly P (f a)) :
    FailsOnly P (items.mapM f) := by
  induction items with
  | nil => exact ok []
  | cons a rest ih =>
    rw [List.mapM_cons]
    refine bind (h a (by simp)) fun b => ?_
    exact bind (ih fun a' ha' => h a' (by simp [ha'])) fun bs => ok (b :: bs)

end FailsOnly

end TimeWindow.Outcome
