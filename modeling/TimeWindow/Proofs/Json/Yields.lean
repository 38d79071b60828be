import Mathlib.Data.List.TakeWhile
import TimeWindow.Json.Reading.Document
import TimeWindow.Proofs.Numeral.Digits
import TimeWindow.Proofs.Outcome

set_option autoImplicit false

/-!
# What readers give

A reader of values makes what it gives from words, numbers and texts, and from smaller values that
it has read one level below. So a property of documents that is kept by these steps holds of every
document that is read, from whatever text or bytes.

## Main definitions

* `TimeWindow.Json.Yields` — all that a reader gives has a property.
* `TimeWindow.Json.Scalar` — what a reader of words and numbers gives.
* `TimeWindow.Json.Closed` — a property of documents, by their depth, that is kept when they are
  made from smaller ones.

## Main results

* `TimeWindow.Json.Closed.yields_value` — every value that is read has such a property.
* `TimeWindow.Json.Closed.of_ofText`, `TimeWindow.Json.Closed.of_ofBytes` — so has every document.
-/

namespace TimeWindow.Json

/-! ## Readers -/

/-- **All that a reader gives** has a property. -/
def Yields {α : Type} (P : α → Prop) (reader : Reader α) : Prop :=
  ∀ s r, reader s = .ok r → P r.value

namespace Yields

variable {α : Type} {P : α → Prop} {closing : CodePoint} {item : Reader α}

/-- Items between brackets have a property if all that their reader gives has it.

**Proof sketch.** By induction on the length of the text: what follows an item and a comma is
shorter. -/
theorem items (h : Yields P item) : Yields (fun xs => ∀ x ∈ xs, P x) (items closing item) := by
  intro s
  induction hlen : s.length using Nat.strongRecOn generalizing s with
  | _ n ih =>
    intro read hread
    rw [Json.items] at hread
    split at hread
    · cases hread
    · next x r hr hitem =>
      have hx : P x := h s _ hitem
      split at hread
      · cases hread
      · next c t hskip =>
        split at hread
        · cases hread
          simpa using hx
        · split at hread
          · split at hread
            · cases hread
            · next more hmore =>
              cases hread
              have hshorter : (skipBlanks t).length < n := by
                have := length_skipBlanks_le r
                have := length_skipBlanks_le t
                rw [hskip, List.length_cons] at *
                omega
              exact List.forall_mem_cons.2 ⟨hx, ih _ hshorter _ rfl more hmore⟩
          · cases hread

/-- The parts of a container have a property if all that their reader gives has it. -/
theorem sequence (h : Yields P item) : Yields (fun xs => ∀ x ∈ xs, P x) (sequence closing item) := by
  intro s read hread
  rw [Json.sequence] at hread
  split at hread
  · obtain ⟨r, hr, rfl⟩ := Outcome.map_eq_ok_iff.1 hread
    exact h.items _ r hr
  · split at hread
    · cases hread
      simp
    · obtain ⟨r, hr, rfl⟩ := Outcome.map_eq_ok_iff.1 hread
      exact h.items _ r hr

/-- The value of a member has a property if all that its reader gives has it. -/
theorem member {P : Json → Prop} {item : Reader Json} (h : Yields P item) :
    Yields (fun m => P m.2) (member item) := by
  intro s read hread
  unfold Json.member at hread
  split at hread
  · cases hread
  · split at hread
    · split at hread
      · cases hread
      · split at hread
        · cases hread
        · split at hread
          · split at hread
            · cases hread
            · next r hr =>
              cases hread
              exact h _ r hr
          · cases hread
    · cases hread

end Yields

/-! ## Numbers and words -/

/-- A **scalar**: a word or a number. An integer is within the digit limit. -/
inductive Scalar : Json → Prop
  | null : Scalar .null
  | bool (b : Bool) : Scalar (.bool b)
  | int {n : Int} (h : Numeral.WithinLimit n) : Scalar (.int n)
  | float (x : Binary64) : Scalar (.float x)

/-- Digits at the front of a text are digits. -/
theorem isDigit_of_integerPart? {s whole : Text} (h : integerPart? s = some whole) :
    ∀ c ∈ whole, c.isDigit = true := by
  cases s with
  | nil => cases h
  | cons c rest =>
    have hrun : ∀ d ∈ digitRun rest, d.isDigit = true := fun d hd => List.mem_takeWhile_imp hd
    rw [integerPart?] at h
    split at h
    · next hzero =>
      cases h
      simp only [List.mem_singleton, forall_eq, hzero]
      rfl
    · split at h
      · next hc =>
        cases h
        exact List.forall_mem_cons.2 ⟨hc, hrun⟩
      · cases h

/-- **A number that is read** is a scalar: an integer has no more digits than are written, and a
fraction or an exponent makes a binary number. -/
theorem scalar_numberOf {negative : Bool} {whole fraction : Text} {exponent : Option Int}
    {j : Json} (hdigits : ∀ c ∈ whole, c.isDigit = true)
    (h : numberOf negative whole fraction exponent = .ok j) : Scalar j := by
  unfold numberOf at h
  split at h
  · split at h
    · cases h
    · next hlen =>
      cases h
      have hvalues : ∀ d ∈ whole.map (fun c => c.val - 0x30), d < 10 := by
        intro d hd
        obtain ⟨c, hc, rfl⟩ := List.mem_map.1 hd
        have := CodePoint.isDigit_eq_true_iff.1 (hdigits c hc)
        omega
      refine .int (Numeral.withinLimit_of_digits hvalues ?_ ?_)
      · rw [List.length_map]
        exact Nat.le_of_not_lt hlen
      · rw [← digitsNumber]
        split <;> simp
  · cases h
    exact .float _

theorem yields_unsignedNumber (negative : Bool) : Yields Scalar (unsignedNumber negative) := by
  intro s read hread
  unfold unsignedNumber at hread
  split at hread
  · cases hread
  · next whole hwhole =>
    dsimp only at hread
    split at hread
    · cases hread
    · next j hj =>
      cases hread
      exact scalar_numberOf (isDigit_of_integerPart? hwhole) hj

theorem yields_number : Yields Scalar number := by
  intro s read hread
  unfold number at hread
  split at hread
  · cases hread
  · split at hread
    · split at hread
      · cases hread
      · cases hread
      · next r hr =>
        cases hread
        exact yields_unsignedNumber true _ r hr
    · exact yields_unsignedNumber false _ read hread

/-- **Words and numbers are scalars.** -/
theorem yields_scalar : Yields Scalar scalar := by
  intro s read hread
  unfold scalar at hread
  split at hread
  · next word j hword =>
    cases hread
    have hall : ∀ literal ∈ literals, Scalar literal.2 := by
      simp only [literals, List.forall_mem_cons]
      exact ⟨.null, .bool _, .bool _, .float _, .float _, .float _, by simp⟩
    exact hall _ (List.mem_of_find?_eq_some hword)
  · exact yields_number s read hread

/-! ## Values -/

/-- A property of documents and a number of containers that may be open is **closed** if scalars and
texts have it for every number, and a container has it for a number that is greater by one if its
parts have it. -/
structure Closed (P : Nat → Json → Prop) : Prop where
  scalar : ∀ {depth j}, Scalar j → P depth j
  text : ∀ {depth} t, P depth (.text t)
  array : ∀ {depth items}, (∀ j ∈ items, P depth j) → P (depth + 1) (.array items)
  object : ∀ {depth members}, (∀ m ∈ members, P depth m.2) → P (depth + 1) (.object members)

/-- A reader of values gives a scalar or a text, or a container that one of its readers of
containers gives. -/
theorem yields_valueWith {P : Json → Prop} {Q : List Json → Prop} {R : List (Text × Json) → Prop}
    {array : Reader (List Json)} {object : Reader (List (Text × Json))}
    (hscalar : ∀ j, Scalar j → P j) (htext : ∀ t, P (.text t))
    (harray : Yields Q array) (hQ : ∀ items, Q items → P (.array items))
    (hobject : Yields R object) (hR : ∀ members, R members → P (.object members)) :
    Yields P (valueWith array object) := by
  intro s read hread
  unfold valueWith at hread
  split at hread
  · cases hread
  · dsimp only at hread
    split at hread
    · obtain ⟨r, -, rfl⟩ := Outcome.map_eq_ok_iff.1 hread
      exact htext _
    · split at hread
      · obtain ⟨r, hr, rfl⟩ := Outcome.map_eq_ok_iff.1 hread
        exact hQ _ (harray _ r hr)
      · split at hread
        · obtain ⟨r, hr, rfl⟩ := Outcome.map_eq_ok_iff.1 hread
          exact hR _ (hobject _ r hr)
        · exact hscalar _ (yields_scalar _ read hread)

namespace Closed

variable {P : Nat → Json → Prop}

/-- **Every value that is read** has a closed property.

**Proof sketch.** By induction on the number of containers that may be open: the parts of a
container are read with one less. -/
theorem yields_value (h : Closed P) (depth : Nat) : Yields (P depth) (value depth) := by
  induction depth with
  | zero =>
    -- no container may be opened, so its readers give nothing
    have hnone : ∀ {α : Type} (stop : Stop), Yields (fun _ : α => False) fun _ => .error stop := by
      intro α stop s r hr
      cases hr
    rw [value]
    exact yields_valueWith (fun _ => h.scalar) h.text (hnone _) (fun _ => False.elim) (hnone _)
      fun _ => False.elim
  | succ depth ih =>
    rw [value]
    exact yields_valueWith (fun _ => h.scalar) h.text ih.sequence (fun _ => h.array)
      ih.member.sequence fun _ => h.object

/-! ## Documents -/

theorem of_read (h : Closed P) {t : Text} {j : Json} (hj : read t = .ok j) : P nestingLimit j := by
  unfold read at hj
  split at hj
  · cases hj
  · next r hr =>
    split at hj
    · cases hj
      exact h.yields_value _ _ r hr
    · cases hj

/-- **Every document that is read from a text** has a closed property. -/
theorem of_ofText (h : Closed P) {t : Text} {j : Json} (hj : ofText t = .ok j) :
    P nestingLimit j := by
  unfold ofText at hj
  split at hj
  · cases hj
  · exact h.of_read hj

/-- **Every document that is read from bytes** has a closed property. -/
theorem of_ofBytes (h : Closed P) {bytes : List UInt8} {j : Json} (hj : ofBytes bytes = .ok j) :
    P nestingLimit j := by
  unfold ofBytes at hj
  split at hj
  · cases hj
  · exact h.of_read hj

end Closed

end TimeWindow.Json
