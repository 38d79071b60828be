import Mathlib.Data.List.DropRight
import TimeWindow.Text.Blank

set_option autoImplicit false

/-!
# Texts between blanks

Stripping takes off all code points of a class at the two ends of a text, and nothing else.

## Main results

* `TimeWindow.Text.takeWhile_append`, `TimeWindow.Text.dropWhile_append` — code points of a class in
  front of one outside it.
* `TimeWindow.Text.append_mark_inj` — where they end, if a mark stands there.
* `TimeWindow.Text.exists_eq_append_stripBy` — what stripping takes off belongs to the class.
* `TimeWindow.Text.stripBy_append` — a text that neither begins nor ends in the class is what is
  left if it stands between code points of the class.
-/

namespace TimeWindow.Text

variable {p : CodePoint → Bool}

/-- Nothing is taken or dropped in front of a text that does not begin in the class. -/
theorem takeWhile_dropWhile_of_head? {t : Text} (h : ∀ c ∈ t.head?, p c = false) :
    t.takeWhile p = [] ∧ t.dropWhile p = t := by
  cases t with
  | nil => exact ⟨rfl, rfl⟩
  | cons c t => simp [h c rfl]

/-- **Code points of a class** are taken up to the first one outside it. -/
theorem takeWhile_append {s rest : Text} (hs : ∀ c ∈ s, p c = true)
    (hrest : ∀ c ∈ rest.head?, p c = false) : (s ++ rest).takeWhile p = s := by
  rw [List.takeWhile_append_of_pos hs, (takeWhile_dropWhile_of_head? hrest).1, List.append_nil]

/-- **Code points of a class** are dropped up to the first one outside it. -/
theorem dropWhile_append {s rest : Text} (hs : ∀ c ∈ s, p c = true)
    (hrest : ∀ c ∈ rest.head?, p c = false) : (s ++ rest).dropWhile p = rest := by
  rw [List.dropWhile_append_of_pos hs, (takeWhile_dropWhile_of_head? hrest).2]

/-- **Where a class ends** in front of a mark outside it is determined by the text. -/
theorem append_mark_inj {mark : CodePoint} (hmark : p mark = false) {s s' rest rest' : Text}
    (hs : ∀ c ∈ s, p c = true) (hs' : ∀ c ∈ s', p c = true)
    (h : s ++ mark :: rest = s' ++ mark :: rest') : s = s' ∧ rest = rest' := by
  have hstop : ∀ t : Text, ∀ c ∈ (mark :: t).head?, p c = false := by
    intro t c hc
    obtain rfl : mark = c := by simpa using hc
    exact hmark
  have htake : s = s' := by
    rw [← takeWhile_append hs (hstop rest), h, takeWhile_append hs' (hstop rest')]
  subst htake
  exact ⟨rfl, (List.cons.inj (List.append_cancel_left h)).2⟩

/-- **What stripping takes off** the two ends of a text belongs to the class. -/
theorem exists_eq_append_stripBy (p : CodePoint → Bool) (t : Text) :
    ∃ before after : Text, (∀ c ∈ before, p c = true) ∧ (∀ c ∈ after, p c = true) ∧
      t = before ++ t.stripBy p ++ after := by
  refine ⟨t.takeWhile p, (t.dropWhile p).rtakeWhile p, fun c hc => List.mem_takeWhile_imp hc,
    fun c hc => List.mem_rtakeWhile_imp hc, ?_⟩
  have hleft := List.takeWhile_append_dropWhile (p := p) (l := t)
  have hright := List.rdropWhile_append_rtakeWhile (p := p) (l := t.dropWhile p)
  calc t = t.takeWhile p ++ t.dropWhile p := hleft.symm
    _ = t.takeWhile p ++ ((t.dropWhile p).rdropWhile p ++ (t.dropWhile p).rtakeWhile p) := by
      rw [hright]
    _ = t.takeWhile p ++ t.stripBy p ++ (t.dropWhile p).rtakeWhile p := by
      rw [List.append_assoc]
      rfl

/-- Code points of a class behind a text are dropped from its end. -/
theorem rdropWhile_append_of_all (t : Text) {after : Text} (h : ∀ c ∈ after, p c = true) :
    (t ++ after).rdropWhile p = t.rdropWhile p := by
  induction after using List.reverseRecOn with
  | nil => rw [List.append_nil]
  | append_singleton after c ih =>
    rw [← List.append_assoc, List.rdropWhile_concat_pos _ _ _ (h c (by simp)),
      ih fun d hd => h d (by simp [hd])]

/-- **A text between code points of a class**, in which it neither begins nor ends, is what
stripping leaves. -/
theorem stripBy_append {before t after : Text} (hb : ∀ c ∈ before, p c = true)
    (ha : ∀ c ∈ after, p c = true) (hhead : ∀ c ∈ t.head?, p c = false)
    (hlast : ∀ c ∈ t.getLast?, p c = false) (hne : t ≠ []) :
    stripBy p (before ++ t ++ after) = t := by
  have hdrop : (before ++ t ++ after).dropWhile p = t ++ after := by
    rw [List.append_assoc]
    refine dropWhile_append hb fun c hc => hhead c ?_
    rwa [List.head?_append_of_ne_nil _ hne] at hc
  show ((before ++ t ++ after).dropWhile p).rdropWhile p = t
  rw [hdrop, rdropWhile_append_of_all t ha, List.rdropWhile_eq_self_iff]
  intro hl
  rw [hlast _ (List.getLast?_eq_getLast_of_ne_nil hl ▸ rfl)]
  exact Bool.false_ne_true

/-- A text that neither begins nor ends in the class is left as it is. -/
theorem stripBy_of_ends {t : Text} (hhead : ∀ c ∈ t.head?, p c = false)
    (hlast : ∀ c ∈ t.getLast?, p c = false) : stripBy p t = t := by
  by_cases hne : t = []
  · rw [hne]
    rfl
  · have hstrip : stripBy p ([] ++ t ++ []) = t :=
      stripBy_append (by simp) (by simp) hhead hlast hne
    rwa [List.nil_append, List.append_nil] at hstrip

end TimeWindow.Text
