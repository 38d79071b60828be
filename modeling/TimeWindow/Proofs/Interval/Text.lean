import TimeWindow.Interval.View
import TimeWindow.Proofs.Duration.Writing
import TimeWindow.Proofs.Timestamp.Distinct

set_option autoImplicit false

/-!
# Texts of intervals

The text of an interval shows its start, its end and its duration. The start and the end must lie in
the years 1 to 9999, and that is all: the duration between two such instants has few hours and is
always written. The three parts can be told apart, since neither the arrow nor the comma between them
stands in the text of an instant, so the text says which interval it is.

## Main definitions

* `TimeWindow.Interval.window` — a text of a start, an end and a duration.

## Main results

* `TimeWindow.Duration.exists_format_of_bounds` — durations inside the calendar are written.
* `TimeWindow.Interval.text_int` — the text of an interval of integers, part by part.
* `TimeWindow.Interval.window_inj` — the parts of a text.
* `TimeWindow.Interval.exists_text_int_iff`, `TimeWindow.Interval.text_eq_error_iff` — which intervals
  have a text, and how it fails for the others.
* `TimeWindow.Interval.text_determines` — the same in years, and that no two intervals share a text.
-/

namespace TimeWindow

open Outcome

/-- **A duration that is no longer than the calendar** is written: it has less than a hundred million
hours. -/
theorem Duration.exists_format_of_bounds {b : Int}
    (h : -315537897600 * 10 ^ 9 < b ∧ b < 315537897600 * 10 ^ 9) :
    ∃ t, Duration.format b = .ok t := by
  rw [Duration.exists_format_iff]
  refine Numeral.withinLimit_of_fitsInt64 (fitsInt64_eq_true_iff.2 ?_)
  unfold int64Min int64Max
  omega

namespace Interval

/-! ## The parts of a text -/

/-- The **text of a window**, of its start, its end and its duration. -/
def window (opening closing length : Text) : Text :=
  Text.concat ["Interval(", opening, "→", closing, ", ", length, ")"]

/-- **The text of an interval of integers**, part by part. -/
theorem text_int (a b : Int) (label : Option Value) :
    (Interval.mk (.int a) (.int b) label).text = (do
      let opening ← Timestamp.format a
      let closing ← Timestamp.format (a + b)
      let length ← Duration.format b
      return window opening closing length) := rfl

/-- **An interval has a text** if each of its parts has one. -/
theorem text_eq_ok_iff {a b : Int} {label : Option Value} {t : Text} :
    (Interval.mk (.int a) (.int b) label).text = .ok t ↔
      ∃ opening closing length, Timestamp.format a = .ok opening ∧
        Timestamp.format (a + b) = .ok closing ∧ Duration.format b = .ok length ∧
        window opening closing length = t := by
  simp only [text_int, bind_eq_ok_iff, pure_eq_ok_iff, exists_and_left]

/-- The text of a window, with everything behind its start and behind its end. -/
theorem window_eq_append (opening closing length : Text) :
    window opening closing length =
      Text.ofString "Interval(" ++ (opening ++ CodePoint.ofChar '→' ::
        (closing ++ CodePoint.ofChar ',' :: (CodePoint.ofChar ' ' ::
          (length ++ [CodePoint.ofChar ')'])))) := by
  simp only [window, Text.concat, List.flatten_cons, List.flatten_nil, List.append_nil]
  rfl

/-- **The parts of a text.** The start goes on to the arrow, and the end to the comma. -/
theorem window_inj {opening closing length opening' closing' length' : Text}
    (ho : ∀ c ∈ opening, Timestamp.isMark c = true) (ho' : ∀ c ∈ opening', Timestamp.isMark c = true)
    (hc : ∀ c ∈ closing, Timestamp.isMark c = true) (hc' : ∀ c ∈ closing', Timestamp.isMark c = true)
    (h : window opening closing length = window opening' closing' length') :
    opening = opening' ∧ closing = closing' ∧ length = length' := by
  rw [window_eq_append, window_eq_append, List.append_cancel_left_eq] at h
  obtain ⟨hopening, h⟩ := Text.append_mark_inj (by decide) ho ho' h
  obtain ⟨hclosing, h⟩ := Text.append_mark_inj (by decide) hc hc' h
  exact ⟨hopening, hclosing, List.append_cancel_right (List.cons.inj h).2⟩

/-! ## Texts and intervals -/

/-- If the start and the end have texts, so has the duration. -/
theorem exists_durationText {a b : Int} {opening closing : Text}
    (ho : Timestamp.format a = .ok opening) (hc : Timestamp.format (a + b) = .ok closing) :
    ∃ length, Duration.format b = .ok length :=
  Duration.exists_format_of_bounds (Timestamp.between_bounds
    (Timestamp.exists_format_iff.1 ⟨opening, ho⟩) (Timestamp.exists_format_iff.1 ⟨closing, hc⟩))

/-- **An interval of integers has a text** exactly if its start and its end have one. -/
theorem exists_text_int_iff {a b : Int} {label : Option Value} :
    (∃ t, (Interval.mk (.int a) (.int b) label).text = .ok t) ↔
      (∃ opening, Timestamp.format a = .ok opening) ∧
        ∃ closing, Timestamp.format (a + b) = .ok closing := by
  constructor
  · rintro ⟨t, h⟩
    obtain ⟨opening, closing, -, ho, hc, -⟩ := text_eq_ok_iff.1 h
    exact ⟨⟨opening, ho⟩, closing, hc⟩
  · rintro ⟨⟨opening, ho⟩, closing, hc⟩
    obtain ⟨length, hl⟩ := exists_durationText ho hc
    exact ⟨_, text_eq_ok_iff.2 ⟨opening, closing, length, ho, hc, hl, rfl⟩⟩

/-- **An interval of integers has no text** if its start or its end has none; the failure is that of
the start, or else that of the end. -/
theorem text_eq_error_iff {a b : Int} {label : Option Value} {f : Failure} :
    (Interval.mk (.int a) (.int b) label).text = .error f ↔
      Timestamp.format a = .error f ∨
        (∃ opening, Timestamp.format a = .ok opening) ∧ Timestamp.format (a + b) = .error f := by
  rw [text_int, bind_eq_error_iff]
  refine or_congr_right ?_
  constructor
  · rintro ⟨opening, ho, h⟩
    refine ⟨⟨opening, ho⟩, ?_⟩
    rcases bind_eq_error_iff.1 h with h | ⟨closing, hc, h⟩
    · exact h
    · -- the duration has a text, and nothing fails behind it
      obtain ⟨length, hl⟩ := exists_durationText ho hc
      rw [hl] at h
      cases h
  · rintro ⟨⟨opening, ho⟩, hc⟩
    exact ⟨opening, ho, bind_eq_error_iff.2 (.inl hc)⟩

/-- **Two intervals of integers with one text** have the same start and the same duration. -/
theorem eq_of_text_int {a b a' b' : Int} {label label' : Option Value} {t : Text}
    (h : (Interval.mk (.int a) (.int b) label).text = .ok t)
    (h' : (Interval.mk (.int a') (.int b') label').text = .ok t) : a' = a ∧ b' = b := by
  obtain ⟨opening, closing, length, ho, hc, -, rfl⟩ := text_eq_ok_iff.1 h
  obtain ⟨opening', closing', length', ho', hc', -, heq⟩ := text_eq_ok_iff.1 h'
  obtain ⟨rfl, rfl, -⟩ := window_inj (Timestamp.isMark_of_format ho')
    (Timestamp.isMark_of_format ho) (Timestamp.isMark_of_format hc')
    (Timestamp.isMark_of_format hc) heq
  have hstart : a' = a := Timestamp.eq_of_format ho' ho
  have hfinish : a' + b' = a + b := Timestamp.eq_of_format hc' hc
  omega

/-- **The text of an interval says which one it is.** An interval of integers of any size has a text
exactly if its start and its end lie in the years 1 to 9999. If it has none, it fails as the text of
its start does, or as that of its end if the start has a text; so the failure is an overflow of the
calendar, and never one of writing the duration. Two intervals of integers with the same text have
the same start and the same duration. -/
theorem text_determines (a b : Int) (label : Option Value) :
    let i : Interval := ⟨.int a, .int b, label⟩
    ((∃ t, i.text = .ok t) ↔
        (1 ≤ Timestamp.yearAt a ∧ Timestamp.yearAt a ≤ 9999) ∧
          1 ≤ Timestamp.yearAt (a + b) ∧ Timestamp.yearAt (a + b) ≤ 9999) ∧
      (∀ f, i.text = .error f ↔
        Timestamp.format a = .error f ∨
          (∃ opening, Timestamp.format a = .ok opening) ∧ Timestamp.format (a + b) = .error f) ∧
      (∀ f, i.text = .error f → ∃ overflow, f = .overflow overflow) ∧
      ∀ (a' b' : Int) (label' : Option Value) (t : Text), i.text = .ok t →
        (Interval.mk (.int a') (.int b') label').text = .ok t → a' = a ∧ b' = b := by
  refine ⟨?_, fun f => text_eq_error_iff, fun f h => ?_, fun a' b' label' t => eq_of_text_int⟩
  · rw [← Timestamp.exists_format_iff, ← Timestamp.exists_format_iff, exists_text_int_iff]
  · rcases text_eq_error_iff.1 h with h | ⟨-, h⟩
    · exact ⟨_, (Timestamp.format_eq_error_iff.1 h).2⟩
    · exact ⟨_, (Timestamp.format_eq_error_iff.1 h).2⟩

end Interval

end TimeWindow
