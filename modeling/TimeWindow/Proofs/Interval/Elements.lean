import TimeWindow.Failure.Message
import TimeWindow.Proofs.Interval.Outcome
import TimeWindow.Proofs.Interval.Row
import TimeWindow.Proofs.Json.Document

set_option autoImplicit false

/-!
# Elements of list documents

A list document is read element by element, in order, and each element is read as a payload by
itself. The intervals of the document are those of its elements. If an element is no interval, the
first such element decides the failure of the document, which names the index of the element and
keeps the failure of the element.

## Main definitions

* `TimeWindow.Interval.FirstUndecodable` — the first payload that is no interval, with its index and
  its failure.

## Main results

* `TimeWindow.Interval.ofPayloads_eq_ok_iff`, `TimeWindow.Interval.ofPayloads_eq_error_iff` — what
  is read from a list of payloads, and with which failure reading it fails.
* `TimeWindow.Interval.listOfDocument_elements` — the same for list documents.
-/

namespace TimeWindow.Interval

open Outcome
open Json (Padded Piece Spelling)

/-! ## The first payload that is no interval -/

/-- The **first payload that fails to decode** stands at index `k` and fails with `f`: all payloads
before it are intervals. -/
structure FirstUndecodable (payloads : List Value) (k : Nat) (f : Failure) : Prop where
  before : ∀ payload ∈ payloads.take k, ∃ i, ofPayload .plain payload = .ok i
  refused : payloads[k]?.map (ofPayload .plain) = some (.error f)
  undecodable : f.category = .undecodable

section First

variable {payload : Value} {rest : List Value} {k : Nat} {f : Failure}

/-- Behind an interval, the first payload that fails to decode is that of the rest. -/
theorem firstUndecodable_cons_of_ok {i : Interval} (h : ofPayload .plain payload = .ok i) :
    FirstUndecodable (payload :: rest) k f ↔ ∃ j, k = j + 1 ∧ FirstUndecodable rest j f := by
  constructor
  · rintro ⟨hbefore, hrefused, hf⟩
    cases k with
    | zero => simp [h] at hrefused
    | succ j =>
      rw [List.take_succ_cons, List.forall_mem_cons] at hbefore
      exact ⟨j, rfl, hbefore.2, hrefused, hf⟩
  · rintro ⟨j, rfl, hbefore, hrefused, hf⟩
    refine ⟨?_, hrefused, hf⟩
    rw [List.take_succ_cons, List.forall_mem_cons]
    exact ⟨⟨i, h⟩, hbefore⟩

/-- A first payload that fails to decode is the first one. -/
theorem firstUndecodable_cons_of_error {g : Failure} (h : ofPayload .plain payload = .error g)
    (hg : g.category = .undecodable) :
    FirstUndecodable (payload :: rest) k f ↔ k = 0 ∧ f = g := by
  constructor
  · rintro ⟨hbefore, hrefused, -⟩
    cases k with
    | zero =>
      simp only [List.getElem?_cons_zero, Option.map_some, h, Option.some.injEq,
        Except.error.injEq] at hrefused
      exact ⟨rfl, hrefused.symm⟩
    | succ j =>
      obtain ⟨i, hi⟩ := hbefore payload (by simp)
      rw [h] at hi
      cases hi
  · rintro ⟨rfl, rfl⟩
    exact ⟨by simp, by simp [h], hg⟩

end First

/-! ## Lists of payloads -/

/-- **The intervals of payloads** are those of each payload, in order. -/
theorem ofPayloads_eq_ok_iff {index : Nat} {payloads : List Value} {intervals : List Interval} :
    ofPayloads index payloads = .ok intervals ↔
      payloads.map (ofPayload .plain) = intervals.map .ok := by
  rw [← mapM_eq_ok_iff]
  induction payloads generalizing index intervals with
  | nil => rfl
  | cons payload rest ih =>
    rw [List.mapM_cons, ofPayloads]
    cases ofPayload .plain payload with
    | ok i =>
      simp only [bind_eq_ok_iff, ih]
    | error f =>
      simp only [bind_eq_ok_iff, reduceCtorEq, false_and, exists_false]

/-- **Payloads are refused** because of the first one that fails to decode, which is named by its
index, if all that there is to show of them can be shown. -/
theorem ofPayloads_eq_error_iff {payloads : List Value}
    (h : ∀ payload ∈ payloads, ∀ e, payload.exhibit? = some e → e.CanBeShown) {index : Nat}
    {f : Failure} :
    ofPayloads index payloads = .error f ↔
      ∃ k g, FirstUndecodable payloads k g ∧ f = .element (index + k) g := by
  induction payloads generalizing index with
  | nil =>
    constructor
    · intro hf
      cases hf
    · rintro ⟨k, g, hfirst, -⟩
      cases hfirst.refused
  | cons payload rest ih =>
    obtain ⟨hpayload, hrest⟩ := List.forall_mem_cons.1 h
    cases hp : ofPayload .plain payload with
    | ok i =>
      have hmap : (ofPayloads (index + 1) rest).map (i :: ·) = .error f ↔
          ofPayloads (index + 1) rest = .error f := by
        cases ofPayloads (index + 1) rest <;> simp [Except.map]
      rw [ofPayloads_cons_of_ok hp, hmap, ih hrest]
      simp only [firstUndecodable_cons_of_ok hp]
      constructor
      · rintro ⟨k, g, hfirst, rfl⟩
        exact ⟨k + 1, g, ⟨k, rfl, hfirst⟩, by rw [Nat.add_right_comm, Nat.add_assoc]⟩
      · rintro ⟨_, g, ⟨k, rfl, hfirst⟩, rfl⟩
        exact ⟨k, g, hfirst, by rw [Nat.add_right_comm, Nat.add_assoc]⟩
    | error g =>
      have hg := category_of_ofPayload hpayload hp
      rw [ofPayloads_cons_of_error hp hg]
      simp only [firstUndecodable_cons_of_error hp hg]
      constructor
      · intro hf
        cases hf
        exact ⟨0, g, ⟨rfl, rfl⟩, rfl⟩
      · rintro ⟨_, _, ⟨rfl, rfl⟩, rfl⟩
        rfl

/-! ## List documents -/

/-- A list document is read as its items are. -/
theorem listOfDocument_of_list {document : Value} {items : List Value}
    (h : document.readDocument = .ok (.list items)) :
    listOfDocument document = ofPayloads 0 items := by
  rw [listOfDocument, h]
  rfl

/-- **A list document is read element by element.** If what the document says is a list, it is read
as intervals exactly if every element is an interval, and then these are the intervals of the
elements, in order. Otherwise it fails to decode because of the first element that does: the failure
names its index, words the failure of the element behind it, and is raised from it. A document that
says anything but a list fails to decode. -/
theorem listOfDocument_elements (document : Value) :
    (∀ items, document.readDocument = .ok (.list items) →
      ((∃ intervals, listOfDocument document = .ok intervals) ↔
          ∀ item ∈ items, ∃ i, ofPayload .plain item = .ok i) ∧
        (∀ intervals, listOfDocument document = .ok intervals ↔
          items.map (ofPayload .plain) = intervals.map .ok) ∧
        (∀ f, listOfDocument document = .error f ↔
          ∃ k g, FirstUndecodable items k g ∧ f = .element k g) ∧
        ∀ k g, FirstUndecodable items k g →
          (Failure.element k g).category = .undecodable ∧
            (Failure.element k g).origin = some .undecodable ∧
            (Failure.element k g).message =
              Text.concat ["Element ", Numeral.nat k, ": ", g.message]) ∧
      ∀ payload, document.readDocument = .ok payload → (∀ items, payload ≠ .list items) →
        ∃ f, listOfDocument document = .error f ∧ f.category = .undecodable := by
  refine ⟨fun items h => ?_, fun payload h hlist => ?_⟩
  · rw [listOfDocument_of_list h]
    refine ⟨?_, fun intervals => ofPayloads_eq_ok_iff, fun f => ?_, fun k g hfirst => ?_⟩
    · simp only [ofPayloads_eq_ok_iff, ← mapM_eq_ok_iff, exists_mapM_iff]
    · rw [ofPayloads_eq_error_iff (Value.canBeShown_of_mem_list h)]
      simp only [Nat.zero_add]
    · exact ⟨rfl, congrArg some hfirst.undecodable, rfl⟩
  · rw [listOfDocument, h]
    cases payload with
    | list items => exact absurd rfl (hlist items)
    | _ => exact ⟨_, rfl, rfl⟩

/-- A list document whose second element is no mapping. -/
theorem listOfDocument_elements_second :
    let document : Value := .text "[\x7b\"a\":1,\"b\":2\x7d, true]"
    let failure : Failure := .element 1 (.notObject "bool" "True")
    listOfDocument document = .error failure ∧
      failure.message =
        Text.ofString "Element 1: Interval payload must be a JSON object.\nGot 'bool': True" := by
  intro document failure
  let a : List Piece := [.plain 'a' (by unfold Json.IsPlain; decide)]
  let b : List Piece := [.plain 'b' (by unfold Json.IsPlain; decide)]
  let one : Spelling := .number ⟨false, [1], [], none, by decide, by decide, by decide⟩
  let two : Spelling := .number ⟨false, [2], [], none, by decide, by decide, by decide⟩
  let row : Spelling := .object [] [⟨[], ⟨a, [], [], one⟩, []⟩, ⟨[], ⟨b, [], [], two⟩, []⟩]
  let list : Spelling := .array [] [⟨[], row, []⟩, ⟨[.space], .word .true, []⟩]
  have hread : document.readDocument = .ok (.list [(Row.mk 1 2).toValue, .bool true]) := by
    have hjson := Json.ofText_spelling (p := ⟨[], list, []⟩) (by decide)
    have htext : Padded.text Spelling.text ⟨[], list, []⟩ =
        Text.ofString "[\x7b\"a\":1,\"b\":2\x7d, true]" := by decide
    rw [htext] at hjson
    rw [Value.readDocument, hjson]
    rfl
  have hrow : (Row.mk 1 2).Fits := ⟨rfl, rfl⟩
  have hfirst : FirstUndecodable [(Row.mk 1 2).toValue, .bool true] 1 (.notObject "bool" "True") :=
    ⟨by simpa using ⟨_, ofPayload_toValue_eq_ok_iff.2 ⟨hrow, rfl⟩⟩, rfl, rfl⟩
  obtain ⟨-, -, hfailure, -⟩ := (listOfDocument_elements document).1 _ hread
  exact ⟨(hfailure failure).2 ⟨1, _, hfirst, rfl⟩, by decide +kernel⟩

end TimeWindow.Interval
