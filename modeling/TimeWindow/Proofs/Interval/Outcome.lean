import TimeWindow.Interval.Document
import TimeWindow.Proofs.Interval.Payload
import TimeWindow.Proofs.Json.Limit

set_option autoImplicit false

/-!
# What can become of a document

A document is read as an interval, or as a list of intervals, or it fails to decode: nothing else
can become of it. Faults of the bytes, of the grammar and of the two limits are failures to decode
themselves. What has been read can be shown, so that its refusal is not kept from being made either.

## Main definitions

* `TimeWindow.Value.IsDocument` — a value is text or bytes.

## Main results

* `TimeWindow.Value.exists_json_of_readDocument` — what is read from a document is within the limits
  of documents.
* `TimeWindow.Interval.failsOnly_ofPayloads` — a list of payloads fails to decode, or it is a list
  of intervals.
* `TimeWindow.Interval.ofDocument_listOfDocument_outcome` — every document is read or fails to
  decode.
-/

namespace TimeWindow

open Outcome

/-! ## Documents -/

/-- A value **is a document** if it is text or bytes. -/
inductive Value.IsDocument : Value → Prop
  | text (t : Text) : IsDocument (.text t)
  | bytes (bs : List UInt8) : IsDocument (.bytes bs)
  | buffer (bs : List UInt8) : IsDocument (.buffer bs)

/-- **A document that cannot be read** fails to decode. -/
theorem Value.IsDocument.failsOnly_readDocument {document : Value} (h : document.IsDocument) :
    FailsOnly (fun f => f.category = .undecodable) document.readDocument := by
  cases h with
  | text t => exact .map (.mapError fun _ => rfl)
  | bytes bs => exact .map (.mapError fun _ => rfl)
  | buffer bs => exact .map (.mapError fun _ => rfl)

/-- **What is read from a document** is within the digit limit and the limit on nesting. -/
theorem Value.exists_json_of_readDocument {document payload : Value}
    (h : document.readDocument = .ok payload) :
    ∃ j : Json, payload = j.toValue ∧ j.WithinLimit ∧ j.nesting ≤ Json.nestingLimit := by
  have hjson : ∀ x : Except Json.Fault Json,
      (∀ j, x = .ok j → j.WithinLimit ∧ j.nesting ≤ Json.nestingLimit) →
        (x.mapError Failure.document).map Json.toValue = .ok payload →
          ∃ j : Json, payload = j.toValue ∧ j.WithinLimit ∧ j.nesting ≤ Json.nestingLimit := by
    intro x hx hpayload
    obtain ⟨j, hj, rfl⟩ := map_eq_ok_iff.1 hpayload
    exact ⟨j, rfl, hx j (mapError_eq_ok_iff.1 hj)⟩
  unfold Value.readDocument at h
  split at h
  · exact hjson _ (fun j hj => ⟨Json.closed_withinLimit.of_ofText hj,
      Json.closed_nesting.of_ofText hj⟩) h
  · exact hjson _ (fun j hj => ⟨Json.closed_withinLimit.of_ofBytes hj,
      Json.closed_nesting.of_ofBytes hj⟩) h
  · exact hjson _ (fun j hj => ⟨Json.closed_withinLimit.of_ofBytes hj,
      Json.closed_nesting.of_ofBytes hj⟩) h
  · cases h

/-- **What there is to show** of the value of a document can be shown, if its integers are within
the digit limit. -/
theorem Json.WithinLimit.canBeShown {j : Json} (h : j.WithinLimit) :
    ∀ e, j.toValue.exhibit? = some e → e.CanBeShown := by
  have hprintable := h.printable
  cases h with
  | @object members h =>
    rw [Json.toValue]
    exact Interval.canBeShown_dict (Json.hasTextKeys_toEntries (by simp [Value.HasTextKeys]) members)
      (Json.mem_toEntries (by simp) fun m hm => (h m hm).printable.isWritten)
  | _ =>
    intro e he
    rw [Json.toValue] at he hprintable
    cases he
    exact hprintable

/-- **What there is to show** of an item of a list document can be shown. -/
theorem Value.canBeShown_of_mem_list {document : Value} {items : List Value}
    (h : document.readDocument = .ok (.list items)) :
    ∀ item ∈ items, ∀ e, item.exhibit? = some e → e.CanBeShown := by
  obtain ⟨j, hlist, hj, -⟩ := Value.exists_json_of_readDocument h
  cases hj with
  | @array js hjs =>
    rw [Json.toValue, Json.toValues_eq_map, Value.list.injEq] at hlist
    intro item hitem
    rw [hlist] at hitem
    obtain ⟨j, hmem, rfl⟩ := List.mem_map.1 hitem
    exact (hjs j hmem).canBeShown
  | _ =>
    rw [Json.toValue] at hlist
    cases hlist

namespace Interval

/-! ## Lists of payloads -/

/-- A first payload that is an interval is the first interval. -/
theorem ofPayloads_cons_of_ok {payload : Value} {i : Interval} (h : ofPayload .plain payload = .ok i)
    (index : Nat) (rest : List Value) :
    ofPayloads index (payload :: rest) = (ofPayloads (index + 1) rest).map (i :: ·) := by
  rw [ofPayloads, h]
  cases ofPayloads (index + 1) rest <;> rfl

/-- A first payload that fails to decode is named by its index. -/
theorem ofPayloads_cons_of_error {payload : Value} {f : Failure}
    (h : ofPayload .plain payload = .error f) (hf : f.category = .undecodable) (index : Nat)
    (rest : List Value) : ofPayloads index (payload :: rest) = .error (.element index f) := by
  rw [ofPayloads, h]
  simp only [if_pos hf]
  rfl

/-- **Payloads in a list** are intervals or fail to decode, if all that there is to show of them can
be shown. The failure of one of them is that of the list. -/
theorem failsOnly_ofPayloads {payloads : List Value}
    (h : ∀ payload ∈ payloads, ∀ e, payload.exhibit? = some e → e.CanBeShown) (index : Nat) :
    FailsOnly (fun f => f.category = .undecodable) (ofPayloads index payloads) := by
  induction payloads generalizing index with
  | nil => exact .ok []
  | cons payload rest ih =>
    obtain ⟨hfirst, hrest⟩ := List.forall_mem_cons.1 h
    cases hf : ofPayload .plain payload with
    | ok i =>
      rw [ofPayloads_cons_of_ok hf]
      exact (ih hrest (index + 1)).map
    | error f =>
      rw [ofPayloads_cons_of_error hf (category_of_ofPayload hfirst hf)]
      exact .error rfl

/-! ## Outcomes of documents -/

/-- An object document is an interval or fails to decode. -/
theorem failsOnly_ofDocument {document : Value} (h : document.IsDocument) (kind : Kind) :
    FailsOnly (fun f => f.category = .undecodable) (ofDocument kind document) := by
  intro f hf
  rcases bind_eq_error_iff.1 hf with hf | ⟨payload, hpayload, hf⟩
  · exact h.failsOnly_readDocument f hf
  · obtain ⟨j, rfl, hj, -⟩ := Value.exists_json_of_readDocument hpayload
    exact category_of_ofPayload hj.canBeShown hf

/-- A list document is a list of intervals or fails to decode. -/
theorem failsOnly_listOfDocument {document : Value} (h : document.IsDocument) :
    FailsOnly (fun f => f.category = .undecodable) (listOfDocument document) := by
  intro f hf
  rcases bind_eq_error_iff.1 hf with hf | ⟨payload, hpayload, hf⟩
  · exact h.failsOnly_readDocument f hf
  · cases payload with
    | list items => exact failsOnly_ofPayloads (Value.canBeShown_of_mem_list hpayload) 0 f hf
    | _ =>
      cases hf
      rfl

/-- **What can become of a document.** Whatever text or bytes it is, it is read as an interval of
the given kind, and as a list of intervals, or fails to decode; no other failure escapes. The value
that is read from it can be written as a whole, and is nested no deeper than documents may be, so
that no refusal of it or of a part of it is kept from being made. -/
theorem ofDocument_listOfDocument_outcome {document : Value} (h : document.IsDocument) :
    (∀ kind, (∃ i, ofDocument kind document = .ok i) ∨
        ∃ f, ofDocument kind document = .error f ∧ f.category = .undecodable) ∧
      ((∃ intervals, listOfDocument document = .ok intervals) ∨
        ∃ f, listOfDocument document = .error f ∧ f.category = .undecodable) ∧
      ∀ payload, document.readDocument = .ok payload →
        (∃ t, payload.written = .ok t) ∧
          ∃ j : Json, payload = j.toValue ∧ j.nesting ≤ Json.nestingLimit := by
  refine ⟨fun kind => (failsOnly_ofDocument h kind).ok_or_error,
    (failsOnly_listOfDocument h).ok_or_error, fun payload hpayload => ?_⟩
  obtain ⟨j, rfl, hlimit, hnesting⟩ := Value.exists_json_of_readDocument hpayload
  exact ⟨hlimit.printable.isWritten, j, rfl, hnesting⟩

/-- Two bytes that no text begins with, as a list of intervals. -/
theorem listOfDocument_undecodable :
    ∃ f, listOfDocument (.buffer [0x80, 0x5B]) = .error f ∧ f.category = .undecodable := by
  have hdecode : Encoding.decode [0x80, 0x5B] = .error ⟨.utf8, 0x80, 0, 1, .startByte⟩ := by
    have hdetect : Encoding.detect [0x80, 0x5B] = (.utf8, 0) := by rfl
    rw [Encoding.decode, hdetect]
    simp only [List.drop_zero, Encoding.utf8Decode]
    rw [Encoding.utf8DecodeFrom]
    rfl
  have hread : (Value.buffer [0x80, 0x5B]).readDocument =
      .error (.document (.encoding ⟨.utf8, 0x80, 0, 1, .startByte⟩)) := by
    rw [Value.readDocument, Json.ofBytes, hdecode]
    rfl
  refine (ofDocument_listOfDocument_outcome (.buffer [0x80, 0x5B])).2.1.resolve_left ?_
  rintro ⟨intervals, h⟩
  rw [listOfDocument, hread] at h
  cases h

end Interval

end TimeWindow
