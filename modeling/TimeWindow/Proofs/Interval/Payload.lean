import TimeWindow.Interval.Row
import TimeWindow.Proofs.Failure.Writing
import TimeWindow.Proofs.Value.Mapping
import TimeWindow.Proofs.Value.Written

set_option autoImplicit false

/-!
# Payloads

A payload is an interval if it is a mapping with an integer of 64 bits under each of the two keys.
Otherwise it is refused, and the refusal shows what is wrong: the payload, the keys of a mapping
that lacks a field, or the value of a field. It is the failure to decode that callers expect if that
can be shown; if not, the failure to show it takes its place.

## Main definitions

* `TimeWindow.Field.value?` — the value under the key of a field.
* `TimeWindow.Exhibit` — what the refusal of a payload shows.
* `TimeWindow.Value.exhibit?` — what the refusal of a given payload shows.

## Main results

* `TimeWindow.Field.ofPayload_eq_ok_iff`, `TimeWindow.Interval.ofPayload_dict_eq_ok_iff` — which
  mappings have a field, and which are intervals.
* `TimeWindow.Interval.refuses_ofPayload` — how a payload is refused.
* `TimeWindow.Interval.ofPayload_outcome` — which payloads are intervals, and which others fail to
  decode.
-/

namespace TimeWindow

open Outcome

/-! ## Exhibits -/

/-- An **exhibit**: what the refusal of a payload shows. -/
inductive Exhibit where
  /-- The payload itself, or the value of a field. -/
  | value (v : Value)
  /-- The keys of a mapping that lacks a field. -/
  | keys (entries : List (Value × Value))

namespace Exhibit

/-- The text of an exhibit. -/
def text : Exhibit → Except Failure Text
  | .value v => v.written
  | .keys entries => shownKeys entries

/-- An exhibit **can be shown**: the value is printable, or all keys are displayable. -/
def CanBeShown : Exhibit → Prop
  | .value v => v.Printable
  | .keys entries => ∀ entry ∈ entries, entry.1.Displayable

/-- The keys of a mapping can be shown together if each of them can. -/
theorem exists_shownKeys_iff {entries : List (Value × Value)} :
    (∃ t, shownKeys entries = .ok t) ↔ ∀ entry ∈ entries, entry.1.Displayable := by
  have hall : (∃ keys, entries.mapM (fun entry => entry.1.display) = .ok keys) ↔
      ∀ entry ∈ entries, entry.1.Displayable := by
    simp only [exists_mapM_iff, Value.exists_display_iff]
  rw [← hall]
  constructor
  · rintro ⟨_, h⟩
    obtain ⟨keys, hkeys, -⟩ := bind_eq_ok_iff.1 h
    exact ⟨keys, hkeys⟩
  · rintro ⟨keys, hkeys⟩
    exact ⟨_, bind_eq_ok_iff.2 ⟨keys, hkeys, rfl⟩⟩

/-- **An exhibit has a text** exactly if it can be shown. -/
theorem exists_text_iff {e : Exhibit} : (∃ t, e.text = .ok t) ↔ e.CanBeShown := by
  cases e with
  | value v => exact Value.isWritten_iff_printable
  | keys entries => exact exists_shownKeys_iff

/-- No failure to show an exhibit is a failure to decode. -/
theorem failsOnly_text (e : Exhibit) : FailsOnly Failure.Escapes e.text := by
  cases e with
  | value v => exact Value.failsOnly_written v
  | keys entries => exact .bind (.mapM fun entry _ => Value.failsOnly_display entry.1) fun _ => .ok _

/-- An operation **refuses with an exhibit**: it fails to decode if the exhibit has a text, and
otherwise with the failure to show it. -/
def Refuses {α : Type} (e : Exhibit) (x : Except Failure α) : Prop :=
  (∃ t f, e.text = .ok t ∧ x = .error f ∧ f.category = .undecodable) ∨
    ∃ f, e.text = .error f ∧ x = .error f

/-- Showing an exhibit and then failing to decode is refusing with it. -/
theorem refuses_throw {α : Type} (e : Exhibit) (wording : Text → Failure)
    (h : ∀ t, (wording t).category = .undecodable) :
    e.Refuses (do let t ← e.text; throw (wording t) : Except Failure α) := by
  cases htext : e.text with
  | ok t => exact .inl ⟨t, wording t, htext, rfl, h t⟩
  | error f => exact .inr ⟨f, htext, rfl⟩

end Exhibit

/-! ## Fields -/

namespace Field

/-- The **value under the key** of a field, in a payload that is a mapping. -/
def value? (field : Field) : Value → Option Value
  | .dict entries => Value.lookup? (.text field.key) entries
  | _ => none

/-- **A mapping has a field** if an integer of 64 bits is under its key. -/
theorem ofPayload_eq_ok_iff {field : Field} {entries : List (Value × Value)} {n : Int} :
    field.ofPayload entries = .ok n ↔
      Value.lookup? (.text field.key) entries = some (.int n) ∧ fitsInt64 n = true := by
  unfold ofPayload
  constructor
  · intro h
    split at h
    · obtain ⟨_, -, h⟩ := bind_eq_ok_iff.1 h
      cases h
    · next m hm =>
      split at h
      · next hfits =>
        cases h
        exact ⟨hm, hfits⟩
      · obtain ⟨_, -, h⟩ := bind_eq_ok_iff.1 h
        cases h
    · obtain ⟨_, -, h⟩ := bind_eq_ok_iff.1 h
      cases h
  · rintro ⟨hlookup, hfits⟩
    rw [hlookup]
    simp only [hfits, if_true]

/-- What the refusal of a mapping **shows because of a field**: the keys, if the field is missing,
or else its value, if that is no integer of 64 bits. -/
def exhibit? (field : Field) (entries : List (Value × Value)) : Option Exhibit :=
  match Value.lookup? (.text field.key) entries with
  | none => some (.keys entries)
  | some (.int n) => if fitsInt64 n then none else some (.value (.int n))
  | some v => some (.value v)

/-- **A mapping with nothing to show** because of a field has the field. -/
theorem exhibit?_eq_none_iff {field : Field} {entries : List (Value × Value)} :
    field.exhibit? entries = none ↔ ∃ n, field.ofPayload entries = .ok n := by
  simp only [ofPayload_eq_ok_iff]
  unfold exhibit?
  split
  · next hlookup => simp [hlookup]
  · next n hlookup => simp [hlookup]
  · next v hint hlookup =>
    simp only [hlookup, reduceCtorEq, Option.some.injEq, false_iff, not_exists, not_and]
    intro n hn
    exact absurd hn (hint n)

/-- **A missing or wrong field is refused** with what there is to show. -/
theorem refuses_ofPayload {field : Field} {entries : List (Value × Value)} {e : Exhibit}
    (h : field.exhibit? entries = some e) : e.Refuses (field.ofPayload entries) := by
  unfold exhibit? at h
  split at h
  · next hlookup =>
    cases h
    rw [ofPayload, hlookup]
    exact Exhibit.refuses_throw (.keys entries) (.missingField field) fun _ => rfl
  · next n hlookup =>
    split at h
    · cases h
    · next hfits =>
      cases h
      have htext : (Exhibit.value (.int n)).text = Numeral.int? n := by
        rw [Exhibit.text, Value.written]
      rw [ofPayload, hlookup]
      simp only [if_neg hfits, ← htext]
      exact Exhibit.refuses_throw (.value (.int n)) (.payloadRange field) fun _ => rfl
  · next v hint hlookup =>
    cases h
    rw [ofPayload, hlookup]
    split
    · next hnone => cases hnone
    · next n hn =>
      cases hn
      exact absurd rfl (hint n)
    · next w _ hw =>
      cases hw
      exact Exhibit.refuses_throw (.value v) (.payloadField field v.typeName) fun _ => rfl

/-- **A field beyond the digit limit** cannot be refused: the limit takes the place of the
refusal. -/
theorem ofPayload_eq_digitLimit {field : Field} {entries : List (Value × Value)} {n : Int}
    (h : Value.lookup? (.text field.key) entries = some (.int n)) (hn : ¬Numeral.WithinLimit n) :
    field.ofPayload entries = .error .digitLimit := by
  have hfits : ¬fitsInt64 n = true := fun hfits => hn (Numeral.withinLimit_of_fitsInt64 hfits)
  rw [ofPayload, h]
  simp only [if_neg hfits, Numeral.int?_eq_error hn]
  rfl

end Field

/-! ## Intervals -/

/-- What the refusal of a payload **shows**; nothing if the payload is an interval. The start of a
mapping is looked at first. -/
def Value.exhibit? : Value → Option Exhibit
  | .dict entries => (Field.start.exhibit? entries).or (Field.duration.exhibit? entries)
  | v => some (.value v)

namespace Interval

/-- **A mapping is an interval** if it has both fields. -/
theorem ofPayload_dict_eq_ok_iff {kind : Kind} {entries : List (Value × Value)} {i : Interval} :
    ofPayload kind (.dict entries) = .ok i ↔
      ∃ x y, Field.start.ofPayload entries = .ok x ∧ Field.duration.ofPayload entries = .ok y ∧
        i = ofKind kind (.int x) (.int y) := by
  rw [ofPayload, bind_eq_ok_iff]
  constructor
  · rintro ⟨x, hx, h⟩
    obtain ⟨y, hy, h⟩ := bind_eq_ok_iff.1 h
    exact ⟨x, y, hx, hy, (pure_eq_ok_iff.1 h).symm⟩
  · rintro ⟨x, y, hx, hy, rfl⟩
    exact ⟨x, hx, bind_eq_ok_iff.2 ⟨y, hy, rfl⟩⟩

/-- **A payload is an interval** exactly if it has two integers of 64 bits under the two keys. -/
theorem ofPayload_eq_ok_iff {kind : Kind} {payload : Value} {i : Interval} :
    ofPayload kind payload = .ok i ↔
      ∃ x y, (Field.start.value? payload = some (.int x) ∧ fitsInt64 x = true) ∧
        (Field.duration.value? payload = some (.int y) ∧ fitsInt64 y = true) ∧
        i = ofKind kind (.int x) (.int y) := by
  cases payload with
  | dict entries =>
    rw [ofPayload_dict_eq_ok_iff]
    simp only [Field.ofPayload_eq_ok_iff, Field.value?]
  | _ =>
    simp only [Field.value?, reduceCtorEq, false_and, exists_false, iff_false]
    intro h
    obtain ⟨_, -, h⟩ := bind_eq_ok_iff.1 h
    cases h

/-- **A payload with nothing to show** is an interval. -/
theorem exhibit?_eq_none_iff (kind : Kind) {payload : Value} :
    payload.exhibit? = none ↔ ∃ i, ofPayload kind payload = .ok i := by
  cases payload with
  | dict entries =>
    simp only [Value.exhibit?, Option.or_eq_none_iff, Field.exhibit?_eq_none_iff,
      ofPayload_dict_eq_ok_iff]
    constructor
    · rintro ⟨⟨x, hx⟩, y, hy⟩
      exact ⟨_, x, y, hx, hy, rfl⟩
    · rintro ⟨_, x, y, hx, hy, -⟩
      exact ⟨⟨x, hx⟩, y, hy⟩
  | _ => simp [Value.exhibit?, ofPayload_eq_ok_iff, Field.value?]

/-- **A payload that is no interval is refused** with what there is to show. -/
theorem refuses_ofPayload (kind : Kind) {payload : Value} {e : Exhibit}
    (h : payload.exhibit? = some e) : e.Refuses (ofPayload kind payload) := by
  cases payload with
  | dict entries =>
    -- a refusal of a part of the sequence is the refusal of the sequence
    have hbind : ∀ {α β : Type} {x : Except Failure α} (f : α → Except Failure β),
        e.Refuses x → e.Refuses (x >>= f) := by
      rintro α β x f (⟨t, g, ht, rfl, hg⟩ | ⟨g, ht, rfl⟩)
      · exact .inl ⟨t, g, ht, rfl, hg⟩
      · exact .inr ⟨g, ht, rfl⟩
    rw [Value.exhibit?, Option.or_eq_some_iff] at h
    rcases h with h | ⟨hnone, h⟩
    · exact hbind _ (Field.refuses_ofPayload h)
    · obtain ⟨x, hx⟩ := Field.exhibit?_eq_none_iff.1 hnone
      rw [ofPayload, hx]
      exact hbind (fun y => .ok (ofKind kind (.int x) (.int y))) (Field.refuses_ofPayload h)
  | _ =>
    cases h
    exact Exhibit.refuses_throw (.value _) (.notObject _) fun _ => rfl

/-- **A refused payload fails to decode** if all that there is to show can be shown. -/
theorem category_of_ofPayload {kind : Kind} {payload : Value} {f : Failure}
    (hshown : ∀ e, payload.exhibit? = some e → e.CanBeShown)
    (h : ofPayload kind payload = .error f) : f.category = .undecodable := by
  cases hexhibit : payload.exhibit? with
  | none =>
    obtain ⟨i, hi⟩ := (exhibit?_eq_none_iff kind).1 hexhibit
    rw [hi] at h
    cases h
  | some e =>
    obtain ⟨t, ht⟩ := Exhibit.exists_text_iff.2 (hshown e hexhibit)
    rcases refuses_ofPayload kind hexhibit with ⟨_, g, -, hg, hcategory⟩ | ⟨g, hg, -⟩
    · rw [hg] at h
      cases h
      exact hcategory
    · rw [ht] at hg
      cases hg

/-- What there is to show of a mapping can be shown, if it has texts as keys and its values have
written forms. -/
theorem canBeShown_dict {entries : List (Value × Value)} (hkeys : Value.HasTextKeys entries)
    (hvalues : ∀ entry ∈ entries, entry.2.IsWritten) :
    ∀ e, (Value.dict entries).exhibit? = some e → e.CanBeShown := by
  have hfield : ∀ (field : Field) (e : Exhibit), field.exhibit? entries = some e → e.CanBeShown := by
    intro field e he
    have hmem : ∀ v, Value.lookup? (.text field.key) entries = some v → v.Printable := by
      intro v hv
      obtain ⟨entry, hentry, rfl⟩ := Value.exists_mem_of_lookup? hv
      exact Value.isWritten_iff_printable.1 (hvalues entry hentry)
    unfold Field.exhibit? at he
    split at he
    · cases he
      intro entry hentry
      obtain ⟨t, ht⟩ := hkeys entry hentry
      exact ht ▸ Value.displayable_text t
    · next n hn =>
      split at he
      · cases he
      · cases he
        exact hmem _ hn
    · next v _ hv =>
      cases he
      exact hmem v hv
  intro e he
  rw [Value.exhibit?, Option.or_eq_some_iff] at he
  rcases he with he | ⟨-, he⟩
  · exact hfield .start e he
  · exact hfield .duration e he

/-- **A mapping that is no interval** fails to decode, if it has texts as keys and its values have
written forms. -/
theorem category_of_ofPayload_dict {kind : Kind} {entries : List (Value × Value)} {f : Failure}
    (hkeys : Value.HasTextKeys entries) (hvalues : ∀ entry ∈ entries, entry.2.IsWritten)
    (h : ofPayload kind (.dict entries) = .error f) : f.category = .undecodable :=
  category_of_ofPayload (canBeShown_dict hkeys hvalues) h

/-- **Which payloads are intervals, and which others fail to decode.** A payload is an interval
exactly if it is a mapping with two integers of 64 bits under the two keys. It fails to decode
exactly if it is no interval and what there is to show of it can be shown; if that cannot be shown,
the failure to show it escapes instead. -/
theorem ofPayload_outcome (kind : Kind) (payload : Value) :
    (∀ i, ofPayload kind payload = .ok i ↔
      ∃ x y, (Field.start.value? payload = some (.int x) ∧ -2 ^ 63 ≤ x ∧ x ≤ 2 ^ 63 - 1) ∧
        (Field.duration.value? payload = some (.int y) ∧ -2 ^ 63 ≤ y ∧ y ≤ 2 ^ 63 - 1) ∧
        i = ofKind kind (.int x) (.int y)) ∧
      ((∃ f, ofPayload kind payload = .error f ∧ f.category = .undecodable) ↔
        ∃ e, payload.exhibit? = some e ∧ e.CanBeShown) ∧
      ∀ e, payload.exhibit? = some e → ¬e.CanBeShown →
        ∃ f, ofPayload kind payload = .error f ∧ e.text = .error f ∧ f.category ≠ .undecodable := by
  refine ⟨fun i => ?_, ⟨?_, ?_⟩, fun e he hhidden => ?_⟩
  · simp only [ofPayload_eq_ok_iff, fitsInt64_eq_true_iff]
    rfl
  · rintro ⟨f, hf, hcategory⟩
    cases hexhibit : payload.exhibit? with
    | none =>
      obtain ⟨i, hi⟩ := (exhibit?_eq_none_iff kind).1 hexhibit
      rw [hi] at hf
      cases hf
    | some e =>
      refine ⟨e, rfl, Exhibit.exists_text_iff.1 ?_⟩
      rcases refuses_ofPayload kind hexhibit with ⟨t, _, ht, -⟩ | ⟨g, hg, hrefused⟩
      · exact ⟨t, ht⟩
      · rw [hf] at hrefused
        cases hrefused
        exact absurd hcategory (e.failsOnly_text f hg)
  · rintro ⟨e, he, hshown⟩
    obtain ⟨t, ht⟩ := Exhibit.exists_text_iff.2 hshown
    rcases refuses_ofPayload kind he with ⟨_, f, -, hf, hcategory⟩ | ⟨g, hg, -⟩
    · exact ⟨f, hf, hcategory⟩
    · rw [ht] at hg
      cases hg
  · rcases refuses_ofPayload kind he with ⟨t, -, ht, -⟩ | ⟨f, htext, hf⟩
    · exact absurd (Exhibit.exists_text_iff.1 ⟨t, ht⟩) hhidden
    · exact ⟨f, hf, htext, e.failsOnly_text f htext⟩

/-- A start with one digit more than are written. The refusal would show it, and so the digit limit
escapes. -/
theorem ofPayload_beyond_limit :
    ofPayload .plain (.dict [(.text "a", .int (10 ^ 4300)), (.text "b", .int 0)]) =
        .error .digitLimit ∧
      Failure.digitLimit.category = .badValue := by
  refine ⟨?_, rfl⟩
  have hlookup : Value.lookup? (.text Field.start.key)
      [(.text "a", .int (10 ^ Numeral.digitLimit)), (.text "b", .int 0)] =
        some (.int (10 ^ Numeral.digitLimit)) := by
    simp [Value.lookup?, Field.key]
  rw [ofPayload, ← Numeral.digitLimit,
    Field.ofPayload_eq_digitLimit hlookup Numeral.not_withinLimit_pow]
  rfl

end Interval

end TimeWindow
