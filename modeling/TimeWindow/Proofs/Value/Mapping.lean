import TimeWindow.Value.Equality

set_option autoImplicit false

/-!
# Mappings with texts as keys

The mappings that documents denote have texts as keys. In them a key is found by being the same
text, and the entry made last counts.

## Main definitions

* `TimeWindow.Value.HasTextKeys` — all keys of a mapping are texts.

## Main results

* `TimeWindow.Value.lookup?_insertEntry` — what is found after an entry has been made.
-/

namespace TimeWindow.Value

/-! ## Looking up -/

/-- **All keys** of a mapping **are texts**. -/
def HasTextKeys (entries : List (Value × Value)) : Prop :=
  ∀ entry ∈ entries, ∃ t, entry.1 = .text t

/-- Texts are equal as values if they are the same. -/
@[simp] theorem equal_text (s t : Text) : equal (.text s) (.text t) = decide (s = t) := by
  rw [equal]

/-- An entry of a mapping in which one has been made has the key of the new one or of an old one,
and so with the values. -/
theorem mem_insertEntry {key v : Value} {made : List (Value × Value)} {entry : Value × Value}
    (h : entry ∈ insertEntry key v made) :
    (entry.1 = key ∨ ∃ old ∈ made, entry.1 = old.1) ∧
      (entry.2 = v ∨ ∃ old ∈ made, entry.2 = old.2) := by
  induction made with
  | nil =>
    obtain rfl : entry = (key, v) := by simpa [insertEntry] using h
    exact ⟨.inl rfl, .inl rfl⟩
  | cons first rest ih =>
    rw [insertEntry] at h
    split at h
    · rcases List.mem_cons.1 h with rfl | h
      · exact ⟨.inr ⟨first, by simp, rfl⟩, .inl rfl⟩
      · exact ⟨.inr ⟨entry, by simp [h], rfl⟩, .inr ⟨entry, by simp [h], rfl⟩⟩
    · rcases List.mem_cons.1 h with rfl | h
      · exact ⟨.inr ⟨entry, by simp, rfl⟩, .inr ⟨entry, by simp, rfl⟩⟩
      · obtain ⟨hkey, hvalue⟩ := ih h
        exact ⟨hkey.imp_right fun ⟨old, hold, heq⟩ => ⟨old, by simp [hold], heq⟩,
          hvalue.imp_right fun ⟨old, hold, heq⟩ => ⟨old, by simp [hold], heq⟩⟩

/-- Making an entry under a text leaves all keys texts. -/
theorem HasTextKeys.insertEntry {made : List (Value × Value)} (h : HasTextKeys made) (name : Text)
    (v : Value) : HasTextKeys (insertEntry (.text name) v made) := by
  intro entry hentry
  rcases (mem_insertEntry hentry).1 with hkey | ⟨old, hold, hkey⟩
  · exact ⟨name, hkey⟩
  · exact hkey ▸ h old hold

/-- **What is found after an entry has been made** under a text: the new value under that text, and
what was found before under every other one. -/
theorem lookup?_insertEntry {made : List (Value × Value)} (h : HasTextKeys made) (key name : Text)
    (v : Value) :
    lookup? (.text key) (insertEntry (.text name) v made) =
      if name = key then some v else lookup? (.text key) made := by
  induction made with
  | nil => by_cases hname : name = key <;> simp [insertEntry, lookup?, hname]
  | cons first rest ih =>
    have hrest := ih fun entry hentry => h entry (by simp [hentry])
    obtain ⟨t, ht⟩ := h first (by simp)
    rcases first with ⟨_, w⟩
    subst ht
    unfold lookup? at hrest ⊢
    by_cases htname : t = name
    · by_cases hname : name = key <;> simp [insertEntry, htname, hname]
    · by_cases htkey : t = key
      · subst htkey
        simp [insertEntry, htname, Ne.symm htname]
      · simp only [insertEntry, equal_text, htname, decide_false, Bool.false_eq_true, if_false,
          List.find?_cons, htkey]
        exact hrest

/-- What is found stands in the mapping. -/
theorem exists_mem_of_lookup? {key v : Value} {entries : List (Value × Value)}
    (h : lookup? key entries = some v) : ∃ entry ∈ entries, entry.2 = v := by
  obtain ⟨entry, hfind, rfl⟩ := Option.map_eq_some_iff.1 h
  exact ⟨entry, List.mem_of_find?_eq_some hfind, rfl⟩

end TimeWindow.Value
