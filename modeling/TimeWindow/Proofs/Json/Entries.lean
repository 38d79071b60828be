import TimeWindow.Json.Document
import TimeWindow.Proofs.Value.Mapping

set_option autoImplicit false

/-!
# The mapping of an object

An object denotes a mapping whose entries are made one after another, from the first member to the
last. So the last member with a name is found under it, and nothing is found that is not the value
of a member.

## Main results

* `TimeWindow.Json.lookup?_toEntries` — what is found under a name.
* `TimeWindow.Json.mem_toEntries` — what is true of the values of members is true of the values in
  the mapping.
-/

namespace TimeWindow.Json

open Value (HasTextKeys lookup?)

/-- The entries of members have texts as keys. -/
theorem hasTextKeys_toEntries {made : List (Value × Value)} (h : HasTextKeys made)
    (members : List (Text × Json)) : HasTextKeys (toEntries made members) := by
  induction members generalizing made with
  | nil => rwa [toEntries]
  | cons m rest ih =>
    rw [toEntries]
    exact ih (h.insertEntry m.1 m.2.toValue)

/-- **The last member with a name** is found, or else what was there before. -/
theorem lookup?_toEntries {made : List (Value × Value)} (h : HasTextKeys made) (key : Text)
    (members : List (Text × Json)) :
    lookup? (.text key) (toEntries made members) =
      ((members.reverse.find? fun m => m.1 = key).map fun m => m.2.toValue).or
        (lookup? (.text key) made) := by
  induction members generalizing made with
  | nil => rw [toEntries]; rfl
  | cons m rest ih =>
    rw [toEntries, ih (h.insertEntry m.1 m.2.toValue), Value.lookup?_insertEntry h,
      List.reverse_cons, List.find?_append]
    cases rest.reverse.find? fun m => m.1 = key with
    | some last => rfl
    | none => by_cases hm : m.1 = key <;> simp [hm]

/-- Every value in the entries of members is the value of a member, or was there before. -/
theorem mem_toEntries {P : Value → Prop} {made : List (Value × Value)}
    (hmade : ∀ entry ∈ made, P entry.2) {members : List (Text × Json)}
    (hmembers : ∀ m ∈ members, P m.2.toValue) : ∀ entry ∈ toEntries made members, P entry.2 := by
  induction members generalizing made with
  | nil => rwa [toEntries]
  | cons m rest ih =>
    rw [toEntries]
    refine ih (fun entry hentry => ?_) fun m' hm' => hmembers m' (by simp [hm'])
    rcases (Value.mem_insertEntry hentry).2 with hvalue | ⟨old, hold, hvalue⟩
    · exact hvalue ▸ hmembers m (by simp)
    · exact hvalue ▸ hmade old hold

end TimeWindow.Json
