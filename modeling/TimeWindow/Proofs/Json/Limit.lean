import TimeWindow.Proofs.Json.Entries
import TimeWindow.Proofs.Json.Yields
import TimeWindow.Proofs.Value.Written

set_option autoImplicit false

/-!
# The limits of documents

Readers refuse an integer with more digits than are written, wherever it stands in a document, and
more open containers than may be. So all integers in a document that has been read are within the
digit limit, its containers are nested no deeper than they may be, and its value, with all its
parts, can be written.

## Main definitions

* `TimeWindow.Json.WithinLimit` — all integers in a document are within the digit limit.
* `TimeWindow.Json.nesting` — how many containers are open at once in a document.

## Main results

* `TimeWindow.Json.closed_withinLimit`, `TimeWindow.Json.closed_nesting` — every document that is
  read is within both limits.
* `TimeWindow.Json.WithinLimit.printable` — the value of a document within the digit limit is
  printable.
-/

namespace TimeWindow.Json

/-! ## The digit limit -/

/-- **All integers in a document** are within the digit limit. -/
inductive WithinLimit : Json → Prop
  | null : WithinLimit .null
  | bool (b : Bool) : WithinLimit (.bool b)
  | int {n : Int} (h : Numeral.WithinLimit n) : WithinLimit (.int n)
  | float (x : Binary64) : WithinLimit (.float x)
  | text (t : Text) : WithinLimit (.text t)
  | array {items : List Json} (h : ∀ j ∈ items, WithinLimit j) : WithinLimit (.array items)
  | object {members : List (Text × Json)} (h : ∀ m ∈ members, WithinLimit m.2) :
      WithinLimit (.object members)

theorem Scalar.withinLimit {j : Json} (h : Scalar j) : j.WithinLimit := by
  cases h with
  | null => exact .null
  | bool b => exact .bool b
  | int h => exact .int h
  | float x => exact .float x

/-- **Documents that are read** are within the digit limit. -/
theorem closed_withinLimit : Closed fun _ => WithinLimit where
  scalar := Scalar.withinLimit
  text := .text
  array := .array
  object := .object

/-- The values of documents, in order. -/
theorem toValues_eq_map (items : List Json) : toValues items = items.map toValue := by
  induction items with
  | nil => rfl
  | cons j rest ih => rw [toValues, ih, List.map_cons]

/-- **The value of a document within the limit** is printable. -/
theorem WithinLimit.printable {j : Json} (h : j.WithinLimit) : j.toValue.Printable := by
  induction h with
  | null => exact .none
  | bool b => exact .bool b
  | int h => exact .int h
  | float x => exact .float x
  | text t => exact .text t
  | array _ ih =>
    rw [toValue, toValues_eq_map]
    exact .list (by simpa using ih)
  | @object members _ ih =>
    rw [toValue]
    refine .dict (fun entry hentry => ?_) (mem_toEntries (by simp) ih)
    obtain ⟨t, ht⟩ := hasTextKeys_toEntries (by simp [Value.HasTextKeys]) members entry hentry
    exact ht ▸ .text t

/-! ## The limit on nesting -/

mutual

/-- The **nesting of a document**: how many containers are open at once. -/
def nesting : Json → Nat
  | .null | .bool _ | .int _ | .float _ | .text _ => 0
  | .array items => itemNesting items + 1
  | .object members => memberNesting members + 1

/-- The greatest nesting of items. -/
def itemNesting : List Json → Nat
  | [] => 0
  | j :: rest => max j.nesting (itemNesting rest)

/-- The greatest nesting of the values of members. -/
def memberNesting : List (Text × Json) → Nat
  | [] => 0
  | (_, j) :: rest => max j.nesting (memberNesting rest)

end

theorem itemNesting_le_iff {items : List Json} {n : Nat} :
    itemNesting items ≤ n ↔ ∀ j ∈ items, j.nesting ≤ n := by
  induction items with
  | nil => simp [itemNesting]
  | cons j rest ih => rw [itemNesting, Nat.max_le, ih, List.forall_mem_cons]

theorem memberNesting_le_iff {members : List (Text × Json)} {n : Nat} :
    memberNesting members ≤ n ↔ ∀ m ∈ members, m.2.nesting ≤ n := by
  induction members with
  | nil => simp [memberNesting]
  | cons m rest ih => rw [memberNesting, Nat.max_le, ih, List.forall_mem_cons]

/-- A scalar is no container. -/
theorem Scalar.nesting_eq_zero {j : Json} (h : Scalar j) : j.nesting = 0 := by
  cases h with
  | _ => rw [nesting]

/-- **Documents that are read** are nested no deeper than they may be. -/
theorem closed_nesting : Closed fun depth j => j.nesting ≤ depth where
  scalar h := h.nesting_eq_zero ▸ Nat.zero_le _
  text _ := by rw [nesting]; exact Nat.zero_le _
  array h := by rw [nesting]; exact Nat.succ_le_succ (itemNesting_le_iff.2 h)
  object h := by rw [nesting]; exact Nat.succ_le_succ (memberNesting_le_iff.2 h)

end TimeWindow.Json
