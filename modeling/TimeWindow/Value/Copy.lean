import TimeWindow.Value.Basic

set_option autoImplicit false

/-!
# Deep copies

A deep copy of a value has the same content. Objects that are equal to themselves alone are made
anew, so that the copy differs from what it was copied from; what is not a number stays what it is.

## Main definitions

* `TimeWindow.Value.deepCopy` — the deep copy made by a numbered copying.
-/

namespace TimeWindow.Value

mutual

/-- The **deep copy** of a value that a copying with a given number makes. -/
def deepCopy (copying : Nat) : Value → Value
  | .list items => .list (deepCopies copying items)
  | .tuple items => .tuple (deepCopies copying items)
  | .dict entries => .dict (copiedEntries copying entries)
  | .indexLike identity value =>
    .indexLike { identity with copyings := copying :: identity.copyings } (deepCopy copying value)
  | .interval start duration => .interval (deepCopy copying start) (deepCopy copying duration)
  | .labeled start duration label =>
    .labeled (deepCopy copying start) (deepCopy copying duration) (deepCopy copying label)
  | v => v

/-- The deep copies of values, in order. -/
def deepCopies (copying : Nat) : List Value → List Value
  | [] => []
  | v :: rest => deepCopy copying v :: deepCopies copying rest

/-- The deep copies of the entries of a mapping, in order. -/
def copiedEntries (copying : Nat) : List (Value × Value) → List (Value × Value)
  | [] => []
  | (key, value) :: rest =>
    (deepCopy copying key, deepCopy copying value) :: copiedEntries copying rest

end

end TimeWindow.Value
