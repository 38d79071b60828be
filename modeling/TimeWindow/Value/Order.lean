import TimeWindow.Value.Equality

set_option autoImplicit false

/-!
# The order of values

Integers are ordered by size and texts by code point. Sequences of one kind are ordered like words:
the first elements that differ decide, and a sequence comes after its own beginnings. Other values,
intervals among them, are not ordered.

## Main definitions

* `TimeWindow.Value.less` — whether a value comes before another.
-/

namespace TimeWindow.Value

mutual

/-- A value **comes before** another. -/
def less : Value → Value → Except Failure Bool
  | .text s, .text t => .ok (s.before t && s != t)
  | .list xs, .list ys => lessAll xs ys
  | .tuple xs, .tuple ys => lessAll xs ys
  | .column xs, .column ys => .ok (decide (xs < ys))
  | x, y =>
    match x.number?, y.number? with
    | some m, some n => .ok (decide (m < n))
    | _, _ => .error (.unordered "<" x.fullTypeName y.fullTypeName)

/-- A list of values comes before another. -/
def lessAll : List Value → List Value → Except Failure Bool
  | [], ys => .ok (!ys.isEmpty)
  | _ :: _, [] => .ok false
  | x :: xs, y :: ys => if x.equal y then lessAll xs ys else less x y

end

end TimeWindow.Value
