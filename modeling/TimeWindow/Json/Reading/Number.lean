import TimeWindow.Json.Reading.Basic
import TimeWindow.Numeral.Limit

set_option autoImplicit false

/-!
# Reading numbers

A number has an optional minus sign and an integer part without leading zeros; a fraction and an
exponent may follow. With either of them it is a binary number, without them an integer. A fraction
or an exponent that lacks its digits does not belong to the number.

## Main definitions

* `TimeWindow.Json.integerPart?`, `TimeWindow.Json.fractionPart`, `TimeWindow.Json.exponentPart?` —
  the parts of a number.
* `TimeWindow.Json.number` — the reader of numbers.
-/

namespace TimeWindow.Json

/-- The digits at the front of a text. -/
def digitRun (s : Text) : Text :=
  s.takeWhile CodePoint.isDigit

/-- The number that ASCII digits denote. -/
def digitsNumber (digits : Text) : Nat :=
  Numeral.value (digits.map fun c => c.val - 0x30)

/-- The **integer part** at the front of a text: a zero, or digits that begin with another one. -/
def integerPart? : Text → Option Text
  | [] => none
  | c :: rest =>
    if c = CodePoint.ofChar '0' then some [c]
    else if c.isDigit then some (c :: digitRun rest)
    else none

/-- The digits of the **fraction** at the front of a text; none if there is no fraction. -/
def fractionPart : Text → Text
  | c :: rest => if c = CodePoint.ofChar '.' then digitRun rest else []
  | [] => []

/-- The sign at the front of a text: whether it is a minus, and how many code points it takes. -/
def signPart : Text → Bool × Nat
  | c :: _ =>
    if c = CodePoint.ofChar '-' then (true, 1)
    else if c = CodePoint.ofChar '+' then (false, 1)
    else (false, 0)
  | [] => (false, 0)

/-- The **exponent** at the front of a text, and how many code points it takes. -/
def exponentPart? : Text → Option (Int × Nat)
  | c :: rest =>
    if c = CodePoint.ofChar 'e' ∨ c = CodePoint.ofChar 'E' then
      let (negative, width) := signPart rest
      let digits := digitRun (rest.drop width)
      if digits = [] then none
      else
        let n : Int := digitsNumber digits
        some (if negative then -n else n, 1 + width + digits.length)
    else none
  | [] => none

/-- The number that the parts denote: a binary one if there is a fraction or an exponent. -/
def numberOf (negative : Bool) (whole fraction : Text) (exponent : Option Int) :
    Except Stop Json :=
  if fraction = [] ∧ exponent = none then
    if Numeral.digitLimit < whole.length then .error (.digits whole.length)
    else
      let n : Int := digitsNumber whole
      .ok (.int (if negative then -n else n))
  else
    .ok (.float (.ofDecimal negative (digitsNumber (whole ++ fraction))
      (exponent.getD 0 - fraction.length)))

/-- What follows the integer part is shorter. -/
theorem length_drop_integerPart? {s whole : Text} (h : integerPart? s = some whole) :
    (s.drop whole.length).length < s.length := by
  match s with
  | [] => simp [integerPart?] at h
  | c :: rest =>
    have hw : 0 < whole.length := by
      simp only [integerPart?] at h
      split at h
      · simp only [Option.some.injEq] at h; simp [← h]
      · split at h
        · simp only [Option.some.injEq] at h; simp [← h]
        · simp at h
    simp only [List.length_drop, List.length_cons]
    omega

/-- What follows the fraction, if there is one. -/
def afterFraction (s : Text) : Text :=
  if fractionPart s = [] then s else s.drop (1 + (fractionPart s).length)

/-- What follows the exponent, if there is one. -/
def afterExponent (s : Text) : Text :=
  match exponentPart? s with
  | none => s
  | some (_, width) => s.drop width

theorem length_afterFraction_le (s : Text) : (afterFraction s).length ≤ s.length := by
  unfold afterFraction
  split
  · exact Nat.le_refl _
  · simp

theorem length_afterExponent_le (s : Text) : (afterExponent s).length ≤ s.length := by
  unfold afterExponent
  split
  · exact Nat.le_refl _
  · simp

/-- The reader of numbers without a sign; the number read is negative if `negative`. -/
def unsignedNumber (negative : Bool) : Reader Json := fun s =>
  match h : integerPart? s with
  | none => .error (.complaint .value s.length)
  | some whole =>
    let t := s.drop whole.length
    match numberOf negative whole (fractionPart t)
        ((exponentPart? (afterFraction t)).map Prod.fst) with
    | .error stop => .error stop
    | .ok j =>
      .ok ⟨j, afterExponent (afterFraction t),
        Nat.lt_of_le_of_lt (length_afterExponent_le _)
          (Nat.lt_of_le_of_lt (length_afterFraction_le _) (length_drop_integerPart? h))⟩

/-- The **reader of numbers**. A sign without a number is a complaint about the sign. -/
def number : Reader Json := fun s =>
  match s with
  | [] => .error (.complaint .value 0)
  | c :: t =>
    if c = CodePoint.ofChar '-' then
      match unsignedNumber true t with
      | .error (.complaint ..) => .error (.complaint .value (t.length + 1))
      | .error stop => .error stop
      | .ok r => .ok (r.widen (Nat.le_succ _))
    else unsignedNumber false (c :: t)

end TimeWindow.Json
