import TimeWindow.Encoding.Wide
import TimeWindow.Json.Reading.Basic

set_option autoImplicit false

/-!
# Reading quoted text

Text in a document stands between double quotes. Control characters are not allowed in it; a
backslash begins an escape, either a letter or `u` with four hexadecimal digits, and two such
escapes that spell a pair of surrogates spell one code point. After the digits of an escape at
least the closing quote has to come, so that digits at the very end of a document are no escape.

## Main definitions

* `TimeWindow.Json.hexQuad?` — four hexadecimal digits with something after them.
* `TimeWindow.Json.escape` — the reader of an escape whose backslash has been read.
* `TimeWindow.Json.quoted` — the reader of a text whose opening quote has been read.
-/

namespace TimeWindow.Json

/-! ## Escapes -/

/-- The code point that a letter after a backslash stands for. -/
def letterEscape? (c : CodePoint) : Option CodePoint :=
  if c = CodePoint.ofChar '"' ∨ c = CodePoint.ofChar '\\' ∨ c = CodePoint.ofChar '/' then some c
  else if c = CodePoint.ofChar 'b' then some (CodePoint.ofNat 0x08)
  else if c = CodePoint.ofChar 'f' then some (CodePoint.ofNat 0x0C)
  else if c = CodePoint.ofChar 'n' then some '\n'
  else if c = CodePoint.ofChar 'r' then some '\r'
  else if c = CodePoint.ofChar 't' then some '\t'
  else none

/-- **Four hexadecimal digits** with something after them: their number, and what is after
them. -/
def hexQuad? : Text → Option (Nat × Text)
  | a :: b :: c :: d :: e :: rest => do
    let a ← a.hexValue?
    let b ← b.hexValue?
    let c ← c.hexValue?
    let d ← d.hexValue?
    return (((a * 16 + b) * 16 + c) * 16 + d, e :: rest)
  | _ => none

theorem length_of_hexQuad? {s rest : Text} {n : Nat} (h : hexQuad? s = some (n, rest)) :
    rest.length < s.length := by
  match s with
  | a :: b :: c :: d :: e :: t =>
    simp only [hexQuad?, Option.bind_eq_bind, Option.pure_def, Option.bind_eq_some_iff,
      Option.some.injEq, Prod.mk.injEq] at h
    obtain ⟨_, _, _, _, _, _, _, _, _, rfl⟩ := h
    simp only [List.length_cons]
    omega
  | [] | [_] | [_, _] | [_, _, _] | [_, _, _, _] => simp [hexQuad?] at h

/-- The second half of a pair of surrogates, if an escape for it is at the front of a text, and
what follows it. An escape with wrong digits is a complaint about it. -/
def secondHalf? : Text → Except Stop (Option (Nat × Text))
  | b :: u :: t =>
    if b = CodePoint.ofChar '\\' ∧ u = CodePoint.ofChar 'u' ∧ 4 < t.length then
      match hexQuad? t with
      | none => .error (.complaint .unicodeEscape (t.length + 1))
      | some (low, rest) => .ok (if Encoding.isLowSurrogate low then some (low, rest) else none)
    else .ok none
  | _ => .ok none

theorem length_of_secondHalf? {s rest : Text} {n : Nat}
    (h : secondHalf? s = .ok (some (n, rest))) : rest.length < s.length := by
  match s with
  | b :: u :: t =>
    simp only [secondHalf?] at h
    split at h
    · split at h
      · simp at h
      · next low after hq =>
        split at h
        · simp only [Except.ok.injEq, Option.some.injEq, Prod.mk.injEq] at h
          have := length_of_hexQuad? hq
          simp only [List.length_cons, ← h.2]
          omega
        · simp at h
    · simp at h
  | [] | [_] => simp [secondHalf?] at h

/-- The **reader of an escape** whose backslash has been read, in a text that is `opening` from its
opening quote on. -/
def escape (opening : Text) : Reader CodePoint := fun s =>
  match s with
  | [] => .error (.complaint .unterminated opening.length)
  | c :: t =>
    if c = CodePoint.ofChar 'u' then
      match h : hexQuad? t with
      | none => .error (.complaint .unicodeEscape (t.length + 1))
      | some (n, rest) =>
        have hr : rest.length < (c :: t).length := Nat.lt_succ_of_lt (length_of_hexQuad? h)
        if Encoding.isHighSurrogate n then
          match h' : secondHalf? rest with
          | .error stop => .error stop
          | .ok none => .ok ⟨.ofNat n, rest, hr⟩
          | .ok (some (low, after)) =>
            .ok ⟨Encoding.joinSurrogates n low, after, Nat.lt_trans (length_of_secondHalf? h') hr⟩
        else .ok ⟨.ofNat n, rest, hr⟩
    else match letterEscape? c with
      | some point => .ok ⟨point, t, Nat.lt_succ_self _⟩
      | none => .error (.complaint .escape (t.length + 2))

/-! ## Texts -/

/-- The **reader of a text** that is `opening` from its opening quote on, after that quote. -/
def quoted (opening : Text) : Reader Text := fun s =>
  match s with
  | [] => .error (.complaint .unterminated opening.length)
  | c :: t =>
    if c = CodePoint.ofChar '"' then .ok ⟨[], t, Nat.lt_succ_self _⟩
    else if c = CodePoint.ofChar '\\' then
      match escape opening t with
      | .error stop => .error stop
      | .ok ⟨point, r, hr⟩ =>
        match quoted opening r with
        | .error stop => .error stop
        | .ok more => .ok ((more.map (point :: ·)).widen (Nat.le_succ_of_le (Nat.le_of_lt hr)))
    else if c.val < 0x20 then .error (.complaint .controlCharacter (t.length + 1))
    else
      match quoted opening t with
      | .error stop => .error stop
      | .ok more => .ok ((more.map (c :: ·)).widen (Nat.le_succ _))
termination_by s => s.length
decreasing_by
  all_goals simp only [List.length_cons]; omega

end TimeWindow.Json
