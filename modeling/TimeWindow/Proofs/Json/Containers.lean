import TimeWindow.Proofs.Json.Number

set_option autoImplicit false

/-!
# Reading spelled containers

What stands between the brackets of a container are parts with blanks around them and commas between
them. If a reader takes each part off the front of what may follow it, the reader of sequences takes
the whole container. This holds of any kind of parts, so it serves arrays and objects alike.

## Main definitions

* `TimeWindow.Json.Begins` — a text begins like a value.

## Main results

* `TimeWindow.Json.sequence_append` — the reader of sequences takes exactly the parts.
* `TimeWindow.Json.member_append` — the reader of members takes exactly a member.
-/

namespace TimeWindow.Json

/-! ## Blanks -/

theorem Blank.point_mem_followers (b : Blank) : b.point ∈ followers := by
  cases b <;> decide

/-- A written blank is a blank. -/
theorem isBlank_of_mem_points {bs : List Blank} : ∀ c ∈ bs.map Blank.point, isBlank c = true := by
  intro c hc
  obtain ⟨b, -, rfl⟩ := List.mem_map.1 hc
  cases b <;> decide

/-- **Written blanks are skipped.** -/
theorem skipBlanks_append (bs : List Blank) (s : Text) :
    skipBlanks (bs.map Blank.point ++ s) = skipBlanks s :=
  List.dropWhile_append_of_pos isBlank_of_mem_points

/-- What is no blank is not skipped. -/
theorem skipBlanks_cons {c : CodePoint} (h : isBlank c = false) (s : Text) :
    skipBlanks (c :: s) = c :: s :=
  List.dropWhile_cons_of_neg (by simp [h])

/-- Blanks follow a value if what comes after them does. -/
theorem Follows.blanks {rest : Text} (h : Follows rest) (bs : List Blank) :
    Follows (bs.map Blank.point ++ rest) := by
  intro c hc
  cases bs with
  | nil => exact h c hc
  | cons b bs =>
    obtain rfl : b.point = c := by simpa using hc
    exact b.point_mem_followers

/-- A text that begins with a code point that may follow a value follows a value. -/
theorem follows_cons {c : CodePoint} (h : c ∈ followers) (rest : Text) : Follows (c :: rest) := by
  intro d hd
  obtain rfl : c = d := by simpa using hd
  exact h

/-! ## How values begin -/

/-- A text **begins like a value**: with a code point of ASCII that cannot follow a value. -/
def Begins (s : Text) : Prop :=
  ∃ c t, s = c :: t ∧ c ∉ followers ∧ c.isAscii = true

/-- What begins like a value still does so with something behind it. -/
theorem Begins.append {s : Text} (h : Begins s) (rest : Text) : Begins (s ++ rest) := by
  obtain ⟨c, t, rfl, hc⟩ := h
  exact ⟨c, t ++ rest, rfl, hc⟩

/-- What begins like a value does not begin with a blank. -/
theorem Begins.skipBlanks_eq {s : Text} (h : Begins s) : skipBlanks s = s := by
  obtain ⟨c, t, rfl, hc, -⟩ := h
  refine skipBlanks_cons ?_ t
  by_contra hblank
  refine hc ?_
  simp only [isBlank, Bool.not_eq_false, Bool.or_eq_true, beq_iff_eq] at hblank
  rcases hblank with ((rfl | rfl) | rfl) | rfl <;> decide

/-- A quoted text begins with its quote. -/
theorem begins_quotedText (pieces : List Piece) : Begins (quotedText pieces) :=
  ⟨_, _, rfl, by decide, by decide⟩

/-! ## Sequences -/

section Sequences

variable {α σ : Type} {closing : CodePoint} {item : Reader α}

/-- A closing bracket after an item ends the items. -/
theorem items_last {s r rest : Text} {x : α} (hx : Reads item s x r)
    (hr : skipBlanks r = closing :: rest) : Reads (items closing item) s [x] rest := by
  obtain ⟨hlen, hx⟩ := hx
  have hrest : rest.length < s.length := by
    have := length_skipBlanks_le r
    rw [hr, List.length_cons] at this
    omega
  refine ⟨hrest, ?_⟩
  rw [items, hx]
  simp only
  split
  · next hnil => rw [hr] at hnil; cases hnil
  · next c t hcons =>
    rw [hr] at hcons
    cases hcons
    rw [if_pos rfl]

/-- A comma after an item announces more items. -/
theorem items_more {s r t rest : Text} {x : α} {xs : List α} (hx : Reads item s x r)
    (hr : skipBlanks r = CodePoint.ofChar ',' :: t) (hclosing : closing ≠ CodePoint.ofChar ',')
    (hxs : Reads (items closing item) (skipBlanks t) xs rest) :
    Reads (items closing item) s (x :: xs) rest := by
  obtain ⟨hlen, hx⟩ := hx
  obtain ⟨hmore, hxs⟩ := hxs
  have hrest : rest.length < s.length := by
    have hskip := length_skipBlanks_le r
    have := length_skipBlanks_le t
    rw [hr, List.length_cons] at hskip
    omega
  refine ⟨hrest, ?_⟩
  rw [items, hx]
  simp only
  split
  · next hnil => rw [hr] at hnil; cases hnil
  · next c u hcons =>
    rw [hr] at hcons
    cases hcons
    rw [if_neg hclosing.symm, if_pos rfl]
    simp only [hxs]
    rfl

/-- A closing bracket instead of an item leaves a container empty. -/
theorem sequence_empty {s rest : Text} (h : skipBlanks s = closing :: rest) :
    Reads (sequence closing item) s [] rest := by
  have hrest : rest.length < s.length := by
    have := length_skipBlanks_le s
    rw [h, List.length_cons] at this
    omega
  refine ⟨hrest, ?_⟩
  rw [sequence]
  split
  · next hnil => rw [h] at hnil; cases hnil
  · next c t hcons =>
    rw [h] at hcons
    cases hcons
    rw [if_pos rfl]

/-- Anything else instead of an item begins the items of a container. -/
theorem sequence_items {s t rest : Text} {c : CodePoint} {xs : List α} (h : skipBlanks s = c :: t)
    (hc : c ≠ closing) (hxs : Reads (items closing item) (skipBlanks s) xs rest) :
    Reads (sequence closing item) s xs rest := by
  rw [h] at hxs
  obtain ⟨hlen, hxs⟩ := hxs
  have hskip := length_skipBlanks_le s
  rw [h] at hskip
  refine ⟨Nat.lt_of_lt_of_le hlen hskip, ?_⟩
  rw [sequence]
  split
  · next hnil => rw [h] at hnil; cases hnil
  · next d u hcons =>
    rw [h] at hcons
    cases hcons
    rw [if_neg hc, hxs]
    rfl

/-- The blanks in front of a part are skipped, and those behind it follow it. -/
theorem skipBlanks_padded {text : σ → Text} (p : Padded σ) (h : Begins (text p.content))
    (rest : Text) :
    skipBlanks (p.text text ++ rest) =
      text p.content ++ (p.after.map Blank.point ++ rest) := by
  rw [Padded.text, List.append_assoc, skipBlanks_append, List.append_assoc,
    (h.append _).skipBlanks_eq]

variable {text : σ → Text} (meaning : σ → α) (hclosing : closing ∈ followers)
  (hcomma : closing ≠ CodePoint.ofChar ',') (hblank : isBlank closing = false)

include hclosing hcomma hblank in
/-- **Spelled items are read back**, one after another up to the closing bracket. -/
theorem items_append {parts : List (Padded σ)} (hne : parts ≠ [])
    (hbegins : ∀ p ∈ parts, Begins (text p.content))
    (hread : ∀ p ∈ parts, ∀ rest, Follows rest →
      Reads item (text p.content ++ rest) (meaning p.content) rest) (rest : Text) :
    Reads (items closing item)
      (skipBlanks (Text.separated "," (parts.map (Padded.text text)) ++ closing :: rest))
      (parts.map fun p => meaning p.content) rest := by
  induction parts with
  | nil => exact absurd rfl hne
  | cons p parts ih =>
    have hp := hread p (by simp)
    have hbegin := hbegins p (by simp)
    cases parts with
    | nil =>
      have hfollows : Follows (p.after.map Blank.point ++ closing :: rest) :=
        (follows_cons hclosing rest).blanks _
      rw [List.map_singleton, Text.separated, skipBlanks_padded p hbegin]
      exact items_last (hp _ hfollows) (by rw [skipBlanks_append, skipBlanks_cons hblank])
    | cons q parts =>
      have hih := ih (by simp) (fun p hp => hbegins p (by simp [hp]))
        (fun p hp => hread p (by simp [hp]))
      have hsplit : Text.separated "," ((p :: q :: parts).map (Padded.text text)) ++
          closing :: rest = p.text text ++ (CodePoint.ofChar ',' ::
            (Text.separated "," ((q :: parts).map (Padded.text text)) ++ closing :: rest)) := by
        simp only [List.map_cons, Text.separated, List.append_assoc]
        rfl
      have hfollows : Follows (p.after.map Blank.point ++ (CodePoint.ofChar ',' ::
          (Text.separated "," ((q :: parts).map (Padded.text text)) ++ closing :: rest))) :=
        (follows_cons (by decide) _).blanks _
      rw [hsplit, skipBlanks_padded p hbegin]
      refine items_more (hp _ hfollows) ?_ hcomma hih
      rw [skipBlanks_append, skipBlanks_cons (by decide)]

/-- Parts with commas between them begin like the first of them. -/
theorem begins_separated {parts : List (Padded σ)} (hne : parts ≠ [])
    (hbegins : ∀ p ∈ parts, Begins (text p.content)) (rest : Text) :
    Begins (skipBlanks (Text.separated "," (parts.map (Padded.text text)) ++ rest)) := by
  cases parts with
  | nil => exact absurd rfl hne
  | cons p parts =>
    have hp := hbegins p (by simp)
    cases parts with
    | nil =>
      rw [List.map_singleton, Text.separated, skipBlanks_padded p hp]
      exact hp.append _
    | cons q parts =>
      simp only [List.map_cons, Text.separated, List.append_assoc]
      rw [skipBlanks_padded p hp]
      exact hp.append _

include hclosing hcomma hblank in
/-- **Spelled containers are read back**, after their opening bracket. -/
theorem sequence_append {parts : List (Padded σ)} (hbegins : ∀ p ∈ parts, Begins (text p.content))
    (hread : ∀ p ∈ parts, ∀ rest, Follows rest →
      Reads item (text p.content ++ rest) (meaning p.content) rest) (inside : List Blank)
    (rest : Text) :
    Reads (sequence closing item)
      (inside.map Blank.point ++
        (Text.separated "," (parts.map (Padded.text text)) ++ closing :: rest))
      (parts.map fun p => meaning p.content) rest := by
  by_cases hne : parts = []
  · subst hne
    refine sequence_empty ?_
    rw [skipBlanks_append]
    exact skipBlanks_cons hblank rest
  · have hitems := items_append meaning hclosing hcomma hblank hne hbegins hread rest
    obtain ⟨c, t, hcons, hc, -⟩ := begins_separated hne hbegins (closing :: rest)
    rw [← skipBlanks_append inside] at hcons hitems
    exact sequence_items hcons (fun heq => hc (heq ▸ hclosing)) hitems

end Sequences

/-! ## Members -/

/-- A name, a colon and a value are a member. -/
theorem member_reads {item : Reader Json} {s r u rest : Text} {name : Text} {j : Json}
    (hname : Reads (quoted (CodePoint.ofChar '"' :: s)) s name r)
    (hcolon : skipBlanks r = CodePoint.ofChar ':' :: u) (hvalue : Reads item (skipBlanks u) j rest) :
    Reads (member item) (CodePoint.ofChar '"' :: s) (name, j) rest := by
  obtain ⟨hr, hname⟩ := hname
  obtain ⟨hrest, hvalue⟩ := hvalue
  have hlen : rest.length < (CodePoint.ofChar '"' :: s).length := by
    have hskip := length_skipBlanks_le r
    have := length_skipBlanks_le u
    rw [hcolon, List.length_cons] at hskip
    rw [List.length_cons]
    omega
  refine ⟨hlen, ?_⟩
  rw [member, if_pos rfl, hname]
  simp only
  split
  · next hnil => rw [hcolon] at hnil; cases hnil
  · next d t hcons =>
    rw [hcolon] at hcons
    cases hcons
    rw [if_pos rfl]
    simp only [hvalue]
    rfl

/-- **Spelled members are read back.** -/
theorem member_append {σ : Type} {item : Reader Json} {text : σ → Text} {j : Json} (m : Member σ)
    (hbegins : Begins (text m.value)) {rest : Text}
    (hread : Reads item (text m.value ++ rest) j rest) :
    Reads (member item) (m.text text ++ rest) (unescaped m.name, j) rest := by
  have hcolon : skipBlanks (m.beforeColon.map Blank.point ++
      (CodePoint.ofChar ':' :: (m.afterColon.map Blank.point ++ (text m.value ++ rest)))) =
      CodePoint.ofChar ':' :: (m.afterColon.map Blank.point ++ (text m.value ++ rest)) := by
    rw [skipBlanks_append, skipBlanks_cons (by decide)]
  have hvalue : skipBlanks (m.afterColon.map Blank.point ++ (text m.value ++ rest)) =
      text m.value ++ rest := by
    rw [skipBlanks_append, (hbegins.append rest).skipBlanks_eq]
  have htext : m.text text ++ rest = CodePoint.ofChar '"' ::
      (m.name.flatMap Piece.text ++ (CodePoint.ofChar '"' :: (m.beforeColon.map Blank.point ++
        (CodePoint.ofChar ':' :: (m.afterColon.map Blank.point ++ (text m.value ++ rest)))))) := by
    simp only [Member.text, quotedText, List.cons_append, List.append_assoc, List.nil_append]
  rw [← hvalue] at hread
  rw [htext]
  exact member_reads (quoted_append _ _ _) hcolon hread

end TimeWindow.Json
