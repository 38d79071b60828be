import TimeWindow.Proofs.Outcome
import TimeWindow.Session.Run

set_option autoImplicit false

/-!
# What a session keeps

A step keeps a value only if it is a production that succeeds, and then it answers with that value.
A question, a production that fails and a step whose data cannot be built leave the slots as they
were. So the slots after a script can be read off its steps and their answers, and a part of a
script that keeps nothing has no effect on the answers to the rest.

## Main definitions

* `TimeWindow.Session.kept?` — what a step keeps, by its answer.
* `TimeWindow.Session.slotsAfter` — the slots after the steps of a script.
* `TimeWindow.Session.keptIn` — what the steps of a script keep.

## Main results

* `TimeWindow.Session.Step.perform_slots` — what one step keeps.
* `TimeWindow.Session.runFrom_append` — a script is carried out part by part.
* `TimeWindow.Session.slotsAfter_eq` — what a whole script keeps.
* `TimeWindow.Session.get_slotsAfter` — a slot holds the value that was kept in it last.
* `TimeWindow.Session.runFrom_append_of_keptIn_eq_nil` — what keeps nothing changes no later answer.
-/

namespace TimeWindow.Session

/-! ## One step -/

/-- What a step of a script **keeps**, by its answer: a production that succeeds keeps the value that
it answers with. -/
def kept? : Except Failure Step → Except Failure Answer → Option (Text × Value)
  | .ok (.keep slot _), .ok (.value v) => some (slot, v)
  | _, _ => none

/-- A failure keeps nothing. -/
theorem kept?_error (entry : Except Failure Step) (failure : Failure) :
    kept? entry (.error failure) = none := by
  unfold kept?
  split
  · next h => cases h
  · rfl

/-- **What a step keeps** stands in front of the slots, and nothing else is changed. -/
theorem Step.perform_slots (slots : Slots) (step : Step) :
    (step.perform slots).2 = (kept? (.ok step) (step.perform slots).1).toList ++ slots := by
  cases step with
  | ask question => rfl
  | keep slot production =>
    simp only [perform]
    cases production.make slots with
    | ok v => rfl
    | error failure => rfl

/-- **A step that fails** leaves the slots as they were. -/
theorem Step.perform_of_error {slots : Slots} {step : Step} {failure : Failure}
    (h : (step.perform slots).1 = .error failure) : (step.perform slots).2 = slots := by
  rw [step.perform_slots, h, kept?_error]
  rfl

/-- **A question** leaves the slots as they were. -/
theorem Step.perform_ask (slots : Slots) (question : Question) :
    ((Step.ask question).perform slots).2 = slots := rfl

/-! ## Scripts -/

/-- The **slots after** the steps of a script, from given slots on. -/
def slotsAfter (slots : Slots) : List (Except Failure Step) → Slots
  | [] => slots
  | .error _ :: rest => slotsAfter slots rest
  | .ok step :: rest => slotsAfter (step.perform slots).2 rest

/-- **A script is carried out part by part**: the second part starts with the slots after the
first. -/
theorem runFrom_append (slots : Slots) (first rest : List (Except Failure Step)) :
    runFrom slots (first ++ rest) = runFrom slots first ++ runFrom (slotsAfter slots first) rest := by
  induction first generalizing slots with
  | nil => rfl
  | cons entry first ih =>
    cases entry with
    | error failure => exact congrArg (.error failure :: ·) (ih slots)
    | ok step => exact congrArg ((step.perform slots).1 :: ·) (ih (step.perform slots).2)

/-- **Each step has one answer.** -/
theorem length_runFrom (slots : Slots) (script : List (Except Failure Step)) :
    (runFrom slots script).length = script.length := by
  induction script generalizing slots with
  | nil => rfl
  | cons entry script ih =>
    cases entry with
    | error failure => exact congrArg (· + 1) (ih slots)
    | ok step => exact congrArg (· + 1) (ih (step.perform slots).2)

/-- What the steps of a script **keep**, the first first: the values that its productions answer
with, under the names of their slots. -/
def keptIn (slots : Slots) (script : List (Except Failure Step)) : List (Text × Value) :=
  (script.zip (runFrom slots script)).filterMap fun entry => kept? entry.1 entry.2

/-- A step whose data cannot be built keeps nothing. -/
theorem keptIn_error (slots : Slots) (failure : Failure) (script : List (Except Failure Step)) :
    keptIn slots (.error failure :: script) = keptIn slots script := rfl

/-- What a script keeps is what its first step keeps, and what the others do. -/
theorem keptIn_ok (slots : Slots) (step : Step) (script : List (Except Failure Step)) :
    keptIn slots (.ok step :: script) =
      (kept? (.ok step) (step.perform slots).1).toList ++ keptIn (step.perform slots).2 script := by
  unfold keptIn
  rw [runFrom, List.zip_cons_cons, List.filterMap_cons]
  cases kept? (.ok step) (step.perform slots).1 with
  | none => rfl
  | some slot => rfl

/-- **What a whole script keeps** stands in front of the slots, the latest first, and nothing that was
kept before is lost. -/
theorem slotsAfter_eq (slots : Slots) (script : List (Except Failure Step)) :
    slotsAfter slots script = (keptIn slots script).reverse ++ slots := by
  induction script generalizing slots with
  | nil => rfl
  | cons entry script ih =>
    cases entry with
    | error failure =>
      rw [slotsAfter, ih, keptIn_error]
    | ok step =>
      have hslot : ∀ o : Option (Text × Value), o.toList.reverse = o.toList := by
        rintro (_ | slot) <;> rfl
      rw [slotsAfter, ih, keptIn_ok, List.reverse_append, hslot, List.append_assoc,
        ← step.perform_slots]

/-- **A slot holds the value that was kept in it last**, or the one that it held before. -/
theorem get_slotsAfter (slots : Slots) (script : List (Except Failure Step)) (name : Text) :
    (slotsAfter slots script).get name =
      match (keptIn slots script).reverse.find? fun slot => slot.1 = name with
      | some slot => .ok slot.2
      | none => slots.get name := by
  rw [slotsAfter_eq, Slots.get, List.find?_append]
  cases (keptIn slots script).reverse.find? fun slot => slot.1 = name with
  | none => rfl
  | some slot => rfl

/-- **What keeps nothing changes no later answer**: behind questions and steps that fail, a script is
answered as if they were not there. -/
theorem runFrom_append_of_keptIn_eq_nil {slots : Slots} {quiet : List (Except Failure Step)}
    (h : keptIn slots quiet = []) (rest : List (Except Failure Step)) :
    runFrom slots (quiet ++ rest) = runFrom slots quiet ++ runFrom slots rest := by
  rw [runFrom_append, slotsAfter_eq, h, List.reverse_nil, List.nil_append]

end TimeWindow.Session
