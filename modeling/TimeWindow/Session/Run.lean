import TimeWindow.Session.Production
import TimeWindow.Session.Question

set_option autoImplicit false

/-!
# Running a session

Steps are carried out in order. A step that fails is answered with its failure and keeps nothing;
the session goes on.

## Main definitions

* `TimeWindow.Session.Step.perform` — the answer to a step, and the slots after it.
* `TimeWindow.Session.run` — the answers to all steps of a script.
-/

namespace TimeWindow.Session

/-- What a step answers, and the slots after it. -/
def Step.perform (slots : Slots) : Step → Except Failure Answer × Slots
  | .keep slot production =>
    match production.make slots with
    | .ok v => (.ok (.value v), slots.keep slot v)
    | .error failure => (.error failure, slots)
  | .ask question => (question.answer slots, slots)

/-- The answers to the steps of a script from given slots on. A step whose data cannot be built
fails with the failure to build them. -/
def runFrom (slots : Slots) : List (Except Failure Step) → List (Except Failure Answer)
  | [] => []
  | .error failure :: rest => .error failure :: runFrom slots rest
  | .ok step :: rest =>
    let (answer, after) := step.perform slots
    answer :: runFrom after rest

/-- The **answers to all steps** of a script. -/
def run (script : List (Except Failure Step)) : List (Except Failure Answer) :=
  runFrom [] script

end TimeWindow.Session
