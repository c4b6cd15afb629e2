import BrainLink.Task.Scheduler

/-
  Scripted jobs: jobs that sleep, look whether they were
  cancelled, and act on the tasks of a scheduler, their own
  among them.

  Key definitions include:
    * `Action`
    * `Script`
    * `Note`
    * `Action.weight`
-/

namespace BrainLink

/- What a job can do. -/
inductive Action where
| sleep (span : Millis)
| check
| schedule
    (repetition : Repetition)
    (name : String)
    (period : Millis)
    (actions : List Action)
    (slot : Option SlotName)
| cancel (name : String)
| clear (slot : SlotName)
| put (name : String) (slot : SlotName)

instance : Inhabited Action :=
  ⟨.check⟩

/- A job with a name, and what it does in each run. -/
structure Script where
  name : String
  actions : List Action

/- What a job tells about its run. -/
inductive Note where
| run
| ended
| goesOn
| interrupted
| did (action : Action) (result : Option Bool)

mutual

/- How many things can come of an action. -/
def Action.weight : Action → Nat
| .schedule _ _ _ actions _ => 2 + weightAll actions
| _ => 1

/- How many things can come of some actions. -/
def weightAll : List Action → Nat
| [] => 0
| action :: rest => action.weight + weightAll rest

end

/- How many things can come of one run of a job. -/
def Script.weight (script : Script) : Nat :=
  1 + weightAll script.actions

end BrainLink
