import BrainLink.Time

/-
  Scheduled tasks. A task runs once after a delay, or over
  and over with a pause before each run. It can be cancelled
  at any time; a run that is under way is told, not cut off.

  Key definitions include:
    * `Task`
    * `TaskId`
    * `Scheduler`
    * `Scheduler.add`
    * `Scheduler.cancel`
    * `Scheduler.isActive`
    * `Scheduler.takeOldest`
    * `Scheduler.dueTasks`

  A scheduler keeps every task it was ever given, in the
  order in which it was given them, and a task is known by
  its position. A scheduler with a clock runs each task when
  it is due. One that is worked by hand runs a task when it
  is told to, whatever the time.
-/

namespace BrainLink

------------------------------------------------------------
-- Tasks
------------------------------------------------------------

/- How often a task runs. -/
inductive Repetition where
| once
| recurring
deriving DecidableEq, Repr

/- Where a task stands. -/
inductive Stage where
| waiting (due : Millis)
| running
| over
deriving DecidableEq, Repr

/- A task: its job, its delay or pause, and its progress. -/
structure Task (J : Type) where
  repetition : Repetition
  period : Millis
  job : J
  stage : Stage
  cancelled : Bool
deriving Repr

/- A task is known by its position among all tasks. -/
abbrev TaskId :=
  Nat

namespace Task

variable {J : Type}

/- A task that waits for its time. -/
def isWaiting (task : Task J) : Bool :=
  match task.stage with
  | .waiting _ => true
  | _ => false

/- The time for which a live task waits. -/
def due? (task : Task J) : Option Millis :=
  match task.stage, task.cancelled with
  | .waiting time, false => some time
  | _, _ => none

/- A task that still counts as pending. -/
def isLive (task : Task J) : Bool :=
  match task.repetition with
  | .once => task.isWaiting && !task.cancelled
  | .recurring => !task.cancelled

end Task

------------------------------------------------------------
-- Schedulers
------------------------------------------------------------

/- Whether tasks run by the clock or on demand. -/
inductive Drive where
| clock
| hand
deriving DecidableEq, Repr

/- All tasks so far, and the time. -/
structure Scheduler (J : Type) where
  drive : Drive
  now : Millis
  tasks : List (Task J)
deriving Repr

namespace Scheduler

variable {J : Type}

/- A scheduler without tasks. -/
def empty (drive : Drive) : Scheduler J :=
  ⟨drive, 0, []⟩

/- The name that the next task gets. -/
def nextId (scheduler : Scheduler J) : TaskId :=
  scheduler.tasks.length

/- Give a scheduler a new task. -/
def add
    (scheduler : Scheduler J)
    (repetition : Repetition)
    (period : Millis)
    (job : J) :
    Scheduler J :=
  { scheduler with
    tasks :=
      scheduler.tasks ++
        [ { repetition := repetition
            period := period
            job := job
            stage := .waiting (scheduler.now + period)
            cancelled := false } ] }

/- The task of a name. -/
def task? (scheduler : Scheduler J) (id : TaskId) : Option (Task J) :=
  scheduler.tasks[id]?

/- Change one task. -/
def update
    (scheduler : Scheduler J)
    (id : TaskId)
    (change : Task J → Task J) :
    Scheduler J :=
  { scheduler with tasks := scheduler.tasks.modify id change }

/- Set the clock. -/
def setTime (scheduler : Scheduler J) (time : Millis) : Scheduler J :=
  { scheduler with now := time }

------------------------------------------------------------
-- Cancellation
------------------------------------------------------------

/- Cancel a task. -/
def cancel (scheduler : Scheduler J) (id : TaskId) : Scheduler J :=
  scheduler.update id fun task => { task with cancelled := true }

/- Whether a task was cancelled. -/
def isCancelled (scheduler : Scheduler J) (id : TaskId) : Bool :=
  match scheduler.task? id with
  | none => false
  | some task => task.cancelled

/-
  Whether a task will not run again and is not running. A
  clock notices at once that a waiting task was cancelled; by
  hand it is noticed when the task would have run.
-/
def isFinished (scheduler : Scheduler J) (id : TaskId) : Bool :=
  match scheduler.task? id with
  | none => false
  | some task =>
      match task.stage, scheduler.drive with
      | .over, _ => true
      | .waiting _, .clock => task.cancelled
      | _, _ => false

/- A task is active until it is cancelled or finished. -/
def isActive (scheduler : Scheduler J) (id : TaskId) : Bool :=
  match scheduler.task? id with
  | none => false
  | some _ =>
      !scheduler.isCancelled id && !scheduler.isFinished id

------------------------------------------------------------
-- Runs
------------------------------------------------------------

/- A run of a task begins. -/
def beginRun (scheduler : Scheduler J) (id : TaskId) : Scheduler J :=
  scheduler.update id fun task => { task with stage := .running }

/-
  A run of a task ends. A recurring task that was not
  cancelled waits for its next run.
-/
def endRun (scheduler : Scheduler J) (id : TaskId) : Scheduler J :=
  scheduler.update id fun task =>
    match task.repetition, task.cancelled with
    | .recurring, false =>
        { task with
          stage := .waiting (scheduler.now + task.period) }
    | _, _ => { task with stage := .over }

------------------------------------------------------------
-- Work by hand
------------------------------------------------------------

/-
  Take the oldest live task that runs once out of a list of
  tasks. Cancelled ones before it are over.
-/
def takeFirst : List (Task J) → List (Task J) × Option TaskId
| [] => ([], none)
| task :: rest =>
    if task.repetition = .once ∧ task.isWaiting = true then
      if task.cancelled then
        let (rest, found) := takeFirst rest
        ({ task with stage := .over } :: rest, found.map (· + 1))
      else
        ({ task with stage := .running } :: rest, some 0)
    else
      let (rest, found) := takeFirst rest
      (task :: rest, found.map (· + 1))

/- Begin the oldest live task that runs once. -/
def takeOldest
    (scheduler : Scheduler J) :
    Scheduler J × Option TaskId :=
  let (tasks, found) := takeFirst scheduler.tasks
  ({ scheduler with tasks := tasks }, found)

/- Recurring tasks that were cancelled are over. -/
def sweep (scheduler : Scheduler J) : Scheduler J :=
  { scheduler with
    tasks :=
      scheduler.tasks.map fun task =>
        if task.repetition = .recurring ∧ task.cancelled = true then
          { task with stage := .over }
        else
          task }

/- The names of the tasks with a property, oldest first. -/
def idsWhere
    (scheduler : Scheduler J)
    (property : Task J → Bool) :
    List TaskId :=
  (List.range scheduler.tasks.length).filter fun id =>
    (scheduler.task? id).any property

/- The live tasks of a kind, oldest first. -/
def live
    (scheduler : Scheduler J)
    (repetition : Repetition) :
    List TaskId :=
  scheduler.idsWhere fun task =>
    task.repetition == repetition && task.isLive

/- The periods of the live recurring tasks, oldest first. -/
def livePeriods (scheduler : Scheduler J) : List Millis :=
  (scheduler.tasks.filter fun task =>
      task.repetition == .recurring && task.isLive).map
    Task.period

/- The delays of all tasks that run once, oldest first. -/
def delays (scheduler : Scheduler J) : List Millis :=
  (scheduler.tasks.filter fun task =>
      task.repetition == .once).map
    Task.period

------------------------------------------------------------
-- Work by the clock
------------------------------------------------------------

/- The time at which the next task is due. -/
def nextDue? (scheduler : Scheduler J) : Option Millis :=
  match scheduler.drive with
  | .hand => none
  | .clock => earliest? (scheduler.tasks.filterMap Task.due?)

/- The tasks that are due by now. -/
def dueTasks (scheduler : Scheduler J) : List TaskId :=
  match scheduler.drive with
  | .hand => []
  | .clock =>
      scheduler.idsWhere fun task =>
        task.due?.any (· ≤ scheduler.now)

end Scheduler

------------------------------------------------------------
-- Slots
------------------------------------------------------------

/- The two places that a session has for tasks. -/
inductive SlotName where
| connect
| check
deriving DecidableEq, Repr

/- A place for one task, which is cancelled when it leaves. -/
abbrev Slot :=
  Option TaskId

namespace Slot

variable {J : Type}

/- The scheduler once what a slot holds was cancelled. -/
def release (slot : Slot) (scheduler : Scheduler J) : Scheduler J :=
  match slot with
  | none => scheduler
  | some id => scheduler.cancel id

/- Whether the task in a slot is active. -/
def isActive (slot : Slot) (scheduler : Scheduler J) : Bool :=
  match slot with
  | none => false
  | some id => scheduler.isActive id

end Slot

end BrainLink
