import BrainLink.Task.Script

/-
  A bench on which scripted jobs run: a scheduler, two slots,
  tasks kept under a name, a log of what the jobs do, and a
  record of all that happens to tasks.

  Key definitions include:
    * `Activity`
    * `Bench`
    * `Bench.apply`
    * `Bench.act`
    * `Bench.perform`
    * `Bench.advance`
    * `Bench.runNextOnce`
    * `Bench.tickRecurring`

  With a clock, a job that sleeps lets others run, and
  `Bench.advance` moves on from one due time to the next. By
  hand, a job runs to its end at once and its sleep moves the
  clock.
-/

namespace BrainLink

/- A job that sleeps, and what it still has to do. -/
structure Sleeper where
  task : TaskId
  name : String
  wakes : Millis
  rest : List Action

/- A line of the log: when, which job, and what. -/
structure LogLine where
  time : Millis
  name : String
  note : Note

/-
  What happens to tasks. An action is ordered from outside or
  done by a run. It may be about a task, and may cancel one
  that was not cancelled before.
-/
inductive Activity where
| acted
    (runner : Option TaskId)
    (action : Action)
    (subject : Option TaskId)
    (stopped : Option TaskId)
| began (id : TaskId) (name : String)
| ended (id : TaskId) (name : String)

/-
  The state of a bench. Each name stands for the latest task
  that was scheduled under it, and may also keep a task.
-/
structure Bench where
  scheduler : Scheduler Script
  named : List (String × TaskId)
  kept : List (String × TaskId)
  connect : Slot
  check : Slot
  sleepers : List Sleeper
  log : List LogLine
  record : List (Millis × Activity)

namespace Bench

/- A bench without tasks. -/
def empty (drive : Drive) : Bench where
  scheduler := .empty drive
  named := []
  kept := []
  connect := none
  check := none
  sleepers := []
  log := []
  record := []

------------------------------------------------------------
-- Names and slots
------------------------------------------------------------

/- Let a name stand for something, and for that only. -/
def bind
    {α : Type}
    (name : String)
    (value : α)
    (entries : List (String × α)) :
    List (String × α) :=
  (name, value) :: entries.filter fun entry => entry.1 != name

/- What a slot holds. -/
def slot (bench : Bench) : SlotName → Slot
| .connect => bench.connect
| .check => bench.check

/- Put something into a slot, or leave it empty. -/
def setSlot
    (bench : Bench)
    (name : SlotName)
    (value : Slot) :
    Bench :=
  match name with
  | .connect => { bench with connect := value }
  | .check => { bench with check := value }

/- Cancel what a slot holds, and give it something else. -/
def refill
    (bench : Bench)
    (name : SlotName)
    (value : Slot) :
    Bench :=
  { bench.setSlot name value with
    scheduler := (bench.slot name).release bench.scheduler }

/- Write a line of the log. -/
def note (bench : Bench) (name : String) (what : Note) : Bench :=
  { bench with
    log := bench.log ++ [⟨bench.scheduler.now, name, what⟩] }

/- Enter into the record what happens now. -/
def enter (bench : Bench) (activity : Activity) : Bench :=
  { bench with
    record :=
      bench.record ++ [(bench.scheduler.now, activity)] }

------------------------------------------------------------
-- Actions
------------------------------------------------------------

/- Schedule a job, into a slot or to be kept by its name. -/
def schedule
    (bench : Bench)
    (repetition : Repetition)
    (name : String)
    (period : Millis)
    (actions : List Action)
    (slot : Option SlotName) :
    Bench :=
  let id := bench.scheduler.nextId
  let bench :=
    { bench with
      scheduler :=
        bench.scheduler.add repetition period ⟨name, actions⟩
      named := bind name id bench.named }
  match slot with
  | some slot => bench.refill slot (some id)
  | none => { bench with kept := bind name id bench.kept }

/-
  The task kept under a name, or else the latest one scheduled
  under it.
-/
def find? (bench : Bench) (name : String) : Option TaskId :=
  match bench.kept.lookup name with
  | some id => some id
  | none => bench.named.lookup name

/- Cancel the task of a name. Tells whether there was one. -/
def cancel (bench : Bench) (name : String) : Bench × Bool :=
  match bench.find? name with
  | none => (bench, false)
  | some id =>
      ({ bench with scheduler := bench.scheduler.cancel id },
        true)

/-
  Move the task kept under a name into a slot. Tells whether
  there was one.
-/
def put
    (bench : Bench)
    (name : String)
    (slot : SlotName) :
    Bench × Bool :=
  match bench.kept.lookup name with
  | none => (bench, false)
  | some id =>
      let bench :=
        { bench with
          kept := bench.kept.filter fun entry => entry.1 != name }
      (bench.refill slot (some id), true)

/- Do what takes no time; some of it has a result. -/
def apply (bench : Bench) : Action → Bench × Option Bool
| .sleep _ => (bench, none)
| .check => (bench, none)
| .schedule repetition name period actions slot =>
    (bench.schedule repetition name period actions slot, none)
| .cancel name =>
    let (bench, found) := bench.cancel name
    (bench, some found)
| .clear slot => (bench.refill slot none, none)
| .put name slot =>
    let (bench, found) := bench.put name slot
    (bench, some found)

/- The task that an action is about, if there is one. -/
def subject? (bench : Bench) : Action → Option TaskId
| .schedule _ _ _ _ _ => some bench.scheduler.nextId
| .cancel name => bench.find? name
| .put name _ => bench.kept.lookup name
| _ => none

/- The task that an action cancels, if there is one. -/
def target? (bench : Bench) : Action → Option TaskId
| .schedule _ _ _ _ slot => slot.bind bench.slot
| .cancel name => bench.find? name
| .clear slot => bench.slot slot
| .put name slot =>
    (bench.kept.lookup name).bind fun _ => bench.slot slot
| _ => none

/- Do what takes no time, and enter it into the record. -/
def act
    (bench : Bench)
    (runner : Option TaskId)
    (action : Action) :
    Bench × Option Bool :=
  let stopped :=
    (bench.target? action).filter fun id =>
      !bench.scheduler.isCancelled id
  (bench.enter
      (.acted runner action (bench.subject? action)
        stopped)).apply
    action

------------------------------------------------------------
-- Runs
------------------------------------------------------------

/- The run of a task ends. -/
def finish (bench : Bench) (id : TaskId) (name : String) : Bench :=
  { bench.enter (.ended id name) with
    scheduler := bench.scheduler.endRun id }

/- Go on with a run until it sleeps or ends. -/
def perform
    (id : TaskId)
    (name : String) :
    List Action → Bench → Bench
| [], bench => (bench.note name .ended).finish id name
| .sleep span :: rest, bench =>
    let (bench, _) := bench.act (some id) (.sleep span)
    let wakes := bench.scheduler.now + span
    match bench.scheduler.drive, span with
    | .hand, _ =>
        perform id name rest
          { bench with
            scheduler := bench.scheduler.setTime wakes }
    | .clock, 0 => perform id name rest bench
    | .clock, _ + 1 =>
        { bench with
          sleepers :=
            bench.sleepers ++ [⟨id, name, wakes, rest⟩] }
| .check :: rest, bench =>
    let (bench, _) := bench.act (some id) .check
    if bench.scheduler.isCancelled id then
      (bench.note name .interrupted).finish id name
    else
      perform id name rest (bench.note name .goesOn)
| action :: rest, bench =>
    let (bench, result) := bench.act (some id) action
    perform id name rest (bench.note name (.did action result))

/- Run a task until it sleeps or ends. -/
def run (bench : Bench) (id : TaskId) : Bench :=
  match bench.scheduler.task? id with
  | none => bench
  | some task =>
      perform id task.job.name task.job.actions
        ((bench.enter (.began id task.job.name)).note
          task.job.name .run)

------------------------------------------------------------
-- By hand
------------------------------------------------------------

/- Run the oldest live job that runs once, if there is one. -/
def runNextOnce (bench : Bench) : Bench × Bool :=
  let (scheduler, found) := bench.scheduler.takeOldest
  let bench := { bench with scheduler := scheduler }
  match found with
  | none => (bench, false)
  | some id => (bench.run id, true)

/- Run those of some tasks that are live when their turn comes. -/
def runEach : List TaskId → Bench → Bench × Nat
| [], bench => (bench, 0)
| id :: rest, bench =>
    if bench.scheduler.isCancelled id then
      runEach rest bench
    else
      let (bench, count) := runEach rest (bench.run id)
      (bench, count + 1)

/- Run every live recurring job; tells how many ran. -/
def tickRecurring (bench : Bench) : Bench × Nat :=
  runEach
    (bench.scheduler.live .recurring)
    { bench with scheduler := bench.scheduler.sweep }

------------------------------------------------------------
-- By the clock
------------------------------------------------------------

/- The next time at which a task is due or a job wakes. -/
def nextDue? (bench : Bench) : Option Millis :=
  earliest?
    (bench.scheduler.nextDue?.toList ++
      bench.sleepers.map Sleeper.wakes)

/- Do one thing that is due by now, if there is one. -/
def happen? (bench : Bench) : Option Bench :=
  match bench.sleepers.find? fun s =>
      s.wakes ≤ bench.scheduler.now with
  | some sleeper =>
      some
        (perform sleeper.task sleeper.name sleeper.rest
          { bench with
            sleepers :=
              bench.sleepers.eraseP fun s =>
                s.wakes ≤ bench.scheduler.now })
  | none =>
      bench.scheduler.dueTasks.head?.map fun id =>
        run
          { bench with scheduler := bench.scheduler.beginRun id }
          id

/- Do what is due by now, up to a number of things. -/
def settleWithin : Nat → Bench → Bench
| 0, bench => bench
| count + 1, bench =>
    match bench.happen? with
    | none => bench
    | some bench => settleWithin count bench

/- How many things can come of what is under way. -/
def weight (bench : Bench) : Nat :=
  let scheduled :=
    bench.scheduler.tasks.foldl
      (fun total t => total + 1 + t.job.weight) 0
  bench.sleepers.foldl
    (fun total s => total + 1 + weightAll s.rest) scheduled

/- Do all that is due by now. -/
def settle (bench : Bench) : Bench :=
  settleWithin bench.weight bench

/- How a bench lives in time. -/
def timeline : Timeline Bench where
  next? := nextDue?
  happen time bench :=
    settle
      { bench with scheduler := bench.scheduler.setTime time }

/- Give an order from outside, and do what is due by now. -/
def order
    (bench : Bench)
    (action : Action) :
    Bench × Option Bool :=
  let (bench, result) := bench.act none action
  (bench.settle, result)

/- Let time pass. -/
def advance (bench : Bench) (span : Millis) : Bench :=
  let last := bench.scheduler.now + span
  let bench := timeline.advance last (span + 1) bench
  { bench with scheduler := bench.scheduler.setTime last }

end Bench

end BrainLink
