import BrainLink.Rehearsal.State

/-
  How a rehearsal goes on: answers are taken, jobs run, and
  time passes.

  Key definitions include:
    * `Rehearsal.follow`
    * `Rehearsal.conclude`
    * `Rehearsal.settle`
    * `Rehearsal.land`
    * `Rehearsal.advance`
-/

namespace BrainLink.Rehearsal

open Http (Target)

------------------------------------------------------------
-- Answers
------------------------------------------------------------

/- Take the answer to a question. -/
def takeAnswer
    (rehearsal : Rehearsal)
    (question : Question) :
    Rehearsal × Progress :=
  let world := rehearsal.world
  match question with
  | .asking request errand =>
      let (connection, progress) :=
        rehearsal.connection.resume
          world errand (rehearsal.book.answer request)
      (rehearsal.withConnection connection, progress)
  | .probing task =>
      let (connection, progress) :=
        rehearsal.connection.afterProbe
          world task rehearsal.isReachable
      ({ rehearsal with
          connection := connection
          probed := rehearsal.probed + 1 },
        progress)

/-
  Go on with something until it ends, or until it asks what
  it has to wait for. The number bounds its questions.
-/
def follow
    (ticket : Ticket) :
    Nat → Rehearsal × Progress → Rehearsal × Option StepResult
| _, (rehearsal, .done result) => (rehearsal, some (.outcome result))
| 0, (rehearsal, _) => (rehearsal, none)
| count + 1, (rehearsal, .asks request errand) =>
    let question := Question.asking request errand
    if rehearsal.mustWait question.target then
      (rehearsal.launch ticket question, none)
    else
      follow ticket count (rehearsal.takeAnswer question)
| count + 1, (rehearsal, .probes task) =>
    let question := Question.probing task
    if rehearsal.mustWait question.target then
      (rehearsal.launch ticket question, none)
    else
      follow ticket count (rehearsal.takeAnswer question)

/- Do something with the connection, and go on with it. -/
def pursue
    (rehearsal : Rehearsal)
    (ticket : Ticket)
    (act : World → Connection → Connection × Progress) :
    Rehearsal × Option StepResult :=
  let (connection, progress) :=
    act rehearsal.world rehearsal.connection
  follow ticket (mostQuestions + 1)
    (rehearsal.withConnection connection, progress)

------------------------------------------------------------
-- Ends
------------------------------------------------------------

/- The run of a task ends. -/
def endRun (rehearsal : Rehearsal) (task : TaskId) : Rehearsal :=
  rehearsal.withConnection
    { rehearsal.connection with
      tasks := rehearsal.connection.tasks.endRun task }

/-
  Run those of some tasks that are live when their turn
  comes, each to its end before the next.
-/
def runEach
    (step : StepId) :
    List TaskId → Nat → Rehearsal → Rehearsal
| [], ran, rehearsal => rehearsal.report step (.count ran)
| task :: rest, ran, rehearsal =>
    if rehearsal.connection.isCancelled task then
      runEach step rest ran rehearsal
    else
      match rehearsal.pursue
          (.tick step task rest ran)
          (fun world c => c.runJob world task) with
      | (rehearsal, none) => rehearsal
      | (rehearsal, some _) =>
          runEach step rest (ran + 1) (rehearsal.endRun task)

/- Something comes to its end. -/
def conclude
    (rehearsal : Rehearsal)
    (ticket : Ticket)
    (result : StepResult) :
    Rehearsal :=
  match ticket with
  | .clock task => rehearsal.endRun task
  | .once step task =>
      (rehearsal.endRun task).report step (.flag true)
  | .tick step task rest ran =>
      runEach step rest (ran + 1) (rehearsal.endRun task)
  | .command step =>
      (rehearsal.report step result).releaseIfFree
  | .closing none => rehearsal.releaseIfFree
  | .closing (some step) =>
      (rehearsal.report step .nothing).releaseIfFree

/- Begin something, and end it if it does not have to wait. -/
def undertake
    (rehearsal : Rehearsal)
    (ticket : Ticket)
    (act : World → Connection → Connection × Progress) :
    Rehearsal :=
  match rehearsal.pursue ticket act with
  | (rehearsal, none) => rehearsal
  | (rehearsal, some result) => rehearsal.conclude ticket result

/- All closings that listeners asked for have been made. -/
def endClosings (rehearsal : Rehearsal) : Rehearsal :=
  releaseIfFree
    (rehearsal.withConnection
      { rehearsal.connection with closings := 0 })

/-
  Close the connection if listeners have asked for it. After
  the first closing the others do nothing.
-/
def settle (rehearsal : Rehearsal) : Rehearsal :=
  if rehearsal.connection.closings = 0 then
    rehearsal
  else
    (rehearsal.undertake (.closing none) fun world c =>
      c.obey world .close).endClosings

------------------------------------------------------------
-- Flights
------------------------------------------------------------

/- A question in flight takes its answer. -/
def land (rehearsal : Rehearsal) (flight : Flight) : Rehearsal :=
  let (rehearsal, progress) :=
    rehearsal.takeAnswer flight.question
  match follow flight.ticket mostQuestions
      (rehearsal, progress) with
  | (rehearsal, none) => rehearsal
  | (rehearsal, some result) =>
      rehearsal.conclude flight.ticket result

/- A question waits no longer for its time, but at its gate. -/
def arrive (rehearsal : Rehearsal) (flight : Flight) : Rehearsal :=
  if rehearsal.isGated flight.question.target then
    { rehearsal with
      flights :=
        rehearsal.flights ++ [{ flight with wakes := none }] }
  else
    rehearsal.land flight

/-
  Open a gate. Those who wait at it go on in the order in
  which they came.
-/
def openGate (rehearsal : Rehearsal) (target : Target) : Rehearsal :=
  let waits := fun (flight : Flight) =>
    flight.wakes.isNone && flight.question.target == target
  let released := rehearsal.flights.filter waits
  let rehearsal :=
    { rehearsal with
      gates := rehearsal.gates.filter (· != target)
      flights := rehearsal.flights.filter fun f => !waits f }
  (released.foldl land rehearsal).settle

------------------------------------------------------------
-- Tasks
------------------------------------------------------------

/- Run the oldest task that runs once, if there is one. -/
def runNextOnce (rehearsal : Rehearsal) (step : StepId) : Rehearsal :=
  let (tasks, found) := rehearsal.connection.tasks.takeOldest
  let rehearsal :=
    rehearsal.withConnection
      { rehearsal.connection with tasks := tasks }
  match found with
  | none => rehearsal.report step (.flag false)
  | some task =>
      (rehearsal.undertake (.once step task) fun world c =>
        c.runJob world task).settle

/- Run every live recurring task. -/
def tickRecurring
    (rehearsal : Rehearsal)
    (step : StepId) :
    Rehearsal :=
  let due := rehearsal.connection.tasks.live .recurring
  let rehearsal :=
    rehearsal.withConnection
      { rehearsal.connection with
        tasks := rehearsal.connection.tasks.sweep }
  (runEach step due 0 rehearsal).settle

/- Run a task by the clock, if it is still due. -/
def runDue (rehearsal : Rehearsal) (task : TaskId) : Rehearsal :=
  if rehearsal.connection.isCancelled task then
    rehearsal
  else
    let rehearsal :=
      rehearsal.withConnection
        { rehearsal.connection with
          tasks := rehearsal.connection.tasks.beginRun task }
    rehearsal.undertake (.clock task) fun world c =>
      c.runJob world task

------------------------------------------------------------
-- Time
------------------------------------------------------------

/- The next time at which a task or an answer is due. -/
def nextDue? (rehearsal : Rehearsal) : Option Millis :=
  earliest?
    (rehearsal.connection.tasks.nextDue?.toList ++
      rehearsal.flights.filterMap Flight.wakes)

/- Do all that is due at a time. -/
def happen (time : Millis) (rehearsal : Rehearsal) : Rehearsal :=
  let rehearsal :=
    rehearsal.withConnection
      { rehearsal.connection with
        tasks := rehearsal.connection.tasks.setTime time }
  let isDue := fun (flight : Flight) =>
    flight.wakes.any (· ≤ time)
  let due := rehearsal.flights.filter isDue
  let tasks := rehearsal.connection.tasks.dueTasks
  let rehearsal :=
    { rehearsal with
      flights := rehearsal.flights.filter fun f => !isDue f }
  (tasks.foldl runDue (due.foldl arrive rehearsal)).settle

/- How a rehearsal lives in time. -/
def timeline : Timeline Rehearsal where
  next? := nextDue?
  happen := happen

/- Let time pass. -/
def advance (rehearsal : Rehearsal) (span : Millis) : Rehearsal :=
  let last := rehearsal.now + span
  let rehearsal := timeline.advance last (span + 1) rehearsal
  rehearsal.withConnection
    { rehearsal.connection with
      tasks := rehearsal.connection.tasks.setTime last }

/- Give a command. -/
def give
    (rehearsal : Rehearsal)
    (step : StepId)
    (command : Command) :
    Rehearsal :=
  let ticket :=
    match command with
    | .close => Ticket.closing (some step)
    | _ => Ticket.command step
  (rehearsal.undertake ticket fun world c =>
    c.obey world command).settle

/- Let go of the connection. -/
def letGo (rehearsal : Rehearsal) : Rehearsal :=
  releaseIfFree { rehearsal with isDropped := true }

end BrainLink.Rehearsal
