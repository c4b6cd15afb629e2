import BrainLink.Proofs.Slots
import BrainLink.Rehearsal.State

/-
  The course of a connection: whatever can happen to it, in
  whatever order.

  Key definitions include:
    * `Situation`
    * `Occurrence`
    * `Situation.after`
    * `replay`

  Between two occurrences nothing runs. A question that was
  asked waits for its answer, which can come at any time and
  be anything, while all else goes on. Each occurrence finds a
  world of its own. What cannot happen changes nothing.
-/

namespace BrainLink

------------------------------------------------------------
-- Questions
------------------------------------------------------------

/- The connect attempt that an errand belongs to. -/
def Errand.attempt? : Errand → Option TaskId
| .unregistering task _ => some task
| .registering task _ => some task
| .fetchingKeys task _ => some task
| _ => none

deriving instance DecidableEq for Question

namespace Question

/- The connect attempt that asks a question. -/
def attempt? : Question → Option TaskId
| .asking _ errand => errand.attempt?
| .probing _ => none

/- An errand of an attempt is pursued on its behalf. -/
theorem attempt?_asking
    {errand : Errand}
    {task : TaskId}
    (hAttempt : errand.attempt? = some task)
    (request : Http.Request) :
    (asking request errand).attempt? = some task :=
  hAttempt

/- The health check that asks a question. -/
def check? : Question → Option TaskId
| .asking _ _ => none
| .probing task => some task

/- Whether a question belongs to a closing. -/
def isFarewell : Question → Bool
| .asking _ .closing => true
| _ => false

/- Whether a command asks a question. -/
def isOrdered : Question → Bool
| .asking _ errand => errand.attempt?.isNone
| .probing _ => false

end Question

------------------------------------------------------------
-- Situations
------------------------------------------------------------

/- A connection, with the questions that await an answer. -/
structure Situation where
  connection : Connection
  waiting : List Question

namespace Situation

/- The connect attempts that await an answer. -/
def attempts (situation : Situation) : List TaskId :=
  situation.waiting.filterMap Question.attempt?

/- The health checks that await an answer. -/
def checks (situation : Situation) : List TaskId :=
  situation.waiting.filterMap Question.check?

/- Whether a closing awaits the answer to its farewell. -/
def isParting (situation : Situation) : Bool :=
  situation.waiting.any Question.isFarewell

/- No attempt and no health check is under way. -/
def isQuiet (situation : Situation) : Bool :=
  situation.attempts.isEmpty && situation.checks.isEmpty

/- Whether a connection comes online between situations. -/
def comesOnline (before after : Situation) : Bool :=
  !before.connection.session.isConnected &&
    after.connection.session.isConnected

/- A property of the task of a name, if it is there. -/
def hasTask
    (situation : Situation)
    (task : TaskId)
    (property : Task Job → Bool) :
    Bool :=
  (situation.connection.tasks.task? task).any property

end Situation

------------------------------------------------------------
-- Occurrences
------------------------------------------------------------

/- How those who listen can change from outside. -/
inductive Audience where
| add (watcher : Watcher)
| remove (name : String)
| subscribe
| closeChannel (id : ListenerId)
| drain (id : ListenerId)
| closingsMade

/-
  What can happen. The owner starts the connection, gives it
  a command or lets go of it. The scheduler runs a task, sees
  that one was cancelled, or sets its clock. An answer comes,
  or the result of a probe.
-/
inductive Occurrence where
| start
| command (world : World) (command : Command)
| drop
| run (world : World) (task : TaskId)
| notice (task : TaskId)
| setTime (time : Millis)
| answer
    (world : World)
    (request : Http.Request)
    (errand : Errand)
    (answer : Http.Answer)
| probe (world : World) (task : TaskId) (isReachable : Bool)
| listen (change : Audience)

/-
  A task is over once it was seen that it was cancelled. One
  that runs once and is under way goes on to its end.
-/
def Task.noticed (task : Task Job) : Task Job :=
  if task.cancelled = true ∧
      (task.repetition = .recurring ∨
        task.isWaiting = true) then
    { task with stage := .over }
  else
    task

namespace Connection

/- A change of those who listen. -/
def attend
    (change : Audience)
    (connection : Connection) :
    Connection :=
  match change with
  | .add watcher => connection.addListener watcher
  | .remove name => (connection.removeListener name).1
  | .subscribe => connection.subscribe
  | .closeChannel id =>
      { connection with
        registry := connection.registry.closeChannel id }
  | .drain id =>
      { connection with
        registry := (connection.registry.drain id).1 }
  | .closingsMade => { connection with closings := 0 }

/-
  The run of a task begins. A task that recurs is not marked
  where it is run by hand.
-/
def beginRun
    (task : TaskId)
    (connection : Connection) :
    Connection :=
  match connection.tasks.drive,
      (connection.tasks.task? task).map Task.repetition with
  | .hand, some .recurring => connection
  | _, _ =>
      { connection with
        tasks := connection.tasks.beginRun task }

/- The run of a task ends. -/
def endRun
    (task : TaskId)
    (connection : Connection) :
    Connection :=
  { connection with tasks := connection.tasks.endRun task }

/- The scheduler sees whether a task was cancelled. -/
def notice
    (task : TaskId)
    (connection : Connection) :
    Connection :=
  { connection with
    tasks := connection.tasks.update task Task.noticed }

end Connection

------------------------------------------------------------
-- What Comes of Them
------------------------------------------------------------

namespace Situation

/-
  What was begun or gone on with asks something more, or is
  at its end. The run of a task ends with it.
-/
def proceed
    (waiting : List Question)
    (task? : Option TaskId)
    (step : Connection × Progress) :
    Situation :=
  match step.2 with
  | .asks request errand =>
      ⟨step.1, .asking request errand :: waiting⟩
  | .probes task => ⟨step.1, .probing task :: waiting⟩
  | .done _ =>
      match task? with
      | none => ⟨step.1, waiting⟩
      | some task => ⟨step.1.endRun task, waiting⟩

/- The situation after an occurrence. -/
def after (situation : Situation) : Occurrence → Situation
| .start =>
    if situation.connection.isHeld then
      ⟨situation.connection.start, situation.waiting⟩
    else
      situation
| .command world command =>
    if situation.connection.isHeld then
      proceed situation.waiting none
        (situation.connection.obey world command)
    else
      situation
| .drop =>
    if situation.waiting.any Question.isOrdered then
      situation
    else
      ⟨situation.connection.drop, situation.waiting⟩
| .run world task =>
    if situation.hasTask task Task.isLive then
      proceed situation.waiting (some task)
        ((situation.connection.beginRun task).runJob world task)
    else
      situation
| .notice task =>
    ⟨situation.connection.notice task, situation.waiting⟩
| .setTime time =>
    ⟨{ situation.connection with
        tasks := situation.connection.tasks.setTime time },
      situation.waiting⟩
| .answer world request errand answer =>
    if .asking request errand ∈ situation.waiting then
      proceed
        (situation.waiting.erase (.asking request errand))
        errand.attempt?
        (situation.connection.resume world errand answer)
    else
      situation
| .probe world task isReachable =>
    if .probing task ∈ situation.waiting then
      proceed
        (situation.waiting.erase (.probing task))
        (some task)
        (situation.connection.afterProbe world task isReachable)
    else
      situation
| .listen change =>
    ⟨situation.connection.attend change, situation.waiting⟩

end Situation

/- All that has happened to a connection, the latest first. -/
def replay
    (connection : Connection) :
    List Occurrence → Situation
| [] => ⟨connection, []⟩
| occurrence :: past =>
    (replay connection past).after occurrence

------------------------------------------------------------
-- New Connections
------------------------------------------------------------

/- A connection to which nothing has happened. -/
def Connection.fresh
    (config : Config)
    (drive : Drive) :
    Connection where
  config := config
  session := .fresh
  keys := .empty
  isClosed := false
  isHeld := true
  tasks := .empty drive
  registry := .empty
  names := []
  transports := 0
  closings := 0
  journal := []

/- It is what comes of a configuration without faults. -/
theorem Connection.new_of_faults
    {config : Config}
    (drive : Drive)
    (hFaults : config.faults.find? Prod.fst = none) :
    Connection.new config drive =
      .ok (.fresh config drive) := by
  unfold Connection.new Config.validate
  rw [hFaults]
  rfl

/- A brain, and the connection of an adapter to it. -/
namespace Sample

def config : Config :=
  .new "brain-1" "192.168.1.20" 8400 "test"

def connection : Connection :=
  .fresh config .hand

/- The adapter has an address, and no answer is immediate. -/
def world : World where
  address := some (.four ⟨192, 168, 1, 5⟩)
  creates := true
  immediate _ := none

/- The URL under which the brain reaches the adapter. -/
def url : String :=
  "http://192.168.1.5:8400/neeo/brain-1"

/- The brain forgets the URL on behalf of an attempt. -/
def unregisters
    (task : TaskId)
    (transport : TransportId) :
    Occurrence :=
  .answer world
    (connection.registrar.request .unregister url)
    (.unregistering task transport)
    (.ok ⟨200, ""⟩)

/- It learns the URL. -/
def registers
    (task : TaskId)
    (transport : TransportId) :
    Occurrence :=
  .answer world
    (connection.registrar.request .register url)
    (.registering task transport)
    (.ok ⟨200, ""⟩)

/- It tells its project, which has no rooms. -/
def tellsKeys
    (task : TaskId)
    (transport : TransportId) :
    Occurrence :=
  .answer world
    (KeyCache.request config.brainUrl)
    (.fetchingKeys task transport)
    (.ok ⟨200, "\x7b\"rooms\":\x7b\x7d\x7d"⟩)

/- An attempt that nothing disturbs. -/
def undisturbed : List Occurrence :=
  [ tellsKeys 0 1,
    registers 0 1,
    unregisters 0 1,
    .run world 0,
    .start ]

theorem new_connection :
    Connection.new config .hand = .ok connection :=
  Connection.new_of_faults .hand (by decide +kernel)

end Sample

end BrainLink
