import BrainLink.Connection.Resume
import BrainLink.Http.Playbook

/-
  A rehearsal: a connection together with a scripted brain,
  whose answers can be late or held back.

  Key definitions include:
    * `Question`
    * `Ticket`
    * `Flight`
    * `Rehearsal`
    * `Rehearsal.world`

  A question that the connection asks first takes the latency
  of its target, then waits while the gate of its target is
  closed, and takes its answer only then. Until it does it is
  in flight.
-/

namespace BrainLink

open Http (Target Playbook)

------------------------------------------------------------
-- Questions
------------------------------------------------------------

/- A request or a probe that awaits its answer. -/
inductive Question where
| asking (request : Http.Request) (errand : Errand)
| probing (task : TaskId)
deriving Repr

/- What a probe aims at. -/
def probeTarget : Target :=
  ⟨"PROBE", ""⟩

/- What a question aims at. -/
def Question.target : Question → Target
| .asking request _ => request.target
| .probing _ => probeTarget

/- The step of a rehearsal at which something began. -/
abbrev StepId :=
  Nat

/-
  What goes on once something in flight has come to its end:
  a task that runs by the clock, one that a step has run, one
  that a step runs among others, a command of a step, or a
  closing, of a step or because a listener asked for it.
-/
inductive Ticket where
| clock (task : TaskId)
| once (step : StepId) (task : TaskId)
| tick
    (step : StepId)
    (task : TaskId)
    (rest : List TaskId)
    (ran : Nat)
| command (step : StepId)
| closing (step : Option StepId)
deriving DecidableEq, Repr

/- Something that keeps the connection held until it ends. -/
def Ticket.holds : Ticket → Bool
| .command _ => true
| .closing _ => true
| _ => false

/- A question in flight: until some time, or at its gate. -/
structure Flight where
  ticket : Ticket
  question : Question
  wakes : Option Millis
deriving Repr

/-
  What a step of a rehearsal comes to. A step may find that
  the connection was dropped, or not have ended yet.
-/
inductive StepResult where
| nothing
| flag (value : Bool)
| count (value : Nat)
| outcome (result : Outcome Product)
| events (queue : Option (List Event))
| keys (keys : Option DeviceKeys)
| identity (brainId : String) (url : String) (path : String)
| dropped
| pending
deriving Repr

------------------------------------------------------------
-- Rehearsals
------------------------------------------------------------

/-
  The state of a rehearsal. `isDropped` tells whether the
  owner has let go of the connection; `reports` holds what
  the steps came to that have ended.
-/
structure Rehearsal where
  connection : Connection
  book : Playbook
  gates : List Target
  latencies : List (Target × Millis)
  isReachable : Bool
  address : Option Address
  creates : Bool
  flights : List Flight
  probed : Nat
  isDropped : Bool
  receivers : List (String × ListenerId)
  heldKeys : Option DeviceKeys
  reports : List (StepId × StepResult)

namespace Rehearsal

/- A rehearsal with a new connection. -/
def new
    (config : Config)
    (drive : Drive)
    (book : Playbook)
    (address : Option Address) :
    Outcome Rehearsal :=
  (Connection.new config drive).map fun connection =>
    { connection := connection
      book := book
      gates := []
      latencies := []
      isReachable := true
      address := address
      creates := true
      flights := []
      probed := 0
      isDropped := false
      receivers := []
      heldKeys := none
      reports := [] }

/- The time. -/
def now (rehearsal : Rehearsal) : Millis :=
  rehearsal.connection.tasks.now

/- How late the answers of a target are. -/
def latency (rehearsal : Rehearsal) (target : Target) : Millis :=
  (rehearsal.latencies.lookup target).getD 0

/- Whether the answers of a target are held back. -/
def isGated (rehearsal : Rehearsal) (target : Target) : Bool :=
  rehearsal.gates.contains target

/- Whether a question has to wait for its answer. -/
def mustWait (rehearsal : Rehearsal) (target : Target) : Bool :=
  rehearsal.latency target != 0 || rehearsal.isGated target

/- What the connection finds in the world. -/
def world (rehearsal : Rehearsal) : World where
  address := rehearsal.address
  creates := rehearsal.creates
  immediate request :=
    if rehearsal.mustWait request.target then
      none
    else
      some (rehearsal.book.answer request)

/- Put a question in flight. -/
def launch
    (rehearsal : Rehearsal)
    (ticket : Ticket)
    (question : Question) :
    Rehearsal :=
  let wakes :=
    match rehearsal.latency question.target with
    | 0 => none
    | span + 1 => some (rehearsal.now + (span + 1))
  { rehearsal with
    flights := rehearsal.flights ++ [⟨ticket, question, wakes⟩] }

/- Tell what a step came to. -/
def report
    (rehearsal : Rehearsal)
    (step : StepId)
    (result : StepResult) :
    Rehearsal :=
  { rehearsal with
    reports := rehearsal.reports ++ [(step, result)] }

/- The rehearsal with another connection. -/
def withConnection
    (rehearsal : Rehearsal)
    (connection : Connection) :
    Rehearsal :=
  { rehearsal with connection := connection }

/-
  The connection is dropped once the owner has let go of it,
  no command is under way, and no closing that a listener
  asked for is still to come.
-/
def releaseIfFree (rehearsal : Rehearsal) : Rehearsal :=
  if rehearsal.isDropped
      && rehearsal.connection.isHeld
      && rehearsal.connection.closings == 0
      && !rehearsal.flights.any fun f => f.ticket.holds then
    rehearsal.withConnection rehearsal.connection.drop
  else
    rehearsal

end Rehearsal

end BrainLink
