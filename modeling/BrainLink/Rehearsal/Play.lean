import BrainLink.Rehearsal.Run

/-
  Playing a rehearsal: its steps, and what can be seen after
  each.

  Key definitions include:
    * `Step`
    * `Rehearsal.perform`
    * `StepEntry`
    * `Rehearsal.play`
-/

namespace BrainLink

open Http (Target Play)

/- The steps of a rehearsal. -/
inductive Step where
| start
| order (command : Command)
| runNextOnce
| tickRecurring
| advance (span : Millis)
| set (target : Target) (play : Play)
| setProbe (isReachable : Bool)
| setAddress (address : Option Address)
| setCreation (creates : Bool)
| gate (target : Target)
| release (target : Target)
| latency (target : Target) (span : Millis)
| addListener (watcher : Watcher)
| removeListener (name : String)
| subscribe (name : String)
| receive (name : String)
| dropReceiver (name : String)
| keys
| holdKeys
| heldKeys
| info
| drop

/- A step that can be done only while the connection is held. -/
def Step.needsConnection : Step → Bool
| .start => true
| .order _ => true
| .addListener _ => true
| .removeListener _ => true
| .subscribe _ => true
| .keys => true
| .holdKeys => true
| .info => true
| _ => false

namespace Rehearsal

------------------------------------------------------------
-- Receivers
------------------------------------------------------------

/- Drop the receiver of a name. Tells whether there was one. -/
def dropReceiver
    (rehearsal : Rehearsal)
    (name : String) :
    Rehearsal × Bool :=
  match rehearsal.receivers.lookup name with
  | none => (rehearsal, false)
  | some id =>
      let connection := rehearsal.connection
      ({ rehearsal with
          connection :=
            { connection with
              registry := connection.registry.closeChannel id }
          receivers :=
            rehearsal.receivers.filter fun r => r.1 != name },
        true)

/- Let a new receiver have a name. -/
def subscribe (rehearsal : Rehearsal) (name : String) : Rehearsal :=
  let id := rehearsal.connection.registry.nextId
  let rehearsal :=
    rehearsal.withConnection rehearsal.connection.subscribe
  let (rehearsal, _) := rehearsal.dropReceiver name
  { rehearsal with
    receivers := (name, id) :: rehearsal.receivers }

/- Take the events that wait for the receiver of a name. -/
def receive
    (rehearsal : Rehearsal)
    (name : String) :
    Rehearsal × Option (List Event) :=
  match rehearsal.receivers.lookup name with
  | none => (rehearsal, none)
  | some id =>
      let connection := rehearsal.connection
      let (registry, events) := connection.registry.drain id
      (rehearsal.withConnection
          { connection with registry := registry },
        some events)

------------------------------------------------------------
-- Steps
------------------------------------------------------------

/- Do a step; what it comes to is among the reports. -/
def perform
    (rehearsal : Rehearsal)
    (id : StepId) :
    Step → Rehearsal
| .start =>
    (rehearsal.withConnection rehearsal.connection.start).report
      id .nothing
| .order command => rehearsal.give id command
| .runNextOnce => rehearsal.runNextOnce id
| .tickRecurring => rehearsal.tickRecurring id
| .advance span => (rehearsal.advance span).report id .nothing
| .set target play =>
    { rehearsal with book := rehearsal.book.set target play }.report
      id .nothing
| .setProbe isReachable =>
    { rehearsal with isReachable := isReachable }.report id .nothing
| .setAddress address =>
    { rehearsal with address := address }.report id .nothing
| .setCreation creates =>
    { rehearsal with creates := creates }.report id .nothing
| .gate target =>
    { rehearsal with gates := target :: rehearsal.gates }.report
      id .nothing
| .release target =>
    (rehearsal.openGate target).report id .nothing
| .latency target span =>
    { rehearsal with
      latencies := (target, span) :: rehearsal.latencies }.report
      id .nothing
| .addListener watcher =>
    (rehearsal.withConnection
      (rehearsal.connection.addListener watcher)).report
      id .nothing
| .removeListener name =>
    let (connection, found) :=
      rehearsal.connection.removeListener name
    (rehearsal.withConnection connection).report id (.flag found)
| .subscribe name => (rehearsal.subscribe name).report id .nothing
| .receive name =>
    let (rehearsal, events) := rehearsal.receive name
    rehearsal.report id (.events events)
| .dropReceiver name =>
    let (rehearsal, found) := rehearsal.dropReceiver name
    rehearsal.report id (.flag found)
| .keys =>
    rehearsal.report id (.keys (some rehearsal.connection.keys))
| .holdKeys =>
    { rehearsal with
      heldKeys := some rehearsal.connection.keys }.report
      id .nothing
| .heldKeys => rehearsal.report id (.keys rehearsal.heldKeys)
| .info =>
    let config := rehearsal.connection.config
    rehearsal.report id
      (.identity config.brainId config.brainUrl config.callbackPath)
| .drop => rehearsal.letGo.report id .nothing

/- Do a step, unless it needs a connection that is gone. -/
def step
    (rehearsal : Rehearsal)
    (id : StepId)
    (next : Step) :
    Rehearsal :=
  if rehearsal.isDropped && next.needsConnection then
    rehearsal.report id .dropped
  else
    rehearsal.perform id next

end Rehearsal

------------------------------------------------------------
-- Entries
------------------------------------------------------------

/-
  What can be seen after a step: what it came to, which
  earlier steps have ended meanwhile, what was done, and how
  things stand.
-/
structure StepEntry where
  result : StepResult
  ended : List (StepId × StepResult)
  effects : List (Millis × Effect)
  now : Millis
  created : Nat
  probed : Nat
  live : Option (Nat × Nat)
  connection : Option (View × List String)

namespace Rehearsal

/- How many tasks are live, where they are run by hand. -/
def liveTasks (rehearsal : Rehearsal) : Option (Nat × Nat) :=
  let tasks := rehearsal.connection.tasks
  match tasks.drive with
  | .clock => none
  | .hand =>
      some
        ((tasks.live .once).length,
          (tasks.live .recurring).length)

/- The connection as its owner sees it. -/
def ownView (rehearsal : Rehearsal) : Option (View × List String) :=
  if rehearsal.isDropped then
    none
  else
    some (rehearsal.connection.view, rehearsal.connection.keys.keys)

/- What can be seen of a step, with the state before it. -/
def entry (before after : Rehearsal) (id : StepId) : StepEntry where
  result := (after.reports.lookup id).getD .pending
  ended := after.reports.filter fun report => report.1 != id
  effects :=
    after.connection.journal.drop before.connection.journal.length
  now := after.now
  created := after.connection.transports
  probed := after.probed
  live := after.liveTasks
  connection := after.ownView

/- Play steps that count from a number. -/
def playFrom : StepId → List Step → Rehearsal → List StepEntry
| _, [], _ => []
| id, next :: rest, rehearsal =>
    let after := step { rehearsal with reports := [] } id next
    entry rehearsal after id :: playFrom (id + 1) rest after

/- Play all steps of a rehearsal. -/
def play (rehearsal : Rehearsal) (steps : List Step) :
    List StepEntry :=
  playFrom 0 steps rehearsal

end Rehearsal

end BrainLink
