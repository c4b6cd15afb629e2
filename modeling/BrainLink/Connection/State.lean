import BrainLink.DeviceKeys
import BrainLink.Registrar

/-
  A connection to one brain: its session, the tasks that work
  for it, and those who listen to it.

  Key definitions include:
    * `Connection`
    * `Connection.new`
    * `Connection.start`
    * `Connection.scheduleConnect`
    * `Connection.scheduleCheck`
    * `Connection.drop`
    * `World`

  Nothing in a connection waits. What it asks of the brain
  and what it tells its listeners is written to a journal, in
  order and with the time.
-/

namespace BrainLink

------------------------------------------------------------
-- Parts
------------------------------------------------------------

/- The two jobs of a connection. -/
inductive Job where
| connect
| checkHealth
deriving DecidableEq, Repr

/-
  What a listener can do to the connection it listens to. One
  that it adds may have moves of its own, each for one new
  value of the event.
-/
inductive Move where
| start
| close
| closeNow
| addListener (name : String) (moves : List (Bool × Move))
| removeListener (name : String)
| subscribe

/- A listener: its name and its moves. -/
structure Watcher where
  name : String
  moves : List (Bool × Move)

/- What a listener sees of a connection. -/
structure View where
  isConnected : Bool
  state : LinkState
  callbackUrl : Option String
  hasPendingConnect : Bool
  hasHealthCheck : Bool
deriving DecidableEq, Repr

/-
  What a connection does to the outside. A listener sees the
  connection only while its owner holds it.
-/
inductive Effect where
| told
    (id : ListenerId)
    (name : String)
    (event : Event)
    (view : Option View)
| queued (id : ListenerId) (event : Event)
| asked (transport : TransportId) (request : Http.Request)
| probed (host : String) (port : UInt16) (timeout : Millis)
| resolved (host : String) (port : UInt16)
| scheduled (repetition : Repetition) (period : Millis)
deriving DecidableEq, Repr

/- Why no transport can be made. -/
def creationDisabled : Http.Failure :=
  .client "transport creation disabled"

/-
  What a connection finds in the world while it acts: the
  local address towards the brain, whether transports can be
  made, and which requests are answered on the spot.
-/
structure World where
  address : Option Address
  creates : Bool
  immediate : Http.Request → Option Http.Answer

/-
  A connection. `isHeld` tells whether its owner still has
  it, `closings` how often listeners have asked to close it,
  `transports` how many transports were made for it.
-/
structure Connection where
  config : Config
  session : Session
  keys : DeviceKeys
  isClosed : Bool
  isHeld : Bool
  tasks : Scheduler Job
  registry : Registry Watcher
  names : List (String × ListenerId)
  transports : Nat
  closings : Nat
  journal : List (Millis × Effect)

namespace Connection

/- A connection for a valid configuration. -/
def new (config : Config) (drive : Drive) : Outcome Connection :=
  match config.validate with
  | .error cause => .error cause
  | .ok _ =>
      .ok
        { config := config
          session := .fresh
          keys := .empty
          isClosed := false
          isHeld := true
          tasks := .empty drive
          registry := .empty
          names := []
          transports := 0
          closings := 0
          journal := [] }

/- The registrar of a connection. -/
def registrar (connection : Connection) : Registrar :=
  .ofConfig connection.config

/- Write down an effect. -/
def record
    (connection : Connection)
    (effect : Effect) :
    Connection :=
  { connection with
    journal :=
      connection.journal ++ [(connection.tasks.now, effect)] }

------------------------------------------------------------
-- Slots
------------------------------------------------------------

/- Cancel what a connection has pending in its connect slot. -/
def clearConnect (connection : Connection) : Connection :=
  { connection with
    tasks := connection.session.connect.release connection.tasks
    session := { connection.session with connect := none } }

/- Cancel the health check of a connection. -/
def clearCheck (connection : Connection) : Connection :=
  { connection with
    tasks := connection.session.check.release connection.tasks
    session := { connection.session with check := none } }

/- Cancel both. -/
def clearSlots (connection : Connection) : Connection :=
  connection.clearCheck.clearConnect

/- Whether a connect attempt is pending or under way. -/
def hasPendingConnect (connection : Connection) : Bool :=
  connection.session.connect.isActive connection.tasks

/- Whether the health of the brain is being checked. -/
def hasHealthCheck (connection : Connection) : Bool :=
  connection.session.check.isActive connection.tasks

/- Whether a task was told to stop. -/
def isCancelled (connection : Connection) (task : TaskId) : Bool :=
  connection.tasks.isCancelled task

------------------------------------------------------------
-- Scheduling
------------------------------------------------------------

/-
  Schedule a connect attempt in place of the one before. A
  closed connection drops it again.
-/
def scheduleConnect (connection : Connection) : Connection :=
  let delay := connection.config.connectDelay
  let id := connection.tasks.nextId
  let tasks := connection.tasks.add .once delay .connect
  let connection :=
    { connection with
      tasks := connection.session.connect.release tasks
      session := { connection.session with connect := some id } }
  let connection := connection.record (.scheduled .once delay)
  if connection.isClosed then
    connection.clearConnect
  else
    connection

/-
  Schedule health checks in place of those before, if they
  are wanted at all.
-/
def scheduleCheck (connection : Connection) : Connection :=
  if connection.config.checksHealth then
    let interval := connection.config.checkInterval
    let id := connection.tasks.nextId
    let tasks :=
      connection.tasks.add .recurring interval .checkHealth
    let connection :=
      { connection with
        tasks := connection.session.check.release tasks
        session := { connection.session with check := some id } }
    let connection :=
      connection.record (.scheduled .recurring interval)
    if connection.isClosed then
      connection.clearCheck
    else
      connection
  else
    connection

/- Start to connect, unless the connection was closed. -/
def start (connection : Connection) : Connection :=
  if connection.isClosed then
    connection
  else
    connection.scheduleConnect

/- The owner lets go; all that is pending is cancelled. -/
def drop (connection : Connection) : Connection :=
  { connection.clearSlots with isHeld := false }

------------------------------------------------------------
-- Listeners
------------------------------------------------------------

/- What a listener sees. -/
def view (connection : Connection) : View where
  isConnected := connection.session.isConnected
  state := connection.session.state
  callbackUrl := connection.session.callbackUrl
  hasPendingConnect := connection.hasPendingConnect
  hasHealthCheck := connection.hasHealthCheck

/- Let a callback listen, under its name. -/
def addListener
    (connection : Connection)
    (watcher : Watcher) :
    Connection :=
  { connection with
    registry := connection.registry.add watcher
    names :=
      (watcher.name, connection.registry.nextId)
        :: connection.names }

/-
  Let the latest listener of a name listen no more. Tells
  whether it was listening.
-/
def removeListener
    (connection : Connection)
    (name : String) :
    Connection × Bool :=
  match connection.names.lookup name with
  | none => (connection, false)
  | some id =>
      ({ connection with
          registry := connection.registry.remove id },
        connection.registry.has id)

/- Let a channel listen; it is the one with the next name. -/
def subscribe (connection : Connection) : Connection :=
  { connection with registry := connection.registry.subscribe }

end Connection

end BrainLink
