import BrainLink.Connection.Errand
import BrainLink.KeyCache

/-
  One attempt to connect: make a transport, find the local
  address, take back an old registration, register, fetch the
  device keys, and go online.

  Key definitions include:
    * `Connection.failAttempt`
    * `Connection.beginAttempt`
    * `Connection.afterUnregister`
    * `Connection.afterRegister`
    * `Connection.afterKeys`

  An attempt looks between its steps whether its task was
  cancelled. However it fails, the connection is offline at
  the end, and another attempt is scheduled unless it was
  cancelled.
-/

namespace BrainLink.Connection

/- An attempt ends without success. -/
def failAttempt
    (world : World)
    (task : TaskId)
    (cause : Cause)
    (connection : Connection) :
    Connection × Progress :=
  let givesUp :=
    !cause.isRetryable || connection.isCancelled task
  let connection := connection.goOffline world
  if givesUp then
    (connection, .over)
  else
    (connection.scheduleConnect, .over)

/- Register the callback URL of the session. -/
def sendRegistration
    (world : World)
    (task : TaskId)
    (transport : TransportId)
    (connection : Connection) :
    Connection × Progress :=
  match connection.registrar.register connection.session with
  | .error cause => connection.failAttempt world task cause
  | .ok sending =>
      connection.ask sending (.registering task transport)

/- Take back what may be registered still, then register. -/
def replaceRegistration
    (world : World)
    (task : TaskId)
    (transport : TransportId)
    (connection : Connection) :
    Connection × Progress :=
  match connection.farewell with
  | .error cause =>
      connection.clearCheck.failAttempt world task cause
  | .ok none =>
      connection.clearCheck.sendRegistration world task transport
  | .ok (some sending) =>
      connection.ask sending (.unregistering task transport)

/- Go on with an attempt that has a local address. -/
def useAddress
    (world : World)
    (task : TaskId)
    (transport : TransportId)
    (address : Address)
    (connection : Connection) :
    Connection × Progress :=
  match connection.config.callbackUrl address with
  | .error cause => connection.failAttempt world task cause
  | .ok url =>
      let connection :=
        { connection with
          session :=
            { connection.session with callbackUrl := some url } }
      if connection.isCancelled task then
        connection.failAttempt world task .interrupted
      else
        connection.replaceRegistration world task transport

/-
  Begin an attempt. Without a local address it ends at once,
  and none follows.
-/
def beginAttempt
    (world : World)
    (task : TaskId)
    (connection : Connection) :
    Connection × Progress :=
  let connection := connection.goOffline world
  let connection :=
    { connection with
      session := { connection.session with state := .connecting } }
  match connection.createTransport world with
  | .error cause => connection.failAttempt world task cause
  | .ok (connection, transport) =>
      let connection :=
        { connection with
          session :=
            { connection.session with
              transport := some transport } }
      let connection :=
        connection.record
          (.resolved
            connection.config.brainHost
            connection.config.brainPort)
      match world.address with
      | none => (connection.goOffline world, .over)
      | some address =>
          connection.useAddress world task transport address

/- The brain has answered to the unregister request. -/
def afterUnregister
    (world : World)
    (task : TaskId)
    (transport : TransportId)
    (answer : Http.Answer)
    (connection : Connection) :
    Connection × Progress :=
  let connection := connection.clearCheck
  match Http.accept answer with
  | .error cause => connection.failAttempt world task cause
  | .ok _ => connection.sendRegistration world task transport

/- The brain has answered to the register request. -/
def afterRegister
    (world : World)
    (task : TaskId)
    (transport : TransportId)
    (answer : Http.Answer)
    (connection : Connection) :
    Connection × Progress :=
  match Http.accept answer with
  | .error cause => connection.failAttempt world task cause
  | .ok _ =>
      if connection.isCancelled task then
        connection.failAttempt world task .interrupted
      else
        connection.ask
          (transport,
            KeyCache.request connection.config.brainUrl)
          (.fetchingKeys task transport)

/-
  The brain has answered with its project. Listeners that are
  told that it is online may cancel the attempt even now.
-/
def afterKeys
    (world : World)
    (task : TaskId)
    (answer : Http.Answer)
    (connection : Connection) :
    Connection × Progress :=
  let (keys, result) := KeyCache.update connection.keys answer
  let connection := { connection with keys := keys }
  match result with
  | .error cause => connection.failAttempt world task cause
  | .ok _ =>
      if connection.isCancelled task then
        connection.failAttempt world task .interrupted
      else
        let connection := connection.goOnline world
        if connection.isCancelled task then
          (connection.goOffline world).failAttempt
            world task .interrupted
        else
          (connection.scheduleCheck, .over)

end BrainLink.Connection
