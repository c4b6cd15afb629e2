import BrainLink.Connection.State

/-
  Going online and offline, and what listeners make of it. A
  listener is told at once, and what it does happens before
  the next one is told.

  Key definitions include:
    * `Connection.tell`
    * `Connection.announce`
    * `Connection.goOffline`
    * `Connection.goOnline`
    * `Connection.shut`
    * `Connection.endClose`

  A listener may close the connection while it is being told
  that the brain is online; then all are told that it is
  offline before the first telling goes on. Being told that
  the brain is offline cannot lead to another event, so the
  nesting ends there.
-/

namespace BrainLink.Connection

------------------------------------------------------------
-- Telling
------------------------------------------------------------

/- Do what a listener wants, if the connection is still held. -/
def makeMove
    (closeNow : Connection → Connection)
    (connection : Connection)
    (move : Move) :
    Connection :=
  if connection.isHeld then
    match move with
    | .start => connection.start
    | .close =>
        { connection with closings := connection.closings + 1 }
    | .closeNow => closeNow connection
    | .addListener name moves =>
        connection.addListener ⟨name, moves⟩
    | .removeListener name => (connection.removeListener name).1
    | .subscribe => connection.subscribe
  else
    connection

/- Tell one listener of an event. -/
def tell
    (closeNow : Connection → Connection)
    (event : Event)
    (entry : Entry Watcher)
    (connection : Connection) :
    Connection :=
  match entry.2 with
  | .channel =>
      { connection with
        registry := connection.registry.push entry.1 event }.record
        (.queued entry.1 event)
  | .callback watcher =>
      let view :=
        if connection.isHeld then some connection.view else none
      ((watcher.moves.filter fun m => m.1 == event.new).map
          Prod.snd).foldl
        (makeMove closeNow)
        (connection.record
          (.told entry.1 watcher.name event view))

/-
  Tell everyone who listens now of an event, and forget those
  whose channels were found closed.
-/
def announce
    (closeNow : Connection → Connection)
    (event : Event)
    (connection : Connection) :
    Connection :=
  let (connection, anyClosed) :=
    visitEach
      (fun entry connection => connection.registry.isClosed entry)
      (tell closeNow event)
      connection.registry.entries
      connection
  if anyClosed then
    { connection with registry := connection.registry.prune }
  else
    connection

/- Set the flag, and tell everyone if it changes. -/
def setConnected
    (closeNow : Connection → Connection)
    (value : Bool)
    (connection : Connection) :
    Connection :=
  let change := connection.session.change? value
  let connection :=
    { connection with
      session := connection.session.setConnected value }
  match change with
  | none => connection
  | some event => connection.announce closeNow event

------------------------------------------------------------
-- Closing
------------------------------------------------------------

/- The first part of closing: nothing is scheduled any more. -/
def shut (connection : Connection) : Connection :=
  { connection with isClosed := true }.clearSlots

/- What is sent to the brain when a connection is closed. -/
def farewell (connection : Connection) :
    Outcome (Option Sending) :=
  connection.registrar.unregister
    connection.session
    connection.session.callbackUrl

/-
  The last part of closing, once the brain has answered or
  nothing was sent: the session forgets its URL and transport
  and goes offline.
-/
def endClose
    (offline : Connection → Connection)
    (connection : Connection) :
    Connection :=
  let connection := connection.clearCheck
  offline
    { connection with
      session :=
        { connection.session with
          transport := none
          callbackUrl := none } }

/-
  Close a connection as far as can be without waiting. If the
  brain does not answer at once, the last part is left out.
-/
def closeNow
    (world : World)
    (offline : Connection → Connection)
    (connection : Connection) :
    Connection :=
  if connection.isClosed then
    connection
  else
    let sending := connection.farewell
    let connection := connection.shut
    match sending with
    | .ok (some (transport, request)) =>
        let connection :=
          connection.record (.asked transport request)
        match world.immediate request with
        | none => connection
        | some _ => connection.endClose offline
    | _ => connection.endClose offline

------------------------------------------------------------
-- Online and offline
------------------------------------------------------------

/- Lower a flag that is down already; nobody is told. -/
def stayOffline (connection : Connection) : Connection :=
  { connection with
    session := connection.session.setConnected false }

/- Lower the flag, and tell everyone if it was up. -/
def goOffline
    (world : World)
    (connection : Connection) :
    Connection :=
  connection.setConnected (closeNow world stayOffline) false

/- Raise the flag, and tell everyone if it was down. -/
def goOnline
    (world : World)
    (connection : Connection) :
    Connection :=
  connection.setConnected (closeNow world (goOffline world)) true

end BrainLink.Connection
