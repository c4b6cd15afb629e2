import BrainLink.Config
import BrainLink.Http.Response
import BrainLink.Listener.Registry
import BrainLink.Task.Scheduler

/-
  What changes in the course of a session with a brain.

  Key definitions include:
    * `LinkState`
    * `Session`
    * `Session.setConnected`
    * `Session.request?`
-/

namespace BrainLink

/- How a session stands with its brain. -/
inductive LinkState where
| disconnected
| connecting
| connected
deriving DecidableEq, Repr

/- The name of each state. -/
def LinkState.name : LinkState → String
| .disconnected => "disconnected"
| .connecting => "connecting"
| .connected => "connected"

/- A transport is known by its number. -/
abbrev TransportId :=
  Nat

/-
  The session: the URL that the brain was given, the
  transport for requests, whether the brain is connected, and
  the slots of the two tasks that work for the session.
-/
structure Session where
  callbackUrl : Option String
  transport : Option TransportId
  isConnected : Bool
  state : LinkState
  connect : Slot
  check : Slot
deriving DecidableEq, Repr

namespace Session

/- A session that has not begun. -/
def fresh : Session where
  callbackUrl := none
  transport := none
  isConnected := false
  state := .disconnected
  connect := none
  check := none

/-
  Raise or lower the flag. A session that goes offline has no
  callback URL any more.
-/
def setConnected (session : Session) (value : Bool) : Session :=
  if value then
    { session with isConnected := true, state := .connected }
  else
    { session with
      isConnected := false
      state := .disconnected
      callbackUrl := none }

/- The event of a change of the flag to a value, if any. -/
def change? (session : Session) (value : Bool) : Option Event :=
  if session.isConnected = value then
    none
  else
    some ⟨session.isConnected, value⟩

/- A request goes out on the transport of the session. -/
def send?
    (session : Session)
    (request : Http.Request) :
    Outcome (TransportId × Http.Request) :=
  match session.transport with
  | none => .error .noTransport
  | some transport => .ok (transport, request)

end Session

end BrainLink
