import BrainLink.Http.Playbook
import BrainLink.Registrar

/-
  A desk for trying out a session and its registrar without a
  connection around them: every request is answered at once,
  and the tasks do nothing.

  Key definitions include:
    * `Desk`
    * `Desk.setConnected`
    * `Desk.deregisterUrl`
    * `Desk.register`
-/

namespace BrainLink

/-
  A session with its registrar, its tasks, a channel that
  listens to it, and a brain that answers from a playbook.
-/
structure Desk where
  registrar : Registrar
  session : Session
  tasks : Scheduler Unit
  registry : Registry Empty
  recorder : Http.Recorder

namespace Desk

/- A desk with a new session; one channel listens to it. -/
def new (registrar : Registrar) (book : Http.Playbook) : Desk where
  registrar := registrar
  session := .fresh
  tasks := .empty .hand
  registry := Registry.empty.subscribe
  recorder := ⟨book, []⟩

------------------------------------------------------------
-- State
------------------------------------------------------------

/- Set the flag, and tell the channel if it changes. -/
def setConnected (desk : Desk) (value : Bool) : Desk :=
  let change := desk.session.change? value
  let desk :=
    { desk with session := desk.session.setConnected value }
  match change with
  | none => desk
  | some event =>
      { desk with registry := desk.registry.push 0 event }

/- Take the events that wait in the channel. -/
def receive (desk : Desk) : Desk × List Event :=
  let (registry, events) := desk.registry.drain 0
  ({ desk with registry := registry }, events)

/- What a slot holds. -/
def slot (desk : Desk) : SlotName → Slot
| .connect => desk.session.connect
| .check => desk.session.check

/- Cancel what a slot holds, and give it something else. -/
def refill
    (desk : Desk)
    (name : SlotName)
    (value : Slot) :
    Desk :=
  { desk with
    tasks := (desk.slot name).release desk.tasks
    session :=
      match name with
      | .connect => { desk.session with connect := value }
      | .check => { desk.session with check := value } }

/- Schedule a task into a slot. -/
def install
    (desk : Desk)
    (name : SlotName)
    (repetition : Repetition)
    (period : Millis) :
    Desk :=
  let id := desk.tasks.nextId
  refill
    { desk with tasks := desk.tasks.add repetition period () }
    name (some id)

/- Whether the task in a slot is active. -/
def isActive (desk : Desk) (name : SlotName) : Bool :=
  (desk.slot name).isActive desk.tasks

------------------------------------------------------------
-- Requests
------------------------------------------------------------

/- Send a request; any answer but success is an error. -/
def post (desk : Desk) (sending : Sending) : Desk × Outcome Unit :=
  let (recorder, answer) := desk.recorder.ask sending.2
  ( { desk with recorder := recorder },
    (Http.accept answer).map fun _ => () )

/-
  Take back a URL, if there is one. The health check ends in
  any case.
-/
def deregisterUrl
    (desk : Desk)
    (url : Option String) :
    Desk × Outcome Unit :=
  let (desk, result) : Desk × Outcome Unit :=
    match desk.registrar.unregister desk.session url with
    | .error cause => (desk, .error cause)
    | .ok none => (desk, .ok ())
    | .ok (some sending) => desk.post sending
  (desk.refill .check none, result)

/- Take back the URL of the session. -/
def deregister (desk : Desk) : Desk × Outcome Unit :=
  desk.deregisterUrl desk.session.callbackUrl

/-
  Register the URL of the session, once what may be
  registered still was taken back.
-/
def register (desk : Desk) : Desk × Outcome Unit :=
  match desk.deregister with
  | (desk, .error cause) => (desk, .error cause)
  | (desk, .ok _) =>
      match desk.registrar.register desk.session with
      | .error cause => (desk, .error cause)
      | .ok sending => desk.post sending

------------------------------------------------------------
-- Tasks
------------------------------------------------------------

/- Run the oldest live task that runs once, if there is one. -/
def runNextOnce (desk : Desk) : Desk × Bool :=
  match desk.tasks.takeOldest with
  | (tasks, none) => ({ desk with tasks := tasks }, false)
  | (tasks, some id) =>
      ({ desk with tasks := tasks.endRun id }, true)

/- Run every live recurring task; tells how many ran. -/
def tickRecurring (desk : Desk) : Desk × Nat :=
  ( { desk with tasks := desk.tasks.sweep },
    (desk.tasks.live .recurring).length )

end Desk

end BrainLink
