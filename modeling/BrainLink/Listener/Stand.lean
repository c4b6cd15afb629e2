import BrainLink.Listener.Registry

/-
  A stand of listeners that change their own registry while
  they are being told of an event.

  Key definitions include:
    * `Deed`
    * `Callback`
    * `Moment`
    * `Conduct`
    * `Stand`
    * `Stand.act`
    * `Stand.fireWithin`
    * `Stand.fire`

  What a callback does is a list of deeds, chosen by the new
  value of the event; a conduct may choose it by all that has
  happened so far. A deed may fire again; that event is
  delivered to its end before the next deed.
  `Stand.fireWithin` bounds how deep events are nested, and
  `Stand.fire` looks for a bound that is large enough.
-/

namespace BrainLink

/-
  What a callback can do. A callback that it adds may react
  to events in turn, each reaction to one new value.
-/
inductive Deed where
| add (name : String) (reactions : List (Bool × Deed))
| subscribe (name : String)
| remove (name : String)
| closeReceiver (name : String)
| fire (event : Event)

/- A callback: a name and its reactions. -/
structure Callback where
  name : String
  reactions : List (Bool × Deed)

/- The deeds of a callback that is told of an event. -/
def Callback.deeds (callback : Callback) (event : Event) :
    List Deed :=
  (callback.reactions.filter fun reaction =>
      reaction.1 == event.new).map
    Prod.snd

------------------------------------------------------------
-- Journals
------------------------------------------------------------

/-
  What happens to those who listen, in order. The telling of
  an event is a round, whose number is how much had happened
  when it began.
-/
inductive Moment where
| added (id : ListenerId) (callback : Callback)
| subscribed (id : ListenerId)
| removed (id : ListenerId) (found : Bool)
| dropped (id : ListenerId)
| closed (id : ListenerId)
| received (id : ListenerId) (events : List Event)
| began (round : Nat) (event : Event)
| called (id : ListenerId) (name : String) (event : Event)
| queued (id : ListenerId) (event : Event)
| ended (round : Nat)
| reported (name : String) (found : Bool)

/- What is seen of it. -/
inductive Happening where
| called (id : ListenerId) (name : String) (event : Event)
| queued (id : ListenerId) (event : Event)
| removed (name : String) (found : Bool)
deriving DecidableEq, Repr

/- What is seen of a moment. -/
def Moment.seen? : Moment → Option Happening
| .called id name event => some (.called id name event)
| .queued id event => some (.queued id event)
| .reported name found => some (.removed name found)
| _ => none

/-
  How callbacks behave: what one does that has just been
  called, which may depend on all that has happened so far.
-/
abbrev Conduct :=
  Callback → Event → List Moment → List Deed

/- A callback behaves as its reactions say. -/
def Callback.react : Conduct :=
  fun callback event _ => callback.deeds event

/-
  A registry, the latest listener and the receiver under each
  name, and what has happened. `isCut` tells whether an event
  was left out because events were nested too deep.
-/
structure Stand where
  registry : Registry Callback
  listeners : List (String × ListenerId)
  receivers : List (String × ListenerId)
  journal : List Moment
  isCut : Bool

namespace Stand

/- A stand without listeners. -/
def empty : Stand :=
  ⟨.empty, [], [], [], false⟩

/- What is seen of all that has happened. -/
def history (stand : Stand) : List Happening :=
  stand.journal.filterMap Moment.seen?

/- Add to the journal. -/
def note (stand : Stand) (moment : Moment) : Stand :=
  { stand with journal := stand.journal ++ [moment] }

/- Add all closed listeners to the journal, as dropped. -/
def noteDropped (stand : Stand) : Stand :=
  { stand with
    journal :=
      stand.journal ++
        (stand.registry.entries.filter
            stand.registry.isClosed).map
          fun entry => .dropped entry.1 }

------------------------------------------------------------
-- Deeds
------------------------------------------------------------

/- Register a callback. -/
def add (stand : Stand) (callback : Callback) : Stand :=
  let id := stand.registry.nextId
  { stand with
    registry := stand.registry.add callback
    listeners := (callback.name, id) :: stand.listeners }.note
    (.added id callback)

/- Close the receiver of a name; what waits in it stays. -/
def closeReceiver (stand : Stand) (name : String) : Stand :=
  match stand.receivers.lookup name with
  | none => stand
  | some id =>
      let closed :=
        { stand with registry := stand.registry.closeChannel id }
      if (stand.registry.channel? id).any Channel.isOpen then
        closed.note (.closed id)
      else
        closed

/-
  Drop the receiver of a name with all that waits in it.
  Tells whether there was one.
-/
def dropReceiver (stand : Stand) (name : String) : Stand × Bool :=
  let found := (stand.receivers.lookup name).isSome
  let stand := stand.closeReceiver name
  ({ stand with
      receivers :=
        stand.receivers.filter fun entry => entry.1 != name },
    found)

/-
  Register a channel with a receiver under a name. The one
  that had the name before is dropped.
-/
def subscribe (stand : Stand) (name : String) : Stand :=
  let id := stand.registry.nextId
  let stand :=
    { stand.noteDropped with
      registry := stand.registry.subscribe }.note
      (.subscribed id)
  let (stand, _) := stand.dropReceiver name
  { stand with
    listeners := (name, id) :: stand.listeners
    receivers := (name, id) :: stand.receivers }

/-
  Drop the latest listener of a name. Tells whether it was
  registered.
-/
def remove (stand : Stand) (name : String) : Stand × Bool :=
  match stand.listeners.lookup name with
  | none => (stand, false)
  | some id =>
      let found := stand.registry.has id
      ({ stand with registry := stand.registry.remove id }.note
          (.removed id found),
        found)

/- Take what waits for the receiver of a name. -/
def receive
    (stand : Stand)
    (name : String) :
    Stand × Option (List Event) :=
  match stand.receivers.lookup name with
  | none => (stand, none)
  | some id =>
      let (registry, events) := stand.registry.drain id
      ({ stand with registry := registry }.note
          (.received id events),
        some events)

/- Do a deed, given how to fire an event. -/
def act
    (fire : Event → Stand → Stand)
    (deed : Deed)
    (stand : Stand) :
    Stand :=
  match deed with
  | .add name reactions => stand.add ⟨name, reactions⟩
  | .subscribe name => stand.subscribe name
  | .remove name =>
      let (stand, found) := stand.remove name
      stand.note (.reported name found)
  | .closeReceiver name => stand.closeReceiver name
  | .fire event => fire event stand

------------------------------------------------------------
-- Events
------------------------------------------------------------

/- Tell a listener of an event. -/
def deliver
    (conduct : Conduct)
    (fire : Event → Stand → Stand)
    (event : Event)
    (entry : Entry Callback)
    (stand : Stand) :
    Stand :=
  match entry.2 with
  | .channel =>
      { stand with
        registry := stand.registry.push entry.1 event }.note
        (.queued entry.1 event)
  | .callback callback =>
      let stand :=
        stand.note (.called entry.1 callback.name event)
      (conduct callback event stand.journal).foldl
        (fun stand deed => act fire deed stand)
        stand

/- Drop every listener whose channel is closed. -/
def prune (stand : Stand) : Stand :=
  { stand.noteDropped with registry := stand.registry.prune }

/-
  Tell every listener registered now of an event. Closed ones
  are dropped afterwards if any was met.
-/
def fireWithin
    (conduct : Conduct) :
    Nat → Event → Stand → Stand
| 0, _, stand => { stand with isCut := true }
| depth + 1, event, stand =>
    let round := stand.journal.length
    let (told, anyClosed) :=
      visitEach
        (fun entry stand => stand.registry.isClosed entry)
        (deliver conduct (fireWithin conduct depth) event)
        stand.registry.entries
        (stand.note (.began round event))
    let told := if anyClosed then told.prune else told
    told.note (.ended round)

/- Fire an event within larger and larger bounds. -/
def fireFrom?
    (conduct : Conduct)
    (event : Event)
    (stand : Stand)
    (depth : Nat) :
    Option Stand :=
  let later := fireWithin conduct depth event stand
  if later.isCut then
    stand |>.fireFrom? conduct event (2 * depth + 1)
  else
    some later
partial_fixpoint

/-
  Tell every listener registered now of an event. This comes
  to an end if events are not nested without end.
-/
def fire
    (event : Event)
    (stand : Stand)
    (conduct : Conduct := Callback.react) :
    Stand :=
  (fireFrom? conduct event stand 1).getD
    { stand with isCut := true }

end Stand

end BrainLink
