/-
  Listeners for changes of connectivity, and the registry
  that holds them.

  Key definitions include:
    * `Event`
    * `Listener`
    * `Channel`
    * `Registry`
    * `Registry.add`
    * `Registry.subscribe`
    * `Registry.remove`
    * `Registry.prune`
    * `visitEach`

  A listener is a callback or a channel, whose events wait in
  a queue for a receiver. Both get their names from one
  count, so a name is never used twice.
-/

namespace BrainLink

------------------------------------------------------------
-- Events and listeners
------------------------------------------------------------

/- A change of connectivity. -/
structure Event where
  old : Bool
  new : Bool
deriving DecidableEq, Repr

/- The event that undoes a change to a value. -/
def Event.back (new : Bool) : Event :=
  ⟨new, !new⟩

/- The name of a listener. -/
abbrev ListenerId :=
  Nat

/- A callback of some kind, or a channel. -/
inductive Listener (κ : Type) where
| callback (label : κ)
| channel
deriving Repr

/-
  The events that wait for a receiver, and whether there is
  still a receiver to wait for more.
-/
structure Channel where
  queue : List Event
  isOpen : Bool
deriving DecidableEq, Repr

/- A registered listener with its name. -/
abbrev Entry (κ : Type) :=
  ListenerId × Listener κ

/-
  The registered listeners, in the order in which they came,
  and every channel there ever was.
-/
structure Registry (κ : Type) where
  nextId : ListenerId
  entries : List (Entry κ)
  channels : List (ListenerId × Channel)
deriving Repr

namespace Registry

variable {κ : Type}

/- A registry without listeners. -/
def empty : Registry κ :=
  ⟨0, [], []⟩

------------------------------------------------------------
-- Channels
------------------------------------------------------------

/- The channel of a name. -/
def channel? (registry : Registry κ) (id : ListenerId) :
    Option Channel :=
  registry.channels.lookup id

/- Change one channel. -/
def updateChannel
    (registry : Registry κ)
    (id : ListenerId)
    (change : Channel → Channel) :
    Registry κ :=
  { registry with
    channels :=
      registry.channels.map fun entry =>
        if entry.1 = id then
          (entry.1, change entry.2)
        else
          entry }

/- Put an event into a queue. -/
def push
    (registry : Registry κ)
    (id : ListenerId)
    (event : Event) :
    Registry κ :=
  registry.updateChannel id fun channel =>
    { channel with queue := channel.queue ++ [event] }

/- Close a channel; what waits in it stays. -/
def closeChannel
    (registry : Registry κ)
    (id : ListenerId) :
    Registry κ :=
  registry.updateChannel id fun channel =>
    { channel with isOpen := false }

/- Take all that waits in a channel. -/
def drain
    (registry : Registry κ)
    (id : ListenerId) :
    Registry κ × List Event :=
  (registry.updateChannel id fun channel =>
      { channel with queue := [] },
    ((registry.channel? id).map Channel.queue).getD [])

/- A channel without a receiver is closed. -/
def isClosed (registry : Registry κ) (entry : Entry κ) : Bool :=
  match entry.2 with
  | .callback _ => false
  | .channel =>
      match registry.channel? entry.1 with
      | none => true
      | some channel => !channel.isOpen

------------------------------------------------------------
-- Registration
------------------------------------------------------------

/- Register a callback, under the next name. -/
def add (registry : Registry κ) (label : κ) : Registry κ :=
  { registry with
    nextId := registry.nextId + 1
    entries :=
      registry.entries ++ [(registry.nextId, .callback label)] }

/- Drop every listener whose channel is closed. -/
def prune (registry : Registry κ) : Registry κ :=
  { registry with
    entries :=
      registry.entries.filter fun entry =>
        !registry.isClosed entry }

/- Register a new channel, after dropping closed ones. -/
def subscribe (registry : Registry κ) : Registry κ :=
  let registry := registry.prune
  { registry with
    nextId := registry.nextId + 1
    entries :=
      registry.entries ++ [(registry.nextId, .channel)]
    channels :=
      registry.channels ++ [(registry.nextId, ⟨[], true⟩)] }

/- Whether a listener of this name is registered. -/
def has (registry : Registry κ) (id : ListenerId) : Bool :=
  registry.entries.any fun entry => entry.1 == id

/- Drop the listener of a name. -/
def remove (registry : Registry κ) (id : ListenerId) : Registry κ :=
  { registry with
    entries := registry.entries.filter fun entry => entry.1 != id }

/- How many listeners are registered. -/
def size (registry : Registry κ) : Nat :=
  registry.entries.length

end Registry

------------------------------------------------------------
-- Visits
------------------------------------------------------------

/-
  Visit some listeners in turn, with a state that each visit
  may change. A listener that is closed when its turn comes
  is left out. Tells whether there was one.
-/
def visitEach
    {κ σ : Type}
    (isClosed : Entry κ → σ → Bool)
    (visit : Entry κ → σ → σ) :
    List (Entry κ) → σ → σ × Bool
| [], state => (state, false)
| entry :: rest, state =>
    if isClosed entry state then
      ((visitEach isClosed visit rest state).1, true)
    else
      visitEach isClosed visit rest (visit entry state)

end BrainLink
