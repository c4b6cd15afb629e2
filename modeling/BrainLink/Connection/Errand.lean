import BrainLink.Connection.Events
import BrainLink.Recipe
import BrainLink.SystemInfo

/-
  Errands: what waits for an answer of the brain, and how far
  it has come.

  Key definitions include:
    * `Errand`
    * `Product`
    * `Progress`
    * `Connection.ask`
    * `Connection.createTransport`

  Whatever a connection does runs until it needs an answer.
  What is left to do is then an errand, and the connection is
  free for other things until the answer comes.
-/

namespace BrainLink

/- What is left to do once an answer comes. -/
inductive Errand where
| unregistering (task : TaskId) (transport : TransportId)
| registering (task : TaskId) (transport : TransportId)
| fetchingKeys (task : TaskId) (transport : TransportId)
| closing
| notifying
| listingRecipes
    (transport : TransportId)
    (key : String)
    (on : Bool)
| runningRecipe
| readingInfo
| blinking
| readingLog
deriving DecidableEq, Repr

/- No job and no command asks more than three questions. -/
def mostQuestions : Nat :=
  3

/- What comes out of a command. -/
inductive Product where
| nothing
| systemInfo (info : SystemInfo)
| html (text : String)
deriving DecidableEq, Repr

/- How far something has come. -/
inductive Progress where
| asks (request : Http.Request) (errand : Errand)
| probes (task : TaskId)
| done (result : Outcome Product)
deriving Repr

/- A job has come to its end. -/
def Progress.over : Progress :=
  .done (.ok .nothing)

namespace Connection

/- Send a request, and leave an errand. -/
def ask
    (connection : Connection)
    (sending : Sending)
    (errand : Errand) :
    Connection × Progress :=
  (connection.record (.asked sending.1 sending.2),
    .asks sending.2 errand)

/- Make a new transport; transports count from one. -/
def createTransport
    (world : World)
    (connection : Connection) :
    Outcome (Connection × TransportId) :=
  if world.creates then
    let transport := connection.transports + 1
    .ok ({ connection with transports := transport }, transport)
  else
    .error (Cause.ofFailure creationDisabled)

end Connection

end BrainLink
