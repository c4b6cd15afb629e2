/-
  The requests that brains send back, and the router that
  accepts them.

  Key definitions include:
    * `Callback.Call`
    * `Callback.Router`
    * `Callback.Router.route`
-/

namespace BrainLink.Callback

/-
  A request of a brain: which brain, how, the path behind the
  name of the brain, and the body as text.
-/
structure Call where
  brainId : String
  method : String
  path : String
  body : String
deriving DecidableEq, Repr

/-
  The brains whose calls are accepted, the accepted calls
  that wait for the receiver, and whether there is one.
-/
structure Router where
  brains : List String
  queue : List Call
  isOpen : Bool
deriving DecidableEq, Repr

namespace Router

/- A router that accepts no brain yet. -/
def empty : Router :=
  ⟨[], [], true⟩

/- Whether the calls of a brain are accepted. -/
def isRegistered (router : Router) (brainId : String) : Bool :=
  router.brains.contains brainId

/- Accept the calls of a brain. -/
def register (router : Router) (brainId : String) : Router :=
  if router.isRegistered brainId then
    router
  else
    { router with brains := brainId :: router.brains }

/- Accept the calls of a brain no longer. -/
def unregister (router : Router) (brainId : String) : Router :=
  { router with brains := router.brains.filter (· != brainId) }

/-
  Pass on a call if its brain is registered. Tells whether it
  is; a receiver that is gone makes no difference to that.
-/
def route (router : Router) (call : Call) : Router × Bool :=
  if router.isRegistered call.brainId then
    if router.isOpen then
      ({ router with queue := router.queue ++ [call] }, true)
    else
      (router, true)
  else
    (router, false)

/- Take all calls that wait. -/
def receive (router : Router) : Router × List Call :=
  ({ router with queue := [] }, router.queue)

/- The receiver goes away, with all that waits for it. -/
def dropReceiver (router : Router) : Router :=
  { router with queue := [], isOpen := false }

end Router

end BrainLink.Callback
