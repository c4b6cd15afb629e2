import BrainLink.Callback.Server
import BrainLink.Connection.Resume

/-
  Rehearsals on the machine itself, and what comes of them
  where its own ports cannot be reached.

  Key definitions include:
    * `Loopback`
    * `CallbackDesk`
    * `CallbackDesk.request`
    * `Cutoff`
    * `Cutoff.connect`
    * `Cutoff.order`

  Where the loopback interface is down, a server can be
  started but not called, a probe finds nothing, and every
  request over the network fails.
-/

namespace BrainLink

/- Whether the machine can reach its own ports. -/
inductive Loopback where
| up
| down
deriving DecidableEq, Repr

------------------------------------------------------------
-- Callback server
------------------------------------------------------------

/- A callback server, and how it can be reached. -/
structure CallbackDesk where
  loopback : Loopback
  router : Callback.Router

namespace CallbackDesk

/- A new server. -/
def new (loopback : Loopback) : CallbackDesk :=
  ⟨loopback, .empty⟩

/- The same server with another router. -/
def withRouter
    (desk : CallbackDesk)
    (router : Callback.Router) :
    CallbackDesk :=
  { desk with router := router }

/- Send a request to the server, if it can be reached. -/
def request
    (desk : CallbackDesk)
    (method : String)
    (target : String)
    (body : String) :
    Option (CallbackDesk × Http.Response) :=
  match desk.loopback with
  | .down => none
  | .up =>
      let (router, response) :=
        Callback.serve desk.router
          ⟨method, target, Text.octetsOf body⟩
      some
        (desk.withRouter router, Callback.visible method response)

end CallbackDesk

------------------------------------------------------------
-- A connection that reaches nothing
------------------------------------------------------------

/- No connection can be made to the host of a URL. -/
def unreachable : Http.Failure :=
  .network "error sending request"

/- A text that is no URL for a request over the network. -/
def notRequestable : Http.Failure :=
  .client "builder error"

/- Characters that a URL may hold in a host but no request. -/
def isUnsendable (c : Char) : Bool :=
  ['"', '`', '\x7b', '\x7d'].contains c

/- How long the URL of a request can be. -/
def mostUrlLength : Nat := 65534

/-
  Whether a request can be made to a URL. The user it names
  goes into a header.
-/
def isRequestable (url : Url) : Bool :=
  (url.scheme == "http".toList || url.scheme == "https".toList)
    && !url.writeAuthority.any isUnsendable
    && { url with user := [], password := [] }.toChars.length
        ≤ mostUrlLength

/- What comes of a request where nothing can be reached. -/
def failureOf (url : String) : Http.Failure :=
  match Url.parse url.toList with
  | .error _ => notRequestable
  | .ok parsed =>
      if isRequestable parsed then unreachable
      else notRequestable

/- The local address that connections are given here. -/
def rehearsalAddress : Option Address :=
  Address.ofText? "10.0.0.5"

/- A connection whose requests and probes all fail. -/
structure Cutoff where
  connection : Connection

namespace Cutoff

/- What such a connection finds in the world. -/
def world : World where
  address := rehearsalAddress
  creates := true
  immediate request := some (.error (failureOf request.url))

/- A new connection, without health checks. -/
def new (config : Config) : Outcome Cutoff :=
  (Connection.new { config with checkInterval := 0 } .hand).map
    Cutoff.mk

/- Go on until the end; every answer is a failure. -/
def follow :
    Nat → Connection × Progress → Connection × Outcome Product
| _, (connection, .done result) => (connection, result)
| 0, (connection, _) => (connection, .ok .nothing)
| count + 1, (connection, .asks request errand) =>
    follow count
      (connection.resume world errand
        (.error (failureOf request.url)))
| count + 1, (connection, .probes task) =>
    follow count (connection.afterProbe world task false)

/- Start, and let one attempt run, which fails. -/
def connect (cutoff : Cutoff) : Cutoff :=
  let connection := cutoff.connection.start
  let (tasks, found) := connection.tasks.takeOldest
  let connection := { connection with tasks := tasks }
  match found with
  | none => ⟨connection⟩
  | some task =>
      let (connection, _) :=
        follow mostQuestions (connection.runJob world task)
      ⟨{ connection with tasks := connection.tasks.endRun task }⟩

/- Give a command. -/
def order
    (cutoff : Cutoff)
    (command : Command) :
    Cutoff × Outcome Product :=
  let (connection, result) :=
    follow mostQuestions (cutoff.connection.obey world command)
  (⟨connection⟩, result)

end Cutoff

end BrainLink
