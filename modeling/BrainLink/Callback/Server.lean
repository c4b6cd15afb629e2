import BrainLink.Callback.Router
import BrainLink.Config
import BrainLink.Http.Response
import BrainLink.Text.Utf8

/-
  The server that brains call back: how a request finds its
  way to the router, and what it is answered.

  Key definitions include:
    * `Callback.root`
    * `Callback.Target`
    * `Callback.Target.ofPath?`
    * `Callback.respond`
    * `Callback.Visit`
    * `Callback.serve`
    * `Callback.urlPath`
-/

namespace BrainLink.Callback

------------------------------------------------------------
-- Paths
------------------------------------------------------------

/- The first segment of every path that is served. -/
def root : String :=
  "neeo"

/- The path of a request, without a query. -/
def pathOf (target : List Char) : List Char :=
  target.takeWhile (· != '?')

/- A brain, and the path behind its name. -/
structure Target where
  brainId : String
  path : String
deriving DecidableEq, Repr

/-
  The first segment of a path, and what follows its slash.
-/
def segment (path : List Char) : List Char × List Char :=
  ( path.takeWhile (· != '/'),
    (path.dropWhile (· != '/')).drop 1 )

/-
  The brain that a path names, if it is served. Segments are
  taken as they are written.
-/
def Target.ofPath? : List Char → Option Target
| '/' :: path =>
    let (first, path) := segment path
    let (brainId, rest) := segment path
    if first = root.toList ∧ brainId ≠ [] then
      some ⟨String.ofList brainId, String.ofList ('/' :: rest)⟩
    else
      none
| _ => none

------------------------------------------------------------
-- Answers
------------------------------------------------------------

/- The answer to a call that was passed on. -/
def accepted : Http.Response :=
  ⟨200, ""⟩

/- The answer to a call of a brain that is not registered. -/
def notRegistered : Http.Response :=
  ⟨404, "Brain not registered"⟩

/- The answer to a request for a path that is not served. -/
def notFound : Http.Response :=
  ⟨404, "Not found"⟩

/- A request is passed on or refused. -/
def respond
    (router : Router)
    (method : String)
    (target : String)
    (body : String) :
    Router × Http.Response :=
  match Target.ofPath? (pathOf target.toList) with
  | none => (router, notFound)
  | some found =>
      match router.route
          ⟨found.brainId, method, found.path, body⟩ with
      | (router, true) => (router, accepted)
      | (router, false) => (router, notRegistered)

/- A request as it comes, with its body in octets. -/
structure Visit where
  method : String
  target : String
  body : List UInt8
deriving DecidableEq, Repr

/- A request is served with its body read as a text. -/
def serve
    (router : Router)
    (visit : Visit) :
    Router × Http.Response :=
  respond router visit.method visit.target
    (Text.ofOctets visit.body)

/- What a client sees of an answer; some methods get no body. -/
def visible
    (method : String)
    (response : Http.Response) :
    Http.Response :=
  if method = "HEAD" then
    { response with body := "" }
  else
    response

/- Why a server cannot be started: no port is free. -/
def noPort (first last : UInt16) : String :=
  "No available port found in range " ++ toString first.toNat
    ++ "-" ++ toString last.toNat

/- The path of the URL that a brain is registered with. -/
def urlPath (brainId : String) : String :=
  "/" ++ root ++ "/" ++ brainId

end BrainLink.Callback
