import BrainLink.Endpoint
import BrainLink.Http.Response
import BrainLink.Url.Parser

/-
  A brain that answers from a playbook: a table of answers,
  looked up by method and path.

  Key definitions include:
    * `Http.Play`
    * `Http.Playbook`
    * `Http.Playbook.answer`
    * `Http.pathOf`
    * `Http.Playbook.healthy`
    * `Http.Recorder`
-/

namespace BrainLink.Http

------------------------------------------------------------
-- Answers
------------------------------------------------------------

/-
  The path of a URL. A text that is no URL is its own path.
-/
def pathOf (url : String) : String :=
  match Url.parse url.toList with
  | .ok url => String.ofList url.path
  | .error _ => url

/- What a playbook has for a request. -/
inductive Play where
| respond (response : Response)
| fail
deriving DecidableEq, Repr

/- A method and a path. -/
structure Target where
  method : String
  path : String
deriving DecidableEq, Repr

/- What a request aims at. -/
def Request.target (request : Request) : Target :=
  ⟨request.method.name, pathOf request.url⟩

/- An answer for each target; an earlier entry counts. -/
abbrev Playbook :=
  List (Target × Play)

namespace Playbook

/- Give a target an answer in place of the one it had. -/
def set
    (book : Playbook)
    (target : Target)
    (play : Play) :
    Playbook :=
  (target, play) :: book.filter fun entry => entry.1 != target

/- Nothing is found where the playbook has no entry. -/
def notFound : Response :=
  ⟨404, "not found"⟩

/- The failure of a request that is meant to fail. -/
def refused (target : Target) : Failure :=
  .network
    ("connection refused: " ++ target.method ++ " "
      ++ target.path)

/- The answer to a request. -/
def answer (book : Playbook) (request : Request) : Answer :=
  match book.lookup request.target with
  | none => .ok notFound
  | some (.respond response) => .ok response
  | some .fail => .error (refused request.target)

------------------------------------------------------------
-- A brain in good health
------------------------------------------------------------

/- A home project with one room and one device in it. -/
def sampleProject : String :=
  String.intercalate "\n"
    [ "\x7b",
      "    \"name\": \"home\",",
      "    \"rooms\": \x7b",
      "        \"6241\": \x7b",
      "            \"name\": \"Living Room\",",
      "            \"devices\": \x7b",
      "                \"6242\": \x7b \"key\": \"6242\", "
        ++ "\"name\": \"TV\", \"details\": "
        ++ "\x7b \"adapterName\": \"neeo-rs\" \x7d \x7d",
      "            \x7d",
      "        \x7d",
      "    \x7d",
      "\x7d" ]

/-
  Registrations and notifications are accepted, the project
  is the sample, and there are no recipes.
-/
def healthy : Playbook :=
  let accepted := Play.respond ⟨200, "\x7b\x7d"⟩
  [ (⟨"POST", Endpoint.register.path⟩, accepted),
    (⟨"POST", Endpoint.unregister.path⟩, accepted),
    (⟨"POST", Endpoint.notifications.path⟩, accepted),
    (⟨"GET", Endpoint.home.path⟩, .respond ⟨200, sampleProject⟩),
    (⟨"GET", Endpoint.recipes.path⟩, .respond ⟨200, "[]"⟩) ]

end Playbook

------------------------------------------------------------
-- Recorder
------------------------------------------------------------

/- A playbook with the requests made so far. -/
structure Recorder where
  book : Playbook
  calls : List Request
deriving DecidableEq, Repr

namespace Recorder

/- Make a request. -/
def ask
    (recorder : Recorder)
    (request : Request) :
    Recorder × Answer :=
  ({ recorder with calls := recorder.calls ++ [request] },
    recorder.book.answer request)

/- What each request aimed at. -/
def targets (recorder : Recorder) : List Target :=
  recorder.calls.map Request.target

/- How many requests aimed at a target. -/
def count (recorder : Recorder) (target : Target) : Nat :=
  recorder.targets.count target

/- The latest body that was sent. -/
def lastBody? (recorder : Recorder) : Option String :=
  (recorder.calls.filterMap Request.body).getLast?

end Recorder

end BrainLink.Http
