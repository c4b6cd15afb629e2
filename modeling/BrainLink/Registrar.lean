import BrainLink.Endpoint
import BrainLink.Registration
import BrainLink.Session

/-
  Registration of an adapter with a brain. A registration
  that may still be there is taken back first.

  Key definitions include:
    * `Registrar`
    * `Registrar.unregister`
    * `Registrar.register`
-/

namespace BrainLink

/- Who registers, and with which brain. -/
structure Registrar where
  name : String
  brainUrl : String
deriving DecidableEq, Repr

/- A request that is to be sent, with its transport. -/
abbrev Sending :=
  TransportId × Http.Request

namespace Registrar

/- The registrar of a configuration. -/
def ofConfig (config : Config) : Registrar :=
  ⟨config.registrationName, config.brainUrl⟩

/- A request about the registration of a URL. -/
def request
    (registrar : Registrar)
    (endpoint : Endpoint)
    (url : String) :
    Http.Request :=
  .post
    (endpoint.url registrar.brainUrl)
    (Registration.toText ⟨registrar.name, url⟩)

/- What is sent to take back a URL; nothing if there is none. -/
def unregister
    (registrar : Registrar)
    (session : Session)
    (url : Option String) :
    Outcome (Option Sending) :=
  match url with
  | none => .ok none
  | some url =>
      (session.send? (registrar.request .unregister url)).map some

/- What is sent to register the URL of the session. -/
def register
    (registrar : Registrar)
    (session : Session) :
    Outcome Sending :=
  match session.callbackUrl with
  | none => .error .noCallbackUrl
  | some url =>
      session.send? (registrar.request .register url)

end Registrar

end BrainLink
