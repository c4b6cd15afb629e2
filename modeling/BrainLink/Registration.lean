import BrainLink.Config
import BrainLink.Json.Decode
import BrainLink.Json.Writer
import BrainLink.Url.Parser

/-
  The registration of an adapter with a brain: the payload of
  the two registration requests, and the URL it names.

  Key definitions include:
    * `Registration`
    * `Registration.toText`
    * `Registration.ofText?`
    * `callbackUrl`
-/

namespace BrainLink

------------------------------------------------------------
-- Payload
------------------------------------------------------------

/- An adapter name and the URL the brain is to call. -/
structure Registration where
  name : String
  baseUrl : String
deriving DecidableEq, Repr

namespace Registration

/- The payload as a JSON value. -/
def toValue (registration : Registration) : Json.Value :=
  .object
    [ ("name", .string registration.name),
      ("baseUrl", .string registration.baseUrl) ]

/- The payload as JSON text. -/
def toText (registration : Registration) : String :=
  registration.toValue.toText

/- The registration that a JSON text holds. -/
def ofText? (text : String) : Option Registration :=
  match Json.readRecord? ["name", "baseUrl"] text with
  | some [name, baseUrl] =>
      match Json.requiredText? name,
          Json.requiredText? baseUrl with
      | some name, some baseUrl => some ⟨name, baseUrl⟩
      | _, _ => none
  | _ => none

end Registration

------------------------------------------------------------
-- Callback URL
------------------------------------------------------------

/- The callback URL before it is brought to normal form. -/
def rawCallbackUrl
    (address : Address)
    (port : UInt16)
    (path : String) :
    List Char :=
  "http://".toList ++ address.withPort port ++ path.toList

/- The URL under which a brain can call an address back. -/
def callbackUrl
    (address : Address)
    (port : UInt16)
    (path : String) :
    Outcome String :=
  let raw := rawCallbackUrl address port path
  match Url.parse raw with
  | .ok url => .ok url.toText
  | .error fault =>
      .error
        (.configuration
          ("Invalid callback URL " ++ String.ofList raw
            ++ ": " ++ fault.message))

/- The callback URL of a configuration and a local address. -/
def Config.callbackUrl
    (config : Config)
    (address : Address) :
    Outcome String :=
  BrainLink.callbackUrl address config.callbackPort
    config.callbackPath

end BrainLink
