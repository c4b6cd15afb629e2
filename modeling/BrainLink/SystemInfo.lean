import BrainLink.Error
import BrainLink.Json.Decode

/-
  What a brain tells about itself.

  Key definitions include:
    * `SystemInfo`
    * `SystemInfo.ofText?`
    * `SystemInfo.ofAnswer`
-/

namespace BrainLink

/- Names and versions of a brain, as far as it tells them. -/
structure SystemInfo where
  hostname : Option String
  label : Option String
  version : Option String
  firmwareVersion : Option String
  user : Option String
deriving DecidableEq, Repr

namespace SystemInfo

/- The fields in their order. -/
def fieldNames : List String :=
  ["hostname", "label", "version", "firmwareVersion", "user"]

/- The information that a JSON text holds. -/
def ofText? (text : String) : Option SystemInfo :=
  match (Json.readRecord? fieldNames text).bind
      (Json.allFields? Json.optionalText?) with
  | some [hostname, label, version, firmwareVersion, user] =>
      some ⟨hostname, label, version, firmwareVersion, user⟩
  | _ => none

/- The information of the answer to the request for it. -/
def ofAnswer (answer : Http.Answer) : Outcome SystemInfo :=
  match Http.accept answer with
  | .error cause => .error cause
  | .ok body =>
      match ofText? body with
      | none => .error .badJson
      | some info => .ok info

end SystemInfo

end BrainLink
