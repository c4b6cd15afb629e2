import BrainLink.Error
import BrainLink.Json.Decode

/-
  The keys of the devices that a brain knows, as listed in
  its home project.

  Key definitions include:
    * `insertText`
    * `DeviceKeys`
    * `DeviceKeys.ofProject`
    * `DeviceKeys.forAdapter`
-/

namespace BrainLink

------------------------------------------------------------
-- Rising lists of texts
------------------------------------------------------------

/- Put a text into a rising list, once. -/
def insertText (text : String) : List String → List String
| [] => [text]
| first :: rest =>
    if text < first then
      text :: first :: rest
    else if text = first then
      first :: rest
    else
      first :: insertText text rest

/- Texts in rising order, each once. -/
def risingTexts (texts : List String) : List String :=
  texts.foldr insertText []

------------------------------------------------------------
-- Device keys
------------------------------------------------------------

/-
  The keys of all devices, and those of the devices that each
  adapter drives. All lists are rising.
-/
structure DeviceKeys where
  keys : List String
  adapters : List (String × List String)
deriving DecidableEq, Repr

/- A device of a project: its key and its adapter, if any. -/
structure Device where
  key : String
  adapter : Option String
deriving DecidableEq, Repr

namespace DeviceKeys

/- No keys at all. -/
def empty : DeviceKeys :=
  ⟨[], []⟩

/- The keys of the devices of one adapter. -/
def adapterKeys
    (devices : List Device)
    (adapter : String) :
    List String :=
  risingTexts
    ((devices.filter fun d => d.adapter == some adapter).map
      Device.key)

/- The keys of a list of devices. -/
def ofDevices (devices : List Device) : DeviceKeys where
  keys := risingTexts (devices.map Device.key)
  adapters :=
    (risingTexts (devices.filterMap Device.adapter)).map
      fun adapter => (adapter, adapterKeys devices adapter)

/- Whether a device with this key is known. -/
def contains (known : DeviceKeys) (key : String) : Bool :=
  known.keys.contains key

/- How many keys are known. -/
def size (known : DeviceKeys) : Nat :=
  known.keys.length

/- The keys of the devices that an adapter drives. -/
def forAdapter
    (known : DeviceKeys)
    (adapter : String) :
    List String :=
  ((known.adapters.find? (fun a => a.1 == adapter)).map
    Prod.snd).getD []

------------------------------------------------------------
-- Projects
------------------------------------------------------------

/- The members that count of a member that is an object. -/
def objectAt
    (name : String)
    (value : Json.Value) :
    Option (List (String × Json.Value)) :=
  ((value.member? name).bind Json.Value.members?).map
    Json.lastMembers

/- The text of a member that is a text. -/
def textAt
    (name : String)
    (value : Json.Value) :
    Option String :=
  (value.member? name).bind Json.Value.text?

/-
  The device of a member of a device listing. Its key is the
  name of the member unless it holds a key of its own.
-/
def device (member : String × Json.Value) : Device where
  key := (textAt "key" member.2).getD member.1
  adapter :=
    (member.2.member? "details").bind (textAt "adapterName")

/- The devices of a room; a room may have no listing. -/
def roomDevices
    (room : String × Json.Value) : List Device :=
  ((objectAt "devices" room.2).getD []).map device

/- The device keys of the body of a home project. -/
def ofProject (body : String) : Outcome DeviceKeys :=
  match Json.parse? body with
  | none => .error .badJson
  | some project =>
      match objectAt "rooms" project with
      | none => .error .noRooms
      | some rooms => .ok (ofDevices (rooms.flatMap roomDevices))

/- The device keys of the answer to the project request. -/
def ofAnswer (answer : Http.Answer) : Outcome DeviceKeys :=
  match Http.accept answer with
  | .error cause => .error cause
  | .ok body => ofProject body

/- They are read from a project that came with status 200. -/
theorem ofAnswer_eq_ok_iff
    {answer : Http.Answer}
    {keys : DeviceKeys} :
    ofAnswer answer = .ok keys ↔
      ∃ body,
        answer = .ok ⟨200, body⟩ ∧ ofProject body = .ok keys := by
  unfold ofAnswer
  constructor
  · intro hKeys
    split at hKeys
    · cases hKeys
    · rename_i body hBody
      exact ⟨body, Http.accept_eq_ok_iff.mp hBody, hKeys⟩
  · rintro ⟨body, rfl, hKeys⟩
    exact hKeys

end DeviceKeys

end BrainLink
