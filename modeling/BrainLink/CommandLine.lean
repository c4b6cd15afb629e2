import BrainLink.Config
import BrainLink.PortRange

/-
  The command line: options and flags, what a list of
  arguments asks for, and the configuration it leads to.

  An option waits for its value until the next argument is
  seen, and is settled only when another one begins or the
  arguments end. Of two faults the one settled first counts,
  but an unknown argument counts before an unsettled option.

  Key definitions include:
    * `CommandLine`
    * `UsageError`
    * `CommandLine.parse`
    * `CommandLine.validate`
    * `CommandLine.config`
-/

namespace BrainLink

------------------------------------------------------------
-- Arguments
------------------------------------------------------------

/- What the arguments ask for. -/
structure CommandLine where
  brainId : String
  host : String
  brainPort : UInt16
  checkSeconds : Int
  callbackAddress : Option Address
  callbackPorts : PortRange
  systemInfo : Bool
deriving DecidableEq

/- Why a list of arguments is turned down. -/
inductive UsageError where
| missingOption
| missingValue
| badValue
| unknownArgument
| repeatedArgument
| unexpectedValue
| helpAsked
| versionAsked
deriving DecidableEq, Repr

/- The options that take a value. -/
inductive ValueOption where
| brainId
| host
| brainPort
| checkSeconds
| callbackAddress
| callbackPorts
deriving DecidableEq, Repr

/- What a long name stands for. -/
inductive LongName where
| option (name : ValueOption)
| systemInfo
| help
| version
deriving DecidableEq, Repr

/- The meaning of a name behind two dashes. -/
def longName? : String → Option LongName
| "brain-id" => some (.option .brainId)
| "host" => some (.option .host)
| "brain-port" => some (.option .brainPort)
| "check-status-interval" => some (.option .checkSeconds)
| "callback-address" => some (.option .callbackAddress)
| "callback-ports" => some (.option .callbackPorts)
| "system-info" => some .systemInfo
| "help" => some .help
| "version" => some .version
| _ => none

------------------------------------------------------------
-- Reading arguments
------------------------------------------------------------

namespace CommandLine

/- The values settled so far. -/
structure Settled where
  brainId : Option String
  host : Option String
  brainPort : Option UInt16
  checkSeconds : Option Int
  callbackAddress : Option Address
  callbackPorts : Option PortRange
  systemInfo : Bool

/- Nothing settled. -/
def Settled.none : Settled :=
  ⟨.none, .none, .none, .none, .none, .none, false⟩

/- An option not yet settled, with its value if it has one. -/
structure Unsettled where
  option : ValueOption
  value : Option String

/- A value given to a field that may be given only once. -/
def once
    {α : Type}
    (field : Option α)
    (value : Option α) :
    Except UsageError (Option α) :=
  match field, value with
  | some _, _ => .error .repeatedArgument
  | none, none => .error .badValue
  | none, some value => .ok (some value)

/- A port spelled as an integer. -/
def readPort? (text : String) : Option UInt16 :=
  match Text.readInt (Nat.pow 2 63 - 1) text.toList with
  | .error _ => none
  | .ok number =>
      if 0 ≤ number ∧ number ≤ 65535 then
        some (UInt16.ofNat number.toNat)
      else
        none

/- Settle an option with its value. -/
def Settled.put
    (settled : Settled)
    (option : ValueOption)
    (text : String) :
    Except UsageError Settled :=
  match option with
  | .brainId =>
      (once settled.brainId (some text)).map fun value =>
        { settled with brainId := value }
  | .host =>
      (once settled.host (some text)).map fun value =>
        { settled with host := value }
  | .brainPort =>
      (once settled.brainPort (readPort? text)).map fun value =>
        { settled with brainPort := value }
  | .checkSeconds =>
      (once settled.checkSeconds
        (Text.readInt (Nat.pow 2 63 - 1) text.toList).toOption).map
        fun value => { settled with checkSeconds := value }
  | .callbackAddress =>
      (once settled.callbackAddress
        (Address.ofText? text)).map
        fun value => { settled with callbackAddress := value }
  | .callbackPorts =>
      (once settled.callbackPorts
        (PortRange.parse text).toOption).map
        fun value => { settled with callbackPorts := value }

/- Settle what is unsettled; without a value it cannot be. -/
def settle
    (unsettled : Option Unsettled)
    (settled : Settled) :
    Except UsageError Settled :=
  match unsettled with
  | none => .ok settled
  | some ⟨_, none⟩ => .error .missingValue
  | some ⟨option, some text⟩ => settled.put option text

/- The three kinds of argument. -/
inductive Kind where
| long (name : String) (value : Option String)
| short (letter : Char)
| plain

/- The kind of an argument. A dash alone is a plain one. -/
def kind (argument : String) : Kind :=
  match argument.toList with
  | '-' :: '-' :: rest =>
      match Text.cutAt '=' rest with
      | none => .long (String.ofList rest) none
      | some (name, value) =>
          .long (String.ofList name) (some (String.ofList value))
  | '-' :: letter :: _ => .short letter
  | _ => .plain

/-
  Read the arguments from left to right. After two dashes
  alone every argument is a plain one, and no plain argument
  is known unless an option waits for a value.
-/
def read :
    List String → Option Unsettled → Settled →
      Except UsageError Settled
| [], unsettled, settled => settle unsettled settled
| argument :: rest, unsettled, settled =>
    if argument == "--" then
      match rest with
      | [] => settle unsettled settled
      | _ => .error .unknownArgument
    else
      match kind argument with
      | .long name value =>
          match longName? name, value with
          | none, _ => .error .unknownArgument
          | some (.option option), none =>
              match settle unsettled settled with
              | .error error => .error error
              | .ok settled =>
                  read rest (some ⟨option, none⟩) settled
          | some (.option option), some text =>
              match settle unsettled settled with
              | .error error => .error error
              | .ok settled =>
                  match settled.put option text with
                  | .error error => .error error
                  | .ok settled => read rest none settled
          | some _, some _ => .error .unexpectedValue
          | some .help, none =>
              match settle unsettled settled with
              | .error error => .error error
              | .ok _ => .error .helpAsked
          | some .version, none =>
              match settle unsettled settled with
              | .error error => .error error
              | .ok _ => .error .versionAsked
          | some .systemInfo, none =>
              match settle unsettled settled with
              | .error error => .error error
              | .ok settled =>
                  if settled.systemInfo then
                    .error .repeatedArgument
                  else
                    read rest none
                      { settled with systemInfo := true }
      | .short letter =>
          if letter == 'h' || letter == 'V' then
            match settle unsettled settled with
            | .error error => .error error
            | .ok _ =>
                if letter == 'h' then .error .helpAsked
                else .error .versionAsked
          else
            .error .unknownArgument
      | .plain =>
          match unsettled with
          | some ⟨option, none⟩ =>
              read rest (some ⟨option, some argument⟩) settled
          | _ => .error .unknownArgument

/- What a list of arguments asks for. -/
def parse
    (arguments : List String) :
    Except UsageError CommandLine :=
  match read arguments none .none with
  | .error error => .error error
  | .ok settled =>
      match settled.brainId, settled.host with
      | some brainId, some host =>
          .ok
            { brainId := brainId
              host := host
              brainPort := settled.brainPort.getD 3000
              checkSeconds := settled.checkSeconds.getD 10
              callbackAddress := settled.callbackAddress
              callbackPorts :=
                settled.callbackPorts.getD ⟨8400, 8500⟩
              systemInfo := settled.systemInfo }
      | _, _ => .error .missingOption

------------------------------------------------------------
-- Use
------------------------------------------------------------

/- What the arguments lack, in the order of looking. -/
def faults (line : CommandLine) : List (Bool × String) :=
  [ ( Text.isBlankText line.brainId,
      "Brain id must not be empty" ),
    ( Text.isBlankText line.host,
      "Brain host must not be empty" ),
    (line.brainPort == 0, "Brain port must not be 0") ]

/- Arguments that can be used, or the text of their fault. -/
def validate (line : CommandLine) : Except String Unit :=
  match line.faults.find? Prod.fst with
  | none => .ok ()
  | some fault => .error fault.2

/- The configuration for a server bound to a port. -/
def config
    (line : CommandLine)
    (callbackPort : UInt16)
    (instanceId : String) :
    Config :=
  { (Config.new line.brainId line.host callbackPort
        instanceId).withCheckSeconds line.checkSeconds with
    brainPort := line.brainPort
    callbackAddress := line.callbackAddress }

end CommandLine

end BrainLink
