import BrainLink.Error
import BrainLink.Net.Address
import BrainLink.Text.Blank
import BrainLink.Time

/-
  The configuration of a session: which brain to talk to, how
  the brain can reach us, and when things are done.

  Key definitions include:
    * `Config`
    * `Config.new`
    * `Config.brainUrl`
    * `Config.callbackPath`
    * `Config.registrationName`
    * `Config.validate`
-/

namespace BrainLink

/- The settings of one session. -/
structure Config where
  brainId : String
  brainHost : String
  brainPort : UInt16
  checkInterval : Millis
  connectDelay : Millis
  probeTimeout : Millis
  requestTimeout : Millis
  callbackAddress : Option Address
  callbackPort : UInt16
  givenPath : Option String
  adapterName : String
  instanceId : String
deriving DecidableEq

namespace Config

------------------------------------------------------------
-- Building
------------------------------------------------------------

/-
  A host without blanks around it and without the slashes
  that some announcements put in front.
-/
def normalHost (host : String) : String :=
  String.ofList
    ((Text.trimChars host.toList).dropWhile (· == '/'))

/- Default times and names for a brain and a local port. -/
def new
    (brainId : String)
    (host : String)
    (callbackPort : UInt16)
    (instanceId : String) :
    Config where
  brainId := brainId
  brainHost := normalHost host
  brainPort := 3000
  checkInterval := 10000
  connectDelay := 5000
  probeTimeout := 5000
  requestTimeout := 10000
  callbackAddress := none
  callbackPort := callbackPort
  givenPath := none
  adapterName := "neeo-rs"
  instanceId := instanceId

/- Whole seconds between health checks; below zero is zero. -/
def withCheckSeconds
    (config : Config)
    (seconds : Int) :
    Config :=
  { config with checkInterval := seconds.toNat * 1000 }

------------------------------------------------------------
-- Derived settings
------------------------------------------------------------

/-
  The URL of the brain's interface. A host that is a version
  six address stands in brackets.
-/
def brainUrl (config : Config) : String :=
  let host :=
    match Ipv6.ofChars? config.brainHost.toList with
    | some _ => "[" ++ config.brainHost ++ "]"
    | none => config.brainHost
  "http://" ++ host ++ ":" ++ toString config.brainPort.toNat

/- The path that the brain calls back into. -/
def callbackPath (config : Config) : String :=
  match config.givenPath with
  | none => "/neeo/" ++ config.brainId
  | some path =>
      match path.toList with
      | '/' :: _ => path
      | _ => "/" ++ path

/- The name under which the session registers. -/
def registrationName (config : Config) : String :=
  config.adapterName ++ "-" ++ config.instanceId

/- Health checks are done unless their interval is zero. -/
def checksHealth (config : Config) : Bool :=
  config.checkInterval != 0

/-
  The address under which the brain can reach us: the one
  that was set, or else the one that routing finds.
-/
def localAddress
    (config : Config)
    (routed : Option Address) :
    Option Address :=
  config.callbackAddress <|> routed

------------------------------------------------------------
-- Validity
------------------------------------------------------------

/- What a configuration lacks, in the order of looking. -/
def faults (config : Config) : List (Bool × String) :=
  [ ( Text.isBlankText config.brainId,
      "Brain id cannot be empty" ),
    ( Text.isBlankText config.brainHost,
      "Brain host cannot be empty" ),
    ( config.brainPort == 0,
      "Brain port must be greater than 0" ),
    ( config.callbackPort == 0,
      "Callback port must be greater than 0" ),
    ( config.connectDelay == 0,
      "Connect delay must be greater than 0" ),
    ( config.probeTimeout == 0 || config.requestTimeout == 0,
      "Timeouts must be greater than 0" ),
    ( Text.isBlankText config.adapterName,
      "Adapter name cannot be empty" ) ]

/- A configuration is valid when it has none of the faults. -/
def validate (config : Config) : Outcome Unit :=
  match config.faults.find? Prod.fst with
  | none => .ok ()
  | some fault => .error (.configuration fault.2)

end Config

end BrainLink
