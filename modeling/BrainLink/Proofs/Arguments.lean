import BrainLink.CommandLine
import BrainLink.Proofs.PortRanges

/-
  Which arguments lead to a valid configuration.

  Key definitions include:
    * `CommandLine.hostIsSlashes`
    * `CommandLine.Settled.Ranged`

  Main statements:
    * `Config.isBlankText_normalHost`
    * `CommandLine.first_ne_zero_of_parse`
    * `valid_unless_host_is_slashes`

  Arguments are accepted if their host is not blank. But a
  configuration takes the slashes in front of a host away, and
  is not valid without one. So arguments whose host is made of
  slashes alone are accepted and lead to no valid
  configuration. All others do.
-/

namespace BrainLink

namespace CommandLine

------------------------------------------------------------
-- Ports
------------------------------------------------------------

/- A range of ports that was settled begins behind zero. -/
def Settled.Ranged (settled : Settled) : Prop :=
  ∀ range,
    settled.callbackPorts = some range →
      range.first ≠ 0

/- A value that is given once is the value that was read. -/
theorem eq_of_once
    {α : Type}
    {field value result : Option α}
    (hOnce : once field value = .ok result) :
    result = value := by
  unfold once at hOnce
  split at hOnce
  · cases hOnce
  · cases hOnce
  · cases hOnce
    rfl

theorem eq_of_map_once
    {α β : Type}
    {field value : Option α}
    {store : Option α → β}
    {result : β}
    (hOnce : (once field value).map store = .ok result) :
    result = store value := by
  cases hResult : once field value with
  | error error =>
      rw [hResult] at hOnce
      cases hOnce
  | ok found =>
      rw [hResult] at hOnce
      cases hOnce
      rw [eq_of_once hResult]

theorem Settled.Ranged.put
    {settled later : Settled}
    {option : ValueOption}
    {text : String}
    (h : settled.Ranged)
    (hPut : settled.put option text = .ok later) :
    later.Ranged := by
  unfold Settled.put at hPut
  cases option with
  | callbackPorts =>
      rw [eq_of_map_once hPut]
      intro range hRange
      dsimp only at hRange
      cases hParse : PortRange.parse text with
      | error cause =>
          rw [hParse] at hRange
          cases hRange
      | ok found =>
          rw [hParse] at hRange
          cases hRange
          exact PortRange.first_ne_zero_of_parse hParse
  | _ =>
      rw [eq_of_map_once hPut]
      exact h

theorem Settled.Ranged.settle
    {unsettled : Option Unsettled}
    {settled later : Settled}
    (h : settled.Ranged)
    (hSettle :
      CommandLine.settle unsettled settled = .ok later) :
    later.Ranged := by
  unfold CommandLine.settle at hSettle
  split at hSettle
  · cases hSettle
    exact h
  · cases hSettle
  · exact h.put hSettle

/- Whatever is read, the range that comes out was read. -/
theorem Settled.Ranged.read
    {arguments : List String}
    {unsettled : Option Unsettled}
    {settled later : Settled}
    (h : settled.Ranged)
    (hRead :
      CommandLine.read arguments unsettled settled =
        .ok later) :
    later.Ranged := by
  fun_induction CommandLine.read arguments unsettled settled with
  | case1 unsettled settled => exact h.settle hRead
  | case2 argument unsettled settled hDashes =>
      exact h.settle hRead
  | case6 argument rest unsettled settled hDashes name option
      hName next hSettle hKind ih =>
      exact ih (h.settle hSettle) hRead
  | case9 argument rest unsettled settled hDashes name option
      text hName next hSettle last hPut hKind ih =>
      exact ih ((h.settle hSettle).put hPut) hRead
  | case17 argument rest unsettled settled hDashes name hName
      next hSettle hOnce hKind ih =>
      have hNext := h.settle hSettle
      exact ih hNext hRead
  | case22 argument rest settled hDashes hKind option ih =>
      exact ih h hRead
  | _ => cases hRead

/- So no range of ports that is asked for begins at zero. -/
theorem first_ne_zero_of_parse
    {arguments : List String}
    {line : CommandLine}
    (hParse : parse arguments = .ok line) :
    line.callbackPorts.first ≠ 0 := by
  unfold parse at hParse
  cases hRead : read arguments none .none with
  | error error =>
      rw [hRead] at hParse
      cases hParse
  | ok settled =>
      rw [hRead] at hParse
      have hNone : Settled.none.Ranged := nofun
      have hRanged := hNone.read hRead
      dsimp only at hParse
      split at hParse
      · cases hParse
        dsimp only
        cases hPorts : settled.callbackPorts with
        | none => decide
        | some range => exact hRanged range hPorts
      · cases hParse

end CommandLine

------------------------------------------------------------
-- Hosts
------------------------------------------------------------

/-
  A host whose slashes in front are taken away is blank if
  it was made of them alone, as nothing blank is at its end.
-/
theorem Config.isBlankText_normalHost (host : String) :
    Text.isBlankText (normalHost host) =
      (Text.trimChars host.toList).all (· == '/') := by
  unfold Text.isBlankText normalHost
  rw [String.toList_ofList]
  cases hSlashes :
      (Text.trimChars host.toList).all (· == '/') with
  | true =>
      rw [List.all_eq_true] at hSlashes
      rw [List.dropWhile_eq_nil_iff.mpr hSlashes]
      rfl
  | false =>
      have hRest :
          (Text.trimChars host.toList).dropWhile (· == '/') ≠
            [] := by
        intro hNil
        rw [List.dropWhile_eq_nil_iff] at hNil
        rw [List.all_eq_true.mpr hNil] at hSlashes
        cases hSlashes
      have hEnd :
          (Text.trimChars host.toList).dropWhile (· == '/') <:+
            Text.trimChars host.toList :=
        List.dropWhile_suffix _
      have hLast :=
        Text.isBlank_getLast_trimChars
          (hEnd.ne_nil hRest)
      rw [List.all_eq_false]
      refine ⟨_, List.getLast_mem hRest, ?_⟩
      rw [hEnd.getLast hRest, hLast]
      exact Bool.false_ne_true

/- A host of slashes, with or without blanks around them. -/
def CommandLine.hostIsSlashes (line : CommandLine) : Bool :=
  (Text.trimChars line.host.toList).all (· == '/')

------------------------------------------------------------
-- Validity
------------------------------------------------------------

/- Arguments that are accepted have none of the faults. -/
theorem CommandLine.eq_false_of_mem_faults
    {line : CommandLine}
    {fault : Bool × String}
    (hValid : line.validate = .ok ())
    (hFault : fault ∈ line.faults) :
    fault.1 = false := by
  unfold validate at hValid
  split at hValid
  · rename_i hNone
    exact Bool.eq_false_iff.mpr
      (List.find?_eq_none.mp hNone fault hFault)
  · cases hValid

/- No port of a range that was read is zero. -/
theorem CommandLine.port_ne_zero
    {arguments : List String}
    {line : CommandLine}
    {port : UInt16}
    (hParse : CommandLine.parse arguments = .ok line)
    (hPort : port.toNat ∈ line.callbackPorts.ports) :
    port ≠ 0 := by
  rintro rfl
  have hFirst := (PortRange.mem_ports.mp hPort).1
  apply first_ne_zero_of_parse hParse
  exact UInt16.toNat_inj.mp (Nat.le_zero.mp hFirst)

/-
  Arguments that are accepted lead to a valid configuration
  for each port of their range, unless the host is made of
  slashes alone.
-/
theorem valid_unless_host_is_slashes
    {arguments : List String}
    {line : CommandLine}
    {port : UInt16}
    (hParse : CommandLine.parse arguments = .ok line)
    (hValid : line.validate = .ok ())
    (hPort : port.toNat ∈ line.callbackPorts.ports)
    (instanceId : String) :
    (line.config port instanceId).validate =
      if line.hostIsSlashes then
        .error (.configuration "Brain host cannot be empty")
      else
        .ok () := by
  have hBrain : Text.isBlankText line.brainId = false :=
    CommandLine.eq_false_of_mem_faults hValid
      (List.mem_cons_self ..)
  have hMember :
      (line.brainPort == 0, "Brain port must not be 0") ∈
        line.faults := by
    simp [CommandLine.faults]
  have hBrainPort : (line.brainPort == 0) = false :=
    CommandLine.eq_false_of_mem_faults hValid hMember
  have hNotZero : (port == 0) = false :=
    beq_eq_false_iff_ne.mpr
      (CommandLine.port_ne_zero hParse hPort)
  have hHost := Config.isBlankText_normalHost line.host
  change _ = line.hostIsSlashes at hHost
  unfold CommandLine.config Config.withCheckSeconds Config.new
    Config.validate Config.faults
  dsimp only
  rw [hBrain, hHost, hBrainPort, hNotZero]
  cases line.hostIsSlashes <;> rfl

/- Arguments with an ordinary host and a range of ports. -/
def Sample.arguments : List String :=
  [ "--brain-id", "brain-1",
    "--host", " /192.168.1.20",
    "--callback-ports", "9000-9001" ]

def Sample.line : CommandLine where
  brainId := "brain-1"
  host := " /192.168.1.20"
  brainPort := 3000
  checkSeconds := 10
  callbackAddress := none
  callbackPorts := ⟨9000, 9001⟩
  systemInfo := false

theorem valid_of_sample :
    CommandLine.parse Sample.arguments = .ok Sample.line ∧
      (Sample.line.config 9001 "test").validate = .ok () := by
  have hParse :
      CommandLine.parse Sample.arguments = .ok Sample.line := by
    decide +kernel
  have hValid : Sample.line.validate = .ok () := by
    decide +kernel
  have hPort :
      (9001 : UInt16).toNat ∈
        Sample.line.callbackPorts.ports := by
    decide +kernel
  exact
    ⟨hParse,
      valid_unless_host_is_slashes hParse hValid hPort "test"⟩

/- With a slash as the host, accepted arguments are of no use. -/
theorem not_valid_of_slash :
    ¬ ∀ arguments line port instanceId,
      CommandLine.parse arguments = .ok line →
      line.validate = .ok () →
      port.toNat ∈ line.callbackPorts.ports →
        (line.config port instanceId).validate = .ok () := by
  intro h
  have hSlash :=
    h ["--brain-id", "b", "--host", "/"]
      { brainId := "b"
        host := "/"
        brainPort := 3000
        checkSeconds := 10
        callbackAddress := none
        callbackPorts := ⟨8400, 8500⟩
        systemInfo := false }
      8400
      "test"
      (by decide +kernel)
      (by decide +kernel)
      (by decide +kernel)
  exact absurd hSlash (by decide +kernel)

end BrainLink
