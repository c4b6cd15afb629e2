import BrainLink.Config
import BrainLink.Endpoint
import BrainLink.Proofs.CallbackUrls
import BrainLink.Proofs.Numerals
import Mathlib.Data.List.TakeWhile

/-
  The URL of a brain whose host is an address.

  Key definitions include:
    * `Leaves`

  Main statements:
    * `Ipv4.eq_of_ofChars?`
    * `Ipv6.mem_addressChars_of_ofChars?`
    * `Config.exists_brainUrl`
    * `Config.parse_brainUrl_append`
    * `Config.normalHost_of_address`
    * `requests_reach_configured_address`

  A text that is an address is written in a URL as it is, or
  in brackets. So the URL of the brain is at the address and
  the port of the configuration, and a path behind it changes
  neither. The paths of the requests are in normal form, and
  slashes and blanks around the address are not kept.
-/

namespace BrainLink

------------------------------------------------------------
-- Version four
------------------------------------------------------------

namespace Ipv4

/- An octet is read from its digits and nothing else. -/
theorem eq_of_readOctet
    {text rest : List Char}
    {octet : UInt8}
    (hRead : readOctet text = some (octet, rest)) :
    text = Text.decimalChars octet.toNat ++ rest := by
  have hDigits :
      ∀ c ∈ text.takeWhile Char.isDigit, c.isDigit = true :=
    fun c hMem => List.mem_takeWhile_imp hMem
  unfold readOctet at hRead
  dsimp only at hRead
  split at hRead
  · cases hRead
  · rename_i first others hTake
    split at hRead
    · cases hRead
    · rename_i hZero
      split at hRead
      · rename_i hMost
        cases hRead
        rw [hTake] at hDigits hMost
        have hAlone :
            (first :: others).head? = some '0' →
              (first :: others).length = 1 := by
          rintro ⟨⟩
          simpa using hZero
        have hNumber :=
          Text.decimalChars_numberOf (List.cons_ne_nil _ _)
            hDigits hAlone
        have hOctet :
            (UInt8.ofNat
                (Text.numberOf 10
                  ((first :: others).map
                    Text.digitValue))).toNat =
              Text.numberOf 10
                ((first :: others).map Text.digitValue) := by
          rw [UInt8.toNat_ofNat']
          omega
        rw [hTake, hOctet, hNumber, ← hTake,
          List.takeWhile_append_dropWhile]
      · cases hRead

theorem eq_of_readDotOctet
    {text rest : List Char}
    {octet : UInt8}
    (hRead : readDotOctet text = some (octet, rest)) :
    text = '.' :: (Text.decimalChars octet.toNat ++ rest) := by
  unfold readDotOctet at hRead
  split at hRead
  · rw [← eq_of_readOctet hRead]
  · cases hRead

/- An address is read from its usual text and nothing else. -/
theorem eq_of_read
    {text rest : List Char}
    {address : Ipv4}
    (hRead : read text = some (address, rest)) :
    text = address.toChars ++ rest := by
  simp only [read, Option.bind_eq_bind, Option.bind_eq_some_iff,
    Prod.exists, Option.pure_def, Option.some.injEq,
    Prod.mk.injEq] at hRead
  rcases hRead with
    ⟨first, _, hFirst, second, _, hSecond, third, _, hThird,
      fourth, _, hFourth, rfl, rfl⟩
  rw [eq_of_readOctet hFirst, eq_of_readDotOctet hSecond,
    eq_of_readDotOctet hThird, eq_of_readDotOctet hFourth]
  simp [toChars]

theorem eq_of_ofChars?
    {text : List Char}
    {address : Ipv4}
    (hText : ofChars? text = some address) :
    text = address.toChars := by
  unfold ofChars? at hText
  split at hText
  · rename_i hRead
    cases hText
    rw [eq_of_read hRead, List.append_nil]
  · cases hText

/- A dotted text is no address of version six. -/
theorem ofChars?_six_toChars (address : Ipv4) :
    Ipv6.ofChars? address.toChars = none := by
  have hRead :
      read (address.toChars ++ []) = some (address, []) :=
    read_toChars address (by simp)
  rw [List.append_nil] at hRead
  have hGroups :
      Ipv6.readGroups 8 true address.toChars =
        ( [ UInt16.ofNat (address.toNat / 0x10000),
            UInt16.ofNat address.toNat ],
          true, [] ) := by
    rw [Ipv6.readGroups]
    simp [Ipv6.afterColon, hRead]
  unfold Ipv6.ofChars? Ipv6.read
  rw [hGroups]
  rfl

end Ipv4

------------------------------------------------------------
-- Version six
------------------------------------------------------------

/-
  Of a text there is a rest, and all that is gone are
  characters of addresses.
-/
def Leaves (text rest : List Char) : Prop :=
  ∀ c ∈ text, c ∈ addressChars ∨ c ∈ rest

theorem Leaves.refl (text : List Char) : Leaves text text :=
  fun _ hMem => .inr hMem

theorem Leaves.trans
    {text between rest : List Char}
    (hFirst : Leaves text between)
    (hSecond : Leaves between rest) :
    Leaves text rest := by
  intro c hMem
  rcases hFirst c hMem with hIs | hMem
  · exact .inl hIs
  · exact hSecond c hMem

theorem leaves_append
    {front : List Char}
    (hFront : ∀ c ∈ front, c ∈ addressChars)
    (rest : List Char) :
    Leaves (front ++ rest) rest := by
  intro c hMem
  rcases List.mem_append.mp hMem with hMem | hMem
  · exact .inl (hFront c hMem)
  · exact .inr hMem

theorem Ipv4.leaves_of_read
    {text rest : List Char}
    {address : Ipv4}
    (hRead : read text = some (address, rest)) :
    Leaves text rest := by
  rw [eq_of_read hRead]
  exact leaves_append (fun _ => mem_addressChars) rest

namespace Ipv6

theorem leaves_of_colons
    (front : List Char)
    (hFront : ∀ c ∈ front, c = ':')
    (rest : List Char) :
    Leaves (front ++ rest) rest := by
  apply leaves_append
  intro c hMem
  rw [hFront c hMem]
  exact List.mem_cons_self

theorem leaves_of_readGroup
    {text rest : List Char}
    {group : UInt16}
    (hRead : readGroup text = some (group, rest)) :
    Leaves text rest := by
  unfold readGroup at hRead
  dsimp only at hRead
  split at hRead
  · cases hRead
    have hAppend :=
      leaves_append
        (fun c (hMem : c ∈ text.takeWhile Text.isHexDigit) =>
          mem_addressChars_of_isHexDigit
            (List.mem_takeWhile_imp hMem))
        (text.dropWhile Text.isHexDigit)
    rwa [List.takeWhile_append_dropWhile] at hAppend
  · cases hRead

theorem leaves_of_afterColon
    {leading : Bool}
    {text rest : List Char}
    (hAfter : afterColon leading text = some rest) :
    Leaves text rest := by
  unfold afterColon at hAfter
  split at hAfter
  · cases hAfter
    exact .refl text
  · split at hAfter
    · cases hAfter
      exact leaves_of_colons [':'] (by simp) rest
    · cases hAfter

/- What groups are read from is gone, and nothing else. -/
theorem leaves_readGroups
    (room : Nat)
    (leading : Bool)
    (text : List Char) :
    Leaves text (readGroups room leading text).2.2 := by
  induction room generalizing leading text with
  | zero => exact .refl text
  | succ room ih =>
      rw [readGroups]
      split
      · exact .refl text
      · rename_i inside hAfter
        have hInside := leaves_of_afterColon hAfter
        split
        · rename_i address rest hRead
          split at hRead
          · cases hRead
          · exact hInside.trans (Ipv4.leaves_of_read hRead)
        · split
          -- A colon that no group follows is not taken.
          · exact .refl text
          · rename_i group rest hRead
            have hGroup := leaves_of_readGroup hRead
            exact (hInside.trans hGroup).trans (ih false rest)

theorem leaves_of_read
    {text rest : List Char}
    {address : Ipv6}
    (hRead : read text = some (address, rest)) :
    Leaves text rest := by
  have hHead := leaves_readGroups 8 true text
  unfold read at hRead
  split at hRead
  rename_i head endsDotted left hGroups
  rw [hGroups] at hHead
  split at hRead
  · cases hRead
    exact hHead
  · split at hRead
    · cases hRead
    · split at hRead
      · rename_i behind
        cases hRead
        have hColons :=
          leaves_of_colons [':', ':'] (by simp) behind
        exact
          (hHead.trans hColons).trans
            (leaves_readGroups _ true behind)
      · cases hRead

/- A text that is an address has characters of addresses. -/
theorem mem_addressChars_of_ofChars?
    {text : List Char}
    {address : Ipv6}
    (hText : ofChars? text = some address) :
    ∀ c ∈ text, c ∈ addressChars := by
  unfold ofChars? at hText
  split at hText
  · rename_i hRead
    intro c hMem
    rcases leaves_of_read hRead c hMem with hIs | hMem
    · exact hIs
    · cases hMem
  · cases hText

end Ipv6

------------------------------------------------------------
-- The URL of the brain
------------------------------------------------------------

namespace Config

variable {config : Config}
variable {address : Address}
variable (hHost : Address.ofText? config.brainHost = some address)

include hHost

/- A host that is an address is written as one. -/
theorem exists_brainUrl :
    ∃ text,
      (Url.Host.ofAddress address).IsWritten text ∧
        config.brainUrl.toList =
          "http://".toList ++
            (text ++
              ':' ::
                Text.decimalChars config.brainPort.toNat) := by
  unfold Address.ofText? at hHost
  split at hHost
  · rename_i dotted hDotted
    cases hHost
    have hText := Ipv4.eq_of_ofChars? hDotted
    refine ⟨_, Url.Host.isWritten_four dotted, ?_⟩
    unfold brainUrl
    rw [hText, Ipv4.ofChars?_six_toChars]
    simp [hText, Text.decimalChars]
  · rcases Option.map_eq_some_iff.mp hHost with
      ⟨grouped, hGrouped, rfl⟩
    refine
      ⟨ _,
        Url.Host.isWritten_six hGrouped
          (Ipv6.mem_addressChars_of_ofChars? hGrouped),
        ?_ ⟩
    unfold brainUrl
    rw [hGrouped]
    simp [Text.decimalChars]

/- Whatever stands behind it, it names the same server. -/
theorem parse_brainUrl_append
    {path : List Char}
    (hPath : Url.IsBehind path) :
    Url.parse (config.brainUrl.toList ++ path) =
      .ok
        (Url.atHost (Url.Host.ofAddress address)
          (Url.shownPort config.brainPort)
          (Url.cutTail true (Url.cleanEnd path))) := by
  rcases exists_brainUrl hHost with ⟨text, hText, hUrl⟩
  rw [hUrl, List.append_assoc]
  exact
    Url.parse_authority hText
      (Url.Host.ofAddress_ne_empty address)
      (.named config.brainPort) hPath

end Config

------------------------------------------------------------
-- Hosts as they are given
------------------------------------------------------------

/- A text that is an address is not empty. -/
theorem Address.ne_nil_of_ofText?
    {text : List Char}
    {address : Address}
    (hText : ofText? (String.ofList text) = some address) :
    text ≠ [] := by
  rintro rfl
  have hNone : ofText? (String.ofList []) = none := by
    decide +kernel
  rw [hNone] at hText
  cases hText

/- A text that is an address has characters of addresses. -/
theorem Address.mem_addressChars_of_ofText?
    {text : List Char}
    {address : Address}
    (hText : ofText? (String.ofList text) = some address) :
    ∀ c ∈ text, c ∈ addressChars := by
  unfold ofText? at hText
  rw [String.toList_ofList] at hText
  split at hText
  · rename_i dotted hDotted
    rw [Ipv4.eq_of_ofChars? hDotted]
    exact fun _ => Ipv4.mem_addressChars
  · rcases Option.map_eq_some_iff.mp hText with
      ⟨grouped, hGrouped, -⟩
    exact Ipv6.mem_addressChars_of_ofChars? hGrouped

/-
  Of an address with slashes in front and blanks around it,
  the address is left.
-/
theorem Config.normalHost_of_address
    {before after text : List Char}
    {address : Address}
    (slashes : Nat)
    (hText :
      Address.ofText? (String.ofList text) = some address)
    (hBefore : ∀ c ∈ before, Text.isBlank c = true)
    (hAfter : ∀ c ∈ after, Text.isBlank c = true) :
    normalHost
        (String.ofList
          (before ++ (List.replicate slashes '/' ++ text) ++
            after)) =
      String.ofList text := by
  have hAddress :
      ∀ c ∈ addressChars,
        Text.isBlank c = false ∧ (c == '/') = false :=
    Text.forall_mem (by decide)
  have hChars := Address.mem_addressChars_of_ofText? hText
  have hSlashes :
      ∀ c ∈ List.replicate slashes '/', (c == '/') = true := by
    intro c hMem
    rw [List.eq_of_mem_replicate hMem]
    rfl
  have hShown :
      ∀ c ∈ List.replicate slashes '/' ++ text,
        Text.isBlank c = false := by
    intro c hMem
    rcases List.mem_append.mp hMem with hMem | hMem
    · rw [List.eq_of_mem_replicate hMem]
      decide
    · exact (hAddress c (hChars c hMem)).1
  have hNil : List.replicate slashes '/' ++ text ≠ [] :=
    List.append_ne_nil_of_right_ne_nil _
      (Address.ne_nil_of_ofText? hText)
  have hHead :
      ∀ c, text.head? = some c → (c == '/') = false :=
    fun c hHead =>
      (hAddress c (hChars c (List.mem_of_head? hHead))).2
  unfold normalHost
  rw [String.toList_ofList,
    Text.trimChars_append hBefore hShown hAfter hNil,
    Text.dropWhile_append_stop hSlashes hHead]

------------------------------------------------------------
-- Requests
------------------------------------------------------------

/- The path of a request is read as it is written. -/
theorem Endpoint.cutTail_path (endpoint : Endpoint) :
    Url.cutTail true (Url.cleanEnd endpoint.path.toList) =
      ⟨endpoint.path.toList, none, none⟩ := by
  cases endpoint <;> rfl

theorem Endpoint.pathAfter_path (endpoint : Endpoint) :
    Url.pathAfter true endpoint.path.toList =
      endpoint.path.toList := by
  cases endpoint <;> decide +kernel

theorem Endpoint.isBehind_path (endpoint : Endpoint) :
    Url.IsBehind endpoint.path.toList := by
  cases endpoint <;> exact .path _

/-
  In whatever spelling the host of the configuration is an
  address, with slashes in front and blanks around it, the
  requests go to that address, the port of the configuration
  and the path of the request.
-/
theorem requests_reach_configured_address
    {before after text : List Char}
    {address : Address}
    (slashes : Nat)
    (hText :
      Address.ofText? (String.ofList text) = some address)
    (hBefore : ∀ c ∈ before, Text.isBlank c = true)
    (hAfter : ∀ c ∈ after, Text.isBlank c = true)
    (brainId instanceId : String)
    (brainPort callbackPort : UInt16)
    (endpoint : Endpoint) :
    let host :=
      String.ofList
        (before ++ (List.replicate slashes '/' ++ text) ++
          after)
    let config :=
      { Config.new brainId host callbackPort instanceId with
        brainPort := brainPort }
    ∃ url : Url,
      Url.parse (endpoint.url config.brainUrl).toList =
          .ok url ∧
        url.LeadsTo address brainPort ∧
          url.path = endpoint.path.toList ∧
            url.query = none ∧ url.fragment = none := by
  intro host config
  have hHost :
      Address.ofText? config.brainHost = some address := by
    have hNormal :
        config.brainHost = String.ofList text :=
      Config.normalHost_of_address slashes hText hBefore hAfter
    rw [hNormal, hText]
  have hParse :=
    Config.parse_brainUrl_append hHost endpoint.isBehind_path
  rw [endpoint.cutTail_path, ← String.toList_append] at hParse
  exact
    ⟨ _, hParse, Url.leadsTo_atHost address brainPort _,
      endpoint.pathAfter_path, rfl, rfl ⟩

/- A mixed spelling between blanks, behind two slashes. -/
theorem recipes_reach_mixed_spelling :
    let address :=
      Address.six
        (Ipv6.ofGroups [0, 0, 0, 0, 0, 0xFFFF, 0xC0A8, 0x0114])
    let config :=
      { Config.new "brain-1"
          " //0:0::0:FFFF:192.168.1.20\n" 8080 "test" with
        brainPort := 80 }
    Address.ofText? "0:0::0:FFFF:192.168.1.20" =
        some address ∧
      ∃ url : Url,
        Url.parse
              (Endpoint.recipes.url config.brainUrl).toList =
            .ok url ∧
          url.LeadsTo address 80 ∧
            url.path = Endpoint.recipes.path.toList ∧
              url.query = none ∧ url.fragment = none := by
  have hText :
      Address.ofText?
          (String.ofList "0:0::0:FFFF:192.168.1.20".toList) =
        some
          (.six
            (Ipv6.ofGroups
              [0, 0, 0, 0, 0, 0xFFFF, 0xC0A8, 0x0114])) := by
    decide +kernel
  have hBefore : ∀ c ∈ [' '], Text.isBlank c = true :=
    List.forall_mem_singleton.mpr (by decide)
  have hAfter : ∀ c ∈ ['\n'], Text.isBlank c = true :=
    List.forall_mem_singleton.mpr (by decide)
  exact
    ⟨ hText,
      requests_reach_configured_address 2 hText hBefore hAfter
        "brain-1" "test" 80 8080 .recipes ⟩

end BrainLink
