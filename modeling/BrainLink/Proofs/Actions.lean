import BrainLink.Proofs.BrainUrls
import BrainLink.Proofs.Executing

/-
  Where the relative actions of recipes go.

  Key definitions include:
    * `Url.SharesServer`
    * `Config.Reaches`

  Main statements:
    * `Connection.account_of_chooses`
    * `Config.reaches_resolveAction_iff`
    * `relative_action_reaches_brain_iff`

  An action that is no URL by itself is put behind the URL of
  the brain if it begins with a slash, and is then a URL on
  the brain whatever else it holds. Any other one is requested
  as it is, so that it is requested from nobody.
-/

namespace BrainLink

------------------------------------------------------------
-- Servers
------------------------------------------------------------

/- Two URLs are of one host, and of one port of it. -/
structure Url.SharesServer (url other : Url) : Prop where
  host_eq : url.host = other.host
  port_eq : url.effectivePort? = other.effectivePort?

/- A text that begins with a slash is no URL by itself. -/
theorem Url.parse_slash (rest : List Char) :
    Url.parse ('/' :: rest) = .error .noScheme := by
  have hSlash : ∀ c ∈ ['/'], isShed c = false :=
    Text.forall_mem (by decide)
  have hClean :
      clean (['/'] ++ rest) = '/' :: cleanEnd rest :=
    clean_append (by simp) hSlash rest
  have hScheme :
      readScheme? ('/' :: cleanEnd rest) = none :=
    rfl
  rw [List.singleton_append] at hClean
  unfold parse
  simp only [hClean, hScheme]

namespace Config

/- A text is a URL at the host and the port of the brain. -/
def Reaches (config : Config) (target : String) : Prop :=
  ∃ base url,
    Url.parse config.brainUrl.toList = .ok base ∧
      Url.parse target.toList = .ok url ∧
        url.SharesServer base

variable {config : Config}
variable {action : String}

/- The text of an action that is put behind the brain's URL. -/
theorem toList_resolveAction
    {rest : List Char}
    (hAction : action.toList = '/' :: rest) :
    (resolveAction config.brainUrl action).toList =
      config.brainUrl.toList ++ '/' :: rest := by
  unfold resolveAction
  split
  · rw [String.toList_append, hAction]
  · rename_i hOther
    exact absurd hAction (hOther rest)

/- An action that does not begin with a slash stays. -/
theorem resolveAction_of_head?
    (hHead : action.toList.head? ≠ some '/') :
    resolveAction config.brainUrl action = action := by
  unfold resolveAction
  split
  · rename_i rest hAction
    rw [hAction] at hHead
    exact absurd rfl hHead
  · rfl

/-
  An action that is no URL by itself reaches the brain if and
  only if it begins with a slash.
-/
theorem reaches_resolveAction_iff
    {address : Address}
    (hHost :
      Address.ofText? config.brainHost = some address)
    (hRelative : ∀ url, Url.parse action.toList ≠ .ok url) :
    config.Reaches (resolveAction config.brainUrl action) ↔
      action.toList.head? = some '/' := by
  constructor
  · rintro ⟨base, url, -, hUrl, -⟩
    by_contra hHead
    rw [resolveAction_of_head? hHead] at hUrl
    exact hRelative url hUrl
  · intro hHead
    rcases List.head?_eq_some_iff.mp hHead with
      ⟨rest, hAction⟩
    have hBase := parse_brainUrl_append hHost .nothing
    have hUrl := parse_brainUrl_append hHost (.path rest)
    rw [List.append_nil] at hBase
    rw [← toList_resolveAction hAction] at hUrl
    exact ⟨_, _, hBase, hUrl, rfl, rfl⟩

end Config

------------------------------------------------------------
-- Accounts
------------------------------------------------------------

/-
  Once an answer has chosen a URL, exactly that is requested
  behind the listing.
-/
theorem Connection.account_of_chooses
    {config : Config}
    {drive : Drive}
    {connection : Connection}
    (hNew : Connection.new config drive = .ok connection)
    (past : List Occurrence)
    (world : World)
    {key : String}
    (hKey : Text.trim key ≠ "")
    (on : Bool)
    (hTransport :
      (replay connection past).connection.session.transport ≠
        none)
    {first : Arrival}
    {url : String}
    (hChooses : Chooses first.answer key on url)
    (second : Arrival) :
    connection.account past world (.executeRecipe key on)
        [first, second] =
      ⟨[config.listingRequest, config.actionRequest url],
        some
          ((Http.accept second.answer).map
            fun _ => .nothing)⟩ := by
  -- All that is looked up again at an answer is the
  -- configuration, which no occurrence changes.
  have hConfig (past : List Occurrence) :
      (replay connection past).connection.config = config :=
    (tidy_replay hNew past).sameConfig
  have hSeeks :=
    (replay connection past).connection.seeks_beginRecipe key on
  unfold account obey
  dsimp only
  generalize
    (replay connection past).connection.beginRecipe key on =
      step at hSeeks ⊢
  cases hSeeks with
  | blank hBlank => exact absurd hBlank hKey
  | bare _ hNone => exact absurd hNone hTransport
  | asks transport _ _ =>
      have hDecides :=
        (replay connection
          (first.since ++
            .command world (.executeRecipe key on) ::
              past)).connection.decides_afterListing
          transport hKey on first.answer
      rw [follow_ask, hConfig]
      unfold resume
      dsimp only
      generalize
        afterListing transport key on first.answer
            (replay connection
              (first.since ++
                .command world (.executeRecipe key on) ::
                  past)).connection =
          step at hDecides ⊢
      cases hDecides with
      | fails cause hListing =>
          rcases hChooses with ⟨recipes, recipe, hRecipes, -⟩
          exact (hListing recipes hRecipes).elim
      | rests recipes hListing hNone =>
          exact (hNone url hChooses).elim
      | asks recipes other hListing hOther =>
          rw [follow_ask, hConfig, (hOther url).mp hChooses]
          unfold resume conclude
          dsimp only
          rw [follow_done]

/-
  The second request of the command to execute a recipe goes
  to the brain, if what is to be done is no URL by itself, if
  and only if that begins with a slash.
-/
theorem relative_action_reaches_brain_iff
    {config : Config}
    {drive : Drive}
    {connection : Connection}
    (hNew : Connection.new config drive = .ok connection)
    {address : Address}
    (hHost :
      Address.ofText? config.brainHost = some address)
    (past : List Occurrence)
    (world : World)
    {key : String}
    (hKey : Text.trim key ≠ "")
    (on : Bool)
    (hTransport :
      (replay connection past).connection.session.transport ≠
        none)
    {first : Arrival}
    {action : String}
    (hChooses : Chooses first.answer key on action)
    (hRelative : ∀ url, Url.parse action.toList ≠ .ok url)
    (second : Arrival) :
    ∃ target result,
      connection.account past world (.executeRecipe key on)
          [first, second] =
        ⟨[config.listingRequest, .get target], some result⟩ ∧
      (config.Reaches target ↔
        action.toList.head? = some '/') := by
  have hAccount :=
    connection.account_of_chooses hNew past world hKey on
      hTransport hChooses second
  have hReaches :=
    config.reaches_resolveAction_iff hHost hRelative
  exact ⟨_, _, hAccount, hReaches⟩

namespace Sample

theorem transport_undisturbed :
    (replay connection
        undisturbed).connection.session.transport ≠
      none := by
  decide +kernel

theorem address_brainHost :
    Address.ofText? config.brainHost =
      some (.four ⟨192, 168, 1, 20⟩) := by
  decide +kernel

end Sample

/- The action of the television begins with a slash. -/
theorem television_reaches_brain :
    ∃ target result,
      Sample.connection.account Sample.undisturbed Sample.world
          (.executeRecipe "6242-ABC" true)
          [Sample.listingArrives, Sample.actionArrives] =
        ⟨[Sample.config.listingRequest, .get target],
          some result⟩ ∧
      Sample.config.Reaches target := by
  have hRelative :
      ∀ url,
        Url.parse "/v1/api/recipes/6242/execute".toList ≠
          .ok url := by
    intro url hUrl
    cases (Url.parse_slash _).symm.trans hUrl
  rcases
      relative_action_reaches_brain_iff Sample.new_connection
        Sample.address_brainHost Sample.undisturbed Sample.world
        (by decide) true Sample.transport_undisturbed
        Sample.chooses_television hRelative
        Sample.actionArrives with
    ⟨target, result, hAccount, hReaches⟩
  exact
    ⟨target, result, hAccount, hReaches.mpr (by decide)⟩

namespace Sample

/- A recipe whose action begins with a name. -/
def lamp : Recipe where
  uid := "7002"
  name := "Lamp"
  kind := "launch"
  urls := some ⟨some "v1/api/recipes/7002/execute", none⟩

/- A brain lists it, before anything else happens. -/
def lampArrives : Arrival where
  since := []
  world := world
  answer := .ok ⟨200, (Recipe.listed [lamp]).toText⟩

theorem chooses_lamp :
    Chooses lampArrives.answer "7002" true
      "v1/api/recipes/7002/execute" := by
  refine ⟨[lamp], lamp, ?_, ?_, ?_, ?_⟩
  · exact
      ⟨_, rfl,
        Recipe.ofListing_toText (Recipe.legible_listed _)
          (Recipe.ofValueListing?_listed _)⟩
  · exact .intro [] [] lamp (by decide) nofun
  · decide
  · exact ⟨_, rfl, rfl, by decide⟩

end Sample

/- The action of the lamp is no URL, and becomes none. -/
theorem lamp_unreached :
    Connection.new Sample.config .hand =
        .ok Sample.connection ∧
      Address.ofText? Sample.config.brainHost =
          some (.four ⟨192, 168, 1, 20⟩) ∧
        Chooses Sample.lampArrives.answer "7002" true
            "v1/api/recipes/7002/execute" ∧
          (∀ url,
            Url.parse "v1/api/recipes/7002/execute".toList ≠
              .ok url) ∧
            ∃ result,
              Sample.connection.account Sample.undisturbed
                  Sample.world (.executeRecipe "7002" true)
                  [Sample.lampArrives, Sample.actionArrives] =
                ⟨[ Sample.config.listingRequest,
                    .get "v1/api/recipes/7002/execute" ],
                  some result⟩ ∧
                ¬Sample.config.Reaches
                  "v1/api/recipes/7002/execute" := by
  have hRelative :
      ∀ url,
        Url.parse "v1/api/recipes/7002/execute".toList ≠
          .ok url := by
    have hFault :
        Url.parse "v1/api/recipes/7002/execute".toList =
          .error .noScheme := by
      rfl
    intro url hUrl
    cases hFault.symm.trans hUrl
  have hAccount :=
    Sample.connection.account_of_chooses Sample.new_connection
      Sample.undisturbed Sample.world (by decide) true
      Sample.transport_undisturbed Sample.chooses_lamp
      Sample.actionArrives
  refine
    ⟨ Sample.new_connection, Sample.address_brainHost,
      Sample.chooses_lamp, hRelative, _, hAccount, ?_ ⟩
  rintro ⟨_, url, -, hUrl, -⟩
  exact hRelative url hUrl

end BrainLink
