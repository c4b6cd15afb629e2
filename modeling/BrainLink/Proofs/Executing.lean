import BrainLink.Proofs.Listings
import BrainLink.Proofs.Numerals
import BrainLink.Proofs.Tidiness

/-
  What comes of the command to execute a recipe.

  Key definitions include:
    * `Account`
    * `Connection.account`
    * `Recipe.IsListing`
    * `Recipe.IsFirstMatch`
    * `Recipe.Switches`
    * `Chooses`
    * `Executes`

  Main statements:
    * `chooses_iff`
    * `Connection.seeks_beginRecipe`
    * `Connection.decides_afterListing`
    * `executes_first_match`

  The command asks for the listing and then, at most, for one
  URL in it. Between the two questions, and before the answer
  to the second, anything can happen to the connection. None
  of it matters, as all that is looked up again is the URL of
  the brain.
-/

namespace BrainLink

------------------------------------------------------------
-- Accounts
------------------------------------------------------------

/-
  The arrival of an answer: what has happened since the
  question was asked, and the world when the answer comes.
-/
structure Arrival where
  since : List Occurrence
  world : World
  answer : Http.Answer

/-
  What a command comes to: what it has requested, and its
  result unless it still waits.
-/
structure Account where
  requests : List Http.Request
  result : Option (Outcome Product)

namespace Connection

/- What was requested between two states of a connection. -/
def requestsUntil
    (before after : Connection) :
    List Http.Request :=
  after.requests.drop before.requests.length

/-
  A command has taken a step, and goes on as its answers
  arrive.
-/
def follow
    (connection : Connection) :
    List Occurrence → Connection → Connection × Progress →
      List Arrival → Account
| past, before, (after, .asks request errand),
    arrival :: arrivals =>
    -- The connection is looked up again, as it may be another
    -- than the one that asked.
    let earlier := arrival.since ++ past
    let found := (replay connection earlier).connection
    let account :=
      connection.follow
        (.answer arrival.world request errand arrival.answer ::
          earlier)
        found
        (found.resume arrival.world errand arrival.answer)
        arrivals
    ⟨before.requestsUntil after ++ account.requests,
      account.result⟩
| _, before, (after, .done result), _ =>
    ⟨before.requestsUntil after, some result⟩
| _, before, (after, _), _ =>
    ⟨before.requestsUntil after, none⟩

/- A command is given, and goes on as its answers arrive. -/
def account
    (connection : Connection)
    (past : List Occurrence)
    (world : World)
    (command : Command)
    (arrivals : List Arrival) :
    Account :=
  let before := (replay connection past).connection
  connection.follow (.command world command :: past) before
    (before.obey world command) arrivals

/- A command that is done at once has requested nothing. -/
theorem follow_done
    (connection : Connection)
    (past : List Occurrence)
    (before : Connection)
    (result : Outcome Product)
    (arrivals : List Arrival) :
    connection.follow past before (before, .done result)
        arrivals =
      ⟨[], some result⟩ := by
  have hNone : before.requestsUntil before = [] :=
    List.drop_length
  cases arrivals <;> simp only [follow, hNone]

/- One that asks has requested that, and goes on. -/
theorem follow_ask
    (connection : Connection)
    (past : List Occurrence)
    (before : Connection)
    (sending : Sending)
    (errand : Errand)
    (arrival : Arrival)
    (arrivals : List Arrival) :
    connection.follow past before (before.ask sending errand)
        (arrival :: arrivals) =
      let earlier := arrival.since ++ past
      let found := (replay connection earlier).connection
      let account :=
        connection.follow
          (.answer arrival.world sending.2 errand
              arrival.answer ::
            earlier)
          found
          (found.resume arrival.world errand arrival.answer)
          arrivals
      ⟨sending.2 :: account.requests, account.result⟩ := by
  have hAsked :
      before.requestsUntil
          (before.record (.asked sending.1 sending.2)) =
        [sending.2] := by
    unfold requestsUntil
    rw [requests_record]
    exact List.drop_left
  simp only [ask, follow, hAsked, List.singleton_append]

end Connection

------------------------------------------------------------
-- Choices
------------------------------------------------------------

/- A blank text is one of which trimming leaves nothing. -/
theorem Text.isBlankText_iff
    (text : String) :
    isBlankText text = true ↔ trim text = "" := by
  unfold isBlankText trim
  rw [List.all_eq_true, String.ofList_eq_empty_iff,
    trimChars_eq_nil_iff]

namespace Recipe

/- An answer with status 200 whose body lists recipes. -/
def IsListing
    (answer : Http.Answer)
    (recipes : List Recipe) : Prop :=
  ∃ body,
    answer = .ok ⟨200, body⟩ ∧ ofListing body = .ok recipes

/- The first of some recipes that has a key as its uid. -/
inductive IsFirstMatch
    (key : String) : List Recipe → Recipe → Prop where
| intro
    (earlier later : List Recipe)
    (recipe : Recipe)
    (hUid : Text.sameLetters recipe.uid key = true)
    (hEarlier :
      ∀ other ∈ earlier,
        Text.sameLetters other.uid key = false) :
    IsFirstMatch key (earlier ++ recipe :: later) recipe

/- A recipe has a URL that switches it, and it is not blank. -/
def Switches
    (recipe : Recipe)
    (on : Bool)
    (url : String) : Prop :=
  ∃ urls,
    recipe.urls = some urls ∧
      (if on then urls.on else urls.off) = some url ∧
        Text.trim url ≠ ""

variable {answer : Http.Answer}
variable {recipes : List Recipe}
variable {recipe : Recipe}
variable {key url : String}
variable {on : Bool}

theorem isListing_iff :
    IsListing answer recipes ↔
      ofAnswer answer = .ok recipes := by
  constructor
  · rintro ⟨body, rfl, hListing⟩
    exact hListing
  · intro hListing
    unfold ofAnswer at hListing
    split at hListing
    · cases hListing
    · rename_i body hBody
      exact ⟨body, Http.accept_eq_ok_iff.mp hBody, hListing⟩

theorem isFirstMatch_iff :
    IsFirstMatch key recipes recipe ↔
      find? recipes key = some recipe := by
  unfold find?
  rw [List.find?_eq_some_iff_append]
  constructor
  · rintro ⟨earlier, later, _, hUid, hEarlier⟩
    refine ⟨hUid, earlier, later, rfl, ?_⟩
    intro other hOther
    rw [hEarlier other hOther]
    rfl
  · rintro ⟨hUid, earlier, later, rfl, hEarlier⟩
    refine .intro earlier later recipe hUid ?_
    intro other hOther
    exact (Bool.not_eq_true' _).mp (hEarlier other hOther)

theorem switches_iff :
    recipe.Switches on url ↔
      recipe.action? on = some url := by
  unfold Switches action?
  cases recipe.urls with
  | none => exact ⟨nofun, nofun⟩
  | some urls =>
      dsimp only
      rw [Option.filter_eq_some_iff, Bool.not_eq_true',
        ← Bool.not_eq_true, Text.isBlankText_iff]
      constructor
      · rintro ⟨_, hUrls, hUrl⟩
        cases hUrls
        exact hUrl
      · intro hUrl
        exact ⟨urls, rfl, hUrl⟩

/- A recipe without a uid matches no key but the empty one. -/
theorem IsFirstMatch.uid_ne_empty
    (h : IsFirstMatch key recipes recipe)
    (hKey : Text.trim key ≠ "") :
    recipe.uid ≠ "" := by
  cases h with
  | intro earlier later _ hUid hEarlier =>
      intro hNone
      rw [hNone, Text.sameLetters, beq_iff_eq] at hUid
      have hEmpty : key.toList = [] :=
        List.map_eq_nil_iff.mp hUid.symm
      rw [String.toList_eq_nil_iff.mp hEmpty] at hKey
      exact hKey rfl

end Recipe

/-
  An answer to the listing request chooses a URL: the listing
  has a recipe with the key as its uid, and the first of these
  has that URL to switch it.
-/
def Chooses
    (answer : Http.Answer)
    (key : String)
    (on : Bool)
    (url : String) : Prop :=
  ∃ recipes recipe,
    Recipe.IsListing answer recipes ∧
      Recipe.IsFirstMatch key recipes recipe ∧
        recipe.uid ≠ "" ∧ recipe.Switches on url

/- What is chosen is what is looked up in the listing. -/
theorem chooses_iff
    {answer : Http.Answer}
    {recipes : List Recipe}
    {key url : String}
    {on : Bool}
    (hKey : Text.trim key ≠ "")
    (hListing : Recipe.ofAnswer answer = .ok recipes) :
    Chooses answer key on url ↔
      (Recipe.find? recipes key).bind (Recipe.action? · on) =
        some url := by
  rw [Option.bind_eq_some_iff]
  constructor
  · rintro ⟨others, recipe, hOthers, hFirst, -, hSwitches⟩
    rw [Recipe.isListing_iff, hListing] at hOthers
    cases hOthers
    exact
      ⟨recipe, Recipe.isFirstMatch_iff.mp hFirst,
        Recipe.switches_iff.mp hSwitches⟩
  · rintro ⟨recipe, hFound, hAction⟩
    have hFirst := Recipe.isFirstMatch_iff.mpr hFound
    exact
      ⟨recipes, recipe, Recipe.isListing_iff.mpr hListing,
        hFirst, hFirst.uid_ne_empty hKey,
        Recipe.switches_iff.mpr hAction⟩

------------------------------------------------------------
-- Steps
------------------------------------------------------------

/- The request for the listing of recipes. -/
def Config.listingRequest (config : Config) : Http.Request :=
  .get (Endpoint.recipes.url config.brainUrl)

/- The request that executes what was chosen. -/
def Config.actionRequest
    (config : Config)
    (url : String) :
    Http.Request :=
  .get (resolveAction config.brainUrl url)

namespace Connection

variable {connection : Connection}

/-
  How the command begins: it fails without a key or without a
  transport, else it asks for the listing.
-/
inductive Seeks
    (connection : Connection)
    (key : String)
    (on : Bool) : Connection × Progress → Prop where
| blank (hKey : Text.trim key = "") :
    Seeks connection key on
      (connection, .done (.error .noDeviceKey))
| bare
    (hKey : Text.trim key ≠ "")
    (hTransport : connection.session.transport = none) :
    Seeks connection key on
      (connection, .done (.error .noTransport))
| asks
    (transport : TransportId)
    (hKey : Text.trim key ≠ "")
    (hTransport :
      connection.session.transport = some transport) :
    Seeks connection key on
      (connection.ask
        (transport, connection.config.listingRequest)
        (.listingRecipes transport key on))

theorem seeks_beginRecipe
    (connection : Connection)
    (key : String)
    (on : Bool) :
    connection.Seeks key on (connection.beginRecipe key on) := by
  unfold beginRecipe
  split
  · rename_i hBlank
    exact .blank ((Text.isBlankText_iff key).mp hBlank)
  · rename_i hBlank
    rw [Text.isBlankText_iff] at hBlank
    unfold askInSession Session.send?
    cases hTransport : connection.session.transport with
    | none => exact .bare hBlank hTransport
    | some transport => exact .asks transport hBlank hTransport

/-
  How it goes on with the answer: it fails without a listing,
  asks for the URL that was chosen, or is over if none was.
-/
inductive Decides
    (connection : Connection)
    (transport : TransportId)
    (key : String)
    (on : Bool)
    (answer : Http.Answer) : Connection × Progress → Prop where
| fails
    (cause : Cause)
    (hListing : ∀ recipes, ¬ Recipe.IsListing answer recipes) :
    Decides connection transport key on answer
      (connection, .done (.error cause))
| rests
    (recipes : List Recipe)
    (hListing : Recipe.IsListing answer recipes)
    (hNone : ∀ url, ¬ Chooses answer key on url) :
    Decides connection transport key on answer
      (connection, .over)
| asks
    (recipes : List Recipe)
    (url : String)
    (hListing : Recipe.IsListing answer recipes)
    (hChooses :
      ∀ other, Chooses answer key on other ↔ url = other) :
    Decides connection transport key on answer
      (connection.ask
        (transport, connection.config.actionRequest url)
        .runningRecipe)

theorem decides_afterListing
    (connection : Connection)
    (transport : TransportId)
    {key : String}
    (hKey : Text.trim key ≠ "")
    (on : Bool)
    (answer : Http.Answer) :
    connection.Decides transport key on answer
      (connection.afterListing transport key on answer) := by
  unfold afterListing
  cases hAnswer : Recipe.ofAnswer answer with
  | error cause =>
      apply Decides.fails cause
      intro recipes hListing
      cases hAnswer.symm.trans (Recipe.isListing_iff.mp hListing)
  | ok recipes =>
      have hListing := Recipe.isListing_iff.mpr hAnswer
      have hChosen (url : String) :
          Chooses answer key on url ↔
            (Recipe.find? recipes key).bind
                (Recipe.action? · on) =
              some url :=
        chooses_iff hKey hAnswer
      dsimp only
      cases hFound : Recipe.find? recipes key with
      | none =>
          apply Decides.rests recipes hListing
          intro url hChooses
          rw [hChosen, hFound] at hChooses
          cases hChooses
      | some recipe =>
          dsimp only
          cases hAction : recipe.action? on with
          | none =>
              apply Decides.rests recipes hListing
              intro url hChooses
              rw [hChosen, hFound, Option.bind_some,
                hAction] at hChooses
              cases hChooses
          | some url =>
              apply Decides.asks recipes url hListing
              intro other
              rw [hChosen, hFound, Option.bind_some, hAction,
                Option.some_inj]

end Connection

------------------------------------------------------------
-- Executions
------------------------------------------------------------

/-
  What the command to execute a recipe comes to. It fails
  without any request if the key is blank, or if there is no
  transport. Otherwise it requests the listing, and after it
  the URL that the answer chooses, if it chooses one. It ends
  well if and only if the answer was a listing, and that to
  the second request, if there was one, has status 200.
-/
inductive Executes
    (config : Config)
    (session : Session)
    (key : String)
    (on : Bool)
    (listing action : Http.Answer) : Account → Prop where
| blank (hKey : Text.trim key = "") :
    Executes config session key on listing action
      ⟨[], some (.error .noDeviceKey)⟩
| bare
    (hKey : Text.trim key ≠ "")
    (hTransport : session.transport = none) :
    Executes config session key on listing action
      ⟨[], some (.error .noTransport)⟩
| asks
    (hKey : Text.trim key ≠ "")
    (hTransport : session.transport ≠ none)
    (second : Option Http.Request)
    (result : Outcome Product)
    (hSecond :
      ∀ request,
        second = some request ↔
          ∃ url,
            Chooses listing key on url ∧
              request = config.actionRequest url)
    (hResult :
      (∃ product, result = .ok product) ↔
        (∃ recipes, Recipe.IsListing listing recipes) ∧
          (second ≠ none → ∃ body, action = .ok ⟨200, body⟩)) :
    Executes config session key on listing action
      ⟨config.listingRequest :: second.toList, some result⟩

section Endings

variable {config : Config}
variable {session : Session}
variable {key : String}
variable {on : Bool}
variable {connection before : Connection}
variable {transport : TransportId}
variable {step : Connection × Progress}
variable {past : List Occurrence}
variable {listing : Http.Answer}

/- With the answer to the second request it is over. -/
theorem executes_of_action
    (hKey : Text.trim key ≠ "")
    (hTransport : session.transport ≠ none)
    {recipes : List Recipe}
    {url : String}
    (hListing : Recipe.IsListing listing recipes)
    (hChooses :
      ∀ other, Chooses listing key on other ↔ url = other)
    (second : Arrival) :
    Executes config session key on listing second.answer
      ⟨[config.listingRequest, config.actionRequest url],
        some
          ((Http.accept second.answer).map
            fun _ => .nothing)⟩ := by
  refine
    .asks hKey hTransport (some (config.actionRequest url)) _
      ?_ ?_
  · intro request
    simp only [hChooses, exists_eq_left', Option.some_inj,
      eq_comm]
  · constructor
    · rintro ⟨product, hResult⟩
      refine ⟨⟨recipes, hListing⟩, fun _ => ?_⟩
      cases hAnswer : Http.accept second.answer with
      | error cause =>
          rw [hAnswer] at hResult
          cases hResult
      | ok body =>
          exact ⟨body, Http.accept_eq_ok_iff.mp hAnswer⟩
    · rintro ⟨-, hSecond⟩
      rcases hSecond (Option.some_ne_none _) with
        ⟨body, hAnswer⟩
      rw [Http.accept_eq_ok_iff.mpr hAnswer]
      exact ⟨_, rfl⟩

/- How it ends once the first answer has arrived. -/
theorem executes_of_decides
    (hKey : Text.trim key ≠ "")
    (hTransport : session.transport ≠ none)
    (hConfig : before.config = config)
    (hDecides : before.Decides transport key on listing step)
    (second : Arrival) :
    Executes config session key on listing second.answer
      (let account :=
        connection.follow past before step [second]
      ⟨config.listingRequest :: account.requests,
        account.result⟩) := by
  cases hDecides with
  | fails cause hListing =>
      rw [Connection.follow_done]
      refine .asks hKey hTransport none _ ?_ ?_
      · intro request
        constructor
        · nofun
        · rintro ⟨url, ⟨recipes, recipe, hRecipes, -⟩, -⟩
          exact (hListing recipes hRecipes).elim
      · constructor
        · nofun
        · rintro ⟨⟨recipes, hRecipes⟩, -⟩
          exact (hListing recipes hRecipes).elim
  | rests recipes hListing hNone =>
      unfold Progress.over
      rw [Connection.follow_done]
      refine .asks hKey hTransport none _ ?_ ?_
      · intro request
        constructor
        · nofun
        · rintro ⟨url, hChooses, -⟩
          exact (hNone url hChooses).elim
      · exact
          ⟨fun _ => ⟨⟨recipes, hListing⟩, nofun⟩,
            fun _ => ⟨_, rfl⟩⟩
  | asks recipes url hListing hChooses =>
      rw [Connection.follow_ask]
      unfold Connection.resume Connection.conclude
      dsimp only
      rw [Connection.follow_done, hConfig]
      exact
        executes_of_action hKey hTransport hListing hChooses
          second

end Endings

/-
  Whatever has happened before a command to execute a recipe,
  and whatever happens until its answers arrive: it requests
  the listing and, if the first recipe with the key as its uid
  has a URL for what is wanted, that URL and nothing else.
-/
theorem executes_first_match
    {config : Config}
    {drive : Drive}
    {connection : Connection}
    (hNew : Connection.new config drive = .ok connection)
    (past : List Occurrence)
    (world : World)
    (key : String)
    (on : Bool)
    (first second : Arrival) :
    Executes config (replay connection past).connection.session
      key on first.answer second.answer
      (connection.account past world (.executeRecipe key on)
        [first, second]) := by
  have hConfig (past : List Occurrence) :
      (replay connection past).connection.config = config :=
    (tidy_replay hNew past).sameConfig
  have hSeeks :=
    (replay connection past).connection.seeks_beginRecipe key on
  unfold Connection.account Connection.obey
  dsimp only
  generalize
    (replay connection past).connection.beginRecipe key on =
      step at hSeeks ⊢
  cases hSeeks with
  | blank hKey =>
      rw [Connection.follow_done]
      exact .blank hKey
  | bare hKey hTransport =>
      rw [Connection.follow_done]
      exact .bare hKey hTransport
  | asks transport hKey hTransport =>
      rw [Connection.follow_ask, hConfig]
      apply executes_of_decides hKey _ (hConfig _)
      · exact
          Connection.decides_afterListing _ transport hKey on _
      · rw [hTransport]
        exact Option.some_ne_none _

namespace Sample

/- A brain lists both recipes, before anything else happens. -/
def listingArrives : Arrival where
  since := []
  world := world
  answer :=
    .ok ⟨200, (Recipe.listed [radio, television]).toText⟩

/- It executes one of them while the connection is closed. -/
def actionArrives : Arrival where
  since := [.command world .close]
  world := world
  answer := .ok ⟨200, ""⟩

/- The television is switched on by the first of its URLs. -/
theorem chooses_television :
    Chooses listingArrives.answer "6242-ABC" true
      "/v1/api/recipes/6242/execute" := by
  refine ⟨[radio, television], television, ?_, ?_, ?_, ?_⟩
  · exact
      ⟨_, rfl,
        Recipe.ofListing_toText (Recipe.legible_listed _)
          (Recipe.ofValueListing?_listed _)⟩
  · exact .intro [radio] [] television (by decide) (by decide)
  · decide
  · exact ⟨_, rfl, rfl, by decide⟩

end Sample

/- A television is switched on, whatever the case of its key. -/
theorem executes_television :
    ∃ product,
      Sample.connection.account Sample.undisturbed Sample.world
          (.executeRecipe "6242-ABC" true)
          [Sample.listingArrives, Sample.actionArrives] =
        ⟨[ .get
              "http://192.168.1.20:3000/v1/projects/home/recipes",
            .get
              "http://192.168.1.20:3000/v1/api/recipes/6242/execute"
          ],
          some (.ok product)⟩ := by
  have hTransport :
      (replay Sample.connection
            Sample.undisturbed).connection.session.transport ≠
          none := by
    decide +kernel
  have hExecutes :=
    executes_first_match Sample.new_connection
      Sample.undisturbed Sample.world "6242-ABC" true
      Sample.listingArrives Sample.actionArrives
  generalize
    Sample.connection.account Sample.undisturbed Sample.world
        (.executeRecipe "6242-ABC" true)
        [Sample.listingArrives, Sample.actionArrives] =
      account at hExecutes ⊢
  cases hExecutes with
  | blank hKey => exact absurd hKey (by decide)
  | bare hKey hNone => exact (hTransport hNone).elim
  | asks hKey _ second result hSecond hResult =>
      rcases Sample.chooses_television with
        ⟨recipes, recipe, hListing, -⟩
      rcases
          hResult.mpr
            ⟨⟨recipes, hListing⟩, fun _ => ⟨"", rfl⟩⟩ with
        ⟨product, rfl⟩
      refine ⟨product, ?_⟩
      rw [(hSecond _).mpr ⟨_, Sample.chooses_television, rfl⟩]
      rfl

end BrainLink
