import BrainLink.Proofs.Steady

/-
  Where a brain calls back: at an address that was found, at
  the port of the configuration, and nowhere else.

  Key definitions include:
    * `CallsBack`
    * `foundAddresses`
    * `Config.CallsHome`
    * `Errand.namesUrl`
    * `Situation.Names`
    * `KeepsAuthority`

  Main statements:
    * `Config.exists_callsBack`
    * `Situation.Sound.url_origin`
    * `Situation.Sound.names_of_mem_lines`
    * `Situation.Sound.asks_of_address`
    * `callbacks_keep_authority`

  Neither the id of a brain nor the path of a configuration
  can change the address or the port, or keep the URL from
  being built. A session only ever knows a URL that an attempt
  has built for an address that it found, and no other URL is
  in any request about a registration.
-/

namespace BrainLink

------------------------------------------------------------
-- Callbacks
------------------------------------------------------------

/-
  A text that leads whoever calls it back to an address and a
  port, and to some path there.
-/
def CallsBack
    (address : Address)
    (port : UInt16)
    (text : String) : Prop :=
  ∃ url : Url,
    Url.parse text.toList = .ok url ∧
      url.LeadsTo address port ∧
        url.path.head? = some '/'

namespace Config

/- Whatever the configuration, it can be called back. -/
theorem exists_callsBack
    (config : Config)
    (address : Address)
    (port : UInt16) :
    ∃ text,
      BrainLink.callbackUrl address port config.callbackPath =
          .ok text ∧
        CallsBack address port text := by
  rcases config.exists_callbackPath with ⟨rest, hRest⟩
  rcases exists_callbackUrl address port hRest with
    ⟨url, hUrl, hAt, -⟩
  rcases hAt.normalPath_eq with ⟨segments, hPath, -⟩
  refine ⟨url.toText, hUrl, url, ?_, hAt.leadsTo, ?_⟩
  · rw [Url.toText, String.toList_ofList]
    exact hAt.parse_toChars
  · rw [hPath]
    rfl

theorem callsBack_of_callbackUrl
    {config : Config}
    {address : Address}
    {text : String}
    (hText : config.callbackUrl address = .ok text) :
    CallsBack address config.callbackPort text := by
  rcases config.exists_callsBack address config.callbackPort
    with ⟨other, hOther, hCallsBack⟩
  cases hText.symm.trans hOther
  exact hCallsBack

end Config

------------------------------------------------------------
-- Addresses Found
------------------------------------------------------------

/- The addresses that could be found so far, latest first. -/
def foundAddresses (past : List Occurrence) : List Address :=
  past.filterMap fun occurrence =>
    occurrence.world?.bind World.address

/- A text calls back an address that was found. -/
def Config.CallsHome
    (config : Config)
    (past : List Occurrence)
    (text : String) : Prop :=
  ∃ address ∈ foundAddresses past,
    CallsBack address config.callbackPort text

/- An address that was found stays so. -/
theorem Config.CallsHome.later
    {config : Config}
    {past : List Occurrence}
    {text : String}
    (h : config.CallsHome past text)
    (occurrence : Occurrence) :
    config.CallsHome (occurrence :: past) text := by
  rcases h with ⟨address, hFound, hCallsBack⟩
  have hLater :
      foundAddresses past ⊆
        foundAddresses (occurrence :: past) :=
    List.filterMap_subset _ (List.subset_cons_self _ _)
  exact ⟨address, hLater hFound, hCallsBack⟩

namespace Connection

/- The URL that an attempt begins with is that of its address. -/
theorem url_of_beginAttempt
    {config : Config}
    {connection : Connection}
    {world : World}
    {task : TaskId}
    {url : String}
    (hTidy : connection.Tidy config)
    (hUrl :
      (connection.beginAttempt world
          task).1.session.callbackUrl =
        some url) :
    ∃ address,
      world.address = some address ∧
        config.callbackUrl address = .ok url := by
  have hConfig := (hTidy.goOffline world).sameConfig
  have hGone (later : Connection) :
      (later.giveUp world task).session.callbackUrl ≠
        some url := by
    rw [(lowered_giveUp world task later).offline.url]
    nofun
  rw [beginAttempt_eq] at hUrl
  generalize connection.goOffline world = offline
    at hUrl hConfig
  dsimp only at hUrl
  split at hUrl
  · split at hUrl
    · rw [(lowered_goOffline world _).offline.url] at hUrl
      cases hUrl
    · rename_i address hAddress
      refine ⟨address, hAddress, ?_⟩
      rw [← hConfig]
      unfold useAddress at hUrl
      split at hUrl
      · rename_i cause hCause
        rw [failAttempt_eq
          (Or.inl (isRetryable_of_callbackUrl hCause))] at hUrl
        exact absurd hUrl (hGone _)
      · rename_i text hText
        dsimp only at hUrl
        split at hUrl
        · rename_i hCancelled
          rw [failAttempt_eq (Or.inr hCancelled)] at hUrl
          exact absurd hUrl (hGone _)
        · have hSame : some text = some url := hUrl
          cases hSame
          exact hText
  · rw [failAttempt_eq (Or.inl rfl)] at hUrl
    exact absurd hUrl (hGone _)

end Connection

namespace Situation

section Origin

variable {config : Config}
variable {before after : Situation}
variable {occurrence : Occurrence}
variable {url : String}

/-
  A session that knows a URL knew it before, or the occurrence
  has found the address that the URL is for.
-/
theorem Sound.url_origin
    (h : before.Sound config)
    (hUrl :
      (before.after
          occurrence).connection.session.callbackUrl =
        some url) :
    before.connection.session.callbackUrl = some url ∨
      ∃ world address,
        occurrence.world? = some world ∧
          world.address = some address ∧
            config.callbackUrl address = .ok url := by
  have hTurn := h.turn_after occurrence
  generalize hAfter : before.after occurrence = after
    at hTurn hUrl
  cases hTurn with
  | idle _ _ hIdles hPasses hRequests =>
      rw [hIdles.connection.session] at hUrl
      exact Or.inl hUrl
  | starts hHeld hOpen =>
      have hScheduled :=
        before.connection.rearranges_scheduleConnect
      rcases hScheduled.exists_session with
        ⟨connect, check, hSession⟩
      rw [hSession] at hUrl
      exact Or.inl hUrl
  | drops => exact Or.inl hUrl
  | opens world task known hTask hJob hLive result hResult
      hOpening =>
      have hMoves :
          before.moves? (.run world task) = some task := by
        simp [moves?, hasTask, hTask, hLive, hJob]
      have hSession :
          (before.after (.run world task)).connection.session =
            ((before.connection.beginRun task).beginAttempt
              world task).1.session := by
        rw [after_run hMoves]
        unfold proceed
        split <;> rfl
      rw [← hAfter, hSession] at hUrl
      rcases
          Connection.url_of_beginAttempt
            (h.tidy.beginRun task) hUrl with
        ⟨address, hAddress, hBuilt⟩
      exact Or.inr ⟨world, address, rfl, hAddress, hBuilt⟩
  | advances world request errand answer task hMember hAttempt
      result hResult hAdvance =>
      cases hAdvance with
      | registers other transport later again hKeeps hKnown =>
          exact Or.inl (hKeeps.url.symm.trans hUrl)
      | fetches other transport later again hKeeps hCalm =>
          exact Or.inl (hKeeps.url.symm.trans hUrl)
      | falls _ other later _ hLowered hRenewed =>
          cases hLowered.offline.url.symm.trans hUrl
      | flickers other transport hCalm hRaised hFallen
          hRenewed =>
          cases hFallen.offline.url.symm.trans hUrl
      | rises other transport later hCalm hRisen =>
          exact Or.inl (hRisen.url.symm.trans hUrl)
  | fails world task isReachable later hMember hLater hLowered
      hRenewed =>
      cases hLowered.offline.url.symm.trans hUrl
  | parts world transport request hOpen hParting =>
      exact Or.inl hUrl
  | closes world hOpen hParting =>
      have hEnded :=
        before.connection.shut.ended_endClose world
      cases hEnded.offline.url.symm.trans hUrl
  | concludes world request answer hMember =>
      have hEnded := before.connection.ended_endClose world
      cases hEnded.offline.url.symm.trans hUrl

end Origin

end Situation

------------------------------------------------------------
-- Requests
------------------------------------------------------------

/- Whether an errand is about a registration. -/
def Errand.namesUrl : Errand → Bool
| .unregistering _ _ => true
| .registering _ _ => true
| .closing => true
| _ => false

/- Errands of ordinary commands are about none. -/
theorem Errand.IsOrdinary.namesUrl
    {errand : Errand}
    (h : errand.IsOrdinary) :
    errand.namesUrl = false := by
  cases errand with
  | unregistering task transport => cases h.1
  | registering task transport => cases h.1
  | closing => exact absurd rfl h.2
  | _ => rfl

namespace Situation

section Requests

variable {config : Config}
variable {before : Situation}
variable {occurrence : Occurrence}
variable {request : Http.Request}
variable {errand : Errand}

/- A request about a registration, for a URL of the session. -/
def Names
    (config : Config)
    (situation : Situation)
    (request : Http.Request) : Prop :=
  ∃ endpoint url,
    request = (Registrar.ofConfig config).request endpoint url ∧
      situation.connection.session.callbackUrl = some url

/- A farewell is for the URL that was known before. -/
theorem Sound.names_of_partingRequests
    (h : before.Sound config)
    (hMember :
      request ∈ (before.atClose occurrence).partingRequests) :
    before.Names config request := by
  have hUrl {url : String}
      (hKnown :
        (before.atClose occurrence).session.callbackUrl =
          some url) :
      before.connection.session.callbackUrl = some url := by
    unfold atClose at hKnown
    split at hKnown
    · exact hKnown
    · split at hKnown
      · exact hKnown
      · cases hKnown
    · cases hKnown
  unfold Connection.partingRequests Connection.parting
    at hMember
  split at hMember
  · rename_i url transport hKnown hTransport
    refine ⟨.unregister, url, ?_, hUrl hKnown⟩
    rw [List.mem_singleton.mp hMember, Connection.registrar,
      config_atClose, h.tidy.sameConfig]
  · cases hMember

/- What is asked is for the URL known before or afterwards. -/
theorem Sound.names_of_mem_asks
    (h : before.Sound config)
    (hMember :
      .asked request errand ∈ before.asks occurrence)
    (hErrand : errand.namesUrl = true) :
    before.Names config request ∨
      (before.after occurrence).Names config request := by
  cases asks_of_mem hMember with
  | obeys world command _ hMember =>
      by_cases hClose : command = .close
      · subst hClose
        rcases Connection.question_beginClose hMember with
          ⟨-, sending, hParting, hSame⟩
        cases hSame
        have hAtClose :
            sending.2 ∈
              (before.atClose
                (.command world .close)).partingRequests := by
          simp [atClose, Connection.partingRequests, hParting]
        exact Or.inl (h.names_of_partingRequests hAtClose)
      · have hOrdinary :=
          Progress.isOrdinary_of_mem
            (Connection.idles_obey world before.connection
              hClose).2
            hMember
        cases hOrdinary.namesUrl.symm.trans hErrand
  | begins world task _ hMoves hMember =>
      have hBegins :=
        Connection.begins_beginAttempt world task
          (before.connection.beginRun task)
      have hSame :=
        ((h.tidy.beginRun task).goOffline world).sameConfig
      rw [after_run hMoves]
      generalize
        (before.connection.beginRun task).beginAttempt world
          task = result at hMember hBegins ⊢
      cases hBegins with
      | asks url hCalm =>
          cases List.mem_singleton.mp hMember
          refine Or.inr ⟨.unregister, url, ?_, rfl⟩
          rw [Connection.registrar, hSame]
      | _ => cases hMember
  | goesOn world earlier other answer _ hWaits hMember =>
      cases hAttempt : other.attempt? with
      | some task =>
          have hReplies :=
            Connection.replies_resume world answer
              before.connection hAttempt
          generalize
            before.connection.resume world other answer = result
              at hMember hReplies
          cases hReplies with
          | registers another transport sender url hUrl =>
              cases List.mem_singleton.mp hMember
              refine Or.inl ⟨.register, url, ?_, hUrl⟩
              rw [Connection.registrar, h.tidy.sameConfig]
          | fetches another transport body hAnswer hCalm =>
              cases List.mem_singleton.mp hMember
              cases hErrand
          | _ => cases hMember
      | none =>
          by_cases hClosing : other = .closing
          · subst hClosing
            cases hMember
          · have hOrdinary :=
              Progress.isOrdinary_of_mem
                (Connection.idles_resume world answer
                  before.connection ⟨hAttempt, hClosing⟩).2
                hMember
            cases hOrdinary.namesUrl.symm.trans hErrand

/- So is all that is asked in the course of an occurrence. -/
theorem Sound.names_of_mem_lines
    (h : before.Sound config)
    (hMember :
      .asked request errand ∈
        before.lines (before.after occurrence) occurrence)
    (hErrand : errand.namesUrl = true) :
    before.Names config request ∨
      (before.after occurrence).Names config request := by
  rcases List.mem_append.mp hMember with hAsked | hOther
  · exact h.names_of_mem_asks hAsked hErrand
  · rcases List.mem_append.mp hOther with hAside | hHeard
    · have hBids := (exists_of_mem_asides hAside).2
      rw [h.bids_eq (h.turn_after occurrence)] at hBids
      split at hBids
      · exact Or.inl (h.names_of_partingRequests hBids)
      · cases hBids
    · rcases exists_of_mem_hears hHeard with
        ⟨world, earlier, other, answer, -, -, hSame⟩
      cases hSame

end Requests

end Situation

------------------------------------------------------------
-- Courses
------------------------------------------------------------

section Replay

variable {config : Config}
variable {drive : Drive}
variable {connection : Connection}

/- A session knows no URL but of an address that was found. -/
theorem callsHome_replay
    (hNew : Connection.new config drive = .ok connection)
    (past : List Occurrence)
    {url : String}
    (hUrl :
      (replay connection past).connection.session.callbackUrl =
        some url) :
    config.CallsHome past url := by
  induction past with
  | nil =>
      unfold Connection.new at hNew
      split at hNew
      · cases hNew
      · cases hNew
        cases hUrl
  | cons occurrence past ih =>
      rcases (sound_replay hNew past).url_origin hUrl with
        hKnown | ⟨world, address, hWorld, hAddress, hBuilt⟩
      · exact (ih hKnown).later occurrence
      · refine
          ⟨address, ?_, Config.callsBack_of_callbackUrl hBuilt⟩
        apply List.mem_filterMap.mpr
        refine ⟨occurrence, List.mem_cons_self, ?_⟩
        rw [hWorld]
        exact hAddress

/- Nor is any other in a request about a registration. -/
theorem callsHome_of_mem_dialogue
    (hNew : Connection.new config drive = .ok connection)
    {past : List Occurrence}
    {request : Http.Request}
    {errand : Errand}
    (hMember :
      .asked request errand ∈ dialogue connection past)
    (hErrand : errand.namesUrl = true) :
    ∃ endpoint url,
      request =
          (Registrar.ofConfig config).request endpoint url ∧
        config.CallsHome past url := by
  induction past with
  | nil => cases hMember
  | cons occurrence past ih =>
      rcases List.mem_append.mp hMember with hLate | hEarly
      · rcases
            (sound_replay hNew past).names_of_mem_lines hLate
              hErrand with
          hBefore | hAfter
        · rcases hBefore with ⟨endpoint, url, hSame, hUrl⟩
          have hHome := callsHome_replay hNew past hUrl
          exact
            ⟨endpoint, url, hSame, hHome.later occurrence⟩
        · rcases hAfter with ⟨endpoint, url, hSame, hUrl⟩
          have hHome :=
            callsHome_replay hNew (occurrence :: past) hUrl
          exact ⟨endpoint, url, hSame, hHome⟩
      · rcases ih hEarly with ⟨endpoint, url, hSame, hHome⟩
        exact ⟨endpoint, url, hSame, hHome.later occurrence⟩

end Replay

------------------------------------------------------------
-- Attempts
------------------------------------------------------------

/-
  An attempt that has a transport and an address asks, unless
  it is cancelled by those who are told that it is offline.
-/
theorem Situation.Sound.asks_of_address
    {config : Config}
    {before : Situation}
    (h : before.Sound config)
    {world : World}
    {task : TaskId}
    {address : Address}
    (hMoves : before.moves? (.run world task) = some task)
    (hCreates : world.creates = true)
    (hAddress : world.address = some address)
    (hCalm :
      ((before.connection.beginRun task).goOffline
          world).isCancelled task =
        false) :
    ∃ url transport,
      CallsBack address config.callbackPort url ∧
        .asked
            ((Registrar.ofConfig config).request .unregister
              url)
            (.unregistering task transport) ∈
          before.asks (.run world task) := by
  rcases config.exists_url address with ⟨url, hUrl⟩
  have hSame :=
    ((h.tidy.beginRun task).goOffline world).sameConfig
  have hBegins :=
    Connection.beginAttempt_of_address hCreates hAddress hCalm
      ((congrArg (Config.callbackUrl · address) hSame).trans
        hUrl)
  rcases exists_of_moves?_run hMoves with
    ⟨-, known, hKnown, hLive, hJob⟩
  rcases Connection.exists_task?_beginRun hKnown with
    ⟨stage, hBegun⟩
  have hRuns : before.hasTask task Task.isLive = true := by
    simp [hasTask, hKnown, hLive]
  unfold asks
  simp only [step?, if_pos hRuns, Option.elim_some]
  rw [Connection.runJob_of_connect world hBegun hJob, hBegins,
    Connection.registrar, hSame]
  exact
    ⟨ url, _, Config.callsBack_of_callbackUrl hUrl,
      List.mem_singleton.mpr rfl ⟩

------------------------------------------------------------
-- Authority
------------------------------------------------------------

/-
  What has become of the URL in the course of a connection so
  far. An attempt that finds an address goes on with its URL,
  and neither the session nor a request has another one.
-/
structure KeepsAuthority
    (config : Config)
    (connection : Connection)
    (past : List Occurrence) : Prop where
  attempts :
    ∀ world task address,
      (replay connection past).moves? (.run world task) =
          some task →
        world.creates = true →
          world.address = some address →
            (((replay connection past).connection.beginRun
                  task).goOffline world).isCancelled task =
                false →
              ∃ url transport,
                CallsBack address config.callbackPort url ∧
                  .asked
                      ((Registrar.ofConfig config).request
                        .unregister url)
                      (.unregistering task transport) ∈
                    (replay connection past).asks
                      (.run world task)
  session :
    ∀ url,
      (replay connection past).connection.session.callbackUrl =
          some url →
        config.CallsHome past url
  requests :
    ∀ request errand,
      .asked request errand ∈ dialogue connection past →
        errand.namesUrl = true →
          ∃ endpoint url,
            request =
                (Registrar.ofConfig config).request endpoint
                  url ∧
              config.CallsHome past url

/-
  For every address, every port and every configuration there
  is a callback URL, and it leads to that address and that
  port. So nothing in a configuration stops an attempt or sends
  the brain elsewhere, whatever happens to the connection.
-/
theorem callbacks_keep_authority (config : Config) :
    (∀ address port,
      ∃ text,
        callbackUrl address port config.callbackPath =
            .ok text ∧
          CallsBack address port text) ∧
      ∀ drive connection,
        Connection.new config drive = .ok connection →
          ∀ past, KeepsAuthority config connection past := by
  refine ⟨config.exists_callsBack, ?_⟩
  intro drive connection hNew past
  have hSound := sound_replay hNew past
  exact
    { attempts := fun _ _ _ => hSound.asks_of_address
      session := fun _ => callsHome_replay hNew past
      requests := fun _ _ => callsHome_of_mem_dialogue hNew }

/- The URL of an undisturbed attempt leads to its adapter. -/
theorem keeps_authority_undisturbed :
    Connection.new Sample.config .hand =
        .ok Sample.connection ∧
      (replay Sample.connection
            Sample.undisturbed).connection.session.callbackUrl =
          some Sample.url ∧
        Sample.config.CallsHome Sample.undisturbed
          Sample.url := by
  have hKnown :
      (replay Sample.connection
            Sample.undisturbed).connection.session.callbackUrl =
          some Sample.url := by
    decide +kernel
  have hKeeps :=
    (callbacks_keep_authority Sample.config).2 .hand
      Sample.connection Sample.new_connection
      Sample.undisturbed
  exact
    ⟨Sample.new_connection, hKnown, hKeeps.session _ hKnown⟩

/- A path that looks like another host is a path. -/
example :
    { Sample.config with
        givenPath :=
          some "@192.0.2.1:1\\..\n#" }.callbackUrl
          (.four ⟨192, 168, 1, 5⟩) =
      .ok "http://192.168.1.5:8400/#" := by
  decide +kernel

end BrainLink
