import BrainLink.Proofs.Steady

/-
  What one attempt comes to that is neither cancelled nor
  disturbed.

  Key definitions include:
    * `Config.script`
    * `Http.Follows`
    * `Succeeds`
    * `Sends`
    * `Concludes`
    * `hearsAlone`
    * `Situation.Pursues`

  Main statements:
    * `Http.Follows.isPrefix`
    * `Situation.Sound.attemptState_run`
    * `Situation.Sound.attemptState_answer`
    * `attemptState_later`
    * `concludes_if_undisturbed`

  An attempt asks the brain to forget the URL, to learn it,
  and for the keys, one after the other, and stops at the
  first refusal. Whatever the state before it and whatever
  has failed then, the connection is online at its end if and
  only if the brain has learned the URL and told keys that can
  be read.
-/

namespace BrainLink

------------------------------------------------------------
-- Scripts
------------------------------------------------------------

/- What an attempt asks, if it is granted all. -/
def Config.script
    (config : Config)
    (url : String) :
    List Http.Request :=
  [ (Registrar.ofConfig config).request .unregister url,
    (Registrar.ofConfig config).request .register url,
    KeyCache.request config.brainUrl ]

/-
  Requests that were made in an order, each with its answer,
  up to the first that was not granted.
-/
inductive Http.Follows :
    List Request → List (Request × Answer) → Prop where
| ends : Follows [] []
| stops
    (request : Request)
    (answer : Answer)
    (rest : List Request)
    (hAnswer : isGranted answer = false) :
    Follows (request :: rest) [(request, answer)]
| goesOn
    (request : Request)
    (answer : Answer)
    (rest : List Request)
    (heard : List (Request × Answer))
    (hAnswer : isGranted answer = true)
    (hRest : Follows rest heard) :
    Follows (request :: rest) ((request, answer) :: heard)

/- They are the first of the script. -/
theorem Http.Follows.isPrefix
    {script : List Request}
    {heard : List (Request × Answer)}
    (h : Follows script heard) :
    heard.map Prod.fst <+: script := by
  induction h with
  | ends => exact List.prefix_refl _
  | stops request answer rest hAnswer =>
      exact ⟨rest, rfl⟩
  | goesOn request answer rest heard hAnswer hRest ih =>
      exact List.prefix_cons_inj request |>.mpr ih

------------------------------------------------------------
-- Outcomes
------------------------------------------------------------

/- A world with a transport, and with an address for a URL. -/
structure World.Offers
    (config : Config)
    (url : String)
    (world : World) : Prop where
  creates : world.creates = true
  address :
    ∃ address,
      world.address = some address ∧
        config.callbackUrl address = .ok url

/-
  All that it takes to come online: a transport, an address,
  a brain that learns the URL made of it, and keys in its
  project.
-/
structure Succeeds
    (config : Config)
    (world : World)
    (heard : List (Http.Request × Http.Answer))
    (url : String)
    (keys : DeviceKeys) : Prop
    extends world.Offers config url where
  learned :
    ∃ body,
      ((Registrar.ofConfig config).request .register url,
          .ok ⟨200, body⟩) ∈
        heard
  told :
    ∃ project,
      (KeyCache.request config.brainUrl,
            .ok ⟨200, project⟩) ∈
          heard ∧
        DeviceKeys.ofProject project = .ok keys

/-
  What an attempt sends: nothing without a transport or an
  address, else what the script says.
-/
structure Sends
    (config : Config)
    (world : World)
    (heard : List (Http.Request × Http.Answer))
    (before after : Connection) : Prop where
  requests :
    after.requests = before.requests ++ heard.map Prod.fst
  silent :
    world.creates = false ∨ world.address = none →
      heard = []
  follows :
    world.creates = true →
      world.address ≠ none →
        ∃ url,
          world.Offers config url ∧
            Http.Follows (config.script url) heard

/-
  How an attempt ends. It has succeeded, and the connection is
  online with the URL and the keys. Or it has not, and the
  connection is offline with the keys that it had, and another
  attempt is pending unless this one found no address.
-/
inductive Concludes
    (config : Config)
    (world : World)
    (heard : List (Http.Request × Http.Answer))
    (before after : Connection) : Prop where
| online
    (url : String)
    (keys : DeviceKeys)
    (hSucceeds : Succeeds config world heard url keys)
    (hFlag : after.session.isConnected = true)
    (hState : after.session.state = .connected)
    (hUrl : after.session.callbackUrl = some url)
    (hKeys : after.keys = keys)
| offline
    (hFails :
      ∀ url keys, ¬ Succeeds config world heard url keys)
    (hOffline : after.session.IsOffline)
    (hKeys : after.keys = before.keys)
    (hPending : after.hasPendingConnect = !world.strands)
    (hAwaits : world.strands = false → after.AwaitsConnect)

/- It is online exactly if it has succeeded. -/
theorem Concludes.isConnected_iff
    {config : Config}
    {world : World}
    {heard : List (Http.Request × Http.Answer)}
    {before after : Connection}
    (h : Concludes config world heard before after) :
    after.session.isConnected = true ↔
      ∃ url keys, Succeeds config world heard url keys := by
  cases h with
  | online url keys hSucceeds hFlag hState hUrl hKeys =>
      constructor
      · intro _
        exact ⟨url, keys, hSucceeds⟩
      · intro _
        exact hFlag
  | offline hFails hOffline hKeys hPending hAwaits =>
      constructor
      · intro hUp
        cases hOffline.flag.symm.trans hUp
      · rintro ⟨url, keys, hSucceeds⟩
        exact (hFails url keys hSucceeds).elim

/- Where nobody told the keys, nothing has succeeded. -/
theorem not_succeeds_of_posts
    {config : Config}
    {world : World}
    {heard : List (Http.Request × Http.Answer)}
    (hPosts : ∀ exchange ∈ heard, exchange.1.method = .post)
    (url : String)
    (keys : DeviceKeys) :
    ¬ Succeeds config world heard url keys := by
  intro hSucceeds
  rcases hSucceeds.told with ⟨project, hMember, -⟩
  cases hPosts _ hMember

/- What was told after two registrations is the last answer. -/
theorem eq_of_told
    {brainUrl project : String}
    {first second : Http.Request × Http.Answer}
    {answer : Http.Answer}
    (hFirst : first.1.method = .post)
    (hSecond : second.1.method = .post)
    (hMember :
      (KeyCache.request brainUrl, .ok ⟨200, project⟩) ∈
        [first, second, (KeyCache.request brainUrl, answer)]) :
    answer = .ok ⟨200, project⟩ := by
  simp only [List.mem_cons, List.not_mem_nil, or_false]
    at hMember
  rcases hMember with rfl | rfl | hLast
  · cases hFirst
  · cases hSecond
  · exact (congrArg Prod.snd hLast).symm

------------------------------------------------------------
-- Courses
------------------------------------------------------------

/- A request with its answer, if an occurrence is one. -/
def Occurrence.exchange? :
    Occurrence → Option (Http.Request × Http.Answer)
| .answer _ request _ reply => some (request, reply)
| _ => none

/- What was asked and answered, oldest first. -/
def exchanges
    (later : List Occurrence) :
    List (Http.Request × Http.Answer) :=
  (later.filterMap Occurrence.exchange?).reverse

/- Whether an occurrence is an answer that an attempt awaits. -/
def Situation.isAnswered
    (situation : Situation)
    (task : TaskId) :
    Occurrence → Bool
| .answer _ request errand _ =>
    errand.attempt? == some task &&
      decide (.asking request errand ∈ situation.waiting)
| _ => false

/-
  Whether an attempt, from some point of a course, is all that
  goes on: nothing happens but that it gets its answers, and
  it never finds itself cancelled.
-/
def hearsAlone
    (connection : Connection)
    (past : List Occurrence)
    (task : TaskId) :
    List Occurrence → Bool
| [] => true
| occurrence :: later =>
    let before := replay connection (later ++ past)
    hearsAlone connection past task later &&
      before.isAnswered task occurrence &&
        !(before.lastSeen occurrence).isCancelled task

theorem exchanges_cons
    (occurrence : Occurrence)
    (later : List Occurrence) :
    exchanges (occurrence :: later) =
      exchanges later ++ occurrence.exchange?.toList := by
  unfold exchanges
  rw [List.filterMap_cons]
  cases occurrence.exchange? with
  | none => simp
  | some exchange => simp

section Endings

variable {config : Config}
variable {world : World}
variable {url : String}
variable {heard : List (Http.Request × Http.Answer)}
variable {before middle after : Connection}

/- A world that offers an address does not strand anyone. -/
theorem World.Offers.strands
    (h : world.Offers config url) :
    world.strands = false := by
  rcases h.address with ⟨address, hAddress, -⟩
  simp [World.strands, hAddress]

/- What an attempt with an address sends, by its script. -/
theorem sends_of_follows
    (hOffers : world.Offers config url)
    (hFollows : Http.Follows (config.script url) heard)
    (hRequests :
      after.requests =
        before.requests ++ heard.map Prod.fst) :
    Sends config world heard before after where
  requests := hRequests
  silent hNone := by
    rcases hOffers.address with ⟨address, hAddress, -⟩
    rcases hNone with hNever | hNowhere
    · cases hOffers.creates.symm.trans hNever
    · cases hAddress.symm.trans hNowhere
  follows _ _ := ⟨url, hOffers, hFollows⟩

/- One that ends at once sends nothing. -/
theorem sends_of_none
    (hNone : world.creates = false ∨ world.address = none)
    (hRequests : after.requests = before.requests) :
    Sends config world [] before after where
  requests := hRequests.trans (List.append_nil _).symm
  silent _ := rfl
  follows hCreates hAddress := by
    rcases hNone with hNever | hNowhere
    · cases hCreates.symm.trans hNever
    · exact (hAddress hNowhere).elim

/- How an attempt ends that gives up. -/
theorem concludes_of_givesUp
    (hGivesUp : middle.GivesUp after)
    (hTidy : after.Tidy config)
    (hKeys : middle.keys = before.keys)
    (hStrands : world.strands = false)
    (hFails :
      ∀ url keys, ¬ Succeeds config world heard url keys) :
    Concludes config world heard before after := by
  have hPending := hGivesUp.awaits.hasPendingConnect hTidy
  refine
    .offline hFails hGivesUp.offline
      (hGivesUp.keys.trans hKeys) ?_
      fun _ => hGivesUp.awaits
  rw [hPending, hStrands]
  rfl

end Endings

namespace Situation

section Pursuit

variable {config : Config}
variable {world : World}
variable {task : TaskId}
variable {url : String}
variable {start : Connection}
variable {before : Situation}
variable {occurrence : Occurrence}
variable {heard : List (Http.Request × Http.Answer)}

------------------------------------------------------------
-- Phases
------------------------------------------------------------

/-
  How far an attempt has come that awaits an answer: the
  request, its errand, and what it has heard so far.
-/
inductive Phase
    (config : Config)
    (url : String)
    (task : TaskId) :
    Http.Request →
      Errand →
        List (Http.Request × Http.Answer) → Prop where
| forgets
    (sender : TransportId) :
    Phase config url task
      ((Registrar.ofConfig config).request .unregister url)
      (.unregistering task sender)
      []
| learns
    (sender : TransportId)
    (first : Http.Answer)
    (hFirst : Http.isGranted first = true) :
    Phase config url task
      ((Registrar.ofConfig config).request .register url)
      (.registering task sender)
      [ ((Registrar.ofConfig config).request .unregister url,
          first) ]
| tells
    (sender : TransportId)
    (first second : Http.Answer)
    (hFirst : Http.isGranted first = true)
    (hSecond : Http.isGranted second = true) :
    Phase config url task
      (KeyCache.request config.brainUrl)
      (.fetchingKeys task sender)
      [ ((Registrar.ofConfig config).request .unregister url,
          first),
        ((Registrar.ofConfig config).request .register url,
          second) ]

/-
  An attempt is under way, with the URL and the transport that
  it has found. No keys have changed since it began.
-/
structure Pursues
    (config : Config)
    (world : World)
    (url : String)
    (task : TaskId)
    (heard : List (Http.Request × Http.Answer))
    (start : Connection)
    (now : Situation) : Prop where
  offers : world.Offers config url
  awaits :
    ∃ request errand,
      Phase config url task request errand heard ∧
        .asking request errand ∈ now.waiting ∧
          now.connection.requests =
            start.requests ++ heard.map Prod.fst ++ [request]
  url : now.connection.session.callbackUrl = some url
  transport : now.connection.session.transport ≠ none
  keys : now.connection.keys = start.keys

/- An attempt pursues its way, or is at its end. -/
def AttemptState
    (config : Config)
    (world : World)
    (task : TaskId)
    (heard : List (Http.Request × Http.Answer))
    (start : Connection)
    (now : Situation) : Prop :=
  (∃ url, now.Pursues config world url task heard start) ∨
    task ∉ now.attempts ∧
      Sends config world heard start now.connection ∧
        Concludes config world heard start now.connection

/- An attempt awaits one answer at a time. -/
theorem Sound.eq_of_attempt
    (h : before.Sound config)
    {question other : Question}
    (hMember : question ∈ before.waiting)
    (hOther : other ∈ before.waiting)
    (hAttempt : question.attempt? = some task)
    (hSame : other.attempt? = some task) :
    other = question := by
  by_cases hIs : other = question
  · exact hIs
  · have hLeft : other ∈ before.waiting.erase question :=
      (List.mem_erase_of_ne hIs).mpr hOther
    exact
      (h.not_mem_erase hMember hAttempt before.connection
        (List.mem_filterMap.mpr ⟨other, hLeft, hSame⟩)).elim

/- Who pursues is not at the end. -/
theorem Pursues.mem_attempts
    (h : before.Pursues config world url task heard start) :
    task ∈ before.attempts := by
  rcases h.awaits with ⟨request, errand, hPhase, hWaits, -⟩
  apply Situation.mem_attempts hWaits
  cases hPhase <;> rfl

/- An answer that the attempt awaits is the one to its request. -/
theorem exists_of_isAnswered
    (hAnswered : before.isAnswered task occurrence = true) :
    ∃ world request errand answer,
      occurrence = .answer world request errand answer ∧
        errand.attempt? = some task ∧
          .asking request errand ∈ before.waiting := by
  cases occurrence with
  | answer world request errand answer =>
      simp only [isAnswered, Bool.and_eq_true, beq_iff_eq,
        decide_eq_true_eq] at hAnswered
      exact
        ⟨world, request, errand, answer, rfl, hAnswered.1,
          hAnswered.2⟩
  | _ => cases hAnswered

/- Who is not cancelled at its last look was not before. -/
theorem calm_of_lastSeen
    {world : World}
    {request : Http.Request}
    {errand : Errand}
    {answer : Http.Answer}
    (hErrand : errand.attempt? = some task)
    (hCalm :
      (before.lastSeen
          (.answer world request errand answer)).isCancelled
          task =
        false) :
    (before.connection.noted answer errand).isCancelled task =
      false := by
  unfold lastSeen at hCalm
  dsimp only at hCalm
  split at hCalm
  · rename_i hBrings
    cases errand with
    | fetchingKeys other transport =>
        cases hErrand
        simp only [Connection.bringsOnline, Bool.and_eq_true,
          Bool.not_eq_true'] at hBrings
        exact hBrings.1
    | _ => cases hBrings
  · exact hCalm

------------------------------------------------------------
-- Beginnings
------------------------------------------------------------

/-
  An attempt lowers the flag first. It is engaged then, and has
  asked nothing and read no keys.
-/
theorem Sound.engaged_run
    (h : before.Sound config)
    (hMoves : before.moves? (.run world task) = some task) :
    let down :=
      (before.connection.beginRun task).goOffline world
    task ∉ before.attempts ∧
      down.Engaged config task ∧
        down.requests = before.connection.requests ∧
          down.keys = before.connection.keys := by
  intro down
  rcases exists_of_moves?_run hMoves with
    ⟨-, known, hKnown, hLive, hJob⟩
  have hSuits := h.tidy.ledger.suits task known hKnown
  have hOnce : known.repetition = .once := by
    rw [hSuits.repetition, hJob]
    rfl
  rcases Connection.exists_task?_beginRun hKnown with
    ⟨stage, hBegun⟩
  refine
    ⟨(h.crew.not_mem_of_isLive hKnown hSuits hJob hLive).2,
      (h.tidy.beginRun task).engaged_goOffline
        ⟨_, hBegun, hJob⟩ world, ?_, ?_⟩
  · refine (Connection.lowered_goOffline world _).requests.trans ?_
    rw [Connection.beginRun_of_once hKnown hOnce]
    rfl
  · apply (Connection.enduring_hasKeys _).goOffline world
    rw [Connection.beginRun_of_once hKnown hOnce]
    rfl

/- What an attempt comes to at its beginning. -/
theorem Sound.attemptState_run
    (h : before.Sound config)
    (hMoves : before.moves? (.run world task) = some task)
    (hCalm :
      (before.lastSeen (.run world task)).isCancelled task =
        false) :
    (before.after (.run world task)).AttemptState config world
      task []
      before.connection := by
  rcases h.engaged_run hMoves with
    ⟨hIdle, hEngaged, hRequests, hKeys⟩
  have hTidy := tidy_after h.tidy (.run world task)
  change
    ((before.connection.beginRun task).goOffline
        world).isCancelled task =
      false at hCalm
  rw [after_run hMoves] at hTidy ⊢
  cases hCreates : world.creates with
  | false =>
      rcases Connection.beginAttempt_of_not_creates hCreates
          task (before.connection.beginRun task) with
        ⟨later, hPrepared, hBegins⟩
      rw [hBegins] at hTidy ⊢
      have hStill : later.isCancelled task = false := by
        unfold Connection.isCancelled
        rw [hPrepared.tasks]
        exact hCalm
      have hGivesUp :=
        (hPrepared.engaged hEngaged).givesUp hStill world
      refine Or.inr ⟨hIdle, ?_, ?_⟩
      · apply sends_of_none (Or.inl hCreates)
        exact
          hGivesUp.requests.trans
            (hPrepared.requests.trans hRequests)
      · apply
          concludes_of_givesUp hGivesUp hTidy
            (hPrepared.keys.trans hKeys)
        · simp [World.strands, hCreates]
        · exact
            not_succeeds_of_posts (List.forall_mem_nil _)
  | true =>
      cases hAddress : world.address with
      | none =>
          have hStrands : world.strands = true := by
            simp [World.strands, hCreates, hAddress]
          have hEnds := hEngaged.strands hCalm world
          rw [Connection.beginAttempt_of_strands hStrands]
          refine Or.inr ⟨hIdle, ?_, ?_⟩
          · exact
              sends_of_none (Or.inr hAddress)
                (hEnds.requests.trans hRequests)
          · refine
              .offline
                (not_succeeds_of_posts (List.forall_mem_nil _))
                hEnds.offline (hEnds.keys.trans hKeys) ?_ ?_
            · rw [hStrands]
              exact hEnds.pending
            · intro hNever
              cases hStrands.symm.trans hNever
      | some address =>
          rcases config.exists_url address with ⟨url, hUrl⟩
          rw [← hEngaged.tidy.sameConfig] at hUrl
          rw [Connection.beginAttempt_of_address hCreates
            hAddress hCalm hUrl]
          rw [hEngaged.tidy.sameConfig] at hUrl
          have hPrepared :
              ((before.connection.beginRun task).goOffline
                  world).Prepared
                (((before.connection.beginRun task).goOffline
                    world).equip.named url) :=
            .named url
          refine
            Or.inl
              ⟨url, ⟨hCreates, address, hAddress, hUrl⟩, ?_,
                rfl, Option.some_ne_none _, ?_⟩
          · unfold Connection.registrar
            rw [hEngaged.tidy.sameConfig]
            refine
              ⟨_, _, .forgets _, List.mem_cons_self .., ?_⟩
            refine (Connection.requests_record _ _).trans ?_
            rw [hPrepared.requests, hRequests]
            simp [Effect.request?]
          · exact hPrepared.keys.trans hKeys

------------------------------------------------------------
-- Answers
------------------------------------------------------------

section Answers

variable {inner : World}
variable {answer : Http.Answer}

/- Giving up in the midst of the script is an end. -/
theorem attemptState_of_givesUp
    {now : Situation}
    {middle : Connection}
    (hTidy : now.connection.Tidy config)
    (hGivesUp : middle.GivesUp now.connection)
    (hEnded : task ∉ now.attempts)
    (hOffers : world.Offers config url)
    (hFollows : Http.Follows (config.script url) heard)
    (hRequests :
      middle.requests = start.requests ++ heard.map Prod.fst)
    (hKeys : middle.keys = start.keys)
    (hFails :
      ∀ url keys, ¬ Succeeds config world heard url keys) :
    now.AttemptState config world task heard start := by
  refine Or.inr ⟨hEnded, ?_, ?_⟩
  · exact
      sends_of_follows hOffers hFollows
        (hGivesUp.requests.trans hRequests)
  · exact
      concludes_of_givesUp hGivesUp hTidy hKeys hOffers.strands
        hFails

/- The brain was asked to forget the URL. -/
theorem Sound.attemptState_of_forgets
    (h : before.Sound config)
    (hPursues : before.Pursues config world url task [] start)
    {sender : TransportId}
    (hWaits :
      .asking
          ((Registrar.ofConfig config).request .unregister url)
          (.unregistering task sender) ∈
        before.waiting)
    (hRequests :
      before.connection.requests =
        start.requests ++
          [(Registrar.ofConfig config).request .unregister url])
    (hCalm :
      before.connection.clearCheck.isCancelled task = false)
    (answer : Http.Answer) :
    AttemptState config world task
      [ ((Registrar.ofConfig config).request .unregister url,
          answer) ]
      start
      (before.after
        (.answer inner
          ((Registrar.ofConfig config).request .unregister url)
          (.unregistering task sender) answer)) := by
  have hTidy :=
    tidy_after h.tidy
      (.answer inner
        ((Registrar.ofConfig config).request .unregister url)
        (.unregistering task sender) answer)
  have hEngaged :=
    (h.engaged (Situation.mem_attempts hWaits rfl)).clearCheck
  rcases Option.ne_none_iff_exists'.mp hPursues.transport with
    ⟨transport, hTransport⟩
  simp only [Situation.after, if_pos hWaits] at hTidy ⊢
  rw [Connection.resume_unregistering hPursues.url hTransport]
    at hTidy ⊢
  cases hAnswer : Http.accept answer with
  | error cause =>
      rw [hAnswer] at hTidy
      have hRefused := Http.isGranted_of_error hAnswer
      have hGivesUp := hEngaged.givesUp hCalm inner
      apply
        attemptState_of_givesUp hTidy hGivesUp
          (h.not_mem_erase hWaits rfl _) hPursues.offers
          (.stops _ _ _ hRefused) hRequests hPursues.keys
      apply not_succeeds_of_posts
      intro exchange hMember
      cases List.mem_singleton.mp hMember
      rfl
  | ok body =>
      have hGranted :=
        (Http.isGranted_iff answer).mpr ⟨body, hAnswer⟩
      refine
        Or.inl
          ⟨url, hPursues.offers, ?_, hPursues.url,
            hPursues.transport, hPursues.keys⟩
      unfold Connection.registrar
      rw [h.tidy.sameConfig]
      refine
        ⟨_, _, .learns sender answer hGranted,
          List.mem_cons_self .., ?_⟩
      refine (Connection.requests_record _ _).trans ?_
      change before.connection.requests ++ _ = _
      rw [hRequests]
      rfl

/- It was asked to learn it. -/
theorem Sound.attemptState_of_learns
    (h : before.Sound config)
    {first : Http.Answer}
    (hFirst : Http.isGranted first = true)
    (hPursues :
      before.Pursues config world url task
        [ ((Registrar.ofConfig config).request .unregister url,
            first) ]
        start)
    {sender : TransportId}
    (hWaits :
      .asking
          ((Registrar.ofConfig config).request .register url)
          (.registering task sender) ∈
        before.waiting)
    (hRequests :
      before.connection.requests =
        start.requests ++
          [ (Registrar.ofConfig config).request .unregister url,
            (Registrar.ofConfig config).request .register url ])
    (hCalm : before.connection.isCancelled task = false)
    (answer : Http.Answer) :
    AttemptState config world task
      [ ((Registrar.ofConfig config).request .unregister url,
          first),
        ((Registrar.ofConfig config).request .register url,
          answer) ]
      start
      (before.after
        (.answer inner
          ((Registrar.ofConfig config).request .register url)
          (.registering task sender) answer)) := by
  have hTidy :=
    tidy_after h.tidy
      (.answer inner
        ((Registrar.ofConfig config).request .register url)
        (.registering task sender) answer)
  have hEngaged := h.engaged (Situation.mem_attempts hWaits rfl)
  simp only [Situation.after, if_pos hWaits] at hTidy ⊢
  rw [Connection.resume_registering hCalm] at hTidy ⊢
  cases hAnswer : Http.accept answer with
  | error cause =>
      rw [hAnswer] at hTidy
      have hRefused := Http.isGranted_of_error hAnswer
      have hGivesUp := hEngaged.givesUp hCalm inner
      apply
        attemptState_of_givesUp hTidy hGivesUp
          (h.not_mem_erase hWaits rfl _) hPursues.offers
          (.goesOn _ _ _ _ hFirst (.stops _ _ _ hRefused))
          hRequests hPursues.keys
      apply not_succeeds_of_posts
      simp [Registrar.request, Http.Request.post]
  | ok body =>
      have hGranted :=
        (Http.isGranted_iff answer).mpr ⟨body, hAnswer⟩
      refine
        Or.inl
          ⟨url, hPursues.offers, ?_, hPursues.url,
            hPursues.transport, hPursues.keys⟩
      rw [h.tidy.sameConfig]
      refine
        ⟨_, _, .tells sender first answer hFirst hGranted,
          List.mem_cons_self .., ?_⟩
      refine (Connection.requests_record _ _).trans ?_
      rw [hRequests]
      rfl

/- It was asked for the keys. -/
theorem Sound.attemptState_of_tells
    (h : before.Sound config)
    {first second : Http.Answer}
    (hFirst : Http.isGranted first = true)
    (hSecond : Http.isGranted second = true)
    (hPursues :
      before.Pursues config world url task
        [ ((Registrar.ofConfig config).request .unregister url,
            first),
          ((Registrar.ofConfig config).request .register url,
            second) ]
        start)
    {sender : TransportId}
    (hWaits :
      .asking (KeyCache.request config.brainUrl)
          (.fetchingKeys task sender) ∈
        before.waiting)
    (hRequests :
      before.connection.requests =
        start.requests ++ config.script url)
    (hCalm : before.connection.isCancelled task = false)
    (answer : Http.Answer)
    (hLit :
      (DeviceKeys.ofAnswer answer).isOk = true →
        (before.connection.lit inner answer).isCancelled task =
          false) :
    AttemptState config world task
      [ ((Registrar.ofConfig config).request .unregister url,
          first),
        ((Registrar.ofConfig config).request .register url,
          second),
        (KeyCache.request config.brainUrl, answer) ]
      start
      (before.after
        (.answer inner (KeyCache.request config.brainUrl)
          (.fetchingKeys task sender) answer)) := by
  have hTidy :=
    tidy_after h.tidy
      (.answer inner (KeyCache.request config.brainUrl)
        (.fetchingKeys task sender) answer)
  have hEngaged := h.engaged (Situation.mem_attempts hWaits rfl)
  have hFollows :
      Http.Follows [KeyCache.request config.brainUrl]
        [(KeyCache.request config.brainUrl, answer)] := by
    cases hGranted : Http.isGranted answer with
    | true => exact .goesOn _ _ _ _ hGranted .ends
    | false => exact .stops _ _ _ hGranted
  have hScript :=
    Http.Follows.goesOn
      ((Registrar.ofConfig config).request .unregister url)
      first _ _ hFirst
      (.goesOn
        ((Registrar.ofConfig config).request .register url)
        second _ _ hSecond hFollows)
  simp only [Situation.after, if_pos hWaits] at hTidy ⊢
  rw [Connection.resume_fetchingKeys hCalm hLit] at hTidy ⊢
  cases hKeys : DeviceKeys.ofAnswer answer with
  | error cause =>
      rw [hKeys] at hTidy
      have hGivesUp := hEngaged.givesUp hCalm inner
      apply
        attemptState_of_givesUp hTidy hGivesUp
          (h.not_mem_erase hWaits rfl _) hPursues.offers hScript
          hRequests hPursues.keys
      intro other keys hSucceeds
      rcases hSucceeds.told with ⟨project, hMember, hProject⟩
      rw [eq_of_told rfl rfl hMember] at hKeys
      cases hKeys.symm.trans hProject
  | ok keys =>
      have hArrives :=
        hEngaged.arrives hCalm (hLit (by rw [hKeys]; rfl)) hKeys
      refine Or.inr ⟨h.not_mem_erase hWaits rfl _, ?_, ?_⟩
      · apply sends_of_follows hPursues.offers hScript
        exact hArrives.requests.trans hRequests
      · refine
          .online url keys ?_ hArrives.flag hArrives.state
            (hArrives.url.trans hPursues.url) hArrives.keys
        rcases (Http.isGranted_iff second).mp hSecond with
          ⟨body, hBody⟩
        rcases DeviceKeys.ofAnswer_eq_ok_iff.mp hKeys with
          ⟨project, hAnswer, hProject⟩
        exact
          { toOffers := hPursues.offers
            learned :=
              ⟨body, by simp [Http.accept_eq_ok_iff.mp hBody]⟩
            told :=
              ⟨project, by simp [hAnswer], hProject⟩ }

/- What comes of any answer that an attempt awaits. -/
theorem Sound.attemptState_answer
    (h : before.Sound config)
    (hPursues :
      before.Pursues config world url task heard start)
    (hAnswered : before.isAnswered task occurrence = true)
    (hCalm :
      (before.lastSeen occurrence).isCancelled task = false) :
    AttemptState config world task
      (heard ++ occurrence.exchange?.toList)
      start
      (before.after occurrence) := by
  rcases exists_of_isAnswered hAnswered with
    ⟨inner, request, errand, answer, rfl, hErrand, hWaits⟩
  rcases hPursues.awaits with
    ⟨asked, purpose, hPhase, hAsked, hRequests⟩
  have hNoted := calm_of_lastSeen hErrand hCalm
  have hPurpose : purpose.attempt? = some task := by
    cases hPhase <;> rfl
  cases h.eq_of_attempt hAsked hWaits hPurpose hErrand
  cases hPhase with
  | forgets sender =>
      exact
        h.attemptState_of_forgets hPursues hWaits
          (by simpa using hRequests) hNoted answer
  | learns sender first hFirst =>
      exact
        h.attemptState_of_learns hFirst hPursues hWaits
          (by simpa using hRequests) hNoted answer
  | tells sender first second hFirst hSecond =>
      have hLit :
          (DeviceKeys.ofAnswer answer).isOk = true →
            (before.connection.lit inner answer).isCancelled
                task =
              false := by
        intro hOk
        have hStill :
            before.connection.isCancelled task = false :=
          hNoted
        have hBrings :
            before.connection.bringsOnline answer
                (.fetchingKeys task sender) =
              true := by
          simp [Connection.bringsOnline, hStill, hOk]
        simp only [lastSeen, hBrings, if_true] at hCalm
        exact hCalm
      exact
        h.attemptState_of_tells hFirst hSecond hPursues hWaits
          (by simpa [Config.script] using hRequests) hNoted
          answer hLit

end Answers

end Pursuit

end Situation

------------------------------------------------------------
-- Undisturbed Attempts
------------------------------------------------------------

section Replay

variable {config : Config}
variable {drive : Drive}
variable {connection : Connection}
variable {world : World}
variable {task : TaskId}

/-
  From answer to answer an attempt goes its way. Once it is at
  its end, no answer is one that it awaits.
-/
theorem attemptState_later
    (hNew : Connection.new config drive = .ok connection)
    {start : Connection}
    {past : List Occurrence}
    (hCourse :
      (replay connection past).AttemptState config world task []
        start)
    {later : List Occurrence}
    (hAlone : hearsAlone connection past task later = true) :
    (replay connection (later ++ past)).AttemptState config world
      task (exchanges later) start := by
  induction later with
  | nil => exact hCourse
  | cons occurrence later ih =>
      simp only [hearsAlone, Bool.and_eq_true,
        Bool.not_eq_true'] at hAlone
      rcases hAlone with ⟨⟨hBefore, hAnswered⟩, hCalm⟩
      rw [exchanges_cons]
      rcases ih hBefore with ⟨url, hPursues⟩ | ⟨hEnded, -⟩
      · exact
          (sound_replay hNew (later ++ past)).attemptState_answer
            hPursues hAnswered hCalm
      · rcases Situation.exists_of_isAnswered hAnswered with
          ⟨inner, request, errand, answer, -, hErrand, hWaits⟩
        exact
          (hEnded
            (Situation.mem_attempts hWaits
              (Question.attempt?_asking hErrand
                request))).elim

/-
  Let an attempt begin at any point of a course, and be alone
  and not cancelled until it is at its end. Then it has sent
  what its script says, up to the first refusal. The
  connection is online if and only if the attempt had a
  transport and an address, the brain has learned the URL and
  told keys that can be read. Otherwise it is offline with the
  keys that it had, and another attempt is pending unless this
  one found no address.
-/
theorem concludes_if_undisturbed
    (hNew : Connection.new config drive = .ok connection)
    (past : List Occurrence)
    (hBegins :
      (replay connection past).moves? (.run world task) =
        some task)
    (hCalm :
      ((replay connection past).lastSeen
          (.run world task)).isCancelled task =
        false)
    {later : List Occurrence}
    (hAlone :
      hearsAlone connection (.run world task :: past) task
          later =
        true)
    (hEnds :
      task ∉
        (replay connection
          (later ++ .run world task :: past)).attempts) :
    Sends config world (exchanges later)
        (replay connection past).connection
        (replay connection
          (later ++ .run world task :: past)).connection ∧
      Concludes config world (exchanges later)
          (replay connection past).connection
          (replay connection
            (later ++ .run world task :: past)).connection ∧
        ((replay connection
                (later ++
                  .run world task ::
                    past)).connection.session.isConnected =
            true ↔
          ∃ url keys,
            Succeeds config world (exchanges later) url
              keys) := by
  have hSound := sound_replay hNew past
  have hCourse :=
    attemptState_later hNew
      (hSound.attemptState_run hBegins hCalm) hAlone
  rcases hCourse with
    ⟨url, hPursues⟩ | ⟨-, hSends, hConcludes⟩
  · exact (hEnds hPursues.mem_attempts).elim
  · exact ⟨hSends, hConcludes, hConcludes.isConnected_iff⟩

end Replay

/- The answers that an attempt hopes for. -/
def Sample.answers : List Occurrence :=
  [tellsKeys 0 1, registers 0 1, unregisters 0 1]

/- They bring a connection online. -/
theorem concludes_of_answers :
    (replay Sample.connection
            (Sample.answers ++
              [.run Sample.world 0,
                .start])).connection.session.isConnected =
        true ∧
      ∃ url keys,
        Succeeds Sample.config Sample.world
          (exchanges Sample.answers) url keys := by
  have hBegins :
      (replay Sample.connection [.start]).moves?
          (.run Sample.world 0) =
        some 0 := by
    decide +kernel
  have hCalm :
      ((replay Sample.connection [.start]).lastSeen
          (.run Sample.world 0)).isCancelled 0 =
        false := by
    decide +kernel
  have hAlone :
      hearsAlone Sample.connection
          [.run Sample.world 0, .start] 0 Sample.answers =
        true := by
    decide +kernel
  have hEnds :
      0 ∉
        (replay Sample.connection
          (Sample.answers ++
            [.run Sample.world 0, .start])).attempts := by
    decide +kernel
  have hUp :
      (replay Sample.connection
            (Sample.answers ++
              [.run Sample.world 0,
                .start])).connection.session.isConnected =
        true := by
    decide +kernel
  rcases concludes_if_undisturbed Sample.new_connection [.start]
      hBegins hCalm hAlone hEnds with
    ⟨-, -, hOnline⟩
  exact ⟨hUp, hOnline.mp hUp⟩

end BrainLink
