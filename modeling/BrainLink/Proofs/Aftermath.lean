import BrainLink.Proofs.Payload
import BrainLink.Proofs.Withdrawal

/-
  What a brain still knows of an adapter once its connection
  was closed.

  Key definitions include:
    * `Brain`
    * `Brain.after`
    * `lastSettled`
    * `Situation.awaitsRegistration`
    * `saidUntilClosing`
    * `saidSinceClosing`

  Main statements:
    * `Brain.knows_after`
    * `Situation.Sound.parts_or_answered`
    * `Situation.Sound.awaitsRegistration_of_asks`
    * `forgotten_by_close`

  A brain keeps one registration for each name. It sets it
  when it accepts a register request, and removes it when it
  accepts an unregister request. A session that goes offline
  forgets its URL, and the brain is not told. So a closing
  takes back only what the session knows by then.
-/

namespace BrainLink

------------------------------------------------------------
-- Brains
------------------------------------------------------------

/- What a brain knows of its adapters. -/
abbrev Brain :=
  List Registration

namespace Brain

/- It forgets the adapter of a name. -/
def forget (brain : Brain) (name : String) : Brain :=
  brain.filter fun known => known.name != name

/- It learns a registration in place of one with its name. -/
def learn
    (brain : Brain)
    (registration : Registration) :
    Brain :=
  registration :: brain.forget registration.name

/- Whether it knows an adapter of a name. -/
def knows (brain : Brain) (name : String) : Bool :=
  brain.any fun known => known.name == name

/- What a request makes of a brain that accepts it. -/
def grant
    (brainUrl : String)
    (request : Http.Request)
    (brain : Brain) :
    Brain :=
  match request.method, request.body.bind Registration.ofText?
  with
  | .post, some registration =>
      if request.url = Endpoint.register.url brainUrl then
        brain.learn registration
      else if request.url = Endpoint.unregister.url brainUrl then
        brain.forget registration.name
      else
        brain
  | _, _ => brain

/- What a line of a dialogue makes of it. -/
def heed
    (brainUrl : String)
    (line : Line)
    (brain : Brain) :
    Brain :=
  match line with
  | .answered request _ (.ok response) =>
      if response.isOk then
        brain.grant brainUrl request
      else
        brain
  | _ => brain

/- And a whole dialogue, whose latest line comes first. -/
def after
    (brain : Brain)
    (brainUrl : String)
    (said : List Line) :
    Brain :=
  said.foldr (heed brainUrl) brain

@[simp] theorem knows_learn
    (brain : Brain)
    (registration : Registration) :
    (brain.learn registration).knows registration.name =
      true := by
  simp [learn, knows]

@[simp] theorem knows_forget
    (brain : Brain)
    (name : String) :
    (brain.forget name).knows name = false := by
  simp [forget, knows]

end Brain

/- Each request has a URL of its own. -/
theorem Endpoint.url_injective
    (brainUrl : String)
    {endpoint other : Endpoint}
    (hUrl : endpoint.url brainUrl = other.url brainUrl) :
    endpoint = other := by
  have hPath : endpoint.path = other.path := by
    unfold Endpoint.url at hUrl
    have hChars := congrArg String.toList hUrl
    rw [String.toList_append, String.toList_append] at hChars
    exact
      String.toList_inj.mp (List.append_cancel_left hChars)
  cases endpoint <;> cases other <;>
    first
    | rfl
    | exact absurd hPath (by decide)

namespace Brain

variable {config : Config}

/- What a brain makes of a request to be registered. -/
theorem grant_register
    (config : Config)
    (url : String)
    (brain : Brain) :
    brain.grant config.brainUrl
        ((Registrar.ofConfig config).request .register url) =
      brain.learn ⟨config.registrationName, url⟩ := by
  simp [grant, Registrar.request, Registrar.ofConfig,
    Http.Request.post, Registration.ofText?_toText]

/- Of one to be forgotten. -/
theorem grant_unregister
    (config : Config)
    (url : String)
    (brain : Brain) :
    brain.grant config.brainUrl
        ((Registrar.ofConfig config).request .unregister url) =
      brain.forget config.registrationName := by
  have hOther :
      Endpoint.unregister.url config.brainUrl ≠
        Endpoint.register.url config.brainUrl := by
    intro hUrl
    cases Endpoint.url_injective config.brainUrl hUrl
  simp [grant, Registrar.request, Registrar.ofConfig,
    Http.Request.post, Registration.ofText?_toText, hOther]

/- And of a message, whatever is in it. -/
theorem grant_notifications
    (config : Config)
    (message : String)
    (brain : Brain) :
    brain.grant config.brainUrl
        (.post (Endpoint.notifications.url config.brainUrl)
          message) =
      brain := by
  have hRegister :
      Endpoint.notifications.url config.brainUrl ≠
        Endpoint.register.url config.brainUrl := by
    intro hUrl
    cases Endpoint.url_injective config.brainUrl hUrl
  have hUnregister :
      Endpoint.notifications.url config.brainUrl ≠
        Endpoint.unregister.url config.brainUrl := by
    intro hUrl
    cases Endpoint.url_injective config.brainUrl hUrl
  unfold grant Http.Request.post
  split
  · rw [if_neg hRegister, if_neg hUnregister]
  · rfl

/- Reading changes nothing. -/
theorem grant_of_get
    {request : Http.Request}
    (hGet : request.method = .get)
    (brainUrl : String)
    (brain : Brain) :
    brain.grant brainUrl request = brain := by
  unfold grant
  rw [hGet]

end Brain

------------------------------------------------------------
-- Last Words
------------------------------------------------------------

/- Whether a brain knows an adapter after it was asked so. -/
def Errand.settles? : Errand → Option Bool
| .registering _ _ => some true
| .unregistering _ _ => some false
| .closing => some false
| _ => none

/- And after a line, if the brain has agreed. -/
def Line.settles? : Line → Option Bool
| .answered _ errand (.ok response) =>
    if response.isOk then errand.settles? else none
| _ => none

/- What was settled last. -/
def lastSettled (said : List Line) : Option Bool :=
  said.findSome? Line.settles?

namespace Brain

variable {config : Config}

/- An accepted request settles what its errand says. -/
theorem knows_grant
    {request : Http.Request}
    {errand : Errand}
    (hFits : errand.Fits config request)
    (brain : Brain) :
    (brain.grant config.brainUrl request).knows
        config.registrationName =
      errand.settles?.getD
        (brain.knows config.registrationName) := by
  cases errand with
  | registering task transport =>
      rcases hFits with ⟨url, rfl⟩
      rw [grant_register]
      exact knows_learn brain _
  | unregistering task transport =>
      rcases hFits with ⟨url, rfl⟩
      rw [grant_unregister]
      exact knows_forget brain _
  | closing =>
      rcases hFits with ⟨url, rfl⟩
      rw [grant_unregister]
      exact knows_forget brain _
  | notifying =>
      rcases hFits with ⟨message, rfl⟩
      rw [grant_notifications]
      rfl
  | fetchingKeys task transport =>
      rw [grant_of_get (congrArg Http.Request.method hFits)]
      rfl
  | _ =>
      rw [grant_of_get hFits]
      rfl

/- A line settles what its errand says, once accepted. -/
theorem knows_heed
    {line : Line}
    (hFits : line.Fits config)
    (brain : Brain) :
    (brain.heed config.brainUrl line).knows
        config.registrationName =
      line.settles?.getD
        (brain.knows config.registrationName) := by
  unfold heed Line.settles?
  split
  · split
    · exact knows_grant hFits brain
    · rfl
  · rfl

/- So what a brain knows is what was settled last. -/
theorem knows_after
    {said : List Line}
    (hFits : ∀ line ∈ said, line.Fits config)
    (brain : Brain) :
    (brain.after config.brainUrl said).knows
        config.registrationName =
      (lastSettled said).getD
        (brain.knows config.registrationName) := by
  induction said with
  | nil => rfl
  | cons line said ih =>
      have hRest :=
        ih fun other hMember =>
          hFits other (List.mem_cons_of_mem line hMember)
      have hLine :=
        knows_heed (hFits line List.mem_cons_self)
          (brain.after config.brainUrl said)
      unfold lastSettled at hRest ⊢
      rw [List.findSome?_cons]
      cases hSettles : line.settles? with
      | none =>
          rw [hSettles] at hLine
          exact hLine.trans hRest
      | some knows =>
          rw [hSettles] at hLine
          exact hLine

/- A later dialogue finds what an earlier one has left. -/
theorem after_append
    (brain : Brain)
    (brainUrl : String)
    (late early : List Line) :
    brain.after brainUrl (late ++ early) =
      (brain.after brainUrl early).after brainUrl late :=
  List.foldr_append

end Brain

------------------------------------------------------------
-- Answers
------------------------------------------------------------

/- Whether a request is about the registration of an adapter. -/
def Http.Request.isRegistration
    (brainUrl : String)
    (request : Request) : Bool :=
  request.url == Endpoint.register.url brainUrl ||
    request.url == Endpoint.unregister.url brainUrl

/- Whether a brain agrees if it is asked for a registration. -/
def Line.isGranted (brainUrl : String) : Line → Bool
| .asked _ _ => true
| .answered request _ answer =>
    !request.isRegistration brainUrl ||
      answer.toOption.any Http.Response.isOk

/- Whether an errand is a step of a registration. -/
def Errand.registers : Errand → Bool
| .unregistering _ _ => true
| .registering _ _ => true
| _ => false

/- Whether an attempt awaits an answer on its registration. -/
def Situation.awaitsRegistration
    (situation : Situation) : Bool :=
  situation.waiting.any fun question =>
    match question with
    | .asking _ errand => errand.registers
    | .probing _ => false

/- What settles something is asked to settle it. -/
theorem Line.of_settles?
    {line : Line}
    {knows : Bool}
    (hSettles : line.settles? = some knows) :
    line.errand.settles? = some knows := by
  unfold settles? at hSettles
  split at hSettles
  · split at hSettles
    · exact hSettles
    · cases hSettles
  · cases hSettles

/- A farewell settles that the adapter is forgotten. -/
theorem Line.settles?_closing
    {config : Config}
    {request : Http.Request}
    {answer : Http.Answer}
    (hFits :
      Line.Fits config (.answered request .closing answer))
    (hGranted :
      isGranted config.brainUrl
          (.answered request .closing answer) =
        true) :
    settles? (.answered request .closing answer) =
      some false := by
  rcases hFits with ⟨url, rfl⟩
  cases answer with
  | error failure =>
      simp [isGranted, Http.Request.isRegistration,
        Registrar.request, Registrar.ofConfig,
        Http.Request.post, Except.toOption] at hGranted
  | ok response =>
      simp [isGranted, Http.Request.isRegistration,
        Registrar.request, Registrar.ofConfig,
        Http.Request.post, Except.toOption] at hGranted
      simp [settles?, hGranted, Errand.settles?]

/- Only who registers settles that an adapter is known. -/
theorem Line.registers_of_settles?
    {line : Line}
    (hSettles : line.settles? = some true) :
    line.errand.registers = true := by
  have hErrand := of_settles? hSettles
  cases hLine : line.errand with
  | registering task transport => rfl
  | _ =>
      rw [hLine] at hErrand
      cases hErrand

namespace Situation

section Answers

variable {config : Config}
variable {before after : Situation}
variable {occurrence : Occurrence}
variable {line : Line}

/- What waits goes on waiting while something is asked. -/
theorem mem_proceed_of_mem
    {waiting : List Question}
    {question : Question}
    (hMember : question ∈ waiting)
    (task? : Option TaskId)
    (step : Connection × Progress) :
    question ∈ (proceed waiting task? step).waiting := by
  rcases step with ⟨connection, progress⟩
  cases progress with
  | asks request errand =>
      exact List.mem_cons_of_mem _ hMember
  | probes task => exact List.mem_cons_of_mem _ hMember
  | done result =>
      cases task? with
      | none => exact hMember
      | some task => exact hMember

/- A question waits until it is answered. -/
theorem waits_or_heard
    {request : Http.Request}
    {errand : Errand}
    (hMember : .asking request errand ∈ before.waiting)
    (occurrence : Occurrence) :
    .asking request errand ∈
        (before.after occurrence).waiting ∨
      ∃ answer,
        .answered request errand answer ∈
          before.hears occurrence := by
  cases occurrence with
  | start =>
      simp only [Situation.after]
      split
      · exact Or.inl hMember
      · exact Or.inl hMember
  | drop =>
      simp only [Situation.after]
      split
      · exact Or.inl hMember
      · exact Or.inl hMember
  | command world command =>
      simp only [Situation.after]
      split
      · exact Or.inl (mem_proceed_of_mem hMember _ _)
      · exact Or.inl hMember
  | run world task =>
      simp only [Situation.after]
      split
      · exact Or.inl (mem_proceed_of_mem hMember _ _)
      · exact Or.inl hMember
  | answer world earlier other answer =>
      simp only [Situation.after, hears]
      by_cases hSame :
          Question.asking request errand =
            .asking earlier other
      · cases hSame
        rw [if_pos hMember, if_pos hMember]
        exact Or.inr ⟨answer, List.mem_singleton.mpr rfl⟩
      · have hKept :=
          (List.mem_erase_of_ne hSame).mpr hMember
        split
        · exact Or.inl (mem_proceed_of_mem hKept _ _)
        · exact Or.inl hMember
  | probe world task isReachable =>
      simp only [Situation.after]
      have hKept :
          .asking request errand ∈
            before.waiting.erase (.probing task) :=
        (List.mem_erase_of_ne (by simp)).mpr hMember
      split
      · exact Or.inl (mem_proceed_of_mem hKept _ _)
      · exact Or.inl hMember
  | _ => exact Or.inl hMember

/- What is asked is a question. -/
theorem exists_of_mem_asks
    (hMember : line ∈ before.asks occurrence) :
    ∃ request errand, line = .asked request errand := by
  unfold asks at hMember
  cases hStep : before.step? occurrence with
  | none =>
      rw [hStep] at hMember
      cases hMember
  | some step =>
      rw [hStep] at hMember
      change line ∈ step.2.question at hMember
      cases hProgress : step.2 with
      | asks request errand =>
          rw [hProgress] at hMember
          exact ⟨request, errand, List.mem_singleton.mp hMember⟩
      | probes task =>
          rw [hProgress] at hMember
          cases hMember
      | done result =>
          rw [hProgress] at hMember
          cases hMember

/- A farewell is asked for by the owner who closes. -/
theorem parts_of_mem_asks
    (hMember : line ∈ before.asks occurrence)
    (hErrand : line.errand = .closing) :
    occurrence.isClose = true ∧
      before.connection.isClosed = false ∧
        before.connection.parting.isSome = true := by
  have hForeign := moves?_of_mem_asks hMember
  rw [hErrand] at hForeign
  cases asks_of_mem hMember with
  | obeys world command _ hMember =>
      by_cases hClose : command = .close
      · subst hClose
        rcases Connection.question_beginClose hMember with
          ⟨hOpen, sending, hParting, -⟩
        exact ⟨rfl, hOpen, Option.isSome_of_eq_some hParting⟩
      · have hOrdinary :=
          (Connection.idles_obey world before.connection
            hClose).2
        exact absurd hErrand
            (Progress.isOrdinary_of_mem hOrdinary hMember).2
  | begins world task _ hMoves hMember =>
      cases hForeign.trans hMoves
  | goesOn world request errand answer _ hWaits hMember =>
      simp only [moves?, if_pos hWaits] at hForeign
      by_cases hClosing : errand = .closing
      · subst hClosing
        cases hMember
      · have hOrdinary :=
          (Connection.idles_resume world answer
            before.connection ⟨hForeign.symm, hClosing⟩).2
        exact absurd hErrand
            (Progress.isOrdinary_of_mem hOrdinary hMember).2

/- One that is asked for by listeners is answered at once. -/
theorem Sound.answered_of_listener
    (h : before.Sound config)
    (hTurn : before.Turn config occurrence after)
    (hOpen : before.connection.isClosed = false)
    (hClosed : after.connection.isClosed = true)
    (hWhole : before.isCutShort occurrence = false)
    (hListener : occurrence.isClose = false)
    {request : Http.Request}
    (hMember :
      request ∈ (before.atClose occurrence).partingRequests) :
    ∃ answer,
      .answered request .closing answer ∈
        before.asides after occurrence := by
  have hBids : request ∈ before.bids after occurrence := by
    rw [h.bids_eq hTurn, hOpen, hClosed]
    exact hMember
  have hSilent :
      request ∉
        before.connection.stayOffline.partingRequests := by
    rw [partingRequests_stayOffline]
    exact List.not_mem_nil
  unfold asides
  rw [hListener, if_neg (by simp)]
  cases occurrence with
  | answer world earlier errand answer =>
      simp only [isCutShort] at hWhole
      have hThere :=
        List.any_eq_false.mp hWhole request hMember
      cases hImmediate : world.immediate request with
      | none =>
          rw [hImmediate] at hThere
          exact absurd rfl hThere
      | some said =>
          refine ⟨said, List.mem_flatMap.mpr ⟨_, hBids, ?_⟩⟩
          unfold World.aside
          rw [hImmediate]
          exact List.mem_cons_self
  | command world command =>
      cases hTurn with
      | idle _ _ hIdles hPasses hRequests =>
          cases hOpen.symm.trans
            (hIdles.connection.isClosed.symm.trans hClosed)
      | parts world transport parting _ hParting =>
          cases hListener
      | closes world _ hParting => cases hListener
  | _ => exact absurd hMember hSilent

/- So what a closing has to say is answered or awaited. -/
theorem Sound.parts_or_answered
    (h : before.Sound config)
    (hTurn : before.Turn config occurrence after)
    (hOpen : before.connection.isClosed = false)
    (hClosed : after.connection.isClosed = true)
    (hWhole : before.isCutShort occurrence = false)
    (hParts :
      (before.atClose occurrence).partingRequests ≠ []) :
    after.isParting = true ∨
      ∃ request answer,
        .answered request .closing answer ∈
          before.asides after occurrence := by
  cases hClose : occurrence.isClose with
  | true =>
      refine Or.inl ?_
      cases hTurn with
      | idle _ _ hIdles hPasses hRequests =>
          cases hOpen.symm.trans
            (hIdles.connection.isClosed.symm.trans hClosed)
      | parts world transport request _ hParting =>
          exact isParting_iff.mpr ⟨request, List.mem_cons_self⟩
      | closes world _ hParting =>
          refine absurd ?_ hParts
          change before.connection.partingRequests = []
          unfold Connection.partingRequests
          rw [hParting]
          rfl
      | _ => cases hClose
  | false =>
      rcases List.exists_mem_of_ne_nil _ hParts with
        ⟨request, hMember⟩
      exact
        Or.inr
          ⟨request,
            h.answered_of_listener hTurn hOpen hClosed hWhole
              hClose hMember⟩

/- And one that has nothing to say awaits nothing. -/
theorem Sound.not_isParting
    (h : before.Sound config)
    (hOpen : before.connection.isClosed = false)
    (hSilent :
      (before.atClose occurrence).partingRequests = []) :
    (before.after occurrence).isParting = false := by
  apply eq_false_of_ne_true
  intro hParting
  rcases isParting_iff.mp hParting with ⟨request, hMember⟩
  rcases mem_waiting_after hMember with hOld | hAsked
  · cases hOpen.symm.trans (h.parting request hOld)
  · rcases parts_of_mem_asks hAsked rfl with
      ⟨hClose, -, hSome⟩
    cases occurrence with
    | command world command =>
        change before.connection.partingRequests = [] at hSilent
        unfold Connection.partingRequests at hSilent
        cases hState : before.connection.parting with
        | none =>
            rw [hState] at hSome
            cases hSome
        | some sending =>
            rw [hState] at hSilent
            cases hSilent
    | _ => cases hClose

/-
  A closed connection asks to be registered for an attempt
  alone that still takes its URL back.
-/
theorem Sound.awaitsRegistration_of_asks
    (h : before.Sound config)
    (hClosed : before.connection.isClosed = true)
    (hMember : line ∈ before.asks occurrence)
    (hErrand : line.errand.registers = true) :
    before.awaitsRegistration = true := by
  have hMoves := moves?_of_mem_asks hMember
  cases hAttempt : line.errand.attempt? with
  | none =>
      cases hLine : line.errand with
      | unregistering task transport =>
          rw [hLine] at hAttempt
          cases hAttempt
      | registering task transport =>
          rw [hLine] at hAttempt
          cases hAttempt
      | _ =>
          rw [hLine] at hErrand
          cases hErrand
  | some task =>
      have hMover := hMoves.symm.trans hAttempt
      have hCancelled :
          before.connection.isCancelled task = true := by
        cases occurrence with
        | run world other =>
            rcases exists_of_moves?_run hMover with
              ⟨-, known, hKnown, hLive, -⟩
            cases
              (h.open_of_isLive hKnown hLive).symm.trans hClosed
        | answer world request errand answer =>
            rcases mem_of_moves?_answer hMover with
              ⟨hWaits, hOther⟩
            exact
              h.cancelled_of_isClosed hClosed
                (mem_attempts hWaits
                  (Question.attempt?_asking hOther request))
        | _ => cases hMover
      rcases (sends_of_cancelled hCancelled hMember
          hAttempt).1 with
        ⟨request, transport, hWaits⟩
      exact List.any_eq_true.mpr ⟨_, hWaits, rfl⟩

/- What settles a registration has been awaited before. -/
theorem awaitsRegistration_of_hears
    (hMember : line ∈ before.hears occurrence)
    (hErrand : line.errand.registers = true) :
    before.awaitsRegistration = true := by
  rcases exists_of_mem_hears hMember with
    ⟨world, request, errand, answer, rfl, hWaits, rfl⟩
  exact List.any_eq_true.mpr ⟨_, hWaits, hErrand⟩

end Answers

end Situation

------------------------------------------------------------
-- Courses
------------------------------------------------------------

/- What is said after some point of a course. -/
def saidSince
    (connection : Connection)
    (past : List Occurrence) :
    List Occurrence → List Line
| [] => []
| occurrence :: later =>
    (replay connection (later ++ past)).lines
        (replay connection (occurrence :: (later ++ past)))
        occurrence ++
      saidSince connection past later

theorem dialogue_append
    (connection : Connection)
    (later past : List Occurrence) :
    dialogue connection (later ++ past) =
      saidSince connection past later ++
        dialogue connection past := by
  induction later with
  | nil => rfl
  | cons occurrence later ih =>
      rw [List.cons_append, dialogue, ih, saidSince,
        List.append_assoc]

/-
  What is said from a closing on. The answer that has come at
  the beginning of its occurrence, if any, was there before.
-/
def saidSinceClosing
    (connection : Connection)
    (earlier : List Occurrence)
    (closing : Occurrence)
    (later : List Occurrence) :
    List Line :=
  saidSince connection (closing :: earlier) later ++
    ((replay connection earlier).asks closing ++
      (replay connection earlier).asides
        (replay connection (closing :: earlier))
        closing)

/- And what was said up to it. -/
def saidUntilClosing
    (connection : Connection)
    (earlier : List Occurrence)
    (closing : Occurrence) :
    List Line :=
  (replay connection earlier).hears closing ++
    dialogue connection earlier

/- Together they are the whole dialogue. -/
theorem dialogue_closing
    (connection : Connection)
    (earlier : List Occurrence)
    (closing : Occurrence)
    (later : List Occurrence) :
    dialogue connection (later ++ closing :: earlier) =
      saidSinceClosing connection earlier closing later ++
        saidUntilClosing connection earlier closing := by
  rw [dialogue_append, dialogue]
  simp only [Situation.lines, saidSinceClosing,
    saidUntilClosing, List.append_assoc]

section Replay

variable {config : Config}
variable {drive : Drive}
variable {connection : Connection}

/- Closed once, closed for good. -/
theorem isClosed_replay
    (hNew : Connection.new config drive = .ok connection)
    {past : List Occurrence}
    (hClosed :
      (replay connection past).connection.isClosed = true)
    (later : List Occurrence) :
    (replay connection (later ++ past)).connection.isClosed =
      true := by
  induction later with
  | nil => exact hClosed
  | cons occurrence later ih =>
      have hTurn := turn_replay hNew occurrence (later ++ past)
      exact
        ((sound_replay hNew (later ++ past)).staysClosed_of_turn
          hTurn ih).closed

/- A farewell that is awaited no more was answered. -/
theorem parting_or_answered
    (past later : List Occurrence)
    (hParting : (replay connection past).isParting = true) :
    (replay connection (later ++ past)).isParting = true ∨
      ∃ request answer,
        .answered request .closing answer ∈
          saidSince connection past later := by
  induction later with
  | nil => exact Or.inl hParting
  | cons occurrence later ih =>
      rcases ih with hStill | ⟨request, answer, hMember⟩
      · rcases Situation.isParting_iff.mp hStill with
          ⟨request, hWaits⟩
        rcases Situation.waits_or_heard hWaits occurrence with
          hKept | ⟨answer, hHeard⟩
        · exact
            Or.inl
              (Situation.isParting_iff.mpr ⟨request, hKept⟩)
        · refine Or.inr ⟨request, answer, ?_⟩
          exact
            List.mem_append_left _
              (List.mem_append_right _
                (List.mem_append_right _ hHeard))
      · exact
          Or.inr
            ⟨request, answer, List.mem_append_right _ hMember⟩

/- Where none is awaited, a closed connection says none. -/
theorem no_farewell_since
    (hNew : Connection.new config drive = .ok connection)
    {past : List Occurrence}
    (hClosed :
      (replay connection past).connection.isClosed = true)
    (hReturned : (replay connection past).isParting = false)
    (later : List Occurrence) :
    (replay connection (later ++ past)).isParting = false ∧
      ∀ line ∈ saidSince connection past later,
        line.errand ≠ .closing := by
  induction later with
  | nil => exact ⟨hReturned, fun _ hMember => nomatch hMember⟩
  | cons occurrence later ih =>
      rcases ih with ⟨hBefore, hNone⟩
      have hStill := isClosed_replay hNew hClosed later
      have hSound := sound_replay hNew (later ++ past)
      have hTurn := turn_replay hNew occurrence (later ++ past)
      have hStaysClosed := hSound.staysClosed_of_turn hTurn hStill
      constructor
      · rcases hStaysClosed.parting with
          hSame | ⟨hParting, -, -⟩
        · exact hSame.trans hBefore
        · cases hBefore.symm.trans hParting
      · intro line hMember hErrand
        rcases List.mem_append.mp hMember with hNow | hOld
        · rcases List.mem_append.mp hNow with hAsked | hRest
          · have hOpen :=
              (Situation.parts_of_mem_asks hAsked hErrand).2.1
            cases hOpen.symm.trans hStill
          · rcases List.mem_append.mp hRest with
              hAside | hHeard
            · have hBids :=
                (Situation.exists_of_mem_asides hAside).2
              rw [hSound.bids_eq hTurn, hStill] at hBids
              cases hBids
            · rcases Situation.exists_of_mem_hears hHeard with
                ⟨world, request, errand, answer, rfl, hWaits,
                  rfl⟩
              change errand = .closing at hErrand
              subst hErrand
              have hParting :=
                Situation.isParting_iff.mpr ⟨request, hWaits⟩
              cases hBefore.symm.trans hParting
        · exact hNone line hOld hErrand

/-
  A closed connection of which no attempt awaits an answer on
  its registration says nothing more about one.
-/
theorem no_registration_since
    (hNew : Connection.new config drive = .ok connection)
    {past : List Occurrence}
    (hClosed :
      (replay connection past).connection.isClosed = true)
    (hRests :
      (replay connection past).awaitsRegistration = false)
    (later : List Occurrence) :
    (replay connection (later ++ past)).awaitsRegistration =
        false ∧
      ∀ line ∈ saidSince connection past later,
        line.errand.registers = false := by
  induction later with
  | nil => exact ⟨hRests, fun _ hMember => nomatch hMember⟩
  | cons occurrence later ih =>
      rcases ih with ⟨hBefore, hNone⟩
      have hStill := isClosed_replay hNew hClosed later
      have hSound := sound_replay hNew (later ++ past)
      have hSilent :
          ∀ line ∈
              (replay connection (later ++ past)).asks
                occurrence,
            line.errand.registers = false := by
        intro line hAsked
        apply eq_false_of_ne_true
        intro hErrand
        have hAwaits :=
          hSound.awaitsRegistration_of_asks hStill hAsked
            hErrand
        cases hBefore.symm.trans hAwaits
      constructor
      · apply eq_false_of_ne_true
        intro hAwaits
        rcases List.any_eq_true.mp hAwaits with
          ⟨question, hMember, hIs⟩
        cases question with
        | probing task => cases hIs
        | asking request errand =>
            rcases Situation.mem_waiting_after hMember with
              hOld | hAsked
            · have hAwaited :
                  (replay connection
                    (later ++ past)).awaitsRegistration =
                    true :=
                List.any_eq_true.mpr ⟨_, hOld, hIs⟩
              cases hBefore.symm.trans hAwaited
            · cases (hSilent _ hAsked).symm.trans hIs
      · intro line hMember
        rcases List.mem_append.mp hMember with hNow | hOld
        · rcases List.mem_append.mp hNow with hAsked | hRest
          · exact hSilent line hAsked
          · rcases List.mem_append.mp hRest with
              hAside | hHeard
            · rw [(Situation.exists_of_mem_asides hAside).1]
              rfl
            · apply eq_false_of_ne_true
              intro hErrand
              have hAwaits :=
                Situation.awaitsRegistration_of_hears hHeard
                  hErrand
              cases hBefore.symm.trans hAwaits
        · exact hNone line hOld

section Closing

variable {earlier later : List Occurrence}
variable {closing : Occurrence}
variable {line : Line}

/- What is settled since a closing was said since. -/
theorem mem_of_settles?
    {knows : Bool}
    (hMember :
      line ∈
        saidSinceClosing connection earlier closing later)
    (hSettles : line.settles? = some knows) :
    line ∈ saidSince connection (closing :: earlier) later ∨
      line ∈
        (replay connection earlier).asides
          (replay connection (closing :: earlier)) closing := by
  rcases List.mem_append.mp hMember with hLater | hNow
  · exact Or.inl hLater
  · rcases List.mem_append.mp hNow with hAsked | hAside
    · rcases Situation.exists_of_mem_asks hAsked with
        ⟨request, errand, rfl⟩
      cases hSettles
    · exact Or.inr hAside

theorem fits_since_closing
    (hNew : Connection.new config drive = .ok connection)
    (hMember :
      line ∈
        saidSinceClosing connection earlier closing later) :
    line.Fits config := by
  apply fits_of_mem_dialogue hNew
  rw [dialogue_closing]
  exact List.mem_append_left _ hMember

/- What was settled last since a closing decides, if at all. -/
theorem knows_since_closing
    (hNew : Connection.new config drive = .ok connection)
    (brain : Brain)
    (earlier later : List Occurrence)
    (closing : Occurrence) :
    (brain.after config.brainUrl
        (dialogue connection
          (later ++ closing :: earlier))).knows
        config.registrationName =
      (lastSettled
          (saidSinceClosing connection earlier closing
            later)).getD
        ((brain.after config.brainUrl
          (saidUntilClosing connection earlier closing)).knows
          config.registrationName) := by
  rw [dialogue_closing, Brain.after_append]
  exact
    Brain.knows_after
      (fun _ hMember => fits_since_closing hNew hMember) _

/- What a closing has to say is said, and agreed to. -/
theorem lastSettled_ne_none
    (hNew : Connection.new config drive = .ok connection)
    (hOpen :
      (replay connection earlier).connection.isClosed = false)
    (hClosed :
      (replay connection
        (closing :: earlier)).connection.isClosed = true)
    (hWhole :
      (replay connection earlier).isCutShort closing = false)
    (hReturned :
      (replay connection
        (later ++ closing :: earlier)).isParting = false)
    (hGranted :
      ∀ line ∈
          saidSinceClosing connection earlier closing later,
        line.isGranted config.brainUrl = true)
    (hParts :
      ((replay connection earlier).atClose
        closing).partingRequests ≠ []) :
    lastSettled
        (saidSinceClosing connection earlier closing later) ≠
      none := by
  have hAnswered :
      ∃ request answer,
        .answered request .closing answer ∈
          saidSinceClosing connection earlier closing later := by
    rcases (sound_replay hNew earlier).parts_or_answered
        (turn_replay hNew closing earlier) hOpen hClosed hWhole
        hParts with
      hParting | ⟨request, answer, hMember⟩
    · rcases parting_or_answered (closing :: earlier) later
          hParting with
        hStill | ⟨request, answer, hMember⟩
      · cases hReturned.symm.trans hStill
      · exact ⟨request, answer, List.mem_append_left _ hMember⟩
    · exact
        ⟨request, answer,
          List.mem_append_right _
            (List.mem_append_right _ hMember)⟩
  rcases hAnswered with ⟨request, answer, hMember⟩
  intro hNone
  have hUnsettled :=
    List.findSome?_eq_none_iff.mp hNone _ hMember
  have hSettles :=
    Line.settles?_closing (fits_since_closing hNew hMember)
      (hGranted _ hMember)
  cases hUnsettled.symm.trans hSettles

/- If it has nothing to say, it is silent on the matter. -/
theorem registers_of_settles?
    (hNew : Connection.new config drive = .ok connection)
    (hOpen :
      (replay connection earlier).connection.isClosed = false)
    (hClosed :
      (replay connection
        (closing :: earlier)).connection.isClosed = true)
    (hSilent :
      ((replay connection earlier).atClose
        closing).partingRequests = [])
    (hMember :
      line ∈
        saidSinceClosing connection earlier closing later)
    {knows : Bool}
    (hSettles : line.settles? = some knows) :
    line.errand.registers = true := by
  have hSound := sound_replay hNew earlier
  rcases mem_of_settles? hMember hSettles with hLater | hAside
  · have hNone :=
      (no_farewell_since hNew hClosed
        (hSound.not_isParting hOpen hSilent) later).2
    have hOther := hNone line hLater
    have hErrand := Line.of_settles? hSettles
    cases hLine : line.errand with
    | closing => exact absurd hLine hOther
    | unregistering task transport => rfl
    | registering task transport => rfl
    | _ =>
        rw [hLine] at hErrand
        cases hErrand
  · have hBids := (Situation.exists_of_mem_asides hAside).2
    rw [hSound.bids_eq (turn_replay hNew closing earlier),
      hSilent, ite_self] at hBids
    cases hBids

/- Unless an attempt awaits an answer, all others are, too. -/
theorem not_registers_of_settles?
    (hNew : Connection.new config drive = .ok connection)
    (hClosed :
      (replay connection
        (closing :: earlier)).connection.isClosed = true)
    (hRests :
      (replay connection
        (closing :: earlier)).awaitsRegistration = false)
    (hMember :
      line ∈
        saidSinceClosing connection earlier closing later)
    {knows : Bool}
    (hSettles : line.settles? = some knows) :
    line.errand.registers = false := by
  rcases mem_of_settles? hMember hSettles with hLater | hAside
  · exact
      (no_registration_since hNew hClosed hRests later).2 line
        hLater
  · rw [(Situation.exists_of_mem_asides hAside).1]
    rfl

/- A silent closing leaves all as it was, if no attempt waits. -/
theorem lastSettled_eq_none
    (hNew : Connection.new config drive = .ok connection)
    (hOpen :
      (replay connection earlier).connection.isClosed = false)
    (hClosed :
      (replay connection
        (closing :: earlier)).connection.isClosed = true)
    (hRests :
      (replay connection
        (closing :: earlier)).awaitsRegistration = false)
    (hSilent :
      ((replay connection earlier).atClose
        closing).partingRequests = []) :
    lastSettled
        (saidSinceClosing connection earlier closing later) =
      none := by
  apply List.findSome?_eq_none_iff.mpr
  intro line hMember
  apply Option.eq_none_iff_forall_ne_some.mpr
  intro settled hSettles
  have hRegisters :=
    registers_of_settles? hNew hOpen hClosed hSilent hMember
      hSettles
  have hNot :=
    not_registers_of_settles? hNew hClosed hRests hMember
      hSettles
  cases hNot.symm.trans hRegisters

end Closing

/-
  Let a connection be closed, and its brain agree to all that
  it is asked for then. Once the closing has returned, the
  brain knows the adapter only if it did so before and the
  session had no URL any more to take back, or if an attempt
  was registered in the meantime. If no attempt awaited an
  answer on its registration, it is left to the first alone.
-/
theorem forgotten_by_close
    (hNew : Connection.new config drive = .ok connection)
    (brain : Brain)
    {earlier later : List Occurrence}
    {closing : Occurrence}
    (hOpen :
      (replay connection earlier).connection.isClosed = false)
    (hClosed :
      (replay connection
        (closing :: earlier)).connection.isClosed = true)
    (hWhole :
      (replay connection earlier).isCutShort closing = false)
    (hReturned :
      (replay connection
        (later ++ closing :: earlier)).isParting = false)
    (hGranted :
      ∀ line ∈
          saidSinceClosing connection earlier closing later,
        line.isGranted config.brainUrl = true) :
    let parting :=
      ((replay connection earlier).atClose
        closing).partingRequests
    let known :=
      (brain.after config.brainUrl
        (saidUntilClosing connection earlier closing)).knows
        config.registrationName
    let knows :=
      (brain.after config.brainUrl
        (dialogue connection
          (later ++ closing :: earlier))).knows
        config.registrationName
    (knows = true →
      known = true ∧ parting = [] ∨
        ∃ line ∈
            saidSinceClosing connection earlier closing later,
          line.settles? = some true) ∧
      ((replay connection
          (closing :: earlier)).awaitsRegistration = false →
        (knows = true ↔ known = true ∧ parting = [])) := by
  intro parting known knows
  have hKnows :=
    knows_since_closing hNew brain earlier later closing
  change knows = Option.getD _ known at hKnows
  -- What is left may only be settled by a late registration.
  have hLeft :
      knows = true →
        known = true ∧ parting = [] ∨
          ∃ line ∈
              saidSinceClosing connection earlier closing later,
            line.settles? = some true := by
    intro hIs
    cases hLast :
        lastSettled
          (saidSinceClosing connection earlier closing
            later) with
    | some settled =>
        rw [hLast, hIs] at hKnows
        cases hKnows
        exact Or.inr (List.exists_of_findSome?_eq_some hLast)
    | none =>
        rw [hLast, hIs] at hKnows
        refine Or.inl ⟨hKnows.symm, ?_⟩
        by_cases hParts : parting = []
        · exact hParts
        · exact
            absurd hLast
              (lastSettled_ne_none hNew hOpen hClosed hWhole
                hReturned hGranted hParts)
  refine ⟨hLeft, fun hRests => ⟨?_, ?_⟩⟩
  · intro hIs
    rcases hLeft hIs with hKept | ⟨line, hMember, hSettles⟩
    · exact hKept
    · have hLate :=
        not_registers_of_settles? hNew hClosed hRests hMember
          hSettles
      cases hLate.symm.trans
        (Line.registers_of_settles? hSettles)
  · rintro ⟨hKnown, hSilent⟩
    rw [hKnows,
      lastSettled_eq_none hNew hOpen hClosed hRests hSilent]
    exact hKnown

end Replay

/- The brain forgets the URL on behalf of a closing. -/
def Sample.forgets : Occurrence :=
  .answer world
    (connection.registrar.request .unregister url)
    .closing
    (.ok ⟨200, ""⟩)

/- A closing takes back the URL of a session that is online. -/
theorem forgotten_of_undisturbed :
    (Brain.after [] Sample.config.brainUrl
        (dialogue Sample.connection
          ([Sample.forgets] ++
            .command Sample.world .close ::
              Sample.undisturbed))).knows
        Sample.config.registrationName =
      false := by
  obtain
      ⟨hOpen, hClosed, hReturned, hGranted, hRests, hParts⟩ :
      (replay Sample.connection
          Sample.undisturbed).connection.isClosed = false ∧
        (replay Sample.connection
            (.command Sample.world .close ::
              Sample.undisturbed)).connection.isClosed = true ∧
        (replay Sample.connection
            ([Sample.forgets] ++
              .command Sample.world .close ::
                Sample.undisturbed)).isParting = false ∧
        (saidSinceClosing Sample.connection Sample.undisturbed
            (.command Sample.world .close)
            [Sample.forgets]).all
            (Line.isGranted Sample.config.brainUrl) = true ∧
        (replay Sample.connection
            (.command Sample.world .close ::
              Sample.undisturbed)).awaitsRegistration = false ∧
        ((replay Sample.connection
            Sample.undisturbed).atClose
          (.command Sample.world .close)).partingRequests ≠
          [] := by
    decide +kernel
  have hLeft :=
    (forgotten_by_close Sample.new_connection [] hOpen hClosed
      rfl hReturned (List.all_eq_true.mp hGranted)).2 hRests
  exact
    eq_false_of_ne_true fun hKnows => hParts (hLeft.mp hKnows).2

/-
  The brain cannot be reached, so the session goes offline and
  forgets its URL. Then it is closed.
-/
def Sample.disowned : List Occurrence :=
  [ .command world .close,
    .probe world 1 false,
    .run world 1 ] ++
  undisturbed

/-
  A connection is closed while an attempt awaits that the
  brain forgets its URL. The attempt still registers.
-/
def Sample.belated : List Occurrence :=
  [ registers 0 1,
    forgets,
    unregisters 0 1,
    .command world .close,
    .run world 0,
    .start ]

/-
  The connection is closed, and nothing is under way. Its
  brain has agreed to all, and still it knows the adapter.
-/
def Sample.Outlives (past : List Occurrence) : Prop :=
  let after := replay connection past
  let said := dialogue connection past
  after.connection.isClosed = true ∧
    after.isParting = false ∧
    after.attempts = [] ∧
    said.all (Line.isGranted config.brainUrl) = true ∧
    (Brain.after [] config.brainUrl said).knows
        config.registrationName =
      true

/- So it is if a registration was what it agreed to last. -/
theorem Sample.outlives_of_lastSettled
    {past : List Occurrence}
    (h :
      (replay connection past).connection.isClosed = true ∧
        (replay connection past).isParting = false ∧
        (replay connection past).attempts = [] ∧
        (dialogue connection past).all
            (Line.isGranted config.brainUrl) =
          true ∧
        lastSettled (dialogue connection past) = some true) :
    Outlives past := by
  rcases h with ⟨hClosed, hReturned, hEnded, hGranted, hLast⟩
  refine ⟨hClosed, hReturned, hEnded, hGranted, ?_⟩
  have hFits :
      ∀ line ∈ dialogue connection past, line.Fits config :=
    fun _ => fits_of_mem_dialogue new_connection
  rw [Brain.knows_after hFits, hLast]
  rfl

/- In both cases the registration outlives the closing. -/
theorem known_of_disowned :
    Sample.Outlives Sample.disowned ∧
      Sample.Outlives Sample.belated := by
  constructor
  · apply Sample.outlives_of_lastSettled
    decide +kernel
  · apply Sample.outlives_of_lastSettled
    decide +kernel

end BrainLink
