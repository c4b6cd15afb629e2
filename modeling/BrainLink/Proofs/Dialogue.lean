import BrainLink.Proofs.Replies
import BrainLink.Proofs.Closing

/-
  The dialogue of a connection with its brain: all that was
  asked and answered in its course.

  Key definitions include:
    * `Line`
    * `Situation.step?`
    * `Situation.moves?`
    * `Situation.lines`
    * `dialogue`
    * `Errand.Fits`

  Main statements:
    * `Situation.moves?_of_mem_asks`
    * `Situation.eq_closing_or_moves?_of_mem_lines`
    * `Situation.Sound.fits_of_mem_lines`
    * `fits_of_mem_dialogue`

  Each occurrence adds the answer that it brings, what
  listeners say to the brain that close the connection, and
  the question with which it stops. What an attempt asks is
  told apart from what is asked for a command by its errand.
-/

namespace BrainLink

------------------------------------------------------------
-- Lines
------------------------------------------------------------

/- A line of a dialogue: a question, or an answer to one. -/
inductive Line where
| asked (request : Http.Request) (errand : Errand)
| answered
    (request : Http.Request)
    (errand : Errand)
    (answer : Http.Answer)

namespace Line

def request : Line → Http.Request
| .asked request _ => request
| .answered request _ _ => request

def errand : Line → Errand
| .asked _ errand => errand
| .answered _ errand _ => errand

end Line

/- The world that an occurrence finds, if it looks at it. -/
def Occurrence.world? : Occurrence → Option World
| .command world _ => some world
| .run world _ => some world
| .answer world _ _ _ => some world
| .probe world _ _ => some world
| _ => none

/-
  The farewell of a listener, with its answer if that is
  there at once. The latest line comes first.
-/
def World.aside
    (world : World)
    (request : Http.Request) :
    List Line :=
  match world.immediate request with
  | none => [.asked request .closing]
  | some answer =>
      [.answered request .closing answer,
        .asked request .closing]

/- The question with which something stops. -/
def Progress.question : Progress → List Line
| .asks request errand => [.asked request errand]
| _ => []

namespace Situation

/- What an occurrence sets going, up to its next question. -/
def step?
    (situation : Situation) :
    Occurrence → Option (Connection × Progress)
| .command world command =>
    if situation.connection.isHeld then
      some (situation.connection.obey world command)
    else
      none
| .run world task =>
    if situation.hasTask task Task.isLive then
      some
        ((situation.connection.beginRun task).runJob world task)
    else
      none
| .answer world request errand answer =>
    if .asking request errand ∈ situation.waiting then
      some (situation.connection.resume world errand answer)
    else
      none
| .probe world task isReachable =>
    if .probing task ∈ situation.waiting then
      some
        (situation.connection.afterProbe world task isReachable)
    else
      none
| _ => none

/- The attempt that an occurrence lets begin or go on. -/
def moves?
    (situation : Situation) :
    Occurrence → Option TaskId
| .run _ task =>
    if situation.hasTask task
        (fun known =>
          known.isLive && known.job == .connect) then
      some task
    else
      none
| .answer _ request errand _ =>
    if .asking request errand ∈ situation.waiting then
      errand.attempt?
    else
      none
| _ => none

/- The question that is asked at the end of an occurrence. -/
def asks
    (situation : Situation)
    (occurrence : Occurrence) :
    List Line :=
  (situation.step? occurrence).elim []
    fun step => step.2.question

/- What listeners say and hear in the course of one. -/
def asides
    (before after : Situation)
    (occurrence : Occurrence) :
    List Line :=
  if occurrence.isClose then
    []
  else
    occurrence.world?.elim []
      fun world =>
        (before.bids after occurrence).flatMap world.aside

/- The answer that comes at its beginning. -/
def hears
    (situation : Situation) :
    Occurrence → List Line
| .answer _ request errand answer =>
    if .asking request errand ∈ situation.waiting then
      [.answered request errand answer]
    else
      []
| _ => []

/- All lines of an occurrence, the latest first. -/
def lines
    (before after : Situation)
    (occurrence : Occurrence) :
    List Line :=
  before.asks occurrence ++
    (before.asides after occurrence ++
      before.hears occurrence)

end Situation

/- All that was said in the course of a connection so far. -/
def dialogue (connection : Connection) :
    List Occurrence → List Line
| [] => []
| occurrence :: past =>
    (replay connection past).lines
        (replay connection (occurrence :: past))
        occurrence ++
      dialogue connection past

------------------------------------------------------------
-- Who Asks
------------------------------------------------------------

/- Whoever is ordinary asks what is ordinary. -/
theorem Progress.isOrdinary_of_mem
    {progress : Progress}
    (hOrdinary : progress.IsOrdinary)
    {line : Line}
    (hMember : line ∈ progress.question) :
    line.errand.IsOrdinary := by
  cases progress with
  | asks request errand =>
      cases List.mem_singleton.mp hMember
      exact hOrdinary
  | _ => cases hMember

/- A first closing asks for its farewell, a later one nothing. -/
theorem Connection.question_beginClose
    {world : World}
    {connection : Connection}
    {line : Line}
    (hMember :
      line ∈ (connection.beginClose world).2.question) :
    connection.isClosed = false ∧
      ∃ sending,
        connection.parting = some sending ∧
          line = .asked sending.2 .closing := by
  unfold beginClose at hMember
  split at hMember
  · cases hMember
  · rename_i hOpen
    refine ⟨eq_false_of_ne_true hOpen, ?_⟩
    dsimp only at hMember
    cases hParting : connection.parting with
    | none =>
        have hFarewell := farewell_of_parting_eq_none hParting
        split at hMember
        · rename_i sending hSent
          exact absurd hSent (hFarewell sending)
        · cases hMember
    | some sending =>
        rw [farewell_of_parting_eq_some hParting] at hMember
        exact ⟨sending, rfl, List.mem_singleton.mp hMember⟩

/- An attempt that begins asks on its own behalf. -/
theorem Connection.Begins.question
    {world : World}
    {task : TaskId}
    {offline : Connection}
    {result : Connection × Progress}
    (h : offline.Begins world task result)
    {line : Line}
    (hMember : line ∈ result.2.question) :
    ∃ url,
      line =
        .asked
          (offline.registrar.request .unregister url)
          (.unregistering task (offline.transports + 1)) := by
  cases h with
  | givesUp later hPrepared => cases hMember
  | strands hStrands => cases hMember
  | asks url hCalm =>
      exact ⟨url, List.mem_singleton.mp hMember⟩

/- So does one that goes on. -/
theorem Connection.Replies.attempt?_eq
    {world : World}
    {answer : Http.Answer}
    {before : Connection}
    {errand : Errand}
    {result : Connection × Progress}
    (h : before.Replies world answer errand result)
    {line : Line}
    (hMember : line ∈ result.2.question) :
    line.errand.attempt? = errand.attempt? := by
  cases h with
  | registers task transport sender url hUrl =>
      cases List.mem_singleton.mp hMember
      rfl
  | fetches task transport body hAnswer hCalm =>
      cases List.mem_singleton.mp hMember
      rfl
  | _ => cases hMember

namespace Situation

section Moves

variable {before after : Situation}
variable {occurrence : Occurrence}
variable {line : Line}

/- An attempt that begins was not cancelled. -/
theorem exists_of_moves?_run
    {world : World}
    {task mover : TaskId}
    (hMoves : before.moves? (.run world task) = some mover) :
    mover = task ∧
      ∃ known,
        before.connection.tasks.task? task = some known ∧
          known.isLive = true ∧
            known.job = .connect := by
  simp only [moves?] at hMoves
  split at hMoves
  · rename_i hRuns
    cases hMoves
    unfold hasTask at hRuns
    rcases (Option.any_eq_true _ _).mp hRuns with
      ⟨known, hKnown, hIs⟩
    simp only [Bool.and_eq_true, beq_iff_eq] at hIs
    exact ⟨rfl, known, hKnown, hIs.1, hIs.2⟩
  · cases hMoves

/- An attempt that goes on has waited for its answer. -/
theorem mem_of_moves?_answer
    {world : World}
    {request : Http.Request}
    {errand : Errand}
    {answer : Http.Answer}
    {mover : TaskId}
    (hMoves :
      before.moves? (.answer world request errand answer) =
        some mover) :
    .asking request errand ∈ before.waiting ∧
      errand.attempt? = some mover := by
  simp only [moves?] at hMoves
  split at hMoves
  · rename_i hMember
    exact ⟨hMember, hMoves⟩
  · cases hMoves

/- What comes of the beginning of an attempt. -/
theorem after_run
    {world : World}
    {task mover : TaskId}
    (hMoves : before.moves? (.run world task) = some mover) :
    before.after (.run world task) =
      proceed before.waiting (some task)
        ((before.connection.beginRun task).beginAttempt
          world task) := by
  rcases exists_of_moves?_run hMoves with
    ⟨-, known, hKnown, hLive, hJob⟩
  rcases Connection.exists_task?_beginRun hKnown with
    ⟨stage, hBegun⟩
  have hRuns :
      before.hasTask task Task.isLive = true := by
    simp [hasTask, hKnown, hLive]
  simp only [Situation.after]
  rw [if_pos hRuns,
    Connection.runJob_of_connect world hBegun hJob]

/- What can be asked at the end of an occurrence. -/
inductive Asks
    (before : Situation) : Occurrence → Line → Prop where
| obeys
    (world : World)
    (command : Command)
    (line : Line)
    (hMember :
      line ∈
        (before.connection.obey world command).2.question) :
    Asks before (.command world command) line
| begins
    (world : World)
    (task : TaskId)
    (line : Line)
    (hMoves : before.moves? (.run world task) = some task)
    (hMember :
      line ∈
        ((before.connection.beginRun task).beginAttempt
          world task).2.question) :
    Asks before (.run world task) line
| goesOn
    (world : World)
    (request : Http.Request)
    (errand : Errand)
    (answer : Http.Answer)
    (line : Line)
    (hWaits : .asking request errand ∈ before.waiting)
    (hMember :
      line ∈
        (before.connection.resume world errand
          answer).2.question) :
    Asks before (.answer world request errand answer) line

/- The beginning of a run asks only if it is an attempt. -/
theorem asks_run
    {world : World}
    {task : TaskId}
    {known : Task Job}
    (hTask : before.connection.tasks.task? task = some known)
    (hLive : known.isLive = true)
    (hMember :
      line ∈
        ((before.connection.beginRun task).runJob
          world task).2.question) :
    before.Asks (.run world task) line := by
  rcases Connection.exists_task?_beginRun hTask with
    ⟨stage, hBegun⟩
  cases hJob : known.job with
  | connect =>
      rw [Connection.runJob_of_connect world hBegun hJob]
        at hMember
      apply Asks.begins world task line _ hMember
      simp [moves?, hasTask, hTask, hLive, hJob]
  | checkHealth =>
      rw [Connection.runJob_of_checkHealth world hBegun hJob]
        at hMember
      unfold Connection.beginCheck at hMember
      split at hMember
      · cases hMember
      · cases hMember

theorem asks_of_mem
    (hMember : line ∈ before.asks occurrence) :
    before.Asks occurrence line := by
  unfold asks at hMember
  cases occurrence with
  | command world command =>
      simp only [step?] at hMember
      split at hMember
      · exact .obeys world command line hMember
      · cases hMember
  | run world task =>
      simp only [step?] at hMember
      split at hMember
      · rename_i hRuns
        unfold hasTask at hRuns
        rcases (Option.any_eq_true _ _).mp hRuns with
          ⟨known, hKnown, hLive⟩
        exact asks_run hKnown hLive hMember
      · cases hMember
  | answer world request errand answer =>
      simp only [step?] at hMember
      split at hMember
      · rename_i hWaits
        exact
          .goesOn world request errand answer line hWaits
            hMember
      · cases hMember
  | probe world task isReachable =>
      simp only [step?] at hMember
      split at hMember
      · change
          line ∈
            (before.connection.afterProbe world task
              isReachable).2.question at hMember
        rcases Connection.afterProbe_cases world task
            isReachable before.connection with
          hSame | ⟨later, hAfter, -⟩
        · rw [hSame] at hMember
          cases hMember
        · rw [hAfter] at hMember
          cases hMember
      · cases hMember
  | _ => cases hMember

/- Whatever is asked is asked by the attempt that moves. -/
theorem moves?_of_mem_asks
    (hMember : line ∈ before.asks occurrence) :
    line.errand.attempt? = before.moves? occurrence := by
  cases asks_of_mem hMember with
  | obeys world command _ hMember =>
      by_cases hClose : command = .close
      · subst hClose
        rcases Connection.question_beginClose hMember with
          ⟨-, sending, -, rfl⟩
        rfl
      · have hOrdinary :=
          (Connection.idles_obey world before.connection
            hClose).2
        exact (Progress.isOrdinary_of_mem hOrdinary hMember).1
  | begins world task _ hMoves hMember =>
      have hBegins :=
        Connection.begins_beginAttempt world task
          (before.connection.beginRun task)
      rcases hBegins.question hMember with ⟨url, rfl⟩
      exact hMoves.symm
  | goesOn world request errand answer _ hWaits hMember =>
      simp only [moves?, if_pos hWaits]
      cases hAttempt : errand.attempt? with
      | some task =>
          have hReplies :=
            Connection.replies_resume world answer
              before.connection hAttempt
          exact (hReplies.attempt?_eq hMember).trans hAttempt
      | none =>
          by_cases hClosing : errand = .closing
          · subst hClosing
            cases hMember
          · have hOrdinary :=
              (Connection.idles_resume world answer
                before.connection ⟨hAttempt, hClosing⟩).2
            exact
              (Progress.isOrdinary_of_mem hOrdinary hMember).1

/- Listeners say nothing but farewells. -/
theorem exists_of_mem_asides
    (hMember : line ∈ before.asides after occurrence) :
    line.errand = .closing ∧
      line.request ∈ before.bids after occurrence := by
  unfold asides at hMember
  split at hMember
  · cases hMember
  · cases hWorld : occurrence.world? with
    | none =>
        rw [hWorld] at hMember
        cases hMember
    | some world =>
        rw [hWorld] at hMember
        rcases List.mem_flatMap.mp hMember with
          ⟨request, hRequest, hLine⟩
        unfold World.aside at hLine
        split at hLine
        · cases List.mem_singleton.mp hLine
          exact ⟨rfl, hRequest⟩
        · rcases List.mem_cons.mp hLine with rfl | hLine
          · exact ⟨rfl, hRequest⟩
          · cases List.mem_singleton.mp hLine
            exact ⟨rfl, hRequest⟩

/- The answer that comes is the answer to a question. -/
theorem exists_of_mem_hears
    (hMember : line ∈ before.hears occurrence) :
    ∃ world request errand answer,
      occurrence = .answer world request errand answer ∧
        .asking request errand ∈ before.waiting ∧
          line = .answered request errand answer := by
  unfold hears at hMember
  split at hMember
  · rename_i world request errand answer
    split at hMember
    · rename_i hWaits
      exact
        ⟨world, request, errand, answer, rfl, hWaits,
          List.mem_singleton.mp hMember⟩
    · cases hMember
  · cases hMember

/- Every line belongs to a closing or to who moves. -/
theorem eq_closing_or_moves?_of_mem_lines
    (hMember : line ∈ before.lines after occurrence) :
    line.errand = .closing ∨
      line.errand.attempt? = before.moves? occurrence := by
  rcases List.mem_append.mp hMember with hAsked | hOther
  · exact Or.inr (moves?_of_mem_asks hAsked)
  · rcases List.mem_append.mp hOther with hAside | hHeard
    · exact Or.inl (exists_of_mem_asides hAside).1
    · rcases exists_of_mem_hears hHeard with
        ⟨world, request, errand, answer, rfl, hWaits, rfl⟩
      refine Or.inr ?_
      simp only [moves?, if_pos hWaits]
      rfl

end Moves

end Situation

------------------------------------------------------------
-- What Is Asked
------------------------------------------------------------

/- What a question of an errand is about. -/
def Errand.Fits
    (config : Config)
    (request : Http.Request) :
    Errand → Prop
| .unregistering _ _ =>
    ∃ url,
      request =
        (Registrar.ofConfig config).request .unregister url
| .registering _ _ =>
    ∃ url,
      request =
        (Registrar.ofConfig config).request .register url
| .fetchingKeys _ _ =>
    request = KeyCache.request config.brainUrl
| .closing =>
    ∃ url,
      request =
        (Registrar.ofConfig config).request .unregister url
| .notifying =>
    ∃ message,
      request =
        .post
          (Endpoint.notifications.url config.brainUrl)
          message
| _ => request.method = .get

/- A line is about what its errand is. -/
def Line.Fits (config : Config) (line : Line) : Prop :=
  line.errand.Fits config line.request

namespace Connection

/- What a command asks is about what was commanded. -/
theorem fits_obey
    {world : World}
    {connection : Connection}
    {command : Command}
    {line : Line}
    (hMember :
      line ∈ (connection.obey world command).2.question) :
    line.Fits connection.config := by
  cases command with
  | close =>
      rcases question_beginClose hMember with
        ⟨-, sending, hParting, rfl⟩
      unfold parting at hParting
      split at hParting
      · rename_i url transport hUrl hTransport
        cases hParting
        exact ⟨url, rfl⟩
      · cases hParting
  | notify message =>
      change
        line ∈ (connection.beginNotify message).2.question
        at hMember
      unfold beginNotify askInSession at hMember
      split at hMember
      · split at hMember
        · cases hMember
        · rename_i sending hSent
          unfold Session.send? at hSent
          split at hSent
          · cases hSent
          · cases hSent
            cases List.mem_singleton.mp hMember
            exact ⟨message, rfl⟩
      · cases hMember
  | executeRecipe key on =>
      change
        line ∈ (connection.beginRecipe key on).2.question
        at hMember
      unfold beginRecipe askInSession at hMember
      split at hMember
      · cases hMember
      · split at hMember
        · cases hMember
        · rename_i sending hSent
          unfold Session.send? at hSent
          split at hSent
          · cases hSent
          · cases hSent
            cases List.mem_singleton.mp hMember
            rfl
  | _ =>
      change
        line ∈ (askAnew world connection _ _).2.question
        at hMember
      unfold askAnew createTransport at hMember
      cases hCreates : world.creates with
      | false =>
          rw [hCreates] at hMember
          cases hMember
      | true =>
          rw [hCreates] at hMember
          cases List.mem_singleton.mp hMember
          rfl

/- So is what is asked after an answer. -/
theorem fits_resume
    {world : World}
    {connection : Connection}
    {errand : Errand}
    {answer : Http.Answer}
    {line : Line}
    (hMember :
      line ∈
        (connection.resume world errand answer).2.question) :
    line.Fits connection.config := by
  cases hAttempt : errand.attempt? with
  | some task =>
      have hReplies :=
        replies_resume world answer connection hAttempt
      generalize connection.resume world errand answer = result
        at hMember hReplies
      cases hReplies with
      | registers other transport sender url hUrl =>
          cases List.mem_singleton.mp hMember
          exact ⟨url, rfl⟩
      | fetches other transport body hAnswer hCalm =>
          cases List.mem_singleton.mp hMember
          rfl
      | _ => cases hMember
  | none =>
      cases errand with
      | listingRecipes transport key on =>
          change
            line ∈
              (connection.afterListing transport key on
                answer).2.question at hMember
          unfold afterListing at hMember
          split at hMember
          · cases hMember
          · split at hMember
            · cases hMember
            · split at hMember
              · cases hMember
              · cases List.mem_singleton.mp hMember
                rfl
      | unregistering task transport => cases hAttempt
      | registering task transport => cases hAttempt
      | fetchingKeys task transport => cases hAttempt
      | _ => cases hMember

end Connection

namespace Situation

/- Every question that waits is about what its errand is. -/
def Fits (config : Config) (situation : Situation) : Prop :=
  ∀ request errand,
    .asking request errand ∈ situation.waiting →
      errand.Fits config request

section Fits

variable {config : Config}
variable {before after : Situation}
variable {occurrence : Occurrence}
variable {line : Line}

theorem Sound.fits_of_mem_asks
    (h : before.Sound config)
    (hMember : line ∈ before.asks occurrence) :
    line.Fits config := by
  have hSame := h.tidy.sameConfig
  cases asks_of_mem hMember with
  | obeys world command _ hMember =>
      rw [← hSame]
      exact Connection.fits_obey hMember
  | begins world task _ hMoves hMember =>
      have hBegins :=
        Connection.begins_beginAttempt world task
          (before.connection.beginRun task)
      have hOffline := (h.tidy.beginRun task).goOffline world
      rcases hBegins.question hMember with ⟨url, rfl⟩
      refine ⟨url, ?_⟩
      unfold Line.request Connection.registrar
      rw [hOffline.sameConfig]
  | goesOn world request errand answer _ hWaits hMember =>
      rw [← hSame]
      exact Connection.fits_resume hMember

/- Whoever closes a connection takes back a URL. -/
theorem exists_of_mem_partingRequests
    {connection : Connection}
    {request : Http.Request}
    (hMember : request ∈ connection.partingRequests) :
    ∃ url,
      request = connection.registrar.request .unregister url := by
  unfold Connection.partingRequests Connection.parting
    at hMember
  split at hMember
  · rename_i url transport hUrl hTransport
    exact ⟨url, List.mem_singleton.mp hMember⟩
  · cases hMember

/- The connection that is closed is the one that was there. -/
theorem config_atClose
    (situation : Situation)
    (occurrence : Occurrence) :
    (situation.atClose occurrence).config =
      situation.connection.config := by
  unfold atClose
  split
  · rfl
  · split
    · rfl
    · rfl
  · rfl

/- Only a first closing sends anything. -/
theorem Sound.bids_eq
    (h : before.Sound config)
    (hTurn : before.Turn config occurrence after) :
    before.bids after occurrence =
      if !before.connection.isClosed &&
          after.connection.isClosed then
        (before.atClose occurrence).partingRequests
      else
        [] := by
  cases hBefore : before.connection.isClosed with
  | true =>
      have hStaysClosed := h.staysClosed_of_turn hTurn hBefore
      exact
        bids_of_isClosed_eq hTurn
          (hStaysClosed.closed.trans hBefore.symm)
  | false =>
      cases hAfter : after.connection.isClosed with
      | false =>
          exact
            bids_of_isClosed_eq hTurn
              (hAfter.trans hBefore.symm)
      | true =>
          have hFirst :=
            h.firstClosing_of_turn hTurn hBefore hAfter
          unfold bids
          rw [hBefore, hAfter, hFirst.requests]
          simp

theorem Sound.fits_of_mem_lines
    (h : before.Sound config)
    (hFits : before.Fits config)
    (hTurn : before.Turn config occurrence after)
    (hMember : line ∈ before.lines after occurrence) :
    line.Fits config := by
  rcases List.mem_append.mp hMember with hAsked | hOther
  · exact h.fits_of_mem_asks hAsked
  · rcases List.mem_append.mp hOther with hAside | hHeard
    · rcases exists_of_mem_asides hAside with ⟨hErrand, hBids⟩
      rw [h.bids_eq hTurn] at hBids
      split at hBids
      · rcases exists_of_mem_partingRequests hBids with
          ⟨url, hRequest⟩
        unfold Line.Fits
        rw [hErrand, hRequest, Connection.registrar,
          config_atClose, h.tidy.sameConfig]
        exact ⟨url, rfl⟩
      · cases hBids
    · rcases exists_of_mem_hears hHeard with
        ⟨world, request, errand, answer, rfl, hWaits, rfl⟩
      exact hFits request errand hWaits

/- What waits in the end has waited before, or is asked. -/
theorem mem_waiting_proceed
    {waiting : List Question}
    {task? : Option TaskId}
    {step : Connection × Progress}
    {request : Http.Request}
    {errand : Errand}
    (hMember :
      .asking request errand ∈
        (proceed waiting task? step).waiting) :
    .asking request errand ∈ waiting ∨
      .asked request errand ∈ step.2.question := by
  rcases step with ⟨connection, progress⟩
  cases progress with
  | asks again next =>
      rcases List.mem_cons.mp hMember with hSame | hOld
      · cases hSame
        exact Or.inr (List.mem_singleton.mpr rfl)
      · exact Or.inl hOld
  | probes task =>
      rcases List.mem_cons.mp hMember with hSame | hOld
      · cases hSame
      · exact Or.inl hOld
  | done result =>
      cases task? with
      | none => exact Or.inl hMember
      | some task => exact Or.inl hMember

theorem mem_waiting_after
    {request : Http.Request}
    {errand : Errand}
    (hMember :
      .asking request errand ∈
        (before.after occurrence).waiting) :
    .asking request errand ∈ before.waiting ∨
      .asked request errand ∈ before.asks occurrence := by
  unfold asks
  cases occurrence with
  | start =>
      simp only [Situation.after] at hMember
      split at hMember
      · exact Or.inl hMember
      · exact Or.inl hMember
  | drop =>
      simp only [Situation.after] at hMember
      split at hMember
      · exact Or.inl hMember
      · exact Or.inl hMember
  | command world command =>
      simp only [Situation.after] at hMember
      simp only [step?]
      split at hMember
      · rename_i hHeld
        rw [if_pos hHeld]
        exact mem_waiting_proceed hMember
      · exact Or.inl hMember
  | run world task =>
      simp only [Situation.after] at hMember
      simp only [step?]
      split at hMember
      · rename_i hRuns
        rw [if_pos hRuns]
        exact mem_waiting_proceed hMember
      · exact Or.inl hMember
  | answer world earlier other answer =>
      simp only [Situation.after] at hMember
      simp only [step?]
      split at hMember
      · rename_i hWaits
        rw [if_pos hWaits]
        rcases mem_waiting_proceed hMember with hOld | hAsked
        · exact Or.inl (List.mem_of_mem_erase hOld)
        · exact Or.inr hAsked
      · exact Or.inl hMember
  | probe world task isReachable =>
      simp only [Situation.after] at hMember
      simp only [step?]
      split at hMember
      · rename_i hWaits
        rw [if_pos hWaits]
        rcases mem_waiting_proceed hMember with hOld | hAsked
        · exact Or.inl (List.mem_of_mem_erase hOld)
        · exact Or.inr hAsked
      · exact Or.inl hMember
  | _ => exact Or.inl hMember

end Fits

end Situation

/- In the course of a connection every question fits. -/
theorem fits_replay
    {config : Config}
    {drive : Drive}
    {connection : Connection}
    (hNew : Connection.new config drive = .ok connection)
    (past : List Occurrence) :
    (replay connection past).Fits config := by
  induction past with
  | nil =>
      intro request errand hMember
      cases hMember
  | cons occurrence past ih =>
      intro request errand hMember
      rcases Situation.mem_waiting_after hMember with
        hOld | hAsked
      · exact ih request errand hOld
      · exact (sound_replay hNew past).fits_of_mem_asks hAsked

/- And so does every line of its dialogue. -/
theorem fits_of_mem_dialogue
    {config : Config}
    {drive : Drive}
    {connection : Connection}
    (hNew : Connection.new config drive = .ok connection)
    {past : List Occurrence}
    {line : Line}
    (hMember : line ∈ dialogue connection past) :
    line.Fits config := by
  induction past with
  | nil => cases hMember
  | cons occurrence past ih =>
      rcases List.mem_append.mp hMember with hLate | hEarly
      · exact
          (sound_replay hNew past).fits_of_mem_lines
            (fits_replay hNew past)
            (turn_replay hNew occurrence past) hLate
      · exact ih hEarly

end BrainLink
