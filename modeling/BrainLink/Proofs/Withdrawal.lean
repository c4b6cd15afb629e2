import BrainLink.Proofs.Dialogue

/-
  What an attempt still does once it was cancelled.

  Key definitions include:
    * `requestsOf`
    * `Situation.lastSeen`
    * `Situation.told`
    * `Situation.Withdraws`

  Main statements:
    * `Situation.Sound.asks_of_cancelled`
    * `Situation.Sound.withdraws`
    * `withdraws_once_cancelled`

  A cancelled attempt that gets the answer to its unregister
  request still asks to be registered, as it does not look
  then. In all other cases it goes offline and is at its end.
-/

namespace BrainLink

------------------------------------------------------------
-- Requests of an Attempt
------------------------------------------------------------

/- The request that a line sends on behalf of an attempt. -/
def Line.sentFor?
    (task : TaskId) :
    Line → Option Http.Request
| .asked request errand =>
    if errand.attempt? = some task then some request else none
| .answered _ _ _ => none

theorem Line.sentFor?_asked
    {errand : Errand}
    {task : TaskId}
    (hAttempt : errand.attempt? = some task)
    (request : Http.Request) :
    Line.sentFor? task (.asked request errand) = some request :=
  if_pos hAttempt

/- All that an attempt has sent so far, the latest first. -/
def requestsOf
    (connection : Connection)
    (past : List Occurrence)
    (task : TaskId) :
    List Http.Request :=
  (dialogue connection past).filterMap (Line.sentFor? task)

namespace Situation

/- Whether an attempt awaits that the brain forgets its URL. -/
def AwaitsUnregister
    (situation : Situation)
    (task : TaskId) : Prop :=
  ∃ request transport,
    .asking request (.unregistering task transport) ∈
      situation.waiting

------------------------------------------------------------
-- The Last Look
------------------------------------------------------------

/-
  The connection as an attempt finds it when it looks for the
  last time, before its next question or its end, whether it
  was cancelled.
-/
def lastSeen
    (situation : Situation) :
    Occurrence → Connection
| .run world task =>
    (situation.connection.beginRun task).goOffline world
| .answer world _ errand answer =>
    let noted := situation.connection.noted answer errand
    if situation.connection.bringsOnline answer errand then
      noted.goOnline world
    else
      noted
| _ => situation.connection

/- And once all were told that it is offline. -/
def told
    (situation : Situation)
    (occurrence : Occurrence) :
    Connection :=
  occurrence.world?.elim
    (situation.lastSeen occurrence)
    (situation.lastSeen occurrence).goOffline

/-
  What an attempt comes to that finds itself cancelled. It
  may ask to be registered if the brain has just forgotten
  its URL. Else it is at its end: it asks nothing, leaves the
  connection offline, and nothing is scheduled but what those
  have scheduled who were told.
-/
inductive Withdraws
    (before : Situation)
    (occurrence : Occurrence)
    (after : Situation)
    (task : TaskId) : Prop where
| registers
    (url : String)
    (transport : TransportId)
    (hAwaits : before.AwaitsUnregister task)
    (hAsks :
      before.asks occurrence =
        [.asked
          (before.connection.registrar.request .register url)
          (.registering task transport)])
    (hTasks :
      after.connection.tasks =
        before.connection.clearCheck.tasks)
    (hConnect :
      after.connection.session.connect =
        before.connection.session.connect)
    (hCheck : after.connection.session.check = none)
| ends
    (hAsks : before.asks occurrence = [])
    (hEnds : task ∉ after.attempts)
    (hFlag : after.connection.session.isConnected = false)
    (hState :
      after.connection.session.state = .disconnected)
    (hTasks :
      after.connection.tasks =
        (before.told occurrence).tasks.endRun task)
    (hConnect :
      after.connection.session.connect =
        (before.told occurrence).session.connect)
    (hCheck :
      after.connection.session.check = none ∨
        after.connection.session.check =
          before.connection.session.check)

------------------------------------------------------------
-- Cancelled for Good
------------------------------------------------------------

section Cancelled

variable {config : Config}
variable {before after : Situation}
variable {occurrence : Occurrence}
variable {task : TaskId}
variable {line : Line}

/- What was cancelled stays so. -/
theorem Turn.isCancelled
    (hTurn : before.Turn config occurrence after)
    (hCancelled :
      before.connection.isCancelled task = true) :
    after.connection.isCancelled task = true := by
  cases hTurn with
  | idle _ _ hIdles hPasses hRequests =>
      exact
        (hIdles.connection.tasks.isCancelled task).trans
          hCancelled
  | starts hHeld hOpen =>
      exact
        before.connection.grows_scheduleConnect.isCancelled
          hCancelled
  | drops =>
      exact
        before.connection.grows_clearSlots.isCancelled
          hCancelled
  | opens world other known hTask hJob hLive result hResult
      hOpening =>
      have hBegun :
          (before.connection.tasks.beginRun other).isCancelled
              task =
            true :=
        (Scheduler.isCancelled_update
          Scheduler.restages_beginRun _ _ _).trans hCancelled
      cases hOpening with
      | asks later request transport hHeld hOpen hTasks hCalm
          hFlag hUrl =>
          exact hTasks.isCancelled hBegun
      | falls later hFallen hRenewed hRequests hTransport =>
          exact
            (Scheduler.isCancelled_update
              (Scheduler.restages_endRun _) _ _ _).trans
                (hFallen.tasks.isCancelled hBegun)
  | advances world request errand answer other hMember hAttempt
      result hResult hAdvance =>
      have hEnded :
          ∀ later : Connection,
            before.connection.tasks.Grows later.tasks →
              (later.endRun other).isCancelled task = true :=
        fun later hTasks =>
          (Scheduler.isCancelled_update
            (Scheduler.restages_endRun _) _ _ _).trans
              (hTasks.isCancelled hCancelled)
      cases hAdvance with
      | registers _ transport later again hKeeps hUrl =>
          exact hKeeps.tasks.isCancelled hCancelled
      | fetches _ transport later again hKeeps hCalm =>
          exact hKeeps.tasks.isCancelled hCancelled
      | falls _ _ later _ hLowered hRenewed =>
          exact hEnded later hLowered.tasks
      | flickers _ transport hCalm hRaised hFallen hRenewed =>
          exact hEnded _ hFallen.tasks
      | rises _ transport later hCalm hRisen =>
          exact hEnded later hRisen.tasks
  | fails world other isReachable later hMember hLater hLowered
      hRenewed =>
      exact
        (Scheduler.isCancelled_update
          (Scheduler.restages_endRun _) _ _ _).trans
            (hLowered.tasks.isCancelled hCancelled)
  | parts world transport request hOpen hParting =>
      exact
        before.connection.grows_clearSlots.isCancelled
          hCancelled
  | closes world hOpen hParting =>
      have hEnded :=
        before.connection.shut.ended_endClose world
      exact
        hEnded.tasks.isCancelled
          (before.connection.grows_clearSlots.isCancelled
            hCancelled)
  | concludes world request answer hMember =>
      have hEnded := before.connection.ended_endClose world
      exact hEnded.tasks.isCancelled hCancelled

/- An attempt that begins was not cancelled before. -/
theorem calm_of_moves?_run
    {world : World}
    (hMoves : before.moves? (.run world task) = some task) :
    before.connection.isCancelled task = false := by
  rcases exists_of_moves?_run hMoves with
    ⟨-, known, hKnown, hLive, -⟩
  exact
    (Scheduler.isCancelled_of_task? hKnown).trans
      (Task.cancelled_of_isLive hLive)

/-
  All that a cancelled attempt can ask for is to be
  registered, when the brain has forgotten its URL.
-/
theorem asks_of_cancelled
    (hCancelled :
      before.connection.isCancelled task = true)
    (hMember : line ∈ before.asks occurrence)
    (hAttempt : line.errand.attempt? = some task) :
    ∃ world request transport answer sender url,
      occurrence =
          .answer world request
            (.unregistering task transport) answer ∧
        .asking request (.unregistering task transport) ∈
            before.waiting ∧
          before.connection.resume world
              (.unregistering task transport) answer =
            (before.connection.clearCheck.record
                (.asked sender
                  (before.connection.registrar.request
                    .register url)),
              .asks
                (before.connection.registrar.request
                  .register url)
                (.registering task transport)) := by
  have hMover := (moves?_of_mem_asks hMember).symm.trans hAttempt
  cases asks_of_mem hMember with
  | obeys world command _ hMember => cases hMover
  | begins world other _ hMoves hMember =>
      cases hMoves.symm.trans hMover
      cases (calm_of_moves?_run hMoves).symm.trans hCancelled
  | goesOn world request errand answer _ hWaits hMember =>
      have hErrand := (mem_of_moves?_answer hMover).2
      have hReplies :=
        Connection.replies_resume world answer
          before.connection hErrand
      rcases hReplies.ends_of_cancelled hErrand hCancelled with
        hEnds | ⟨transport, sender, url, rfl, -, hResult⟩
      · rw [hEnds] at hMember
        cases hMember
      · exact
          ⟨world, request, transport, answer, sender, url, rfl,
            hWaits, hResult⟩

/- What it sends then is the register request. -/
theorem sends_of_cancelled
    (hCancelled :
      before.connection.isCancelled task = true)
    (hMember : line ∈ before.asks occurrence)
    (hAttempt : line.errand.attempt? = some task) :
    before.AwaitsUnregister task ∧
      ∃ transport url,
        line =
          .asked
            (before.connection.registrar.request .register url)
            (.registering task transport) := by
  rcases asks_of_cancelled hCancelled hMember hAttempt with
    ⟨world, request, transport, answer, sender, url, rfl, hWaits,
      hResult⟩
  unfold asks at hMember
  simp only [step?, if_pos hWaits, Option.elim, hResult]
    at hMember
  exact
    ⟨⟨request, transport, hWaits⟩, transport, url,
      List.mem_singleton.mp hMember⟩

/- So a cancelled attempt never again awaits that. -/
theorem awaitsUnregister_of_after
    (hCancelled :
      before.connection.isCancelled task = true)
    (hAwaits :
      (before.after occurrence).AwaitsUnregister task) :
    before.AwaitsUnregister task := by
  rcases hAwaits with ⟨request, transport, hMember⟩
  rcases mem_waiting_after hMember with hOld | hAsked
  · exact ⟨request, transport, hOld⟩
  · rcases (sends_of_cancelled hCancelled hAsked rfl).2 with
      ⟨other, url, hLine⟩
    cases hLine

/- Nor does it once it asks to be registered. -/
theorem Sound.not_awaitsUnregister
    (hAfter : (before.after occurrence).Sound config)
    (hCancelled :
      before.connection.isCancelled task = true)
    (hMember : line ∈ before.asks occurrence)
    (hAttempt : line.errand.attempt? = some task) :
    ¬ (before.after occurrence).AwaitsUnregister task := by
  rcases asks_of_cancelled hCancelled hMember hAttempt with
    ⟨world, request, transport, answer, sender, url, rfl, hWaits,
      hResult⟩
  have hCrew := hAfter.crew.single
  simp only [Situation.after, if_pos hWaits, hResult, proceed]
    at hCrew ⊢
  rintro ⟨again, other, hAgain⟩
  rcases List.mem_cons.mp hAgain with hSame | hOld
  · cases hSame
  · apply (List.nodup_cons.mp hCrew).1
    exact List.mem_filterMap.mpr ⟨_, hOld, rfl⟩

------------------------------------------------------------
-- Runs
------------------------------------------------------------

/- What an attempt sends, it asks at the end of its stretch. -/
theorem filterMap_lines
    (before after : Situation)
    (occurrence : Occurrence)
    (task : TaskId) :
    (before.lines after occurrence).filterMap
        (Line.sentFor? task) =
      (before.asks occurrence).filterMap
        (Line.sentFor? task) := by
  have hRest :
      (before.asides after occurrence ++
          before.hears occurrence).filterMap
          (Line.sentFor? task) =
        [] := by
    rw [List.filterMap_eq_nil_iff]
    intro line hMember
    rcases List.mem_append.mp hMember with hAside | hHeard
    · have hErrand := (exists_of_mem_asides hAside).1
      cases line with
      | asked request errand =>
          change errand = .closing at hErrand
          rw [hErrand]
          rfl
      | answered request errand answer => rfl
    · rcases exists_of_mem_hears hHeard with
        ⟨world, request, errand, answer, -, -, rfl⟩
      rfl
  unfold lines
  rw [List.filterMap_append, hRest, List.append_nil]

/- An occurrence asks one thing at most. -/
theorem asks_eq_singleton
    (hMember : line ∈ before.asks occurrence) :
    before.asks occurrence = [line] := by
  unfold asks at hMember ⊢
  cases hStep : before.step? occurrence with
  | none =>
      rw [hStep] at hMember
      cases hMember
  | some result =>
      rw [hStep] at hMember
      change line ∈ result.2.question at hMember
      change result.2.question = [line]
      cases hProgress : result.2 with
      | asks request errand =>
          rw [hProgress] at hMember
          cases List.mem_singleton.mp hMember
          rfl
      | probes other =>
          rw [hProgress] at hMember
          cases hMember
      | done outcome =>
          rw [hProgress] at hMember
          cases hMember

------------------------------------------------------------
-- Stretches
------------------------------------------------------------

/- A health check that is gone or as it was. -/
def HasCheck (slot : Slot) (connection : Connection) : Prop :=
  connection.session.check = none ∨
    connection.session.check = slot

/- Whatever listeners do, none is installed. -/
theorem enduring_hasCheck (slot : Slot) :
    Connection.Enduring (HasCheck slot) where
  note hNotes h := by
    cases hNotes with
    | intro registry names closings journal hRequests => exact h
  start {connection} hOpen h := by
    unfold HasCheck
    rw [connection.check_scheduleConnect]
    exact h
  shut _ := Or.inl rfl
  asked _ _ h := h
  bare _ := Or.inl rfl
  stays h := h

theorem HasCheck.noted
    (answer : Http.Answer)
    (connection : Connection)
    (errand : Errand) :
    HasCheck connection.session.check
      (connection.noted answer errand) := by
  cases errand with
  | unregistering task transport => exact Or.inl rfl
  | _ => exact Or.inr rfl

/- No attempt is under way that has not begun. -/
theorem Sound.not_mem_of_moves?
    (h : before.Sound config)
    {world : World}
    (hMoves : before.moves? (.run world task) = some task) :
    task ∉ before.attempts := by
  rcases exists_of_moves?_run hMoves with
    ⟨-, known, hKnown, hLive, hJob⟩
  exact
    (h.crew.not_mem_of_isLive hKnown
      (h.tidy.ledger.suits task known hKnown) hJob hLive).2

/- An attempt that begins and finds itself cancelled. -/
theorem Sound.withdraws_run
    (h : before.Sound config)
    {world : World}
    (hMoves : before.moves? (.run world task) = some task)
    (hCancelled :
      (before.lastSeen (.run world task)).isCancelled task =
        true) :
    before.Withdraws (.run world task)
      (before.after (.run world task)) task := by
  have hBegins :=
    Connection.begins_beginAttempt world task
      (before.connection.beginRun task)
  have hLowered :=
    Connection.lowered_goOffline world
      (before.connection.beginRun task)
  have hSlot :
      HasCheck before.connection.session.check
        ((before.connection.beginRun task).goOffline world) := by
    apply (enduring_hasCheck _).goOffline
    unfold Connection.beginRun
    split
    · exact Or.inr rfl
    · exact Or.inr rfl
  have hTold :
      before.told (.run world task) =
        ((before.connection.beginRun task).goOffline
          world).stayOffline :=
    Connection.goOffline_of_down hLowered.offline.flag
  have hSilent : before.asks (.run world task) = [] := by
    apply List.eq_nil_iff_forall_not_mem.mpr
    intro line hMember
    cases asks_of_mem hMember with
    | begins _ _ _ _ hMember =>
        rcases hBegins.ends_of_cancelled hLowered.offline.flag
            hCancelled with
          ⟨later, -, hResult⟩
        rw [hResult] at hMember
        cases hMember
  have hNew := h.not_mem_of_moves? hMoves
  rcases hBegins.ends_of_cancelled hLowered.offline.flag
      hCancelled with
    ⟨later, hPrepared, hResult⟩
  rw [after_run hMoves, hResult]
  refine Withdraws.ends hSilent hNew rfl rfl ?_ ?_ ?_
  · rw [hTold]
    change later.tasks.endRun task = _
    rw [hPrepared.tasks]
    rfl
  · rw [hTold]
    exact hPrepared.connect
  · change HasCheck _ later
    unfold HasCheck
    rw [hPrepared.check]
    exact hSlot

/- Whoever got an answer awaits no other. -/
theorem Sound.not_mem_erase
    (h : before.Sound config)
    {question : Question}
    (hMember : question ∈ before.waiting)
    (hAttempt : question.attempt? = some task)
    (connection : Connection) :
    task ∉
      attempts ⟨connection, before.waiting.erase question⟩ := by
  have hPerm := perm_erase_some hMember hAttempt
  have hSingle := hPerm.nodup_iff.mpr h.crew.single
  exact (List.nodup_cons.mp hSingle).1

/- One that goes on and finds itself cancelled. -/
theorem Sound.withdraws_answer
    (h : before.Sound config)
    {world : World}
    {request : Http.Request}
    {errand : Errand}
    {answer : Http.Answer}
    (hMoves :
      before.moves? (.answer world request errand answer) =
        some task)
    (hCancelled :
      (before.lastSeen
          (.answer world request errand answer)).isCancelled
          task =
        true) :
    before.Withdraws (.answer world request errand answer)
      (before.after (.answer world request errand answer))
      task := by
  rcases mem_of_moves?_answer hMoves with ⟨hWaits, hErrand⟩
  have hAsked := Question.attempt?_asking hErrand request
  have hReplies :=
    Connection.replies_resume world answer before.connection
      hErrand
  have hAsks :
      before.asks (.answer world request errand answer) =
        (before.connection.resume world errand
          answer).2.question := by
    simp only [asks, step?, if_pos hWaits, Option.elim]
  have hEnded :=
    h.not_mem_erase hWaits hAsked
  simp only [Situation.after, if_pos hWaits, hErrand]
  generalize before.connection.resume world errand answer =
    result at hReplies hAsks ⊢
  have hSlot :=
    HasCheck.noted answer before.connection errand
  cases hReplies with
  | givesUp _ other hOther hStays =>
      cases hErrand.symm.trans hOther
      simp only [lastSeen, hStays] at hCancelled
      change
        (before.connection.noted answer errand).isCancelled
            task =
          true at hCancelled
      rw [Connection.giveUp_of_cancelled hCancelled]
      have hTold :
          before.told (.answer world request errand answer) =
            (before.connection.noted answer
              errand).goOffline world := by
        simp only [told, lastSeen, hStays]
        rfl
      have hLowered :=
        Connection.lowered_goOffline world
          (before.connection.noted answer errand)
      refine Withdraws.ends hAsks (hEnded _) ?_ ?_ ?_ ?_ ?_
      · exact hLowered.offline.flag
      · exact hLowered.offline.state
      · rw [hTold]
        rfl
      · rw [hTold]
        rfl
      · exact (enduring_hasCheck _).goOffline world hSlot
  | registers other transport sender url hUrl =>
      cases hErrand
      exact
        .registers url transport ⟨request, transport, hWaits⟩
          hAsks rfl rfl rfl
  | fetches other transport body hAnswer hCalm =>
      cases hErrand
      cases hCalm.symm.trans hCancelled
  | flickers other transport hCalm hLit hKeys =>
      cases hErrand
      have hBrings :=
        Connection.bringsOnline_of_update transport hCalm hKeys
      have hTold :
          before.told
              (.answer world request
                (.fetchingKeys task transport) answer) =
            (before.connection.lit world answer).goOffline
              world := by
        simp only [told, lastSeen, hBrings]
        rfl
      have hLowered :=
        Connection.lowered_goOffline world
          (before.connection.lit world answer)
      rw [Connection.goOffline_of_down hLowered.offline.flag]
      refine
        Withdraws.ends hAsks (hEnded _) rfl rfl ?_ ?_ ?_
      · rw [hTold]
        rfl
      · rw [hTold]
        rfl
      · have hEndures :=
          enduring_hasCheck before.connection.session.check
        exact
          hEndures.goOffline world (hEndures.goOnline world hSlot)
  | rises other transport hCalm hLitCalm hKeys =>
      cases hErrand
      have hBrings :=
        Connection.bringsOnline_of_update transport hCalm hKeys
      simp only [lastSeen, hBrings] at hCancelled
      cases hLitCalm.symm.trans hCancelled

/- Whenever an attempt finds itself cancelled, it withdraws. -/
theorem Sound.withdraws
    (h : before.Sound config)
    (hMoves : before.moves? occurrence = some task)
    (hCancelled :
      (before.lastSeen occurrence).isCancelled task = true) :
    before.Withdraws occurrence (before.after occurrence)
      task := by
  cases occurrence with
  | run world other =>
      cases (exists_of_moves?_run hMoves).1
      exact h.withdraws_run hMoves hCancelled
  | answer world request errand answer =>
      exact h.withdraws_answer hMoves hCancelled
  | _ => cases hMoves

end Cancelled

end Situation

section Replay

variable {config : Config}
variable {drive : Drive}
variable {connection : Connection}

/- What an attempt has sent grows by what it asks. -/
theorem requestsOf_cons
    (connection : Connection)
    (occurrence : Occurrence)
    (past : List Occurrence)
    (task : TaskId) :
    requestsOf connection (occurrence :: past) task =
      ((replay connection past).asks occurrence).filterMap
          (Line.sentFor? task) ++
        requestsOf connection past task := by
  unfold requestsOf
  rw [dialogue, List.filterMap_append,
    Situation.filterMap_lines]

/- Cancelled once, cancelled for good. -/
theorem isCancelled_replay
    (hNew : Connection.new config drive = .ok connection)
    {past : List Occurrence}
    {task : TaskId}
    (hCancelled :
      (replay connection past).connection.isCancelled task =
        true)
    (later : List Occurrence) :
    (replay connection (later ++ past)).connection.isCancelled
        task =
      true := by
  induction later with
  | nil => exact hCancelled
  | cons occurrence later ih =>
      exact
        (turn_replay hNew occurrence (later ++ past)).isCancelled
          ih

/-
  From the moment at which an attempt was cancelled, it sends
  one request at most, and this only if it then awaits that
  the brain forgets its URL.
-/
theorem requestsOf_later
    (hNew : Connection.new config drive = .ok connection)
    {past : List Occurrence}
    {task : TaskId}
    (hCancelled :
      (replay connection past).connection.isCancelled task =
        true)
    (later : List Occurrence) :
    (requestsOf connection (later ++ past) task =
        requestsOf connection past task ∧
      ((replay connection (later ++ past)).AwaitsUnregister
          task →
        (replay connection past).AwaitsUnregister task)) ∨
    (∃ url,
      requestsOf connection (later ++ past) task =
        (Registrar.ofConfig config).request .register url ::
          requestsOf connection past task) ∧
      (replay connection past).AwaitsUnregister task ∧
      ¬ (replay connection (later ++ past)).AwaitsUnregister
        task := by
  induction later with
  | nil => exact Or.inl ⟨rfl, id⟩
  | cons occurrence later ih =>
      have hStill := isCancelled_replay hNew hCancelled later
      have hSound := sound_replay hNew (later ++ past)
      have hAfter :=
        sound_replay hNew (occurrence :: (later ++ past))
      rw [List.cons_append, requestsOf_cons]
      by_cases hSends :
          ∃ line ∈
              (replay connection (later ++ past)).asks
                occurrence,
            line.errand.attempt? = some task
      · rcases hSends with ⟨line, hMember, hAttempt⟩
        rcases Situation.sends_of_cancelled hStill hMember
            hAttempt with
          ⟨hAwaits, transport, url, rfl⟩
        have hNever :=
          hAfter.not_awaitsUnregister hStill hMember hAttempt
        rcases ih with ⟨hSame, hBefore⟩ | ⟨-, -, hNot⟩
        · have hErrand :
              (Errand.registering task transport).attempt? =
                some task :=
            rfl
          refine Or.inr ⟨⟨url, ?_⟩, hBefore hAwaits, hNever⟩
          rw [Situation.asks_eq_singleton hMember, hSame,
            Connection.registrar, hSound.tidy.sameConfig,
            List.filterMap_cons, Line.sentFor?_asked hErrand]
          rfl
        · exact absurd hAwaits hNot
      · have hNone :
            ((replay connection (later ++ past)).asks
                occurrence).filterMap
                (Line.sentFor? task) =
              [] := by
          rw [List.filterMap_eq_nil_iff]
          intro line hMember
          cases line with
          | answered request errand answer => rfl
          | asked request errand =>
              exact
                if_neg fun hAttempt =>
                  hSends ⟨_, hMember, hAttempt⟩
        have hKeeps :
            (replay connection
                (occurrence :: (later ++ past))).AwaitsUnregister
                task →
              (replay connection
                (later ++ past)).AwaitsUnregister task :=
          Situation.awaitsUnregister_of_after hStill
        rw [hNone, List.nil_append]
        rcases ih with ⟨hSame, hBefore⟩ | ⟨hOne, hBefore, hNot⟩
        · exact Or.inl ⟨hSame, hBefore ∘ hKeeps⟩
        · exact Or.inr ⟨hOne, hBefore, hNot ∘ hKeeps⟩

/-
  Let an attempt be cancelled, at whatever point. From then on
  it sends one request at most: the register request, and this
  only if it awaits that the brain forgets its URL. Whenever it
  finds itself cancelled as it looks for the last time, it
  sends that request or is at its end. Then the connection is
  offline, and the attempt has scheduled nothing.
-/
theorem withdraws_once_cancelled
    (hNew : Connection.new config drive = .ok connection)
    (past : List Occurrence) :
    let now := replay connection past
    (∀ task,
        now.connection.isCancelled task = true →
          ∀ later,
            requestsOf connection (later ++ past) task =
                requestsOf connection past task ∨
              now.AwaitsUnregister task ∧
                ∃ url,
                  requestsOf connection (later ++ past) task =
                    (Registrar.ofConfig config).request
                        .register url ::
                      requestsOf connection past task) ∧
      ∀ occurrence task,
        now.moves? occurrence = some task →
          (now.lastSeen occurrence).isCancelled task = true →
            now.Withdraws occurrence (now.after occurrence)
              task := by
  intro now
  constructor
  · intro task hCancelled later
    rcases requestsOf_later hNew hCancelled later with
      ⟨hSame, -⟩ | ⟨hOne, hAwaits, -⟩
    · exact Or.inl hSame
    · exact Or.inr ⟨hAwaits, hOne⟩
  · intro occurrence task hMoves hCancelled
    exact (sound_replay hNew past).withdraws hMoves hCancelled

end Replay

/-
  An attempt awaits that the brain forgets its URL, and is
  replaced by a second start.
-/
def Sample.revoked : List Occurrence :=
  [.start, .run world 0, .start]

/- It asks to be registered still, and for no keys. -/
theorem requestsOf_of_revoked :
    ∃ url,
      requestsOf Sample.connection
          ([Sample.registers 0 1, Sample.unregisters 0 1] ++
            Sample.revoked)
          0 =
        (Registrar.ofConfig Sample.config).request .register
            url ::
          requestsOf Sample.connection Sample.revoked 0 := by
  have hCancelled :
      (replay Sample.connection
        Sample.revoked).connection.isCancelled 0 = true := by
    decide +kernel
  have hMore :
      (requestsOf Sample.connection Sample.revoked 0).length =
          1 ∧
        (requestsOf Sample.connection
          ([Sample.registers 0 1, Sample.unregisters 0 1] ++
            Sample.revoked)
          0).length =
          2 := by
    decide +kernel
  rcases
      (withdraws_once_cancelled Sample.new_connection
        Sample.revoked).1 0 hCancelled
        [Sample.registers 0 1, Sample.unregisters 0 1] with
    hSame | ⟨-, hOne⟩
  · rw [hSame, hMore.1] at hMore
    cases hMore.2
  · exact hOne

end BrainLink
