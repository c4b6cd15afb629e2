import BrainLink.Proofs.Idling

/-
  What one occurrence can make of a situation.

  Key definitions include:
    * `Occurrence.isOrder`
    * `Situation.Passes`
    * `Situation.Turn`
    * `Situation.Sound`

  Main statements:
    * `Situation.Sound.turn_after`

  An occurrence leaves the session alone, or it is a start, a
  drop, the beginning of an attempt, an answer to one, a
  health check that fails, or a part of a closing.
-/

namespace BrainLink

------------------------------------------------------------
-- Runs
------------------------------------------------------------

/- A live task was not cancelled. -/
theorem Task.cancelled_of_isLive
    {task : Task Job}
    (hLive : task.isLive = true) :
    task.cancelled = false := by
  unfold Task.isLive at hLive
  split at hLive
  · simp only [Bool.and_eq_true, Bool.not_eq_true'] at hLive
    exact hLive.2
  · simpa using hLive

namespace Connection

variable {connection : Connection}
variable {task : TaskId}
variable {known : Task Job}

/- The run of a task that runs once is marked. -/
theorem beginRun_of_once
    (hTask : connection.tasks.task? task = some known)
    (hOnce : known.repetition = .once) :
    connection.beginRun task =
      { connection with
        tasks := connection.tasks.beginRun task } := by
  unfold beginRun
  rw [hTask, Option.map_some, hOnce]
  cases connection.tasks.drive <;> rfl

/- What is known of a task while it runs. -/
theorem exists_task?_beginRun
    (hTask : connection.tasks.task? task = some known) :
    ∃ stage,
      (connection.beginRun task).tasks.task? task =
        some { known with stage := stage } := by
  unfold beginRun
  split
  · exact ⟨known.stage, hTask⟩
  · exact
      Scheduler.exists_task?_update
        Scheduler.restages_beginRun task hTask

theorem runJob_of_connect
    (world : World)
    (hTask : connection.tasks.task? task = some known)
    (hJob : known.job = .connect) :
    connection.runJob world task =
      connection.beginAttempt world task := by
  unfold runJob
  rw [hTask]
  cases known with
  | mk repetition period job stage cancelled =>
      cases hJob
      rfl

theorem runJob_of_checkHealth
    (world : World)
    (hTask : connection.tasks.task? task = some known)
    (hJob : known.job = .checkHealth) :
    connection.runJob world task =
      connection.beginCheck task := by
  unfold runJob
  rw [hTask]
  cases known with
  | mk repetition period job stage cancelled =>
      cases hJob
      rfl

end Connection

------------------------------------------------------------
-- Turns
------------------------------------------------------------

/-
  Whether an occurrence is a command that does not close the
  connection, or an answer to one.
-/
def Occurrence.isOrder : Occurrence → Bool
| .command _ order => order != .close
| .answer _ _ errand _ =>
    errand.attempt?.isNone && errand != .closing
| _ => false

namespace Situation

/- An occurrence that a connection can pass over. -/
def Passes (situation : Situation) : Occurrence → Prop
| .start =>
    situation.connection.isHeld = true →
      situation.connection.isClosed = true
| .run _ task =>
    situation.hasTask task
      (fun known => known.isLive && known.job == .connect) =
      false
| _ => True

/- What can come of an occurrence. -/
inductive Turn (config : Config) (before : Situation) :
    Occurrence → Situation → Prop where
| idle
    (occurrence : Occurrence)
    (after : Situation)
    (hIdles : before.Idles after)
    (hPasses : before.Passes occurrence)
    (hRequests :
      occurrence.isOrder = false →
        after.connection.requests =
          before.connection.requests) :
    Turn config before occurrence after
| starts
    (hHeld : before.connection.isHeld = true)
    (hOpen : before.connection.isClosed = false) :
    Turn config before .start
      ⟨before.connection.scheduleConnect, before.waiting⟩
| drops :
    Turn config before .drop
      ⟨before.connection.drop, before.waiting⟩
| opens
    (world : World)
    (task : TaskId)
    (known : Task Job)
    (hTask : before.connection.tasks.task? task = some known)
    (hJob : known.job = .connect)
    (hLive : known.isLive = true)
    (result : Connection × Progress)
    (hTidy : result.1.Tidy config)
    (hOpening :
      { before.connection with
        tasks :=
          before.connection.tasks.beginRun task }.Opening
        world task result) :
    Turn config before (.run world task)
      (proceed before.waiting (some task) result)
| advances
    (world : World)
    (request : Http.Request)
    (errand : Errand)
    (answer : Http.Answer)
    (task : TaskId)
    (hMember : .asking request errand ∈ before.waiting)
    (hAttempt : errand.attempt? = some task)
    (result : Connection × Progress)
    (hTidy : result.1.Tidy config)
    (hAdvance :
      before.connection.Advance world answer errand result) :
    Turn config before (.answer world request errand answer)
      (proceed
        (before.waiting.erase (.asking request errand))
        (some task)
        result)
| fails
    (world : World)
    (task : TaskId)
    (isReachable : Bool)
    (after : Connection)
    (hMember : .probing task ∈ before.waiting)
    (hTidy : after.Tidy config)
    (hLowered : before.connection.Lowered after)
    (hRenewed : before.connection.Renewed after) :
    Turn config before (.probe world task isReachable)
      ⟨after.endRun task,
        before.waiting.erase (.probing task)⟩
| parts
    (world : World)
    (transport : TransportId)
    (request : Http.Request)
    (hOpen : before.connection.isClosed = false)
    (hParting :
      before.connection.parting = some (transport, request)) :
    Turn config before (.command world .close)
      ⟨before.connection.shut.record
          (.asked transport request),
        .asking request .closing :: before.waiting⟩
| closes
    (world : World)
    (hOpen : before.connection.isClosed = false)
    (hParting : before.connection.parting = none) :
    Turn config before (.command world .close)
      ⟨before.connection.shut.endClose
          (Connection.goOffline world),
        before.waiting⟩
| concludes
    (world : World)
    (request : Http.Request)
    (answer : Http.Answer)
    (hMember : .asking request .closing ∈ before.waiting) :
    Turn config before (.answer world request .closing answer)
      ⟨before.connection.endClose
          (Connection.goOffline world),
        before.waiting.erase (.asking request .closing)⟩

/-
  A sound situation: the connection is tidy, those at work
  are, the flag is down while an attempt that was not
  cancelled is under way, and only a closed connection awaits
  the answer to a farewell.
-/
structure Sound
    (config : Config)
    (situation : Situation) : Prop where
  tidy : situation.connection.Tidy config
  crew :
    Crew situation.connection.tasks situation.attempts
      situation.checks
  down :
    ∀ task ∈ situation.attempts,
      situation.connection.isCancelled task = false →
        situation.connection.session.isConnected = false
  parting :
    ∀ request,
      .asking request .closing ∈ situation.waiting →
        situation.connection.isClosed = true

section Sound

variable {config : Config}
variable {situation : Situation}

/- An attempt that gets an answer. -/
theorem Sound.engaged
    (h : situation.Sound config)
    {task : TaskId}
    (hMember : task ∈ situation.attempts) :
    situation.connection.Engaged config task :=
  ⟨h.tidy, h.crew.known task hMember, h.down task hMember⟩

/- A task that is live tells that the connection is open. -/
theorem Sound.open_of_isLive
    (h : situation.Sound config)
    {task : TaskId}
    {known : Task Job}
    (hTask : situation.connection.tasks.task? task = some known)
    (hLive : known.isLive = true) :
    situation.connection.isClosed = false := by
  apply h.tidy.isClosed_of_calm hTask
  exact
    (Scheduler.isCancelled_of_task? hTask).trans
      (Task.cancelled_of_isLive hLive)

theorem mem_attempts
    {question : Question}
    {task : TaskId}
    (hMember : question ∈ situation.waiting)
    (hAttempt : question.attempt? = some task) :
    task ∈ situation.attempts :=
  List.mem_filterMap.mpr ⟨question, hMember, hAttempt⟩

theorem mem_checks
    {task : TaskId}
    (hMember : .probing task ∈ situation.waiting) :
    task ∈ situation.checks :=
  List.mem_filterMap.mpr ⟨.probing task, hMember, rfl⟩

/- Nothing has changed. -/
theorem turn_refl
    {occurrence : Occurrence}
    (hPasses : situation.Passes occurrence) :
    situation.Turn config occurrence situation :=
  .idle _ _ (idles_of_waiting (.refl _) rfl) hPasses
    fun _ => rfl

/- A closing begins, unless there was one before. -/
theorem turn_close
    (situation : Situation)
    (world : World) :
    situation.Turn config (.command world .close)
      (proceed situation.waiting none
        (situation.connection.beginClose world)) := by
  unfold Connection.beginClose
  cases hClosed : situation.connection.isClosed with
  | true =>
      rw [if_pos rfl]
      exact turn_refl trivial
  | false =>
      rw [if_neg (by simp)]
      cases hParting : situation.connection.parting with
      | none =>
          have hFarewell :=
            Connection.farewell_of_parting_eq_none hParting
          dsimp only
          split
          · rename_i sending hSent
            exact absurd hSent (hFarewell sending)
          · exact .closes world hClosed hParting
      | some sending =>
          rcases sending with ⟨transport, request⟩
          rw [Connection.farewell_of_parting_eq_some hParting]
          exact .parts world transport request hClosed hParting

/- A health check probes the brain. -/
theorem turn_probe
    {world : World}
    {task : TaskId}
    {known : Task Job}
    (hTask : situation.connection.tasks.task? task = some known)
    (hJob : known.job = .checkHealth)
    {begun : Connection}
    (hIdles : situation.connection.Idles begun)
    (hRequests :
      begun.requests = situation.connection.requests)
    (host : String)
    (port : UInt16)
    (timeout : Millis) :
    situation.Turn config (.run world task)
      ⟨begun.record (.probed host port timeout),
        .probing task :: situation.waiting⟩ := by
  apply Turn.idle
  · constructor
    · refine ⟨hIdles.session, hIdles.isClosed, hIdles.isHeld,
        hIdles.tasks, ?_⟩
      rw [Connection.news_record]
      exact (List.append_nil _).trans hIdles.news
    · exact .refl _
    · intro id hMember
      rcases List.mem_cons.mp hMember with rfl | hOld
      · exact Or.inr ⟨known, hTask, hJob⟩
      · exact Or.inl hOld
    · intro question hMarked
      have hOther : question ≠ .probing task := by
        intro hSame
        rw [hSame] at hMarked
        rcases hMarked with hAttempt | hFarewell
        · exact hAttempt rfl
        · cases hFarewell
      simp [hOther]
  · simp [Passes, hasTask, hTask, hJob]
  · intro _
    rw [Connection.requests_record]
    exact (List.append_nil _).trans hRequests

/- A task is run that was not cancelled. -/
theorem Sound.turn_run
    (h : situation.Sound config)
    (world : World)
    {task : TaskId}
    {known : Task Job}
    (hTask : situation.connection.tasks.task? task = some known)
    (hLive : known.isLive = true) :
    situation.Turn config (.run world task)
      (proceed situation.waiting (some task)
        ((situation.connection.beginRun task).runJob
          world task)) := by
  have hFlag := Task.cancelled_of_isLive hLive
  have hRepetition :=
    (h.tidy.ledger.suits task known hTask).repetition
  cases hJob : known.job with
  | connect =>
      have hOnce : known.repetition = .once := by
        rw [hRepetition, hJob]
        rfl
      have hCalm :
          situation.connection.isCancelled task = false :=
        (Scheduler.isCancelled_of_task? hTask).trans hFlag
      have hTidy := h.tidy.beginRun task
      rcases Connection.exists_task?_beginRun hTask with
        ⟨stage, hBegun⟩
      rw [Connection.runJob_of_connect world hBegun hJob]
      rw [Connection.beginRun_of_once hTask hOnce] at hTidy ⊢
      apply Turn.opens world task known hTask hJob hLive _
        (hTidy.beginAttempt world task)
      apply Connection.opening_beginAttempt world hTidy
      · exact h.open_of_isLive hTask hLive
      · exact h.tidy.connect_of_calm hTask hJob hCalm
  | checkHealth =>
      have hCheck :
          ∀ other,
            situation.connection.tasks.task? task = some other →
              other.job = .checkHealth := by
        intro other hOther
        rw [hTask] at hOther
        cases hOther
        exact hJob
      rcases Connection.exists_task?_beginRun hTask with
        ⟨stage, hBegun⟩
      have hCalm :
          (situation.connection.beginRun task).isCancelled
              task =
            false :=
        (Scheduler.isCancelled_of_task? hBegun).trans hFlag
      rw [Connection.runJob_of_checkHealth world hBegun hJob]
      unfold Connection.beginCheck
      rw [if_neg (by simp [hCalm])]
      apply turn_probe hTask hJob
      · exact Connection.idles_beginRun hCheck
      · unfold Connection.beginRun
        split
        · rfl
        · rfl

/- An answer comes that was waited for. -/
theorem Sound.turn_answer
    (h : situation.Sound config)
    (world : World)
    {request : Http.Request}
    {errand : Errand}
    (answer : Http.Answer)
    (hMember : .asking request errand ∈ situation.waiting) :
    situation.Turn config (.answer world request errand answer)
      (proceed
        (situation.waiting.erase (.asking request errand))
        errand.attempt?
        (situation.connection.resume world errand answer)) := by
  cases hAttempt : errand.attempt? with
  | some task =>
      have hEngaged :=
        h.engaged (mem_attempts hMember hAttempt)
      exact
        .advances world request errand answer task hMember
          hAttempt _ (h.tidy.resume world errand answer)
          (hEngaged.advance_resume hAttempt)
  | none =>
      by_cases hClosing : errand = .closing
      · subst hClosing
        exact .concludes world request answer hMember
      · have hOrdinary : errand.IsOrdinary :=
          ⟨hAttempt, hClosing⟩
        have hErased :=
          idles_erase hMember (hOrdinary.not_isMarked request)
        have hGoesOn :=
          idles_proceed
            (situation.waiting.erase (.asking request errand))
            (Connection.idles_resume world answer
              situation.connection hOrdinary)
        refine .idle _ _ (hErased.trans hGoesOn) trivial ?_
        intro hOrder
        simp [Occurrence.isOrder, hAttempt, hClosing] at hOrder

/- The run of a health check ends that found its brain. -/
theorem Sound.idles_reached
    (h : situation.Sound config)
    {task : TaskId}
    (hMember : .probing task ∈ situation.waiting) :
    situation.Idles
      ⟨situation.connection.endRun task,
        situation.waiting.erase (.probing task)⟩ := by
  have hPlain : ¬ (Question.probing task).IsMarked := by
    intro hMarked
    rcases hMarked with hAttempt | hFarewell
    · exact hAttempt rfl
    · cases hFarewell
  have hCheck :
      ∀ known,
        situation.connection.tasks.task? task = some known →
          known.job = .checkHealth := by
    intro known hKnown
    rcases h.crew.probing task (mem_checks hMember) with
      ⟨same, hSame, hJob⟩
    rw [hKnown] at hSame
    cases hSame
    exact hJob
  exact
    (idles_erase hMember hPlain).trans
      (idles_of_waiting
        (Connection.idles_endRun h.tidy hCheck) rfl)

/- A probe ends that was waited for. -/
theorem Sound.turn_reached
    (h : situation.Sound config)
    (world : World)
    {task : TaskId}
    (isReachable : Bool)
    (hMember : .probing task ∈ situation.waiting) :
    situation.Turn config (.probe world task isReachable)
      (proceed
        (situation.waiting.erase (.probing task))
        (some task)
        (situation.connection.afterProbe
          world task isReachable)) := by
  rcases Connection.afterProbe_cases world task isReachable
      situation.connection with
    hSame | ⟨after, hAfter, hLowered, hRenewed⟩
  · rw [hSame]
    exact
      .idle _ _ (h.idles_reached hMember) trivial fun _ => rfl
  · have hTidy := h.tidy.afterProbe world task isReachable
    rw [hAfter] at hTidy ⊢
    exact
      .fails world task isReachable after hMember hTidy
        hLowered hRenewed

/- What any occurrence comes to. -/
theorem Sound.turn_after
    (h : situation.Sound config)
    (occurrence : Occurrence) :
    situation.Turn config occurrence
      (situation.after occurrence) := by
  cases occurrence with
  | start =>
      simp only [after]
      split
      · rename_i hHeld
        cases hClosed : situation.connection.isClosed with
        | true =>
            have hSame :
                situation.connection.start =
                  situation.connection := by
              simp [Connection.start, hClosed]
            rw [hSame]
            exact turn_refl fun _ => hClosed
        | false =>
            have hStart :
                situation.connection.start =
                  situation.connection.scheduleConnect := by
              simp [Connection.start, hClosed]
            rw [hStart]
            exact .starts hHeld hClosed
      · rename_i hLoose
        exact turn_refl fun hHeld => absurd hHeld hLoose
  | command world command =>
      simp only [after]
      split
      · by_cases hClose : command = .close
        · subst hClose
          exact turn_close situation world
        · have hIdles :=
            idles_proceed situation.waiting
              (Connection.idles_obey world
                situation.connection hClose)
          refine .idle _ _ hIdles trivial ?_
          intro hOrder
          simp [Occurrence.isOrder, hClose] at hOrder
      · exact turn_refl trivial
  | drop =>
      simp only [after]
      split
      · exact turn_refl trivial
      · exact .drops
  | run world task =>
      simp only [after]
      split
      · rename_i hRuns
        unfold hasTask at hRuns
        rcases (Option.any_eq_true _ _).mp hRuns with
          ⟨known, hKnown, hLive⟩
        exact h.turn_run world hKnown hLive
      · rename_i hRests
        apply turn_refl
        change situation.hasTask task _ = false
        unfold hasTask at hRests ⊢
        cases hKnown :
            situation.connection.tasks.task? task with
        | none => rfl
        | some known =>
            rw [hKnown, Option.any_some] at hRests
            simp [hRests]
  | notice task =>
      exact
        .idle _ _
          (idles_of_waiting (Connection.idles_notice task _)
            rfl)
          trivial fun _ => rfl
  | setTime time =>
      have hClock :
          situation.connection.Idles
            { situation.connection with
              tasks :=
                situation.connection.tasks.setTime time } :=
        Connection.idles_of_session rfl rfl rfl
          (fun _ => rfl) rfl
      exact
        .idle _ _ (idles_of_waiting hClock rfl) trivial
          fun _ => rfl
  | answer world request errand answer =>
      simp only [after]
      split
      · rename_i hMember
        exact h.turn_answer world answer hMember
      · exact turn_refl trivial
  | probe world task isReachable =>
      simp only [after]
      split
      · rename_i hMember
        exact h.turn_reached world isReachable hMember
      · exact turn_refl trivial
  | listen change =>
      refine
        .idle _ _
          (idles_of_waiting (Connection.idles_attend change _)
            rfl)
          trivial ?_
      intro _
      cases change with
      | remove name =>
          change
            (situation.connection.removeListener
              name).1.requests = _
          unfold Connection.removeListener
          split
          · rfl
          · rfl
      | _ => rfl

end Sound

end Situation

end BrainLink
