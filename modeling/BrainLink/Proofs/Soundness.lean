import BrainLink.Proofs.Turns

/-
  Every situation in the course of a connection is sound.

  Main statements:
    * `Situation.Sound.turn`
    * `sound_replay`
    * `turn_replay`

  What one turn keeps, a whole course keeps. So whatever is
  to be shown of a course can be shown turn by turn.
-/

namespace BrainLink

namespace Situation

section Sound

variable {config : Config}
variable {situation : Situation}

------------------------------------------------------------
-- Those Who Wait
------------------------------------------------------------

/- Whoever asked a question no longer awaits its answer. -/
theorem perm_erase_some
    {question : Question}
    {task : TaskId}
    {asker : Question → Option TaskId}
    (hMember : question ∈ situation.waiting)
    (hAsker : asker question = some task) :
    (task ::
        (situation.waiting.erase question).filterMap asker).Perm
      (situation.waiting.filterMap asker) := by
  have hPerm :=
    (List.perm_cons_erase hMember).filterMap asker
  rw [List.filterMap_cons, hAsker] at hPerm
  exact hPerm.symm

/- The others await theirs. -/
theorem perm_erase_none
    {question : Question}
    {asker : Question → Option TaskId}
    (hMember : question ∈ situation.waiting)
    (hAsker : asker question = none) :
    ((situation.waiting.erase question).filterMap asker).Perm
      (situation.waiting.filterMap asker) := by
  have hPerm :=
    (List.perm_cons_erase hMember).filterMap asker
  rw [List.filterMap_cons, hAsker] at hPerm
  exact hPerm.symm

/- A flag that stays down, or as it was. -/
theorem Sound.down_of_grows
    (h : situation.Sound config)
    {after : Connection}
    (hTasks : situation.connection.tasks.Grows after.tasks)
    (hFlag :
      after.session.isConnected =
        situation.connection.session.isConnected)
    {task : TaskId}
    (hMember : task ∈ situation.attempts)
    (hCalm : after.isCancelled task = false) :
    after.session.isConnected = false := by
  rw [hFlag]
  apply h.down task hMember
  cases hCancelled : situation.connection.isCancelled task with
  | false => rfl
  | true =>
      have hLater : after.isCancelled task = true :=
        hTasks.isCancelled hCancelled
      rw [hCalm] at hLater
      cases hLater

/- What was closed stays closed, and nothing bids farewell. -/
theorem Sound.parting_of_mem
    (h : situation.Sound config)
    {waiting : List Question}
    {after : Connection}
    (hClosed :
      situation.connection.isClosed = true →
        after.isClosed = true)
    (hWaiting :
      ∀ request,
        .asking request .closing ∈ waiting →
          .asking request .closing ∈ situation.waiting) :
    ∀ request,
      .asking request .closing ∈ waiting →
        after.isClosed = true :=
  fun request hMember =>
    hClosed (h.parting request (hWaiting request hMember))

/- An attempt that was waiting begins. -/
theorem Sound.crew_beginAttempt
    (h : situation.Sound config)
    {task : TaskId}
    {known : Task Job}
    (hTask : situation.connection.tasks.task? task = some known)
    (hJob : known.job = .connect)
    (hLive : known.isLive = true) :
    Crew (situation.connection.tasks.beginRun task)
      (task :: situation.attempts) situation.checks := by
  have hSuits := h.tidy.ledger.suits task known hTask
  rcases h.crew.not_mem_of_isLive hTask hSuits hJob hLive with
    ⟨-, hFree⟩
  exact h.crew.beginAttempt hTask hJob hFree

/- An attempt that got an answer is at its end. -/
theorem Sound.crew_endAttempt
    (h : situation.Sound config)
    {question : Question}
    {task : TaskId}
    {after : Connection}
    (hMember : question ∈ situation.waiting)
    (hAttempt : question.attempt? = some task)
    (hCheck : question.check? = none)
    (hTidy : after.Tidy config)
    (hTasks : situation.connection.tasks.Grows after.tasks) :
    Crew (after.endRun task).tasks
      ((situation.waiting.erase question).filterMap
        Question.attempt?)
      ((situation.waiting.erase question).filterMap
        Question.check?) := by
  have hGrown := h.crew.grows hTasks
  have hCrew :=
    hGrown.congr (fun _ => rfl)
      (perm_erase_some hMember hAttempt)
      (perm_erase_none hMember hCheck)
  exact hCrew.endAttempt hTidy.ledger

/- No other attempt is left that was not cancelled. -/
theorem Sound.eq_of_calm
    (h : situation.Sound config)
    {task other : TaskId}
    (hMember : other ∈ situation.attempts)
    {after : Connection}
    (hTidy : after.Tidy config)
    (hTasks : situation.connection.tasks.Grows after.tasks)
    (hHeld : after.session.connect = some task)
    (hCalm : after.isCancelled other = false) :
    other = task := by
  rcases h.crew.known other hMember with ⟨known, hKnown, hJob⟩
  rcases hTasks.old other known hKnown with ⟨_, hLater, -⟩
  have hSlot := hTidy.connect_of_calm hLater hJob hCalm
  rw [hHeld] at hSlot
  cases hSlot
  rfl

/- An attempt that goes offline at its end. -/
theorem Sound.endAttempt
    (h : situation.Sound config)
    {question : Question}
    {task : TaskId}
    {after : Connection}
    (hMember : question ∈ situation.waiting)
    (hAttempt : question.attempt? = some task)
    (hCheck : question.check? = none)
    (hTidy : after.Tidy config)
    (hFallen : situation.connection.Fallen after) :
    Sound config
      ⟨after.endRun task,
        situation.waiting.erase question⟩ where
  tidy := hTidy.endRun task
  crew :=
    h.crew_endAttempt hMember hAttempt hCheck hTidy
      hFallen.tasks
  down _ _ _ := hFallen.offline.flag
  parting :=
    h.parting_of_mem hFallen.closed
      fun _ => List.mem_of_mem_erase

/- An attempt that asks again. -/
theorem Sound.askAgain
    (h : situation.Sound config)
    {question : Question}
    {task : TaskId}
    {after : Connection}
    {request : Http.Request}
    {errand : Errand}
    (hMember : question ∈ situation.waiting)
    (hAttempt : question.attempt? = some task)
    (hCheck : question.check? = none)
    (hTidy : after.Tidy config)
    (hKeeps : situation.connection.Keeps after)
    (hErrand : errand.attempt? = some task) :
    Sound config
      ⟨after,
        .asking request errand ::
          situation.waiting.erase question⟩ := by
  have hPerm :
      (attempts
          ⟨after,
            .asking request errand ::
              situation.waiting.erase question⟩).Perm
        situation.attempts := by
    have hAsked := Question.attempt?_asking hErrand request
    unfold attempts
    rw [List.filterMap_cons, hAsked]
    exact perm_erase_some hMember hAttempt
  refine ⟨hTidy, ?_, ?_, ?_⟩
  · exact
      (h.crew.grows hKeeps.tasks).congr (fun _ => rfl) hPerm
        (perm_erase_none hMember hCheck)
  · intro other hOther hCalm
    exact
      h.down_of_grows hKeeps.tasks hKeeps.flag
        (hPerm.mem_iff.mp hOther) hCalm
  · apply h.parting_of_mem hKeeps.isClosed.trans
    intro other hOther
    rcases List.mem_cons.mp hOther with hSame | hOld
    · cases hSame
      cases hErrand
    · exact List.mem_of_mem_erase hOld

/- An attempt that has brought the connection online. -/
theorem Sound.endAttempt_of_risen
    (h : situation.Sound config)
    {question : Question}
    {task : TaskId}
    {after : Connection}
    (hMember : question ∈ situation.waiting)
    (hAttempt : question.attempt? = some task)
    (hCheck : question.check? = none)
    (hTidy : after.Tidy config)
    (hCalm : situation.connection.isCancelled task = false)
    (hRisen : situation.connection.Risen after) :
    Sound config
      ⟨after.endRun task,
        situation.waiting.erase question⟩ := by
  have hCrew :=
    h.crew_endAttempt hMember hAttempt hCheck hTidy hRisen.tasks
  have hPerm := perm_erase_some hMember hAttempt
  have hEngaged := h.engaged (mem_attempts hMember hAttempt)
  refine ⟨hTidy.endRun task, hCrew, ?_, ?_⟩
  · intro other hOther hOtherCalm
    have hSame : other = task := by
      apply
        h.eq_of_calm
          (hPerm.mem_iff.mp (List.mem_cons_of_mem _ hOther))
          hTidy hRisen.tasks
          (hRisen.connect.trans (hEngaged.connect hCalm))
      exact
        (Scheduler.isCancelled_update
          (Scheduler.restages_endRun _) _ _ _).symm.trans
          hOtherCalm
    have hSingle := hPerm.nodup_iff.mpr h.crew.single
    rw [hSame] at hOther
    exact absurd hOther (List.nodup_cons.mp hSingle).1
  · intro other hOther
    have hClosed :=
      h.parting other (List.mem_of_mem_erase hOther)
    rw [hEngaged.isClosed hCalm] at hClosed
    cases hClosed

/- Nothing has happened. -/
theorem Sound.of_idles
    (h : situation.Sound config)
    {after : Situation}
    (hTidy : after.connection.Tidy config)
    (hIdles : situation.Idles after) :
    after.Sound config := by
  refine ⟨hTidy, ?_, ?_, ?_⟩
  · exact
      h.crew.rests hIdles.connection.tasks hIdles.attempts
        hIdles.checks
  · intro task hMember hCalm
    rw [hIdles.connection.session]
    apply h.down task (hIdles.attempts.mem_iff.mp hMember)
    exact
      (hIdles.connection.tasks.isCancelled task).symm.trans
        hCalm
  · apply h.parting_of_mem hIdles.connection.isClosed.trans
    intro request
    exact (hIdles.marked _ (Or.inr rfl)).mp

/- An attempt that begins asks, or is at its end. -/
theorem Sound.beginAttempt
    (h : situation.Sound config)
    {world : World}
    {task : TaskId}
    {known : Task Job}
    {result : Connection × Progress}
    (hTidy :
      (proceed situation.waiting (some task)
            result).connection.Tidy
        config)
    (hTask : situation.connection.tasks.task? task = some known)
    (hJob : known.job = .connect)
    (hLive : known.isLive = true)
    (hResult : result.1.Tidy config)
    (hOpening :
      { situation.connection with
        tasks :=
          situation.connection.tasks.beginRun task }.Opening
        world task result) :
    Sound config
      (proceed situation.waiting (some task) result) := by
  have hCrew := h.crew_beginAttempt hTask hJob hLive
  cases hOpening with
  | asks later request transport hHeld hOpen hTasks hCalm hFlag
      hUrl =>
      refine
        ⟨hTidy, hCrew.grows hTasks, fun _ _ _ => hFlag, ?_⟩
      intro other hOther
      rcases List.mem_cons.mp hOther with hSame | hOld
      · cases hSame
      · have hClosed := h.parting other hOld
        cases (h.open_of_isLive hTask hLive).symm.trans hClosed
  | falls later hFallen hRenewed hRequests hTransport =>
      exact
        ⟨hTidy,
          (hCrew.grows hFallen.tasks).endAttempt hResult.ledger,
          fun _ _ _ => hFallen.offline.flag,
          h.parting_of_mem hFallen.closed fun _ => id⟩

/- A health check that has gone offline is at its end. -/
theorem Sound.endCheck
    (h : situation.Sound config)
    {task : TaskId}
    {later : Connection}
    (hMember : .probing task ∈ situation.waiting)
    (hTidy : (later.endRun task).Tidy config)
    (hLater : later.Tidy config)
    (hLowered : situation.connection.Lowered later) :
    Sound config
      ⟨later.endRun task,
        situation.waiting.erase (.probing task)⟩ := by
  have hCrew :=
    (h.crew.grows hLowered.tasks).congr (fun _ => rfl)
      (perm_erase_none hMember rfl)
      (perm_erase_some hMember rfl)
  rcases hCrew.probing task (List.mem_cons_self ..) with
    ⟨known, hKnown, hJob⟩
  exact
    ⟨hTidy,
      hCrew.forgetProbe.endCheck hLater.ledger hKnown hJob,
      fun _ _ _ => hLowered.offline.flag,
      h.parting_of_mem hLowered.closed
        fun _ => List.mem_of_mem_erase⟩

/- A turn leaves a sound situation sound. -/
theorem Sound.turn
    (h : situation.Sound config)
    {occurrence : Occurrence}
    {after : Situation}
    (hTidy : after.connection.Tidy config)
    (hTurn : situation.Turn config occurrence after) :
    after.Sound config := by
  cases hTurn with
  | idle _ _ hIdles hPasses hRequests =>
      exact h.of_idles hTidy hIdles
  | starts hHeld hOpen =>
      have hRearranges :=
        situation.connection.rearranges_scheduleConnect
      generalize situation.connection.scheduleConnect = later
        at hRearranges hTidy
      cases hRearranges with
      | intro tasks connect check journal hTasks hRequests
          hNews =>
          exact
            ⟨hTidy, h.crew.grows hTasks,
              fun task hMember hCalm =>
                h.down_of_grows hTasks rfl hMember hCalm,
              h.parting⟩
  | drops =>
      have hTasks := situation.connection.grows_clearSlots
      exact
        ⟨hTidy, h.crew.grows hTasks,
          fun task hMember hCalm =>
            h.down_of_grows hTasks rfl hMember hCalm,
          h.parting⟩
  | opens world task known hTask hJob hLive result hResult
      hOpening =>
      exact
        h.beginAttempt hTidy hTask hJob hLive hResult hOpening
  | advances world request errand answer task hMember hAttempt
      result hResult hAdvance =>
      have hAsked := Question.attempt?_asking hAttempt request
      cases hAdvance with
      | registers other transport later again hKeeps hUrl =>
          exact
            h.askAgain hMember hAsked rfl hResult hKeeps
              hAttempt
      | fetches other transport later again hKeeps hCalm =>
          exact
            h.askAgain hMember hAsked rfl hResult hKeeps
              hAttempt
      | falls _ other later _ hLowered hRenewed =>
          exact
            h.endAttempt hMember hAsked rfl hResult
              hLowered.toFallen
      | flickers other transport hCalm hRaised hFallen
          hRenewed =>
          exact h.endAttempt hMember hAsked rfl hResult hFallen
      | rises other transport later hCalm hRisen =>
          cases hAttempt
          exact
            h.endAttempt_of_risen hMember rfl rfl hResult hCalm
              hRisen
  | fails world task isReachable later hMember hLater hLowered
      hRenewed =>
      exact h.endCheck hMember hTidy hLater hLowered
  | parts world transport request hOpen hParting =>
      have hTasks := situation.connection.grows_clearSlots
      exact
        ⟨hTidy, h.crew.grows hTasks,
          fun task hMember hCalm =>
            h.down_of_grows hTasks rfl hMember hCalm,
          fun _ _ => rfl⟩
  | closes world hOpen hParting =>
      have hEnded :=
        situation.connection.shut.ended_endClose world
      have hTasks :=
        situation.connection.grows_clearSlots.trans
          hEnded.tasks
      exact
        ⟨hTidy, h.crew.grows hTasks,
          fun _ _ _ => hEnded.offline.flag,
          fun _ _ => hEnded.closed rfl⟩
  | concludes world request answer hMember =>
      have hEnded := situation.connection.ended_endClose world
      exact
        ⟨hTidy,
          (h.crew.grows hEnded.tasks).congr (fun _ => rfl)
            (perm_erase_none hMember rfl)
            (perm_erase_none hMember rfl),
          fun _ _ _ => hEnded.offline.flag,
          fun _ _ => hEnded.closed (h.parting request hMember)⟩

/- So does any occurrence. -/
theorem Sound.after
    (h : situation.Sound config)
    (occurrence : Occurrence) :
    (situation.after occurrence).Sound config :=
  h.turn (tidy_after h.tidy occurrence)
    (h.turn_after occurrence)

end Sound

end Situation

/- The whole course of a connection is sound. -/
theorem sound_replay
    {config : Config}
    {drive : Drive}
    {connection : Connection}
    (hNew : Connection.new config drive = .ok connection)
    (past : List Occurrence) :
    (replay connection past).Sound config := by
  induction past with
  | nil =>
      refine ⟨tidy_replay hNew [], ?_, ?_, ?_⟩
      · unfold Connection.new at hNew
        split at hNew
        · cases hNew
        · cases hNew
          exact Crew.empty drive
      · intro task hMember
        cases hMember
      · intro request hMember
        cases hMember
  | cons occurrence past ih => exact ih.after occurrence

/- And each occurrence is one of the turns it can take. -/
theorem turn_replay
    {config : Config}
    {drive : Drive}
    {connection : Connection}
    (hNew : Connection.new config drive = .ok connection)
    (occurrence : Occurrence)
    (past : List Occurrence) :
    (replay connection past).Turn config occurrence
      (replay connection (occurrence :: past)) :=
  (sound_replay hNew past).turn_after occurrence

end BrainLink
