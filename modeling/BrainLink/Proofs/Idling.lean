import BrainLink.Proofs.Crew
import BrainLink.Proofs.Stretches

/-
  Most of what can happen leaves the session alone.

  Key definitions include:
    * `Scheduler.Rests`
    * `Connection.Idles`
    * `Errand.IsOrdinary`
    * `Situation.Idles`

  Main statements:
    * `Connection.idles_obey`
    * `Connection.idles_resume`
    * `Situation.idles_proceed`

  Commands that do not close a connection, changes of those
  who listen and the runs of health checks that succeed touch
  neither the session nor the connect attempts.
-/

namespace BrainLink

------------------------------------------------------------
-- Rest
------------------------------------------------------------

/-
  Nothing is scheduled or cancelled, attempts that were not
  cancelled stay where they are, and health checks that were
  not cancelled are not over.
-/
structure Scheduler.Rests
    (before after : Scheduler Job) : Prop where
  gone :
    ∀ id, before.task? id = none → after.task? id = none
  kept :
    ∀ id task,
      before.task? id = some task →
        ∃ stage,
          after.task? id = some { task with stage := stage } ∧
            (task.cancelled = false →
              (task.job = .connect → stage = task.stage) ∧
                (task.job = .checkHealth →
                  task.stage ≠ .over → stage ≠ .over))

namespace Scheduler

theorem rests_of_task?
    {before after : Scheduler Job}
    (hTasks : ∀ id, after.task? id = before.task? id) :
    before.Rests after where
  gone id hNone := (hTasks id).trans hNone
  kept id task hTask :=
    ⟨task.stage, (hTasks id).trans hTask,
      fun _ => ⟨fun _ => rfl, fun _ hStage => hStage⟩⟩

theorem Rests.trans
    {before middle after : Scheduler Job}
    (hFirst : before.Rests middle)
    (hLast : middle.Rests after) :
    before.Rests after where
  gone id hNone := hLast.gone id (hFirst.gone id hNone)
  kept id task hTask := by
    rcases hFirst.kept id task hTask with
      ⟨early, hMiddle, hEarly⟩
    rcases hLast.kept id _ hMiddle with ⟨late, hAfter, hLate⟩
    refine ⟨late, hAfter, fun hCalm => ⟨?_, ?_⟩⟩
    · intro hJob
      rw [(hLate hCalm).1 hJob]
      exact (hEarly hCalm).1 hJob
    · intro hJob hStage
      exact (hLate hCalm).2 hJob ((hEarly hCalm).2 hJob hStage)

/- One task moves on that is no attempt, or was cancelled. -/
theorem rests_update
    {scheduler : Scheduler Job}
    {change : Task Job → Task Job}
    (hChange : Task.Restages change)
    (id : TaskId)
    (hCalm :
      ∀ task,
        scheduler.task? id = some task →
          task.cancelled = false →
            (task.job = .connect →
                (change task).stage = task.stage) ∧
              (task.job = .checkHealth →
                task.stage ≠ .over →
                  (change task).stage ≠ .over)) :
    scheduler.Rests (scheduler.update id change) where
  gone other hNone := by
    rw [task?_update, hNone]
    simp
  kept other task hTask := by
    rw [task?_update, hTask]
    by_cases hSame : id = other
    · rcases hChange task with ⟨stage, hStage⟩
      rw [← hSame] at hTask
      have hMoved := hCalm task hTask
      rw [hStage] at hMoved
      exact ⟨stage, by simp [hSame, hStage], hMoved⟩
    · exact
        ⟨task.stage, by simp [hSame],
          fun _ => ⟨fun _ => rfl, fun _ hStage => hStage⟩⟩

/- Rest cancels nothing. -/
theorem Rests.isCancelled
    {before after : Scheduler Job}
    (h : before.Rests after)
    (id : TaskId) :
    after.isCancelled id = before.isCancelled id := by
  cases hTask : before.task? id with
  | none =>
      have hGone := h.gone id hTask
      simp [Scheduler.isCancelled, hTask, hGone]
  | some task =>
      rcases h.kept id task hTask with ⟨stage, hAfter, -⟩
      rw [isCancelled_of_task? hTask,
        isCancelled_of_task? hAfter]

end Scheduler

/- Those at work are still at work after a rest. -/
theorem Crew.rests
    {before after : Scheduler Job}
    {attempts checks others probes : List TaskId}
    (h : Crew before attempts checks)
    (hRests : before.Rests after)
    (hAttempts : others.Perm attempts)
    (hChecks :
      ∀ id ∈ probes,
        id ∈ checks ∨
          ∃ task,
            before.task? id = some task ∧
              task.job = .checkHealth) :
    Crew after others probes where
  single := hAttempts.nodup_iff.mpr h.single
  known id hMember := by
    rcases h.known id (hAttempts.mem_iff.mp hMember) with
      ⟨task, hTask, hJob⟩
    rcases hRests.kept id task hTask with ⟨stage, hAfter, -⟩
    exact ⟨_, hAfter, hJob⟩
  working id task hTask hJob hCalm := by
    cases hOld : before.task? id with
    | none =>
        rw [hRests.gone id hOld] at hTask
        cases hTask
    | some old =>
        rcases hRests.kept id old hOld with
          ⟨stage, hAfter, hKept⟩
        rw [hTask] at hAfter
        cases hAfter
        rw [hAttempts.mem_iff]
        have hStage := (hKept hCalm).1 hJob
        rw [← h.working id old hOld hJob hCalm, ← hStage]
  probing id hMember := by
    have hKnown :
        ∃ task,
          before.task? id = some task ∧
            task.job = .checkHealth := by
      rcases hChecks id hMember with hCheck | hTask
      · exact h.probing id hCheck
      · exact hTask
    rcases hKnown with ⟨task, hTask, hJob⟩
    rcases hRests.kept id task hTask with ⟨stage, hAfter, -⟩
    exact ⟨_, hAfter, hJob⟩
  tireless id task hTask hJob hCalm := by
    cases hOld : before.task? id with
    | none =>
        rw [hRests.gone id hOld] at hTask
        cases hTask
    | some old =>
        rcases hRests.kept id old hOld with
          ⟨stage, hAfter, hKept⟩
        rw [hTask] at hAfter
        cases hAfter
        exact
          (hKept hCalm).2 hJob
            (h.tireless id old hOld hJob hCalm)

------------------------------------------------------------
-- Idle Occurrences
------------------------------------------------------------

/- The session is as it was, and listeners are told nothing. -/
structure Connection.Idles
    (before after : Connection) : Prop where
  session : after.session = before.session
  isClosed : after.isClosed = before.isClosed
  isHeld : after.isHeld = before.isHeld
  tasks : before.tasks.Rests after.tasks
  news : after.news = before.news

/- An errand of a command other than a closing. -/
def Errand.IsOrdinary (errand : Errand) : Prop :=
  errand.attempt? = none ∧ errand ≠ .closing

/- What asks only for an ordinary errand. -/
def Progress.IsOrdinary : Progress → Prop
| .asks _ errand => errand.IsOrdinary
| .probes _ => False
| .done _ => True

/- A question of an attempt or of a closing. -/
def Question.IsMarked (question : Question) : Prop :=
  question.attempt? ≠ none ∨ question.isFarewell = true

theorem Errand.IsOrdinary.not_isMarked
    {errand : Errand}
    (h : errand.IsOrdinary)
    (request : Http.Request) :
    ¬ (Question.asking request errand).IsMarked := by
  intro hMarked
  rcases hMarked with hAttempt | hFarewell
  · exact hAttempt h.1
  · have hClosing : errand = .closing := by
      cases errand with
      | closing => rfl
      | _ => cases hFarewell
    exact h.2 hClosing

namespace Connection

/- Only what is neither session nor task has changed. -/
theorem idles_of_session
    {before after : Connection}
    (hSession : after.session = before.session)
    (hClosed : after.isClosed = before.isClosed)
    (hHeld : after.isHeld = before.isHeld)
    (hTasks :
      ∀ id, after.tasks.task? id = before.tasks.task? id)
    (hNews : after.news = before.news) :
    before.Idles after :=
  ⟨hSession, hClosed, hHeld, Scheduler.rests_of_task? hTasks,
    hNews⟩

theorem Idles.refl (connection : Connection) :
    connection.Idles connection :=
  idles_of_session rfl rfl rfl (fun _ => rfl) rfl

/- A request is no news. -/
theorem Idles.ask
    {before after : Connection}
    (h : before.Idles after)
    (sending : Sending)
    (errand : Errand) :
    before.Idles (after.ask sending errand).1 where
  session := h.session
  isClosed := h.isClosed
  isHeld := h.isHeld
  tasks := h.tasks
  news := by
    change (after.record (.asked _ _)).news = _
    rw [news_record]
    exact (List.append_nil _).trans h.news

theorem idles_askInSession
    (connection : Connection)
    (request : Http.Request)
    (errand : TransportId → Errand)
    (hOrdinary : ∀ transport, (errand transport).IsOrdinary) :
    connection.Idles
        (connection.askInSession request errand).1 ∧
      (connection.askInSession request
        errand).2.IsOrdinary := by
  unfold askInSession
  split
  · exact ⟨.refl _, trivial⟩
  · exact ⟨(Idles.refl _).ask _ _, hOrdinary _⟩

theorem idles_askAnew
    (world : World)
    (connection : Connection)
    (endpoint : Endpoint)
    {errand : Errand}
    (hOrdinary : errand.IsOrdinary) :
    connection.Idles
        (connection.askAnew world endpoint errand).1 ∧
      (connection.askAnew world endpoint
        errand).2.IsOrdinary := by
  unfold askAnew createTransport
  cases hCreates : world.creates with
  | false => exact ⟨.refl _, trivial⟩
  | true =>
      have hMade :
          connection.Idles
            { connection with
              transports := connection.transports + 1 } :=
        idles_of_session rfl rfl rfl (fun _ => rfl) rfl
      exact ⟨hMade.ask _ _, hOrdinary⟩

/- A command that is no closing leaves the session alone. -/
theorem idles_obey
    (world : World)
    {command : Command}
    (connection : Connection)
    (hCommand : command ≠ .close) :
    connection.Idles (connection.obey world command).1 ∧
      (connection.obey world command).2.IsOrdinary := by
  cases command with
  | close => exact absurd rfl hCommand
  | notify message =>
      change
        connection.Idles (connection.beginNotify message).1 ∧
          (connection.beginNotify message).2.IsOrdinary
      unfold beginNotify
      split
      · apply idles_askInSession
        exact fun _ => ⟨rfl, fun h => (by cases h)⟩
      · exact ⟨.refl _, trivial⟩
  | executeRecipe key on =>
      change
        connection.Idles (connection.beginRecipe key on).1 ∧
          (connection.beginRecipe key on).2.IsOrdinary
      unfold beginRecipe
      split
      · exact ⟨.refl _, trivial⟩
      · apply idles_askInSession
        exact fun _ => ⟨rfl, fun h => (by cases h)⟩
  | systemInfo =>
      exact
        idles_askAnew world connection _
          ⟨rfl, fun h => (by cases h)⟩
  | blinkLed =>
      exact
        idles_askAnew world connection _
          ⟨rfl, fun h => (by cases h)⟩
  | logHtml =>
      exact
        idles_askAnew world connection _
          ⟨rfl, fun h => (by cases h)⟩

/- So does the answer to one. -/
theorem idles_resume
    (world : World)
    {errand : Errand}
    (answer : Http.Answer)
    (connection : Connection)
    (hOrdinary : errand.IsOrdinary) :
    connection.Idles
        (connection.resume world errand answer).1 ∧
      (connection.resume world errand answer).2.IsOrdinary := by
  cases errand with
  | unregistering task transport => cases hOrdinary.1
  | registering task transport => cases hOrdinary.1
  | fetchingKeys task transport => cases hOrdinary.1
  | closing => exact absurd rfl hOrdinary.2
  | listingRecipes transport key on =>
      change
        connection.Idles
            (connection.afterListing transport key on
              answer).1 ∧
          (connection.afterListing transport key on
            answer).2.IsOrdinary
      unfold afterListing
      split
      · exact ⟨.refl _, trivial⟩
      · split
        · exact ⟨.refl _, trivial⟩
        · split
          · exact ⟨.refl _, trivial⟩
          · exact
              ⟨(Idles.refl _).ask _ _, rfl,
                fun h => (by cases h)⟩
  | notifying => exact ⟨.refl _, trivial⟩
  | runningRecipe => exact ⟨.refl _, trivial⟩
  | readingInfo => exact ⟨.refl _, trivial⟩
  | blinking => exact ⟨.refl _, trivial⟩
  | readingLog => exact ⟨.refl _, trivial⟩

/- Listeners can come and go. -/
theorem idles_attend
    (change : Audience)
    (connection : Connection) :
    connection.Idles (connection.attend change) := by
  cases change with
  | remove name =>
      change
        connection.Idles (connection.removeListener name).1
      unfold removeListener
      split
      · exact .refl _
      · exact idles_of_session rfl rfl rfl (fun _ => rfl) rfl
  | add watcher =>
      exact idles_of_session rfl rfl rfl (fun _ => rfl) rfl
  | subscribe =>
      exact idles_of_session rfl rfl rfl (fun _ => rfl) rfl
  | closeChannel id =>
      exact idles_of_session rfl rfl rfl (fun _ => rfl) rfl
  | drain id =>
      exact idles_of_session rfl rfl rfl (fun _ => rfl) rfl
  | closingsMade =>
      exact idles_of_session rfl rfl rfl (fun _ => rfl) rfl

/- It is seen that a task was cancelled. -/
theorem idles_notice
    (task : TaskId)
    (connection : Connection) :
    connection.Idles (connection.notice task) where
  session := rfl
  isClosed := rfl
  isHeld := rfl
  news := rfl
  tasks := by
    apply Scheduler.rests_update
    · intro other
      unfold Task.noticed
      split
      · exact ⟨.over, rfl⟩
      · exact ⟨other.stage, rfl⟩
    · intro other _ hCalm
      simp [Task.noticed, hCalm]

/- The run of a health check begins. -/
theorem idles_beginRun
    {task : TaskId}
    {connection : Connection}
    (hJob :
      ∀ known,
        connection.tasks.task? task = some known →
          known.job = .checkHealth) :
    connection.Idles (connection.beginRun task) := by
  unfold beginRun
  split
  · exact .refl _
  · refine ⟨rfl, rfl, rfl, ?_, rfl⟩
    apply Scheduler.rests_update Scheduler.restages_beginRun
    intro known hKnown _
    simp [hJob known hKnown]

/- It ends, and waits for the next unless it was cancelled. -/
theorem idles_endRun
    {config : Config}
    {task : TaskId}
    {connection : Connection}
    (hTidy : connection.Tidy config)
    (hJob :
      ∀ known,
        connection.tasks.task? task = some known →
          known.job = .checkHealth) :
    connection.Idles (connection.endRun task) := by
  refine ⟨rfl, rfl, rfl, ?_, rfl⟩
  apply Scheduler.rests_update (Scheduler.restages_endRun _)
  intro known hKnown hCalm
  have hRecurring : known.repetition = .recurring := by
    rw [(hTidy.ledger.suits task known hKnown).repetition,
      hJob known hKnown]
    rfl
  simp [hJob known hKnown, hRecurring, hCalm]

theorem Idles.trans
    {before middle after : Connection}
    (hFirst : before.Idles middle)
    (hLast : middle.Idles after) :
    before.Idles after :=
  ⟨hLast.session.trans hFirst.session,
    hLast.isClosed.trans hFirst.isClosed,
    hLast.isHeld.trans hFirst.isHeld,
    hFirst.tasks.trans hLast.tasks,
    hLast.news.trans hFirst.news⟩

end Connection

------------------------------------------------------------
-- Idle Situations
------------------------------------------------------------

namespace Situation

/-
  Nothing has happened to the session, to its attempts or to
  a closing.
-/
structure Idles (before after : Situation) : Prop where
  connection : before.connection.Idles after.connection
  attempts : after.attempts.Perm before.attempts
  checks :
    ∀ id ∈ after.checks,
      id ∈ before.checks ∨
        ∃ task,
          before.connection.tasks.task? id = some task ∧
            task.job = .checkHealth
  marked :
    ∀ question : Question,
      question.IsMarked →
        (question ∈ after.waiting ↔
          question ∈ before.waiting)

theorem idles_of_waiting
    {before after : Situation}
    (hConnection : before.connection.Idles after.connection)
    (hWaiting : after.waiting = before.waiting) :
    before.Idles after where
  connection := hConnection
  attempts := by
    unfold attempts
    rw [hWaiting]
  checks id hMember := by
    unfold checks at hMember ⊢
    rw [hWaiting] at hMember
    exact Or.inl hMember
  marked question _ := by
    rw [hWaiting]

/- An ordinary question is asked. -/
theorem Idles.cons
    {before after : Situation}
    (h : before.Idles after)
    {request : Http.Request}
    {errand : Errand}
    (hOrdinary : errand.IsOrdinary) :
    before.Idles
      ⟨after.connection,
        .asking request errand :: after.waiting⟩ where
  connection := h.connection
  attempts := by
    have hNone :
        (Question.asking request errand).attempt? = none :=
      hOrdinary.1
    unfold Situation.attempts
    rw [List.filterMap_cons, hNone]
    exact h.attempts
  checks id hMember := h.checks id hMember
  marked question hMarked := by
    have hOther : question ≠ .asking request errand := by
      intro hSame
      rw [hSame] at hMarked
      exact hOrdinary.not_isMarked request hMarked
    simpa [hOther] using h.marked question hMarked

/- A question of no attempt is answered. -/
theorem idles_erase
    {situation : Situation}
    {question : Question}
    (hMember : question ∈ situation.waiting)
    (hPlain : ¬ question.IsMarked) :
    situation.Idles
      ⟨situation.connection,
        situation.waiting.erase question⟩ where
  connection := .refl _
  attempts := by
    have hNone : question.attempt? = none := by
      cases hAttempt : question.attempt? with
      | none => rfl
      | some task =>
          exact absurd (Or.inl (by simp [hAttempt])) hPlain
    have hPerm :=
      (List.perm_cons_erase hMember).filterMap
        Question.attempt?
    rw [List.filterMap_cons, hNone] at hPerm
    exact hPerm.symm
  checks id hMember := by
    unfold checks at hMember ⊢
    rcases List.mem_filterMap.mp hMember with
      ⟨other, hOther, hCheck⟩
    exact
      Or.inl
        (List.mem_filterMap.mpr
          ⟨other, List.mem_of_mem_erase hOther, hCheck⟩)
  marked other hMarked := by
    have hOther : other ≠ question := by
      intro hSame
      rw [hSame] at hMarked
      exact hPlain hMarked
    exact List.mem_erase_of_ne hOther

theorem Idles.trans
    {before middle after : Situation}
    (hFirst : before.Idles middle)
    (hLast : middle.Idles after) :
    before.Idles after where
  connection := hFirst.connection.trans hLast.connection
  attempts := hLast.attempts.trans hFirst.attempts
  checks id hMember := by
    rcases hLast.checks id hMember with
      hCheck | ⟨task, hTask, hJob⟩
    · exact hFirst.checks id hCheck
    · refine Or.inr ?_
      cases hOld : before.connection.tasks.task? id with
      | none =>
          rw [hFirst.connection.tasks.gone id hOld] at hTask
          cases hTask
      | some old =>
          rcases hFirst.connection.tasks.kept id old hOld with
            ⟨stage, hMiddle, -⟩
          rw [hTask] at hMiddle
          cases hMiddle
          exact ⟨old, rfl, hJob⟩
  marked question hMarked :=
    (hLast.marked question hMarked).trans
      (hFirst.marked question hMarked)

/- What asks nothing but ordinary questions. -/
theorem idles_proceed
    (waiting : List Question)
    {connection : Connection}
    {step : Connection × Progress}
    (hStep : connection.Idles step.1 ∧ step.2.IsOrdinary) :
    Idles ⟨connection, waiting⟩
      (proceed waiting none step) := by
  rcases step with ⟨after, progress⟩
  rcases hStep with ⟨hIdles, hOrdinary⟩
  have hAfter : Idles ⟨connection, waiting⟩ ⟨after, waiting⟩ :=
    idles_of_waiting hIdles rfl
  cases progress with
  | asks request errand => exact hAfter.cons hOrdinary
  | probes task => cases hOrdinary
  | done result => exact hAfter

end Situation

end BrainLink
