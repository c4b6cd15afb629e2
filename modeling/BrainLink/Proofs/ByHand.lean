import BrainLink.Proofs.Rehearsals

/-
  What a clock does in a rehearsal can be done by hand.

  Key definitions include:
    * `Rehearsal.stepsUntil`
    * `Rehearsal.byHand`
    * `Rehearsal.keepsApart`
    * `Rehearsal.through`
    * `Rehearsal.Matches`

  Main statements:
    * `Rehearsal.Agrees.happen`
    * `Rehearsal.Agrees.advance`
    * `Rehearsal.Agrees.through`
    * `matches_by_hand`

  Where a rehearsal lets time pass, the tasks that are run
  meanwhile are run by hand, one after the other. If no two
  are due at the same time, the same comes of it.
-/

namespace BrainLink

------------------------------------------------------------
-- Translation
------------------------------------------------------------

/- How a job is run by hand. -/
def Job.step : Job → Step
| .connect => .runNextOnce
| .checkHealth => .tickRecurring

/- A step of a rehearsal whose tasks run by the clock. -/
def Step.isByClock : Step → Bool
| .advance _ => true
| next => next.isTimeless

namespace Rehearsal

/- The tasks that are due at a time. -/
def dueAt
    (rehearsal : Rehearsal)
    (time : Millis) :
    List TaskId :=
  (rehearsal.connection.tasks.setTime time).dueTasks

/- How they are run by hand. -/
def stepsAt
    (rehearsal : Rehearsal)
    (time : Millis) :
    List Step :=
  (rehearsal.dueAt time).filterMap fun task =>
    (rehearsal.connection.tasks.task? task).map
      fun known => known.job.step

/- How all that are due up to a time are run by hand. -/
def stepsUntil (last : Millis) : Nat → Rehearsal → List Step
| 0, _ => []
| count + 1, rehearsal =>
    match rehearsal.nextDue? with
    | none => []
    | some time =>
        if time ≤ last then
          rehearsal.stepsAt time ++
            stepsUntil last count (rehearsal.happen time)
        else
          []

/- Whether no two of them are due at the same time. -/
def apartUntil (last : Millis) : Nat → Rehearsal → Bool
| 0, _ => true
| count + 1, rehearsal =>
    match rehearsal.nextDue? with
    | none => true
    | some time =>
        if time ≤ last then
          decide ((rehearsal.dueAt time).length ≤ 1) &&
            apartUntil last count (rehearsal.happen time)
        else
          true

/- What is done by hand in place of a step. -/
def byHand (rehearsal : Rehearsal) : Step → List Step
| .advance span =>
    stepsUntil (rehearsal.now + span) (span + 1) rehearsal
| next => [next]

/- Whether no two tasks are due at the same time in a step. -/
def isApart (rehearsal : Rehearsal) : Step → Bool
| .advance span =>
    apartUntil (rehearsal.now + span) (span + 1) rehearsal
| _ => true

------------------------------------------------------------
-- Runs
------------------------------------------------------------

/- The rehearsal before a step, with nothing to report. -/
def unreported (rehearsal : Rehearsal) : Rehearsal :=
  { rehearsal with reports := [] }

/- A rehearsal once steps were played that count from a number. -/
def through : StepId → List Step → Rehearsal → Rehearsal
| _, [], rehearsal => rehearsal
| id, next :: rest, rehearsal =>
    through (id + 1) rest (rehearsal.unreported.step id next)

/- What is done by hand in place of all of them. -/
def allByHand : StepId → List Step → Rehearsal → List Step
| _, [], _ => []
| id, next :: rest, rehearsal =>
    rehearsal.unreported.byHand next ++
      allByHand (id + 1) rest
        (rehearsal.unreported.step id next)

/- Whether no two tasks are ever due at the same time. -/
def keepsApart : StepId → List Step → Rehearsal → Bool
| _, [], _ => true
| id, next :: rest, rehearsal =>
    rehearsal.unreported.isApart next &&
      keepsApart (id + 1) rest
        (rehearsal.unreported.step id next)

/- A step that needs no connection is always done. -/
theorem step_of_free
    {next : Step}
    (hFree : next.needsConnection = false)
    (rehearsal : Rehearsal)
    (id : StepId) :
    rehearsal.step id next = rehearsal.perform id next := by
  unfold Rehearsal.step
  rw [hFree, Bool.and_false, if_neg (by simp)]

/- What takes no time is done by hand as it is. -/
theorem byHand_of_isTimeless
    {next : Step}
    (hTimeless : next.isTimeless = true)
    (rehearsal : Rehearsal) :
    rehearsal.byHand next = [next] := by
  cases next with
  | advance span => cases hTimeless
  | _ => rfl

/- Later steps are played where the ones before have led. -/
theorem through_append
    (id : StepId)
    (first second : List Step)
    (rehearsal : Rehearsal) :
    through id (first ++ second) rehearsal =
      through (id + first.length) second
        (through id first rehearsal) := by
  induction first generalizing id rehearsal with
  | nil => rfl
  | cons next rest ih =>
      rw [List.cons_append, through, through, ih,
        List.length_cons, Nat.add_right_comm, Nat.add_assoc]

theorem allByHand_append
    (id : StepId)
    (first second : List Step)
    (rehearsal : Rehearsal) :
    allByHand id (first ++ second) rehearsal =
      allByHand id first rehearsal ++
        allByHand (id + first.length) second
          (through id first rehearsal) := by
  induction first generalizing id rehearsal with
  | nil => rfl
  | cons next rest ih =>
      rw [List.cons_append, allByHand, allByHand, through, ih,
        List.append_assoc, List.length_cons,
        Nat.add_right_comm, Nat.add_assoc]

theorem keepsApart_append
    {id : StepId}
    {first second : List Step}
    {rehearsal : Rehearsal}
    (hApart :
      keepsApart id (first ++ second) rehearsal = true) :
    keepsApart id first rehearsal = true := by
  induction first generalizing id rehearsal with
  | nil => rfl
  | cons next rest ih =>
      rw [List.cons_append, keepsApart, Bool.and_eq_true]
        at hApart
      rw [keepsApart, Bool.and_eq_true]
      exact ⟨hApart.1, ih hApart.2⟩

------------------------------------------------------------
-- What Is Due
------------------------------------------------------------

/- The rehearsal at another time. -/
def atTime (rehearsal : Rehearsal) (time : Millis) : Rehearsal :=
  rehearsal.withConnection
    { rehearsal.connection with
      tasks := rehearsal.connection.tasks.setTime time }

section Due

variable {rehearsal : Rehearsal}
variable {time : Millis}
variable {id : TaskId}

/- Where nothing is on its way, only tasks are due. -/
theorem Prompt.nextDue?_eq (h : rehearsal.Prompt) :
    rehearsal.nextDue? =
      rehearsal.connection.tasks.nextDue? := by
  unfold Rehearsal.nextDue?
  rw [h.flights]
  exact
    (congrArg earliest? (List.append_nil _)).trans
      (earliest?_toList _)

/- If one is due alone, it is run. -/
theorem Prompt.happen_eq
    (h : rehearsal.Prompt)
    (hDue : rehearsal.dueAt time = [id]) :
    rehearsal.happen time =
      ((rehearsal.atTime time).runDue id).settle := by
  have hSame :
      { rehearsal.atTime time with flights := [] } =
        rehearsal.atTime time := by
    have hFlights := h.flights
    unfold atTime withConnection
    rw [← hFlights]
  unfold Rehearsal.happen
  change
    ((rehearsal.dueAt time).foldl runDue
      ((rehearsal.flights.filter _).foldl arrive
        { rehearsal.atTime time with
          flights := rehearsal.flights.filter _ })).settle = _
  rw [hDue, h.flights]
  exact congrArg (fun r => (runDue r id).settle) hSame

/- At the next time at which something is due, it waits. -/
theorem Prompt.exists_of_nextDue?
    (h : rehearsal.Prompt)
    (hNext : rehearsal.nextDue? = some time)
    (hApart : (rehearsal.dueAt time).length ≤ 1) :
    ∃ id task,
      rehearsal.dueAt time = [id] ∧
        rehearsal.connection.tasks.task? id = some task ∧
          task.isWaiting = true ∧ task.cancelled = false := by
  rw [h.nextDue?_eq] at hNext
  have hSome := Scheduler.dueTasks_ne_nil hNext
  rcases List.exists_cons_of_ne_nil hSome with
    ⟨id, rest, hDue⟩
  have hRest : rest = [] := by
    unfold dueAt at hApart
    rw [hDue, List.length_cons] at hApart
    exact List.eq_nil_of_length_eq_zero (by omega)
  subst hRest
  have hMember :
      id ∈
        (rehearsal.connection.tasks.setTime time).dueTasks := by
    rw [hDue]
    exact List.mem_cons_self ..
  rcases Scheduler.exists_of_mem_dueTasks hMember with
    ⟨task, hTask, hWaits, hCalm⟩
  exact ⟨id, task, hDue, hTask, hWaits, hCalm⟩

end Due

namespace Agrees

variable {config : Config}
variable {left right : Rehearsal}
variable {time : Millis}
variable {id : TaskId}
variable {task : Task Job}

/- Time passes in one of them. -/
theorem atTime
    (h : left.Agrees config right)
    (time : Millis) :
    (left.atTime time).Agrees config right := by
  cases h with
  | intro connection reports hTidy hPrompt hAgrees =>
      cases hAgrees with
      | intro tasks journal hTasks hJournal =>
          refine .intro _ reports ?_ ?_ ?_
          · exact hTidy.congr rfl (fun _ => rfl) rfl rfl
          · exact
              ⟨hPrompt.gates, hPrompt.latency, hPrompt.flights⟩
          · exact .intro tasks journal (hTasks.setTime time) hJournal

/- A clock runs what was not cancelled. -/
theorem runDue_eq
    {rehearsal : Rehearsal}
    (hTask :
      rehearsal.connection.tasks.task? id = some task)
    (hCalm : task.cancelled = false) :
    rehearsal.runDue id =
      (rehearsal.withConnection
        { rehearsal.connection with
          tasks :=
            rehearsal.connection.tasks.beginRun id }).undertake
        (.clock id) fun world c => c.runJob world id := by
  have hLive : rehearsal.connection.isCancelled id = false :=
    (Scheduler.isCancelled_of_task? hTask).trans hCalm
  unfold Rehearsal.runDue
  rw [if_neg (by simp [hLive])]

/- So does whoever runs it by hand. -/
theorem runEach_eq
    {rehearsal : Rehearsal}
    (hLive : rehearsal.connection.isCancelled id = false)
    (step : StepId) :
    Rehearsal.runEach step [id] 0 rehearsal =
      rehearsal.undertake (.tick step id [] 0)
        fun world c => c.runJob world id := by
  rw [Rehearsal.runEach, if_neg (by simp [hLive]),
    Rehearsal.undertake]
  rcases
      rehearsal.pursue (.tick step id [] 0)
        fun world c => c.runJob world id with
    ⟨later, result⟩
  cases result with
  | none => rfl
  | some result => rfl

/- The run of a task begins in both. -/
theorem beginRun
    (h : left.Agrees config right)
    {tasks : Scheduler Job}
    (hTasks :
      (left.connection.tasks.beginRun id).Agrees tasks) :
    (left.withConnection
        { left.connection with
          tasks := left.connection.tasks.beginRun id }).Agrees
      config
      (right.withConnection
        { right.connection with tasks := tasks }) :=
  h.withConnection
    (h.tidy.restage Scheduler.restages_beginRun id)
    (h.connection.withTasks hTasks)

/- A task that runs once is the oldest that is live. -/
theorem runNextOnce
    (h : left.Agrees config right)
    (hTask : left.connection.tasks.task? id = some task)
    (hWaits : task.isWaiting = true)
    (hCalm : task.cancelled = false)
    (hOnce : task.repetition = .once)
    (step : StepId) :
    (left.runDue id).settle.Agrees config
      (right.runNextOnce step) := by
  have hAlike : Alike config (.clock id) (.once step id) :=
    fun _ _ _ hAgrees =>
      (hAgrees.endRun id).withReports _ _
  have hLone := h.tidy.lone hTask hCalm
  rw [hOnce] at hLone
  have hTaken :=
    h.connection.tasks.takeOldest hTask hOnce hWaits hCalm
      hLone
  rw [runDue_eq hTask hCalm]
  unfold Rehearsal.runNextOnce
  rcases hOldest : right.connection.tasks.takeOldest with
    ⟨tasks, found⟩
  rw [hOldest] at hTaken
  rcases hTaken with ⟨hFound, hTasks⟩
  cases hFound
  exact ((h.beginRun hTasks).runJob hAlike id).settle

/- One that recurs is the only one that does. -/
theorem tickRecurring
    (h : left.Agrees config right)
    (hTask : left.connection.tasks.task? id = some task)
    (hWaits : task.isWaiting = true)
    (hCalm : task.cancelled = false)
    (hRecurs : task.repetition = .recurring)
    (step : StepId) :
    (left.runDue id).settle.Agrees config
      (right.tickRecurring step) := by
  have hAlike :
      Alike config (.clock id) (.tick step id [] 0) :=
    fun _ _ _ hAgrees =>
      (hAgrees.endRun id).withReports _ _
  have hStage : task.stage ≠ .over := by
    intro hOver
    simp [Task.isWaiting, hOver] at hWaits
  have hLone := h.tidy.lone hTask hCalm
  rw [hRecurs] at hLone
  rcases
      h.connection.tasks.tick hTask hRecurs hStage hCalm
        hLone with
    ⟨hLive, hSwept⟩
  have hBegun := h.beginRun hSwept
  have hAwake :
      (right.withConnection
          { right.connection with
            tasks :=
              right.connection.tasks.sweep }).connection.isCancelled
          id =
        false := by
    rw [hBegun.connection.isCancelled]
    exact
      (Scheduler.isCancelled_update
          Scheduler.restages_beginRun _ id id).trans
        ((Scheduler.isCancelled_of_task? hTask).trans hCalm)
  rw [runDue_eq hTask hCalm]
  unfold Rehearsal.tickRecurring
  rw [hLive]
  dsimp only
  rw [runEach_eq hAwake]
  exact (hBegun.runJob hAlike id).settle

/- Whatever the clock runs is run by hand. -/
theorem happen
    (h : left.Agrees config right)
    (hNext : left.nextDue? = some time)
    (hApart : (left.dueAt time).length ≤ 1)
    (step : StepId) :
    (left.happen time).Agrees config
      (Rehearsal.through step (left.stepsAt time) right) := by
  rcases h.prompt.exists_of_nextDue? hNext hApart with
    ⟨id, task, hDue, hTask, hWaits, hCalm⟩
  have hSteps : left.stepsAt time = [task.job.step] := by
    simp [stepsAt, hDue, hTask]
  have hLater := (h.atTime time).withReports left.reports []
  have hRepetition :=
    (h.tidy.ledger.suits id task hTask).repetition
  rw [h.prompt.happen_eq hDue, hSteps]
  cases hJob : task.job with
  | connect =>
      rw [hJob] at hRepetition
      rw [Rehearsal.through, Job.step, step_of_free rfl]
      exact
        hLater.runNextOnce hTask hWaits hCalm hRepetition step
  | checkHealth =>
      rw [hJob] at hRepetition
      rw [Rehearsal.through, Job.step, step_of_free rfl]
      exact
        hLater.tickRecurring hTask hWaits hCalm hRepetition step

/- From one time at which something is due to the next. -/
theorem advanceTo
    (h : left.Agrees config right)
    (last : Millis)
    (count : Nat)
    (hApart : left.apartUntil last count = true)
    (step : StepId) :
    (timeline.advance last count left).Agrees config
      (Rehearsal.through step (left.stepsUntil last count)
        right) := by
  induction count generalizing left right step with
  | zero => exact h
  | succ count ih =>
      unfold Timeline.advance stepsUntil
      unfold apartUntil at hApart
      change
        Agrees config
          (match left.nextDue? with
          | none => left
          | some time =>
              if time ≤ last then
                timeline.advance last count (left.happen time)
              else
                left) _
      split
      · exact h
      · rename_i time hNext
        rw [hNext] at hApart
        dsimp only at hApart ⊢
        split
        · rename_i hLast
          rw [if_pos hLast, Bool.and_eq_true,
            decide_eq_true_eq] at hApart
          rw [through_append]
          exact
            ih (h.happen hNext hApart.1 step) hApart.2 _
        · exact h

/- Whatever is done in a rehearsal is done by hand. -/
theorem byHand
    (h : left.Agrees config right)
    {next : Step}
    (hNext : next.isByClock = true)
    (hApart : left.isApart next = true)
    (one other : StepId) :
    (left.step one next).Agrees config
      (Rehearsal.through other (left.byHand next) right) := by
  cases hTimeless : next.isTimeless with
  | true =>
      rw [byHand_of_isTimeless hTimeless]
      exact
        (h.withReports left.reports []).step one other hTimeless
  | false =>
      cases next with
      | advance span =>
          have hLater :=
            h.advanceTo (left.now + span) (span + 1) hApart other
          rw [step_of_free rfl]
          exact (hLater.atTime _).withReports _ _
      | _ => cases hTimeless.symm.trans hNext

/- However many steps there are. -/
theorem through
    (h : left.Agrees config right)
    {steps : List Step}
    (hSteps : ∀ next ∈ steps, next.isByClock = true)
    {one : StepId}
    (hApart : left.keepsApart one steps = true)
    (other : StepId) :
    (Rehearsal.through one steps left).Agrees config
      (Rehearsal.through other (left.allByHand one steps)
        right) := by
  induction steps generalizing left right one other with
  | nil => exact h
  | cons next rest ih =>
      rw [keepsApart, Bool.and_eq_true] at hApart
      have hCleared := h.withReports [] right.reports
      have hNext :=
        hCleared.byHand (hSteps next (List.mem_cons_self ..))
          hApart.1 one other
      rw [Rehearsal.through, allByHand, through_append]
      exact
        ih hNext
          (fun later hLater =>
            hSteps later (List.mem_cons_of_mem _ hLater))
          hApart.2 _

end Agrees

------------------------------------------------------------
-- Rehearsals
------------------------------------------------------------

/- Two new connections agree whatever drives them. -/
theorem agrees_newConnection
    {config : Config}
    {drive other : Drive}
    {left right : Connection}
    (hLeft : Connection.new config drive = .ok left)
    (hRight : Connection.new config other = .ok right) :
    left.Agrees right := by
  unfold Connection.new at hLeft hRight
  split at hLeft
  · cases hLeft
  · rename_i hValid
    rw [hValid] at hRight
    cases hLeft
    cases hRight
    exact .intro (.empty other) [] ⟨rfl, nofun⟩ rfl

/- So do two new rehearsals. -/
theorem agrees_new
    {config : Config}
    {drive other : Drive}
    {book : Http.Playbook}
    {address : Option Address}
    {left right : Rehearsal}
    (hLeft : new config drive book address = .ok left)
    (hRight : new config other book address = .ok right) :
    left.Agrees config right := by
  unfold new at hLeft hRight
  cases hOne : Connection.new config drive with
  | error cause =>
      rw [hOne] at hLeft
      cases hLeft
  | ok one =>
      cases hTwo : Connection.new config other with
      | error cause =>
          rw [hTwo] at hRight
          cases hRight
      | ok two =>
          rw [hOne] at hLeft
          rw [hTwo] at hRight
          cases hLeft
          cases hRight
          exact
            .intro two [] (Connection.tidy_new hOne)
              ⟨rfl, fun _ => rfl, rfl⟩
              (agrees_newConnection hOne hTwo)

/-
  What can be seen of two rehearsals is the same, but for the
  time: what was done and told, in order, how the connection
  stands, what its keys are, and what waits for receivers.
-/
structure Matches (left right : Rehearsal) : Prop where
  effects :
    right.connection.journal.map Prod.snd =
      left.connection.journal.map Prod.snd
  view : right.connection.view = left.connection.view
  keys : right.connection.keys = left.connection.keys
  registry :
    right.connection.registry = left.connection.registry
  own : right.ownView = left.ownView

theorem Agrees.matches
    {config : Config}
    {left right : Rehearsal}
    (h : left.Agrees config right) :
    left.Matches right := by
  have hView := h.connection.view
  have hKeys := h.connection.keys
  refine
    ⟨h.connection.effects, hView, hKeys,
      h.connection.registry, ?_⟩
  have hDropped : right.isDropped = left.isDropped := by
    cases h
    rfl
  unfold ownView
  rw [hDropped, hView, hKeys]

end Rehearsal

/-
  Let a rehearsal be played by the clock in which no answer is
  late and no two tasks are due at the same time, and be played
  again by hand, with every task run in its turn. After each
  step the same can be seen of both.
-/
theorem matches_by_hand
    {config : Config}
    {book : Http.Playbook}
    {address : Option Address}
    {clock hand : Rehearsal}
    (hClock :
      Rehearsal.new config .clock book address = .ok clock)
    (hHand :
      Rehearsal.new config .hand book address = .ok hand)
    (done rest : List Step)
    (hSteps :
      ∀ next ∈ done ++ rest, next.isByClock = true)
    (hApart : clock.keepsApart 0 (done ++ rest) = true) :
    clock.allByHand 0 done <+:
        clock.allByHand 0 (done ++ rest) ∧
      (clock.through 0 done).Matches
        (hand.through 0 (clock.allByHand 0 done)) := by
  have hAgrees := Rehearsal.agrees_new hClock hHand
  constructor
  · rw [Rehearsal.allByHand_append]
    exact List.prefix_append _ _
  · apply Rehearsal.Agrees.matches
    apply hAgrees.through
    · intro next hNext
      exact hSteps next (List.mem_append_left _ hNext)
    · exact Rehearsal.keepsApart_append hApart

namespace Sample

/- A rehearsal with a brain in good health. -/
def rehearsal (drive : Drive) : Rehearsal where
  connection := .fresh config drive
  book := Http.Playbook.healthy
  gates := []
  latencies := []
  isReachable := true
  address := world.address
  creates := true
  flights := []
  probed := 0
  isDropped := false
  receivers := []
  heldKeys := none
  reports := []

theorem new_rehearsal (drive : Drive) :
    Rehearsal.new config drive Http.Playbook.healthy
        world.address =
      .ok (rehearsal drive) := by
  have hNew :
      Connection.new config drive = .ok (.fresh config drive) :=
    Connection.new_of_faults drive (by decide +kernel)
  unfold Rehearsal.new
  rw [hNew]
  rfl

/- The adapter connects, and later finds the brain gone. -/
def waits : List Step :=
  [.start, .advance 5000, .setProbe false, .advance 10000]

end Sample

/- It does the same by hand. -/
theorem matches_of_waits :
    ((Sample.rehearsal .clock).through 0 Sample.waits).Matches
      ((Sample.rehearsal .hand).through 0
        ((Sample.rehearsal .clock).allByHand 0
          Sample.waits)) := by
  have hApart :
      (Sample.rehearsal .clock).keepsApart 0
          (Sample.waits ++ []) =
        true := by
    decide +kernel
  have hSteps :
      ∀ next ∈ Sample.waits ++ [], next.isByClock = true := by
    simp [Sample.waits, Step.isByClock, Step.isTimeless]
  exact
    (matches_by_hand (Sample.new_rehearsal .clock)
        (Sample.new_rehearsal .hand) Sample.waits [] hSteps
        hApart).2

end BrainLink
