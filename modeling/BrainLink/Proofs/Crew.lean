import BrainLink.Proofs.Slots

/-
  Which tasks are at work, and which of them await an answer.

  Key definitions include:
    * `Crew`

  Main statements:
    * `Crew.grows`
    * `Crew.update`
    * `Crew.beginAttempt`
    * `Crew.endAttempt`

  A connect attempt that was not cancelled runs exactly while
  it is among the attempts that await an answer. An attempt
  that was cancelled may await one too, and nothing is said
  of where it stands.
-/

namespace BrainLink

/-
  The tasks at work: no attempt is there twice, those that
  await an answer are known, the attempts that run are among
  them, and a health check that was not cancelled is never
  over.
-/
structure Crew
    (tasks : Scheduler Job)
    (attempts checks : List TaskId) : Prop where
  single : attempts.Nodup
  known :
    ∀ id ∈ attempts,
      ∃ task, tasks.task? id = some task ∧ task.job = .connect
  working :
    ∀ id task,
      tasks.task? id = some task →
        task.job = .connect →
          task.cancelled = false →
            (task.stage = .running ↔ id ∈ attempts)
  probing :
    ∀ id ∈ checks,
      ∃ task,
        tasks.task? id = some task ∧ task.job = .checkHealth
  tireless :
    ∀ id task,
      tasks.task? id = some task →
        task.job = .checkHealth →
          task.cancelled = false →
            task.stage ≠ .over

namespace Crew

variable {config : Config}
variable {tasks later : Scheduler Job}
variable {slots : Job → Slot}
variable {attempts checks : List TaskId}

/- Nobody is at work at first. -/
theorem empty (drive : Drive) : Crew (.empty drive) [] [] where
  single := List.nodup_nil
  known id hMember := by cases hMember
  working id task hTask := by
    simp [Scheduler.task?, Scheduler.empty] at hTask
  probing id hMember := by cases hMember
  tireless id task hTask := by
    simp [Scheduler.task?, Scheduler.empty] at hTask

/- New tasks wait, and the others are where they were. -/
theorem grows
    (h : Crew tasks attempts checks)
    (hGrows : tasks.Grows later) :
    Crew later attempts checks where
  single := h.single
  known id hMember := by
    rcases h.known id hMember with ⟨task, hTask, hJob⟩
    rcases hGrows.old id task hTask with ⟨_, hLater, -⟩
    exact ⟨_, hLater, hJob⟩
  working id task hTask hJob hCancelled := by
    cases hOld : tasks.task? id with
    | none =>
        have hWaiting := hGrows.new id task hOld hTask
        constructor
        · intro hRunning
          simp [Task.isWaiting, hRunning] at hWaiting
        · intro hMember
          rcases h.known id hMember with ⟨_, hSome, -⟩
          rw [hOld] at hSome
          cases hSome
    | some old =>
        rcases hGrows.old id old hOld with
          ⟨cancelled, hLater, hKept⟩
        rw [hTask] at hLater
        cases hLater
        apply h.working id old hOld hJob
        cases hFlag : old.cancelled with
        | false => rfl
        | true =>
            rw [hKept hFlag] at hCancelled
            cases hCancelled
  probing id hMember := by
    rcases h.probing id hMember with ⟨task, hTask, hJob⟩
    rcases hGrows.old id task hTask with ⟨_, hLater, -⟩
    exact ⟨_, hLater, hJob⟩
  tireless id task hTask hJob hCancelled := by
    cases hOld : tasks.task? id with
    | none =>
        have hWaiting := hGrows.new id task hOld hTask
        intro hOver
        simp [Task.isWaiting, hOver] at hWaiting
    | some old =>
        rcases hGrows.old id old hOld with
          ⟨cancelled, hLater, hKept⟩
        rw [hTask] at hLater
        cases hLater
        apply h.tireless id old hOld hJob
        cases hFlag : old.cancelled with
        | false => rfl
        | true =>
            rw [hKept hFlag] at hCancelled
            cases hCancelled

/- Only the names of the tasks count, and who awaits. -/
theorem congr
    {others probes : List TaskId}
    (h : Crew tasks attempts checks)
    (hTasks : ∀ id, later.task? id = tasks.task? id)
    (hAttempts : others.Perm attempts)
    (hChecks : probes.Perm checks) :
    Crew later others probes where
  single := hAttempts.nodup_iff.mpr h.single
  known id hMember := by
    rw [hTasks]
    exact h.known id (hAttempts.mem_iff.mp hMember)
  working id task hTask hJob hCancelled := by
    rw [hTasks] at hTask
    rw [hAttempts.mem_iff]
    exact h.working id task hTask hJob hCancelled
  probing id hMember := by
    rw [hTasks]
    exact h.probing id (hChecks.mem_iff.mp hMember)
  tireless id task hTask := by
    rw [hTasks] at hTask
    exact h.tireless id task hTask

/-
  One task moves on. The others await an answer as before,
  and the one must await it if it is an attempt that runs.
-/
theorem update
    {others probes : List TaskId}
    {change : Task Job → Task Job}
    (h : Crew tasks attempts checks)
    (hChange : Task.Restages change)
    (id : TaskId)
    (hSingle : others.Nodup)
    (hOthers :
      ∀ other, other ≠ id → (other ∈ others ↔ other ∈ attempts))
    (hKnown :
      id ∈ others →
        ∃ task,
          tasks.task? id = some task ∧ task.job = .connect)
    (hWorking :
      ∀ task,
        tasks.task? id = some task →
          task.job = .connect →
            task.cancelled = false →
              ((change task).stage = .running ↔ id ∈ others))
    (hProbing :
      ∀ other ∈ probes,
        other ∈ checks ∨
          ∃ task,
            tasks.task? other = some task ∧
              task.job = .checkHealth)
    (hTireless :
      ∀ task,
        tasks.task? id = some task →
          task.job = .checkHealth →
            task.cancelled = false →
              (change task).stage ≠ .over) :
    Crew (tasks.update id change) others probes where
  single := hSingle
  known other hMember := by
    have hOld :
        ∃ task,
          tasks.task? other = some task ∧
            task.job = .connect := by
      by_cases hSame : other = id
      · rw [hSame] at hMember ⊢
        exact hKnown hMember
      · exact h.known other ((hOthers other hSame).mp hMember)
    rcases hOld with ⟨task, hTask, hJob⟩
    rcases Scheduler.exists_task?_update hChange id hTask with
      ⟨stage, hNew⟩
    exact ⟨_, hNew, hJob⟩
  working other task hTask hJob hCancelled := by
    rcases Scheduler.exists_of_task?_update hChange hTask with
      ⟨old, stage, hOld, hStage, hMoved, hLeft⟩
    by_cases hSame : other = id
    · have hNew := hMoved hSame
      rw [hSame] at hOld ⊢
      rw [hStage] at hJob hCancelled
      rw [hNew]
      exact hWorking old hOld hJob hCancelled
    · rw [hLeft hSame] at hJob hCancelled ⊢
      rw [hOthers other hSame]
      exact h.working other old hOld hJob hCancelled
  probing other hMember := by
    have hOld :
        ∃ task,
          tasks.task? other = some task ∧
            task.job = .checkHealth := by
      rcases hProbing other hMember with hCheck | hTask
      · exact h.probing other hCheck
      · exact hTask
    rcases hOld with ⟨task, hTask, hJob⟩
    rcases Scheduler.exists_task?_update hChange id hTask with
      ⟨stage, hNew⟩
    exact ⟨_, hNew, hJob⟩
  tireless other task hTask hJob hCancelled := by
    rcases Scheduler.exists_of_task?_update hChange hTask with
      ⟨old, stage, hOld, hStage, hMoved, hLeft⟩
    by_cases hSame : other = id
    · have hNew := hMoved hSame
      rw [hSame] at hOld
      rw [hStage] at hJob hCancelled
      rw [hNew]
      exact hTireless old hOld hJob hCancelled
    · rw [hLeft hSame] at hJob hCancelled ⊢
      exact h.tireless other old hOld hJob hCancelled

------------------------------------------------------------
-- Runs
------------------------------------------------------------

/- A waiting attempt that was not cancelled awaits nothing. -/
theorem not_mem_of_isLive
    (h : Crew tasks attempts checks)
    {id : TaskId}
    {task : Task Job}
    (hTask : tasks.task? id = some task)
    (hSuits : task.Suits config)
    (hJob : task.job = .connect)
    (hLive : task.isLive = true) :
    task.cancelled = false ∧ id ∉ attempts := by
  have hOnce : task.repetition = .once := by
    rw [hSuits.repetition, hJob]
    rfl
  rw [Task.isLive, hOnce] at hLive
  simp only [Bool.and_eq_true, Bool.not_eq_true'] at hLive
  rcases hLive with ⟨hWaiting, hCancelled⟩
  refine ⟨hCancelled, ?_⟩
  intro hMember
  have hRunning :=
    (h.working id task hTask hJob hCancelled).mpr hMember
  simp [Task.isWaiting, hRunning] at hWaiting

/- An attempt begins. -/
theorem beginAttempt
    (h : Crew tasks attempts checks)
    {id : TaskId}
    {task : Task Job}
    (hTask : tasks.task? id = some task)
    (hJob : task.job = .connect)
    (hFree : id ∉ attempts) :
    Crew (tasks.beginRun id) (id :: attempts) checks := by
  apply h.update Scheduler.restages_beginRun id
  · exact List.nodup_cons.mpr ⟨hFree, h.single⟩
  · intro other hOther
    simp [hOther]
  · exact fun _ => ⟨task, hTask, hJob⟩
  · intro _ _ _ _
    simp
  · exact fun _ hMember => Or.inl hMember
  · intro _ _ _ _ hOver
    cases hOver

/- An attempt ends. -/
theorem endAttempt
    {id : TaskId}
    (h : Crew tasks (id :: attempts) checks)
    (hLedger : Ledger config tasks slots) :
    Crew (tasks.endRun id) attempts checks := by
  rcases List.nodup_cons.mp h.single with ⟨hFree, hSingle⟩
  rcases h.known id (List.mem_cons_self ..) with
    ⟨task, hTask, hJob⟩
  have hOnce : task.repetition = .once := by
    rw [(hLedger.suits id task hTask).repetition, hJob]
    rfl
  apply h.update (Scheduler.restages_endRun tasks) id
  · exact hSingle
  · intro other hOther
    simp [hOther]
  · exact fun hMember => absurd hMember hFree
  · intro same hSame _ _
    rw [hTask] at hSame
    cases hSame
    simp [hOnce, hFree]
  · exact fun _ hMember => Or.inl hMember
  · intro same hSame hOther
    rw [hTask] at hSame
    cases hSame
    rw [hJob] at hOther
    cases hOther

/- A health check ends; it waits unless it was cancelled. -/
theorem endCheck
    (h : Crew tasks attempts checks)
    (hLedger : Ledger config tasks slots)
    {id : TaskId}
    {task : Task Job}
    (hTask : tasks.task? id = some task)
    (hJob : task.job = .checkHealth) :
    Crew (tasks.endRun id) attempts checks := by
  have hRecurring : task.repetition = .recurring := by
    rw [(hLedger.suits id task hTask).repetition, hJob]
    rfl
  apply h.update (Scheduler.restages_endRun tasks) id h.single
  · exact fun _ _ => Iff.rfl
  · exact h.known id
  · intro same hSame hOther
    rw [hTask] at hSame
    cases hSame
    rw [hJob] at hOther
    cases hOther
  · exact fun _ hMember => Or.inl hMember
  · intro same hSame _ hCancelled
    rw [hTask] at hSame
    cases hSame
    simp [hRecurring, hCancelled]

/- The result of a probe is there. -/
theorem forgetProbe
    {id : TaskId}
    (h : Crew tasks attempts (id :: checks)) :
    Crew tasks attempts checks where
  single := h.single
  known := h.known
  working := h.working
  probing other hMember :=
    h.probing other (List.mem_cons_of_mem _ hMember)
  tireless := h.tireless

end Crew

end BrainLink
