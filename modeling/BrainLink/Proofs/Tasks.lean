import BrainLink.Task.Scheduler

/-
  What the operations of a scheduler do to the task of a
  name, and how a scheduler changes while nothing runs.

  Key definitions include:
    * `Task.Restages`
    * `Scheduler.Grows`

  Main statements:
    * `Scheduler.task?_add`
    * `Scheduler.task?_update`
    * `Scheduler.exists_of_task?_update`
    * `Slot.task?_release`
    * `Scheduler.Grows.trans`
    * `Scheduler.grows_add`
    * `Slot.grows_release`
-/

namespace BrainLink

------------------------------------------------------------
-- Tasks by Name
------------------------------------------------------------

namespace Scheduler

variable {J : Type}

/- Nothing has the next name yet. -/
@[simp] theorem task?_nextId
    (scheduler : Scheduler J) :
    scheduler.task? scheduler.nextId = none := by
  simp [task?, nextId]

/- A new task has the next name; the others keep theirs. -/
theorem task?_add
    (scheduler : Scheduler J)
    (repetition : Repetition)
    (period : Millis)
    (job : J)
    (id : TaskId) :
    (scheduler.add repetition period job).task? id =
      if id = scheduler.nextId then
        some
          { repetition := repetition
            period := period
            job := job
            stage := .waiting (scheduler.now + period)
            cancelled := false }
      else
        scheduler.task? id := by
  unfold add task? nextId
  by_cases hNext : id = scheduler.tasks.length
  · subst hNext
    simp
  · rw [if_neg hNext]
    by_cases hOld : id < scheduler.tasks.length
    · rw [List.getElem?_append_left hOld]
    · have hBeyond : scheduler.tasks.length < id :=
        Nat.lt_of_le_of_ne (Nat.le_of_not_lt hOld)
          (Ne.symm hNext)
      rw [List.getElem?_eq_none
          (by simpa using Nat.succ_le_of_lt hBeyond),
        List.getElem?_eq_none (Nat.le_of_lt hBeyond)]

/- An update changes the task of its name and no other. -/
theorem task?_update
    (scheduler : Scheduler J)
    (id : TaskId)
    (change : Task J → Task J)
    (other : TaskId) :
    (scheduler.update id change).task? other =
      if id = other then
        (scheduler.task? other).map change
      else
        scheduler.task? other := by
  unfold update task?
  rw [List.getElem?_modify]
  by_cases hSame : id = other
  · simp [hSame]
  · simp [hSame]

/- A task was cancelled if it says so. -/
theorem isCancelled_iff
    (scheduler : Scheduler J)
    (id : TaskId) :
    scheduler.isCancelled id = true ↔
      ∃ task,
        scheduler.task? id = some task ∧
          task.cancelled = true := by
  unfold isCancelled
  cases hTask : scheduler.task? id with
  | none => simp
  | some task => simp

/- A task that is there was cancelled or was not. -/
theorem isCancelled_of_task?
    {scheduler : Scheduler J}
    {id : TaskId}
    {task : Task J}
    (hTask : scheduler.task? id = some task) :
    scheduler.isCancelled id = task.cancelled := by
  simp [isCancelled, hTask]

end Scheduler

------------------------------------------------------------
-- Stages
------------------------------------------------------------

/- A change of tasks that leaves all but their stage. -/
def Task.Restages
    {J : Type}
    (change : Task J → Task J) : Prop :=
  ∀ task, ∃ stage, change task = { task with stage := stage }

namespace Scheduler

variable {J : Type}

theorem restages_beginRun :
    Task.Restages fun task : Task J =>
      { task with stage := .running } :=
  fun _ => ⟨.running, rfl⟩

theorem restages_endRun (scheduler : Scheduler J) :
    Task.Restages fun task : Task J =>
      match task.repetition, task.cancelled with
      | .recurring, false =>
          { task with
            stage := .waiting (scheduler.now + task.period) }
      | _, _ => { task with stage := .over } := by
  intro task
  dsimp only
  split
  · exact ⟨_, rfl⟩
  · exact ⟨_, rfl⟩

/- A task after an update comes from one before it. -/
theorem exists_of_task?_update
    {scheduler : Scheduler J}
    {change : Task J → Task J}
    (hChange : Task.Restages change)
    {id other : TaskId}
    {task : Task J}
    (hTask :
      (scheduler.update id change).task? other = some task) :
    ∃ old stage,
      scheduler.task? other = some old ∧
        task = { old with stage := stage } ∧
        (other = id → task = change old) ∧
        (other ≠ id → task = old) := by
  rw [task?_update] at hTask
  by_cases hSame : id = other
  · rw [if_pos hSame] at hTask
    rcases Option.map_eq_some_iff.mp hTask with
      ⟨old, hOld, rfl⟩
    rcases hChange old with ⟨stage, hStage⟩
    exact
      ⟨old, stage, hOld, hStage, fun _ => rfl,
        fun hOther => absurd hSame.symm hOther⟩
  · rw [if_neg hSame] at hTask
    exact
      ⟨task, task.stage, hTask, rfl,
        fun hOther => absurd hOther.symm hSame, fun _ => rfl⟩

/- A task that is there is still there after an update. -/
theorem exists_task?_update
    {scheduler : Scheduler J}
    {change : Task J → Task J}
    (hChange : Task.Restages change)
    (id : TaskId)
    {other : TaskId}
    {task : Task J}
    (hTask : scheduler.task? other = some task) :
    ∃ stage,
      (scheduler.update id change).task? other =
        some { task with stage := stage } := by
  rw [task?_update, hTask]
  by_cases hSame : id = other
  · rcases hChange task with ⟨stage, hStage⟩
    exact ⟨stage, by simp [hSame, hStage]⟩
  · exact ⟨task.stage, by simp [hSame]⟩

/- What only changes stages cancels nothing. -/
theorem isCancelled_update
    {change : Task J → Task J}
    (hChange : Task.Restages change)
    (scheduler : Scheduler J)
    (id other : TaskId) :
    (scheduler.update id change).isCancelled other =
      scheduler.isCancelled other := by
  cases hTask : scheduler.task? other with
  | none =>
      have hUpdated :
          (scheduler.update id change).task? other = none := by
        rw [task?_update, hTask]
        simp
      simp [isCancelled, hTask, hUpdated]
  | some task =>
      rcases exists_task?_update hChange id hTask with
        ⟨stage, hUpdated⟩
      rw [isCancelled_of_task? hTask,
        isCancelled_of_task? hUpdated]

end Scheduler

------------------------------------------------------------
-- Releases
------------------------------------------------------------

/- The task that leaves a slot is cancelled. -/
theorem Slot.task?_release
    {J : Type}
    (slot : Slot)
    (scheduler : Scheduler J)
    (id : TaskId) :
    (slot.release scheduler).task? id =
      if slot = some id then
        (scheduler.task? id).map fun task =>
          { task with cancelled := true }
      else
        scheduler.task? id := by
  cases slot with
  | none => rfl
  | some held =>
      unfold release Scheduler.cancel
      rw [Scheduler.task?_update]
      by_cases hSame : held = id
      · simp [hSame]
      · simp [hSame]

------------------------------------------------------------
-- Growth
------------------------------------------------------------

/-
  A scheduler grows when tasks are added and cancelled, and
  none begins or ends a run.
-/
structure Scheduler.Grows
    {J : Type}
    (before after : Scheduler J) : Prop where
  drive : after.drive = before.drive
  now : after.now = before.now
  old :
    ∀ id task,
      before.task? id = some task →
        ∃ cancelled,
          after.task? id =
              some { task with cancelled := cancelled } ∧
            (task.cancelled = true → cancelled = true)
  new :
    ∀ id task,
      before.task? id = none →
        after.task? id = some task →
          task.isWaiting = true

namespace Scheduler

variable {J : Type}

theorem Grows.refl (scheduler : Scheduler J) :
    scheduler.Grows scheduler where
  drive := rfl
  now := rfl
  old _ task hTask := ⟨task.cancelled, hTask, id⟩
  new _ _ hNone hSome := by
    rw [hNone] at hSome
    cases hSome

theorem Grows.trans
    {before middle after : Scheduler J}
    (hFirst : before.Grows middle)
    (hLast : middle.Grows after) :
    before.Grows after where
  drive := hLast.drive.trans hFirst.drive
  now := hLast.now.trans hFirst.now
  old id task hTask := by
    rcases hFirst.old id task hTask with
      ⟨early, hMiddle, hEarly⟩
    rcases hLast.old id _ hMiddle with
      ⟨late, hAfter, hLate⟩
    exact ⟨late, hAfter, fun h => hLate (hEarly h)⟩
  new id task hNone hSome := by
    cases hMiddle : middle.task? id with
    | none => exact hLast.new id task hMiddle hSome
    | some other =>
        have hWaiting := hFirst.new id other hNone hMiddle
        rcases hLast.old id other hMiddle with
          ⟨cancelled, hAfter, -⟩
        rw [hAfter] at hSome
        cases hSome
        exact hWaiting

/- What was cancelled stays cancelled. -/
theorem Grows.isCancelled
    {before after : Scheduler J}
    (hGrows : before.Grows after)
    {id : TaskId}
    (hCancelled : before.isCancelled id = true) :
    after.isCancelled id = true := by
  rcases (isCancelled_iff before id).mp hCancelled with
    ⟨task, hTask, hFlag⟩
  rcases hGrows.old id task hTask with
    ⟨cancelled, hAfter, hKept⟩
  exact (isCancelled_iff after id).mpr
    ⟨_, hAfter, hKept hFlag⟩

/- A name that is free later was free before. -/
theorem Grows.task?_eq_none
    {before after : Scheduler J}
    (hGrows : before.Grows after)
    {id : TaskId}
    (hNone : after.task? id = none) :
    before.task? id = none := by
  cases hTask : before.task? id with
  | none => rfl
  | some task =>
      rcases hGrows.old id task hTask with ⟨_, hAfter, -⟩
      rw [hAfter] at hNone
      cases hNone

/- Adding a task is growth. -/
theorem grows_add
    (scheduler : Scheduler J)
    (repetition : Repetition)
    (period : Millis)
    (job : J) :
    scheduler.Grows
      (scheduler.add repetition period job) where
  drive := rfl
  now := rfl
  old id task hTask := by
    have hOld : id ≠ scheduler.nextId := by
      intro hNext
      rw [hNext, task?_nextId] at hTask
      cases hTask
    refine ⟨task.cancelled, ?_, fun h => h⟩
    rw [task?_add, if_neg hOld]
    exact hTask
  new id task hNone hSome := by
    rw [task?_add] at hSome
    by_cases hNext : id = scheduler.nextId
    · rw [if_pos hNext] at hSome
      cases hSome
      rfl
    · rw [if_neg hNext, hNone] at hSome
      cases hSome

end Scheduler

/- Emptying a slot is growth. -/
theorem Slot.grows_release
    {J : Type}
    (slot : Slot)
    (scheduler : Scheduler J) :
    scheduler.Grows (slot.release scheduler) where
  drive := by
    cases slot <;> rfl
  now := by
    cases slot <;> rfl
  old id task hTask := by
    rw [Slot.task?_release, hTask]
    by_cases hHeld : slot = some id
    · exact ⟨true, by simp [hHeld], fun _ => rfl⟩
    · exact ⟨task.cancelled, by simp [hHeld], fun h => h⟩
  new id task hNone hSome := by
    rw [Slot.task?_release, hNone] at hSome
    by_cases hHeld : slot = some id
    · simp [hHeld] at hSome
    · simp [hHeld] at hSome

end BrainLink
