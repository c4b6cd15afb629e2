import BrainLink.Proofs.Accord

/-
  Which task a clock runs and which one is run by hand.

  Key definitions include:
    * `Scheduler.Lone`

  Main statements:
    * `Scheduler.Agrees.takeOldest`
    * `Scheduler.Agrees.tick`
    * `Connection.Tidy.lone`

  A clock runs the task that is due. By hand, the oldest live
  task that runs once is run, or all that recur. If each job
  has one live task at most, this is the same.
-/

namespace BrainLink

------------------------------------------------------------
-- Times
------------------------------------------------------------

/- The least of some times is one of them. -/
theorem mem_of_earliest?
    {times : List Millis}
    {time : Millis}
    (hEarliest : earliest? times = some time) :
    time ∈ times := by
  induction times generalizing time with
  | nil => cases hEarliest
  | cons first rest ih =>
      unfold earliest? at hEarliest
      split at hEarliest
      · cases hEarliest
        exact List.mem_cons_self ..
      · rename_i other hOther
        cases hEarliest
        rcases Nat.le_total first other with hLe | hLe
        · rw [Nat.min_eq_left hLe]
          exact List.mem_cons_self ..
        · rw [Nat.min_eq_right hLe]
          exact List.mem_cons_of_mem _ (ih hOther)

/- A single time is the least. -/
theorem earliest?_toList (time? : Option Millis) :
    earliest? time?.toList = time? := by
  cases time? with
  | none => rfl
  | some time => rfl

namespace Scheduler

------------------------------------------------------------
-- Searches
------------------------------------------------------------

section Search

variable {J : Type}
variable {scheduler : Scheduler J}

theorem mem_idsWhere
    {property : Task J → Bool}
    {id : TaskId} :
    id ∈ scheduler.idsWhere property ↔
      ∃ task,
        scheduler.task? id = some task ∧
          property task = true := by
  unfold idsWhere
  rw [List.mem_filter, List.mem_range, Option.any_eq_true]
  constructor
  · rintro ⟨-, task, hTask, hIs⟩
    exact ⟨task, hTask, hIs⟩
  · rintro ⟨task, hTask, hIs⟩
    refine ⟨?_, task, hTask, hIs⟩
    unfold task? at hTask
    exact (List.getElem?_eq_some_iff.mp hTask).1

/- The only task with a property is the only one found. -/
theorem idsWhere_eq_singleton
    {property : Task J → Bool}
    {id : TaskId}
    (hFound :
      ∀ other,
        other ∈ scheduler.idsWhere property ↔ other = id) :
    scheduler.idsWhere property = [id] := by
  have hNodup :
      (scheduler.idsWhere property).Nodup :=
    List.nodup_range.filter _
  apply List.perm_singleton.mp
  apply (List.perm_ext_iff_of_nodup hNodup (by simp)).mpr
  intro other
  rw [hFound, List.mem_singleton]

/- Whatever is due by now waits and was not cancelled. -/
theorem exists_of_mem_dueTasks
    {id : TaskId}
    (hDue : id ∈ scheduler.dueTasks) :
    ∃ task,
      scheduler.task? id = some task ∧
        task.isWaiting = true ∧ task.cancelled = false := by
  unfold dueTasks at hDue
  split at hDue
  · cases hDue
  · rcases mem_idsWhere.mp hDue with ⟨task, hTask, hTime⟩
    refine ⟨task, hTask, ?_⟩
    unfold Task.due? at hTime
    split at hTime
    · rename_i time hStage hCalm
      exact ⟨by simp [Task.isWaiting, hStage], hCalm⟩
    · cases hTime

/- At the next time at which something is due, something is. -/
theorem dueTasks_ne_nil
    {time : Millis}
    (hNext : scheduler.nextDue? = some time) :
    (scheduler.setTime time).dueTasks ≠ [] := by
  unfold nextDue? at hNext
  split at hNext
  · cases hNext
  · rename_i hClock
    rcases List.mem_filterMap.mp (mem_of_earliest? hNext) with
      ⟨task, hMember, hDue⟩
    rcases List.getElem?_of_mem hMember with ⟨id, hTask⟩
    have hFound : id ∈ (scheduler.setTime time).dueTasks := by
      unfold dueTasks setTime
      rw [hClock]
      exact mem_idsWhere.mpr ⟨task, hTask, by simp [hDue]⟩
    exact List.ne_nil_of_mem hFound

end Search

------------------------------------------------------------
-- Taking Turns
------------------------------------------------------------

section Turn

variable {J : Type}

/-
  The first live task that runs once is taken. Others change
  only if they were cancelled before.
-/
theorem takeFirst_spec
    {tasks : List (Task J)}
    {id : TaskId}
    {task : Task J}
    (hTask : tasks[id]? = some task)
    (hOnce : task.repetition = .once)
    (hWaits : task.isWaiting = true)
    (hCalm : task.cancelled = false)
    (hFirst :
      ∀ other known,
        tasks[other]? = some known →
          known.repetition = .once →
            known.cancelled = false → other = id) :
    (takeFirst tasks).2 = some id ∧
      (takeFirst tasks).1.length = tasks.length ∧
        ∀ other known,
          tasks[other]? = some known →
            ∃ stage,
              (takeFirst tasks).1[other]? =
                  some { known with stage := stage } ∧
                (known.cancelled = false →
                  stage =
                    if other = id then .running
                    else known.stage) := by
  induction tasks generalizing id with
  | nil => cases hTask
  | cons head rest ih =>
      cases id with
      | zero =>
          cases hTask
          unfold takeFirst
          rw [if_pos ⟨hOnce, hWaits⟩, if_neg (by simp [hCalm])]
          refine ⟨rfl, rfl, ?_⟩
          intro other known hKnown
          cases other with
          | zero =>
              cases hKnown
              exact ⟨.running, rfl, fun _ => rfl⟩
          | succ other =>
              exact ⟨known.stage, hKnown, fun _ => rfl⟩
      | succ id =>
          have hLater :
              ∀ other known,
                rest[other]? = some known →
                  known.repetition = .once →
                    known.cancelled = false → other = id := by
            intro other known hKnown hAlso hLive
            exact
              Nat.succ.inj
                (hFirst (other + 1) known hKnown hAlso hLive)
          rcases ih hTask hLater with
            ⟨hFound, hLength, hRest⟩
          -- The head is passed over, as it is not the first.
          have hHead :
              head.repetition = .once →
                head.cancelled = true := by
            intro hAlso
            apply eq_true_of_ne_false
            intro hLive
            cases hFirst 0 head rfl hAlso hLive
          have hGoes :
              ∀ stage : Stage,
                (head.cancelled = false →
                  stage = head.stage) →
                  ∀ other known,
                    (head :: rest)[other]? = some known →
                      ∃ stage',
                        ({ head with stage := stage } ::
                            (takeFirst rest).1)[other]? =
                            some
                              { known with stage := stage' } ∧
                          (known.cancelled = false →
                            stage' =
                              if other = id + 1 then .running
                              else known.stage) := by
            intro stage hStage other known hKnown
            cases other with
            | zero =>
                cases hKnown
                exact ⟨stage, rfl, fun hLive => hStage hLive⟩
            | succ other =>
                rcases hRest other known hKnown with
                  ⟨later, hAfter, hMoved⟩
                refine ⟨later, hAfter, fun hLive => ?_⟩
                rw [hMoved hLive]
                simp
          unfold takeFirst
          split
          · rename_i hTurn
            have hGone := hHead hTurn.1
            rw [if_pos hGone]
            refine ⟨?_, ?_, ?_⟩
            · simp [hFound]
            · simp [hLength]
            · apply hGoes .over
              intro hLive
              cases hGone.symm.trans hLive
          · refine ⟨?_, ?_, ?_⟩
            · simp [hFound]
            · simp [hLength]
            · exact hGoes head.stage fun _ => rfl

end Turn

------------------------------------------------------------
-- Agreement
------------------------------------------------------------

section Agreement

variable {left right : Scheduler Job}
variable {id : TaskId}
variable {task : Task Job}

/-
  Among the tasks that are repeated in a way, no other was not
  cancelled.
-/
def Lone
    (scheduler : Scheduler Job)
    (repetition : Repetition)
    (id : TaskId) : Prop :=
  ∀ other known,
    scheduler.task? other = some known →
      known.repetition = repetition →
        known.cancelled = false → other = id

/- Who agrees with a task finds it in its place. -/
theorem Agrees.exists_of_left
    (h : left.Agrees right)
    (hTask : left.task? id = some task) :
    ∃ other, right.task? id = some other ∧ task.Agrees other := by
  rcases h.cases id with
    ⟨hLeft, -⟩ | ⟨one, other, hLeft, hRight, hAgrees⟩
  · cases hTask.symm.trans hLeft
  · cases hTask.symm.trans hLeft
    exact ⟨other, hRight, hAgrees⟩

theorem Agrees.exists_of_right
    (h : left.Agrees right)
    (hTask : right.task? id = some task) :
    ∃ one, left.task? id = some one ∧ one.Agrees task := by
  rcases h.cases id with
    ⟨-, hRight⟩ | ⟨one, other, hLeft, hRight, hAgrees⟩
  · cases hTask.symm.trans hRight
  · cases hTask.symm.trans hRight
    exact ⟨one, hLeft, hAgrees⟩

/- What is alone in one is so in the other. -/
theorem Agrees.lone
    (h : left.Agrees right)
    {repetition : Repetition}
    (hLone : left.Lone repetition id) :
    right.Lone repetition id := by
  intro other known hKnown hSame hCalm
  rcases h.exists_of_right hKnown with ⟨one, hOne, hAgrees⟩
  exact
    hLone other one hOne
      (hAgrees.repetition.symm.trans hSame)
      (hAgrees.cancelled.symm.trans hCalm)

/-
  One begins to run a task, and the other restages its tasks
  so that this agrees.
-/
theorem Agrees.beginRun
    (h : left.Agrees right)
    {after : Scheduler Job}
    (hLength : after.tasks.length = right.tasks.length)
    (hMoved :
      ∀ other known,
        right.task? other = some known →
          ∃ stage,
            after.task? other =
                some { known with stage := stage } ∧
              (known.cancelled = false →
                if other = id then
                  stage ≠ .over ∧
                    (known.repetition = .once →
                      stage = .running)
                else
                  stage = known.stage)) :
    (left.beginRun id).Agrees after := by
  refine ⟨?_, ?_⟩
  · unfold Scheduler.beginRun Scheduler.update
    rw [List.length_modify]
    exact hLength.trans h.length
  · intro other one two hOne hTwo
    unfold Scheduler.beginRun at hOne
    rw [task?_update] at hOne
    rcases h.cases other with
      ⟨hLeft, -⟩ | ⟨first, second, hLeft, hRight, hAgrees⟩
    · rw [hLeft] at hOne
      simp at hOne
    · rcases hMoved other second hRight with
        ⟨stage, hAfter, hStage⟩
      rw [hAgrees.cancelled] at hStage
      rw [hLeft] at hOne
      cases hAfter.symm.trans hTwo
      by_cases hSame : id = other
      · subst hSame
        rw [if_pos rfl] at hOne
        cases hOne
        apply hAgrees.restage
        intro hCalm
        have hRuns := hStage hCalm
        rw [if_pos rfl, hAgrees.repetition] at hRuns
        refine ⟨⟨fun hOver => (hRuns.1 hOver).elim, nofun⟩, ?_⟩
        intro hOnce
        rw [hRuns.2 hOnce]
      · rw [if_neg hSame] at hOne
        cases hOne
        apply hAgrees.restage
        intro hCalm
        have hStays := hStage hCalm
        rw [if_neg (Ne.symm hSame)] at hStays
        subst hStays
        exact ⟨hAgrees.over_iff hCalm, hAgrees.waits hCalm⟩

/- By hand the same task is taken that the clock runs. -/
theorem Agrees.takeOldest
    (h : left.Agrees right)
    (hTask : left.task? id = some task)
    (hOnce : task.repetition = .once)
    (hWaits : task.isWaiting = true)
    (hCalm : task.cancelled = false)
    (hLone : left.Lone .once id) :
    right.takeOldest.2 = some id ∧
      (left.beginRun id).Agrees right.takeOldest.1 := by
  rcases h.exists_of_left hTask with ⟨same, hSame, hAgrees⟩
  rcases
      takeFirst_spec hSame (hAgrees.repetition.trans hOnce)
        ((hAgrees.waits hCalm hOnce).trans hWaits)
        (hAgrees.cancelled.trans hCalm) (h.lone hLone) with
    ⟨hFound, hLength, hMoved⟩
  refine ⟨hFound, h.beginRun hLength ?_⟩
  intro other known hKnown
  rcases hMoved other known hKnown with ⟨stage, hAfter, hStage⟩
  refine ⟨stage, hAfter, fun hLive => ?_⟩
  rw [hStage hLive]
  split
  · exact ⟨nofun, fun _ => rfl⟩
  · rfl

/- And all that recur are just the one that the clock runs. -/
theorem Agrees.tick
    (h : left.Agrees right)
    (hTask : left.task? id = some task)
    (hRecurs : task.repetition = .recurring)
    (hStage : task.stage ≠ .over)
    (hCalm : task.cancelled = false)
    (hLone : left.Lone .recurring id) :
    right.live .recurring = [id] ∧
      (left.beginRun id).Agrees right.sweep := by
  rcases h.exists_of_left hTask with ⟨same, hSame, hAgrees⟩
  have hAlso := hAgrees.repetition.trans hRecurs
  have hLive := hAgrees.cancelled.trans hCalm
  constructor
  · apply idsWhere_eq_singleton
    intro other
    rw [mem_idsWhere]
    constructor
    · rintro ⟨known, hKnown, hIs⟩
      simp only [Bool.and_eq_true, beq_iff_eq] at hIs
      apply h.lone hLone other known hKnown hIs.1
      exact Task.cancelled_of_isLive hIs.2
    · intro hOther
      subst hOther
      exact
        ⟨same, hSame, by simp [hAlso, Task.isLive, hLive]⟩
  · apply h.beginRun
    · simp [sweep]
    · intro other known hKnown
      have hSwept :
          right.sweep.task? other =
            some
              (if known.repetition = .recurring ∧
                  known.cancelled = true then
                { known with stage := .over }
              else
                known) := by
        unfold sweep task?
        unfold task? at hKnown
        rw [List.getElem?_map, hKnown]
        rfl
      rw [hSwept]
      split
      · rename_i hGone
        refine ⟨.over, rfl, fun hKept => ?_⟩
        cases hGone.2.symm.trans hKept
      · refine ⟨known.stage, rfl, fun _ => ?_⟩
        split
        · rename_i hOther
          subst hOther
          cases hSame.symm.trans hKnown
          refine ⟨?_, fun hOnce => ?_⟩
          · intro hOver
            exact hStage ((hAgrees.over_iff hCalm).mp hOver)
          · cases hAlso.symm.trans hOnce
        · rfl

end Agreement

end Scheduler

/- In a tidy connection a task that was not cancelled is so. -/
theorem Connection.Tidy.lone
    {config : Config}
    {connection : Connection}
    {id : TaskId}
    {task : Task Job}
    (h : connection.Tidy config)
    (hTask : connection.tasks.task? id = some task)
    (hCalm : task.cancelled = false) :
    connection.tasks.Lone task.repetition id := by
  intro other known hKnown hSame hLive
  apply h.unique hKnown hTask _ hLive hCalm
  rw [(h.ledger.suits other known hKnown).repetition,
    (h.ledger.suits id task hTask).repetition] at hSame
  cases hJob : known.job with
  | connect =>
      cases hOther : task.job with
      | connect => rfl
      | checkHealth =>
          rw [hJob, hOther] at hSame
          cases hSame
  | checkHealth =>
      cases hOther : task.job with
      | connect =>
          rw [hJob, hOther] at hSame
          cases hSame
      | checkHealth => rfl

end BrainLink
