import BrainLink.Proofs.Histories
import BrainLink.Proofs.Tasks
import BrainLink.Task.Bench
import Mathlib.Data.List.Nodup

/-
  Tasks on one clock, and what their runs do to each other.

  Key definitions include:
    * `Plan`
    * `Incident`
    * `Phase`
    * `Plan.due?`
    * `IsTimely`
    * `Shift`
    * `Shift.Stands`
    * `Shift.Kept`
    * `Shift.Carries`

  Main statements:
    * `Shift.Kept.adds`
    * `Shift.Kept.cancels`
    * `Shift.Kept.begins`
    * `Shift.Kept.does`
    * `Shift.Kept.ends`
    * `Shift.Kept.passes`

  A shift is a scheduler with the runs that are in progress.
  Anyone can schedule and cancel tasks at any time. A run does
  what its job says, one action after the other, and sleeps
  when that is one. Time passes only up to the next moment at
  which a task is due or a run wakes. Each of these keeps what
  was noted right.
-/

namespace BrainLink

------------------------------------------------------------
-- Journals
------------------------------------------------------------

/- How often a task runs, after how long, and what it does. -/
structure Plan where
  repetition : Repetition
  period : Millis
  actions : List Action

/- What a task was scheduled to do. -/
def Task.plan (task : Task Script) : Plan :=
  ⟨task.repetition, task.period, task.job.actions⟩

/-
  What is noted of tasks and their runs. A run has the name of
  its job.
-/
inductive Incident where
| ordered (action : Action)
| scheduled (id : TaskId) (plan : Plan)
| cancelled (id : TaskId)
| began (id : TaskId) (name : String)
| did (id : TaskId) (action : Action)
| ended (id : TaskId) (name : String)

/- What was noted so far, and when. -/
abbrev Journal :=
  List (Millis × Incident)

/- The time that an action takes. -/
def Action.span : Action → Millis
| .sleep span => span
| _ => 0

/-
  Where the runs of a task stand. It never ran; or a run goes
  on at some time after what it has done; or its latest run
  has ended.
-/
inductive Phase where
| fresh
| underway (goesOn : Millis) (done : List Action)
| rested (ended : Millis)

/- How an incident changes where the runs of a task stand. -/
def Phase.after
    (id : TaskId)
    (phase : Phase) :
    Millis × Incident → Phase
| (time, .began other _) =>
    if other = id then .underway time [] else phase
| (time, .did other action) =>
    match phase with
    | .underway _ done =>
        if other = id then
          .underway (time + action.span) (done ++ [action])
        else
          phase
    | _ => phase
| (time, .ended other _) =>
    if other = id then .rested time else phase
| _ => phase

/- Where the runs of a task stand after all that was noted. -/
def phaseOf (journal : Journal) (id : TaskId) : Phase :=
  journal.foldl (Phase.after id) .fresh

/-
  When the next run of a task is due: one period after it was
  scheduled, and if it recurs one period after each run.
-/
def Plan.due? (plan : Plan) (since : Millis) :
    Phase → Option Millis
| .fresh => some (since + plan.period)
| .underway _ _ => none
| .rested ended =>
    match plan.repetition with
    | .once => none
    | .recurring => some (ended + plan.period)

/- Whether a task was cancelled. -/
def Cancels (journal : Journal) (id : TaskId) : Prop :=
  ∃ time, (time, .cancelled id) ∈ journal

/- That a task was scheduled at a time. -/
def Schedules
    (journal : Journal)
    (id : TaskId)
    (since : Millis)
    (plan : Plan) :
    Prop :=
  (since, .scheduled id plan) ∈ journal

/-
  What is noted is right at its time. A task is scheduled and
  cancelled once. It begins a run exactly when one is due, and
  not after it was cancelled. A run does what its job says,
  each action as soon as the one before has taken its time,
  and ends when it has done all, or has checked and was
  cancelled.
-/
def IsTimely (early : Journal) : Millis × Incident → Prop
| (_, .ordered _) => True
| (_, .scheduled id _) =>
    ∀ since plan, ¬ Schedules early id since plan
| (time, .cancelled id) =>
    ¬ Cancels early id ∧
      ∃ since plan,
        Schedules early id since plan ∧
          ∀ due,
            plan.due? since (phaseOf early id) = some due →
              time ≤ due
| (time, .began id _) =>
    ¬ Cancels early id ∧
      ∃ since plan,
        Schedules early id since plan ∧
          plan.due? since (phaseOf early id) = some time
| (time, .did id action) =>
    ∃ since plan done rest,
      Schedules early id since plan ∧
        phaseOf early id = .underway time done ∧
          plan.actions = done ++ action :: rest
| (time, .ended id _) =>
    ∃ since plan done rest,
      Schedules early id since plan ∧
        phaseOf early id = .underway time done ∧
          plan.actions = done ++ rest ∧
            (rest = [] ∨
              Cancels early id ∧ done.getLast? = some .check)

section Journals

variable {journal : Journal}

theorem phaseOf_snoc
    (journal : Journal)
    (entry : Millis × Incident)
    (id : TaskId) :
    phaseOf (journal ++ [entry]) id =
      (phaseOf journal id).after id entry := by
  unfold phaseOf
  rw [List.foldl_append]
  rfl

/- The task of whose run something is noted. -/
def Incident.runner? : Incident → Option TaskId
| .began id _ => some id
| .did id _ => some id
| .ended id _ => some id
| _ => none

/- The runs of other tasks stand where they stood. -/
theorem phaseOf_snoc_other
    {incident : Incident}
    {id : TaskId}
    (hOther : incident.runner? ≠ some id)
    (time : Millis) :
    phaseOf (journal ++ [(time, incident)]) id =
      phaseOf journal id := by
  rw [phaseOf_snoc]
  cases incident with
  | began other name =>
      exact if_neg fun hSame => hOther (congrArg some hSame)
  | did other action =>
      unfold Phase.after
      dsimp only
      split
      · exact if_neg fun hSame => hOther (congrArg some hSame)
      · rfl
  | ended other name =>
      exact if_neg fun hSame => hOther (congrArg some hSame)
  | _ => rfl

theorem phaseOf_began
    (time : Millis)
    (id : TaskId)
    (name : String) :
    phaseOf (journal ++ [(time, .began id name)]) id =
      .underway time [] := by
  rw [phaseOf_snoc]
  exact if_pos rfl

theorem phaseOf_ended
    (time : Millis)
    (id : TaskId)
    (name : String) :
    phaseOf (journal ++ [(time, .ended id name)]) id =
      .rested time := by
  rw [phaseOf_snoc]
  exact if_pos rfl

theorem phaseOf_did
    {id : TaskId}
    {goesOn : Millis}
    {done : List Action}
    (hPhase : phaseOf journal id = .underway goesOn done)
    (time : Millis)
    (action : Action) :
    phaseOf (journal ++ [(time, .did id action)]) id =
      .underway (time + action.span) (done ++ [action]) := by
  rw [phaseOf_snoc, hPhase]
  exact if_pos rfl

theorem schedules_snoc
    {entry : Millis × Incident}
    (hOther : ∀ since id plan, entry ≠ (since, .scheduled id plan))
    (id : TaskId)
    (since : Millis)
    (plan : Plan) :
    Schedules (journal ++ [entry]) id since plan ↔
      Schedules journal id since plan := by
  unfold Schedules
  rw [List.mem_append, List.mem_singleton]
  exact or_iff_left fun hSame => hOther _ _ _ hSame.symm

theorem cancels_snoc
    {entry : Millis × Incident}
    (hOther : ∀ time id, entry ≠ (time, .cancelled id))
    (id : TaskId) :
    Cancels (journal ++ [entry]) id ↔ Cancels journal id := by
  unfold Cancels
  simp only [List.mem_append, List.mem_singleton]
  exact
    exists_congr fun time =>
      or_iff_left fun hSame => hOther _ _ hSame.symm

theorem cancels_cancelled
    (time : Millis)
    (id other : TaskId) :
    Cancels (journal ++ [(time, .cancelled id)]) other ↔
      Cancels journal other ∨ other = id := by
  unfold Cancels
  simp only [List.mem_append, List.mem_singleton, Prod.mk.injEq,
    Incident.cancelled.injEq, exists_or, exists_eq_left]

end Journals

------------------------------------------------------------
-- Shifts
------------------------------------------------------------

/-
  A scheduler, the runs in progress with the time at which
  each goes on, and what was noted so far.
-/
structure Shift where
  scheduler : Scheduler Script
  workers : List Sleeper
  journal : Journal

namespace Shift

/- A clock at its start, without tasks. -/
def start : Shift :=
  ⟨.empty .clock, [], []⟩

/- The time. -/
def now (shift : Shift) : Millis :=
  shift.scheduler.now

/- The journal with one more incident, noted now. -/
def noting (shift : Shift) (incident : Incident) : Journal :=
  shift.journal ++ [(shift.now, incident)]

/- A run that has done an action, and waits for its time. -/
def goOn
    (worker : Sleeper)
    (now : Millis)
    (action : Action)
    (rest : List Action) :
    Sleeper :=
  { worker with wakes := now + action.span, rest := rest }

------------------------------------------------------------
-- What Is Kept
------------------------------------------------------------

/-
  Where a task stands, as its runs do. It waits for the time
  at which it is due, or there is a run of it that has done a
  part of what it does, or it will not run again.
-/
inductive Stands
    (now : Millis)
    (workers : List Sleeper)
    (phase : Phase)
    (id : TaskId)
    (since : Millis)
    (task : Task Script) :
    Prop where
| waits
    (due : Millis)
    (hStage : task.stage = .waiting due)
    (hDue : task.plan.due? since phase = some due)
    (hTimely : task.cancelled = false → now ≤ due)
| runs
    (worker : Sleeper)
    (done : List Action)
    (hStage : task.stage = .running)
    (hWorker : worker ∈ workers)
    (hTask : worker.task = id)
    (hPhase : phase = .underway worker.wakes done)
    (hActions : task.plan.actions = done ++ worker.rest)
| rests
    (ended : Millis)
    (hStage : task.stage = .over)
    (hPhase : phase = .rested ended)
    (hOver :
      task.repetition = .once ∨ task.cancelled = true)

/-
  What is kept: what was noted is right and in order,
  the tasks are those that were scheduled, each stands as its
  runs do, and no run has missed the time to go on.
-/
structure Kept (shift : Shift) : Prop where
  clock : shift.scheduler.drive = .clock
  past : ∀ entry ∈ shift.journal, entry.1 ≤ shift.now
  ordered :
    shift.journal.Pairwise fun early late => early.1 ≤ late.1
  timely : Throughout IsTimely shift.journal
  single : (shift.workers.map Sleeper.task).Nodup
  working :
    ∀ worker ∈ shift.workers,
      shift.now ≤ worker.wakes ∧
        ∃ task,
          shift.scheduler.task? worker.task = some task ∧
            task.stage = .running
  named :
    ∀ id since plan,
      Schedules shift.journal id since plan →
        ∃ task,
          shift.scheduler.task? id = some task ∧
            task.plan = plan
  unnamed :
    ∀ id,
      shift.scheduler.task? id = none →
        phaseOf shift.journal id = .fresh
  cancelled :
    ∀ id,
      Cancels shift.journal id ↔
        shift.scheduler.isCancelled id = true
  stands :
    ∀ id task,
      shift.scheduler.task? id = some task →
        ∃ since,
          Schedules shift.journal id since task.plan ∧
            Stands shift.now shift.workers
              (phaseOf shift.journal id) id since task

theorem kept_start : start.Kept where
  clock := rfl
  past _ hMember := nomatch hMember
  ordered := .nil
  timely := throughout_nil _
  single := .nil
  working _ hMember := nomatch hMember
  named _ _ _ hMember := nomatch hMember
  unnamed _ _ := rfl
  cancelled id := by
    constructor
    · rintro ⟨time, hMember⟩
      cases hMember
    · exact fun hCancelled => nomatch hCancelled
  stands _ _ hTask := nomatch hTask

section Kept

variable {shift : Shift}

theorem Kept.past_noting
    (h : shift.Kept)
    (incident : Incident) :
    ∀ entry ∈ shift.noting incident, entry.1 ≤ shift.now := by
  intro entry hMember
  rcases List.mem_append.mp hMember with hOld | hNew
  · exact h.past entry hOld
  · exact
      Nat.le_of_eq
        (congrArg Prod.fst (List.mem_singleton.mp hNew))

theorem Kept.ordered_noting
    (h : shift.Kept)
    (incident : Incident) :
    (shift.noting incident).Pairwise fun early late =>
      early.1 ≤ late.1 := by
  refine
    List.pairwise_append.mpr
      ⟨h.ordered, List.pairwise_singleton _ _, ?_⟩
  intro early hEarly late hLate
  rw [List.mem_singleton.mp hLate]
  exact h.past early hEarly

theorem Stands.frame
    {now : Millis}
    {workers others : List Sleeper}
    {phase : Phase}
    {id : TaskId}
    {since : Millis}
    {task : Task Script}
    (h : Stands now workers phase id since task)
    (hWorkers :
      ∀ worker ∈ workers, worker.task = id → worker ∈ others) :
    Stands now others phase id since task := by
  cases h with
  | waits due hStage hDue hTimely =>
      exact .waits due hStage hDue hTimely
  | runs worker done hStage hWorker hTask hPhase hActions =>
      exact
        .runs worker done hStage (hWorkers worker hWorker hTask)
          hTask hPhase hActions
  | rests ended hStage hPhase hOver =>
      exact .rests ended hStage hPhase hOver

theorem schedules_mono
    {journal : Journal}
    {id : TaskId}
    {since : Millis}
    {plan : Plan}
    (hScheduled : Schedules journal id since plan)
    (entry : Millis × Incident) :
    Schedules (journal ++ [entry]) id since plan :=
  List.mem_append_left _ hScheduled

/- Each task stays, with what it is to do. -/
def Carries (before after : Scheduler Script) : Prop :=
  ∀ id task,
    before.task? id = some task →
      ∃ later, after.task? id = some later ∧ later.plan = task.plan

theorem carries_refl (scheduler : Scheduler Script) :
    Carries scheduler scheduler :=
  fun _ task hTask => ⟨task, hTask, rfl⟩

theorem carries_update
    {change : Task Script → Task Script}
    (hPlan : ∀ task, (change task).plan = task.plan)
    (scheduler : Scheduler Script)
    (id : TaskId) :
    Carries scheduler (scheduler.update id change) := by
  intro other task hTask
  rw [Scheduler.task?_update, hTask]
  split
  · exact ⟨_, rfl, hPlan task⟩
  · exact ⟨_, rfl, rfl⟩

/- All that was scheduled is there while no task is new. -/
theorem Kept.named_noting
    (h : shift.Kept)
    {scheduler : Scheduler Script}
    (hCarries : Carries shift.scheduler scheduler)
    {incident : Incident}
    (hOther : ∀ id plan, incident ≠ .scheduled id plan)
    (id : TaskId)
    (since : Millis)
    (plan : Plan)
    (hScheduled : Schedules (shift.noting incident) id since plan) :
    ∃ task, scheduler.task? id = some task ∧ task.plan = plan := by
  have hBefore : Schedules shift.journal id since plan := by
    refine (schedules_snoc ?_ id since plan).mp hScheduled
    exact fun _ _ _ hSame => hOther _ _ (congrArg Prod.snd hSame)
  rcases h.named id since plan hBefore with ⟨task, hTask, rfl⟩
  exact hCarries id task hTask

/- No run of a task is noted before the task is there. -/
theorem Kept.unnamed_noting
    (h : shift.Kept)
    {scheduler : Scheduler Script}
    (hCarries : Carries shift.scheduler scheduler)
    {incident : Incident}
    (hRunner :
      ∀ id,
        incident.runner? = some id →
          shift.scheduler.task? id ≠ none)
    (id : TaskId)
    (hNone : scheduler.task? id = none) :
    phaseOf (shift.noting incident) id = .fresh := by
  have hBefore : shift.scheduler.task? id = none := by
    cases hTask : shift.scheduler.task? id with
    | none => rfl
    | some task =>
        rcases hCarries id task hTask with ⟨later, hLater, -⟩
        cases hNone.symm.trans hLater
  refine Eq.trans (phaseOf_snoc_other ?_ _) (h.unnamed id hBefore)
  exact fun hSame => hRunner id hSame hBefore

/- Nothing else is noted of a task than that it is cancelled. -/
theorem Kept.cancelled_noting
    (h : shift.Kept)
    {scheduler : Scheduler Script}
    (hSame :
      ∀ id,
        scheduler.isCancelled id = shift.scheduler.isCancelled id)
    {incident : Incident}
    (hOther : ∀ id, incident ≠ .cancelled id)
    (id : TaskId) :
    Cancels (shift.noting incident) id ↔
      scheduler.isCancelled id = true := by
  rw [hSame, ← h.cancelled]
  refine cancels_snoc ?_ id
  exact fun _ _ hEntry => hOther _ (congrArg Prod.snd hEntry)

/- A task stands as it did while its own run does nothing. -/
theorem Kept.stands_noting
    (h : shift.Kept)
    {id : TaskId}
    {task : Task Script}
    (hTask : shift.scheduler.task? id = some task)
    {incident : Incident}
    (hOther : incident.runner? ≠ some id)
    {workers : List Sleeper}
    (hWorkers :
      ∀ worker ∈ shift.workers,
        worker.task = id → worker ∈ workers) :
    ∃ since,
      Schedules (shift.noting incident) id since task.plan ∧
        Stands shift.now workers
          (phaseOf (shift.noting incident) id) id since task := by
  rcases h.stands id task hTask with ⟨since, hScheduled, hStands⟩
  refine ⟨since, schedules_mono hScheduled _, ?_⟩
  unfold noting
  rw [phaseOf_snoc_other hOther]
  exact hStands.frame hWorkers

theorem Kept.orders (h : shift.Kept) (action : Action) :
    Kept
      { shift with journal := shift.noting (.ordered action) } where
  clock := h.clock
  past := h.past_noting _
  ordered := h.ordered_noting _
  timely := h.timely.snoc trivial
  single := h.single
  working := h.working
  named := h.named_noting (carries_refl _) nofun
  unnamed := h.unnamed_noting (carries_refl _) (by exact nofun)
  cancelled := h.cancelled_noting (fun _ => rfl) (by exact nofun)
  stands _ _ hTask :=
    h.stands_noting hTask (by exact nofun) fun _ hMember _ =>
      hMember

/- Whatever was scheduled has a name. -/
theorem Kept.adds
    (h : shift.Kept)
    (repetition : Repetition)
    (period : Millis)
    (job : Script) :
    Kept
      { shift with
        scheduler := shift.scheduler.add repetition period job
        journal :=
          shift.noting
            (.scheduled shift.scheduler.nextId
              ⟨repetition, period, job.actions⟩) } := by
  have hOld
      {id : TaskId}
      {task : Task Script}
      (hTask : shift.scheduler.task? id = some task) :
      (shift.scheduler.add repetition period job).task? id =
        some task := by
    rw [Scheduler.task?_add, if_neg]
    · exact hTask
    · rintro rfl
      rw [Scheduler.task?_nextId] at hTask
      cases hTask
  have hNone := shift.scheduler.task?_nextId
  have hNew :
      ∀ since plan,
        ¬ Schedules shift.journal shift.scheduler.nextId since
            plan := by
    intro since plan hScheduled
    rcases h.named _ since plan hScheduled with ⟨task, hTask, -⟩
    rw [hNone] at hTask
    cases hTask
  refine
    { clock := h.clock
      past := h.past_noting _
      ordered := h.ordered_noting _
      timely := h.timely.snoc hNew
      single := h.single
      working := ?_
      named := ?_
      unnamed := ?_
      cancelled := ?_
      stands := ?_ }
  · intro worker hMember
    rcases h.working worker hMember with
      ⟨hWakes, task, hTask, hStage⟩
    exact ⟨hWakes, task, hOld hTask, hStage⟩
  · intro id since plan hScheduled
    rcases List.mem_append.mp hScheduled with hBefore | hLast
    · rcases h.named id since plan hBefore with
        ⟨task, hTask, hPlan⟩
      exact ⟨task, hOld hTask, hPlan⟩
    · cases List.mem_singleton.mp hLast
      refine ⟨_, (Scheduler.task?_add ..).trans (if_pos rfl), rfl⟩
  · refine h.unnamed_noting ?_ (by exact nofun)
    exact fun id task hTask => ⟨task, hOld hTask, rfl⟩
  · refine h.cancelled_noting ?_ (by exact nofun)
    intro id
    unfold Scheduler.isCancelled
    rw [Scheduler.task?_add]
    by_cases hNext : id = shift.scheduler.nextId
    · rw [hNext, hNone]
      simp
    · rw [if_neg hNext]
  · intro id task hTask
    rw [Scheduler.task?_add] at hTask
    split at hTask
    · rename_i hNext
      subst hNext
      cases hTask
      refine
        ⟨shift.now,
          List.mem_append_right _ (List.mem_singleton_self _), ?_⟩
      unfold noting
      rw [phaseOf_snoc_other (by exact nofun), h.unnamed _ hNone]
      exact .waits _ rfl rfl fun _ => Nat.le_add_right _ _
    · exact
        h.stands_noting hTask (by exact nofun) fun _ hMember _ =>
          hMember

/- A task that is cancelled keeps its place otherwise. -/
theorem Stands.cancel
    {now : Millis}
    {workers : List Sleeper}
    {phase : Phase}
    {id : TaskId}
    {since : Millis}
    {task : Task Script}
    (h : Stands now workers phase id since task) :
    Stands now workers phase id since
      { task with cancelled := true } := by
  cases h with
  | waits due hStage hDue hTimely =>
      exact .waits due hStage hDue fun hLive => nomatch hLive
  | runs worker done hStage hWorker hTask hPhase hActions =>
      exact
        .runs worker done hStage hWorker hTask hPhase hActions
  | rests ended hStage hPhase hOver =>
      exact .rests ended hStage hPhase (.inr rfl)

/- A live task is not overdue. -/
theorem Stands.le_due
    {now : Millis}
    {workers : List Sleeper}
    {phase : Phase}
    {id : TaskId}
    {since due : Millis}
    {task : Task Script}
    (h : Stands now workers phase id since task)
    (hLive : task.cancelled = false)
    (hDue : task.plan.due? since phase = some due) :
    task.stage = .waiting due ∧ now ≤ due := by
  cases h with
  | waits other hStage hOther hTimely =>
      cases hDue.symm.trans hOther
      exact ⟨hStage, hTimely hLive⟩
  | runs worker done hStage hWorker hTask hPhase hActions =>
      rw [hPhase] at hDue
      cases hDue
  | rests ended hStage hPhase hOver =>
      rw [hPhase] at hDue
      rcases hOver with hOnce | hCancelled
      · unfold Plan.due? Task.plan at hDue
        rw [hOnce] at hDue
        cases hDue
      · rw [hLive] at hCancelled
        cases hCancelled

theorem Kept.cancels
    (h : shift.Kept)
    {id : TaskId}
    {task : Task Script}
    (hTask : shift.scheduler.task? id = some task)
    (hFirst : task.cancelled = false) :
    Kept
      { shift with
        scheduler := shift.scheduler.cancel id
        journal := shift.noting (.cancelled id) } := by
  have hOld :
      ∀ other,
        (shift.scheduler.cancel id).task? other =
          if id = other then
            (shift.scheduler.task? other).map fun task =>
              { task with cancelled := true }
          else
            shift.scheduler.task? other :=
    shift.scheduler.task?_update id _
  have hCarries :
      Carries shift.scheduler (shift.scheduler.cancel id) := by
    apply carries_update
    exact fun _ => rfl
  refine
    { clock := h.clock
      past := h.past_noting _
      ordered := h.ordered_noting _
      timely := h.timely.snoc ⟨?_, ?_⟩
      single := h.single
      working := ?_
      named := ?_
      unnamed := ?_
      cancelled := ?_
      stands := ?_ }
  · rw [h.cancelled, Scheduler.isCancelled_of_task? hTask, hFirst]
    exact Bool.noConfusion
  · rcases h.stands id task hTask with
      ⟨since, hScheduled, hStands⟩
    exact
      ⟨since, task.plan, hScheduled, fun due hDue =>
        (hStands.le_due hFirst hDue).2⟩
  · intro worker hMember
    rcases h.working worker hMember with
      ⟨hWakes, other, hOther, hStage⟩
    refine ⟨hWakes, ?_⟩
    rw [hOld, hOther]
    split
    · exact ⟨_, rfl, hStage⟩
    · exact ⟨other, rfl, hStage⟩
  · exact h.named_noting hCarries nofun
  · exact h.unnamed_noting hCarries (by exact nofun)
  · intro other
    refine Iff.trans (cancels_cancelled _ id other) ?_
    rw [h.cancelled]
    unfold Scheduler.isCancelled
    dsimp only
    rw [hOld]
    by_cases hSame : id = other
    · subst hSame
      simp [hTask]
    · simp [hSame, Ne.symm hSame]
  · intro other found hFound
    dsimp only at hFound
    rw [hOld] at hFound
    split at hFound
    · rcases Option.map_eq_some_iff.mp hFound with
        ⟨before, hBefore, rfl⟩
      rcases h.stands_noting hBefore
          (by exact nofun : (Incident.cancelled id).runner? ≠ _)
          fun _ hMember _ => hMember with
        ⟨since, hScheduled, hStands⟩
      exact ⟨since, hScheduled, hStands.cancel⟩
    · exact
        h.stands_noting hFound (by exact nofun) fun _ hMember _ =>
          hMember

/- A run begins when it is due. -/
theorem Kept.begins
    (h : shift.Kept)
    {id : TaskId}
    {task : Task Script}
    {due : Millis}
    (hTask : shift.scheduler.task? id = some task)
    (hStage : task.stage = .waiting due)
    (hLive : task.cancelled = false)
    (hDue : due ≤ shift.now) :
    Kept
      { scheduler := shift.scheduler.beginRun id
        workers :=
          ⟨id, task.job.name, shift.now, task.job.actions⟩
            :: shift.workers
        journal := shift.noting (.began id task.job.name) } := by
  have hOld :
      ∀ other,
        (shift.scheduler.beginRun id).task? other =
          if id = other then
            (shift.scheduler.task? other).map fun task =>
              { task with stage := .running }
          else
            shift.scheduler.task? other :=
    shift.scheduler.task?_update id _
  have hCarries :
      Carries shift.scheduler (shift.scheduler.beginRun id) := by
    apply carries_update
    exact fun _ => rfl
  have hIdle : ∀ worker ∈ shift.workers, worker.task ≠ id := by
    intro worker hMember hSame
    rcases h.working worker hMember with ⟨-, other, hOther, hRuns⟩
    rw [hSame, hTask] at hOther
    cases hOther
    rw [hStage] at hRuns
    cases hRuns
  refine
    { clock := h.clock
      past := h.past_noting _
      ordered := h.ordered_noting _
      timely := h.timely.snoc ⟨?_, ?_⟩
      single := ?_
      working := ?_
      named := ?_
      unnamed := ?_
      cancelled := ?_
      stands := ?_ }
  · rw [h.cancelled, Scheduler.isCancelled_of_task? hTask, hLive]
    exact Bool.noConfusion
  · rcases h.stands id task hTask with
      ⟨since, hScheduled, hStands⟩
    refine ⟨since, task.plan, hScheduled, ?_⟩
    cases hStands with
    | waits other hWaits hOther hTimely =>
        cases hStage.symm.trans hWaits
        rw [hOther, Nat.le_antisymm hDue (hTimely hLive)]
    | runs worker done hRuns hWorker hSame hPhase hActions =>
        cases hStage.symm.trans hRuns
    | rests ended hRests hPhase hOver =>
        cases hStage.symm.trans hRests
  · refine List.nodup_cons.mpr ⟨?_, h.single⟩
    intro hMember
    rcases List.mem_map.mp hMember with ⟨worker, hWorker, hSame⟩
    exact hIdle worker hWorker hSame
  · intro worker hMember
    rcases List.mem_cons.mp hMember with rfl | hBefore
    · refine
        ⟨Nat.le_refl _, { task with stage := .running }, ?_, rfl⟩
      rw [hOld, if_pos rfl, hTask]
      rfl
    · rcases h.working worker hBefore with
        ⟨hWakes, other, hOther, hRuns⟩
      refine ⟨hWakes, other, ?_, hRuns⟩
      rw [hOld, if_neg (Ne.symm (hIdle worker hBefore))]
      exact hOther
  · exact h.named_noting hCarries nofun
  · refine h.unnamed_noting hCarries ?_
    rintro other ⟨⟩ hNone
    cases hTask.symm.trans hNone
  · refine h.cancelled_noting ?_ (by exact nofun)
    exact
      Scheduler.isCancelled_update Scheduler.restages_beginRun _ id
  · intro other found hFound
    dsimp only at hFound
    rw [hOld] at hFound
    split at hFound
    · rename_i hSame
      subst hSame
      rw [hTask] at hFound
      cases hFound
      rcases h.stands id task hTask with ⟨since, hScheduled, -⟩
      refine ⟨since, schedules_mono hScheduled _, ?_⟩
      unfold noting
      rw [phaseOf_began]
      exact .runs _ [] rfl List.mem_cons_self rfl rfl rfl
    · rename_i hOther
      refine h.stands_noting hFound ?_ ?_
      · exact fun hSame => hOther (Option.some.inj hSame)
      · exact fun _ hMember _ => List.mem_cons_of_mem _ hMember

/- A run stands where its task does. -/
theorem Kept.exists_stands
    (h : shift.Kept)
    {worker : Sleeper}
    (hWorker : worker ∈ shift.workers) :
    ∃ task since done,
      shift.scheduler.task? worker.task = some task ∧
        Schedules shift.journal worker.task since task.plan ∧
          phaseOf shift.journal worker.task =
              .underway worker.wakes done ∧
            task.plan.actions = done ++ worker.rest := by
  rcases h.working worker hWorker with ⟨-, task, hTask, hRuns⟩
  rcases h.stands worker.task task hTask with
    ⟨since, hScheduled, hStands⟩
  cases hStands with
  | waits due hStage hDue hTimely => cases hRuns.symm.trans hStage
  | runs other done hStage hOther hSame hPhase hActions =>
      have hWorkers : other = worker :=
        List.inj_on_of_nodup_map h.single hOther hWorker hSame
      subst hWorkers
      exact
        ⟨task, since, done, hTask, hScheduled, hPhase, hActions⟩
  | rests ended hStage hPhase hOver =>
      cases hRuns.symm.trans hStage

/- Runs apart from one are of other tasks. -/
theorem Kept.apart
    (h : shift.Kept)
    {worker : Sleeper}
    {others : List Sleeper}
    (hWorkers : shift.workers.Perm (worker :: others)) :
    (others.map Sleeper.task).Nodup ∧
      ∀ other ∈ others, other.task ≠ worker.task := by
  have hSingle :=
    (hWorkers.map Sleeper.task).nodup_iff.mp h.single
  rcases List.nodup_cons.mp hSingle with ⟨hNew, hOthers⟩
  refine ⟨hOthers, ?_⟩
  intro other hMember hSame
  exact hNew (List.mem_map.mpr ⟨other, hMember, hSame⟩)

/- The runs of other tasks are apart from one. -/
theorem mem_others
    {workers others : List Sleeper}
    {worker : Sleeper}
    (hWorkers : workers.Perm (worker :: others))
    {id : TaskId}
    (hOther : worker.task ≠ id) :
    ∀ other ∈ workers, other.task = id → other ∈ others := by
  intro other hMember hTask
  rcases List.mem_cons.mp (hWorkers.mem_iff.mp hMember) with
    rfl | hApart
  · exact absurd hTask hOther
  · exact hApart

/- A run does the next action when it goes on. -/
theorem Kept.does
    (h : shift.Kept)
    {worker : Sleeper}
    {others : List Sleeper}
    {action : Action}
    {rest : List Action}
    (hWorkers : shift.workers.Perm (worker :: others))
    (hAwake : worker.wakes ≤ shift.now)
    (hRest : worker.rest = action :: rest) :
    Kept
      { shift with
        workers := goOn worker shift.now action rest :: others
        journal := shift.noting (.did worker.task action) } := by
  have hWorker : worker ∈ shift.workers :=
    hWorkers.mem_iff.mpr List.mem_cons_self
  have hNow : worker.wakes = shift.now :=
    Nat.le_antisymm hAwake (h.working worker hWorker).1
  rcases h.apart hWorkers with ⟨hSingle, hApart⟩
  rcases h.exists_stands hWorker with
    ⟨task, since, done, hTask, hScheduled, hPhase, hActions⟩
  rw [hNow] at hPhase
  rw [hRest] at hActions
  refine
    { clock := h.clock
      past := h.past_noting _
      ordered := h.ordered_noting _
      timely := ?_
      single := ?_
      working := ?_
      named := ?_
      unnamed := ?_
      cancelled := ?_
      stands := ?_ }
  · exact
      h.timely.snoc
        ⟨since, task.plan, done, rest, hScheduled, hPhase,
          hActions⟩
  · refine List.nodup_cons.mpr ⟨?_, hSingle⟩
    intro hMember
    rcases List.mem_map.mp hMember with ⟨other, hOther, hSame⟩
    exact hApart other hOther hSame
  · intro other hMember
    rcases List.mem_cons.mp hMember with rfl | hOther
    · exact
        ⟨Nat.le_add_right _ _, (h.working worker hWorker).2⟩
    · exact
        h.working other
          (hWorkers.mem_iff.mpr (List.mem_cons_of_mem _ hOther))
  · exact h.named_noting (carries_refl _) nofun
  · refine h.unnamed_noting (carries_refl _) ?_
    rintro other ⟨⟩ hNone
    cases hTask.symm.trans hNone
  · exact h.cancelled_noting (fun _ => rfl) (by exact nofun)
  · intro id found hFound
    by_cases hSame : worker.task = id
    · subst hSame
      cases hTask.symm.trans hFound
      refine ⟨since, schedules_mono hScheduled _, ?_⟩
      unfold noting
      rw [phaseOf_did hPhase]
      rcases h.working worker hWorker with
        ⟨-, running, hRunning, hStage⟩
      cases hTask.symm.trans hRunning
      refine
        .runs (goOn worker shift.now action rest)
          (done ++ [action]) hStage List.mem_cons_self rfl rfl ?_
      rw [hActions, List.append_assoc]
      rfl
    · refine h.stands_noting hFound ?_ ?_
      · exact fun hEqual => hSame (Option.some.inj hEqual)
      · intro other hMember hOf
        exact
          List.mem_cons_of_mem _
            (mem_others hWorkers hSame other hMember hOf)

/- A task whose run ends now waits for the next, or is over. -/
theorem stands_ended
    (now : Millis)
    (workers : List Sleeper)
    (id : TaskId)
    (since : Millis)
    (task : Task Script) :
    Stands now workers (.rested now) id since
      (match task.repetition, task.cancelled with
      | .recurring, false =>
          { task with stage := .waiting (now + task.period) }
      | _, _ => { task with stage := .over }) := by
  rcases task with ⟨repetition, period, job, stage, cancelled⟩
  cases repetition with
  | once => exact .rests now rfl rfl (.inl rfl)
  | recurring =>
      cases cancelled with
      | true => exact .rests now rfl rfl (.inr rfl)
      | false =>
          exact
            .waits (now + period) rfl rfl fun _ =>
              Nat.le_add_right _ _

/- A run ends when it has done what it does. -/
theorem Kept.ends
    (h : shift.Kept)
    {worker : Sleeper}
    {others : List Sleeper}
    (hWorkers : shift.workers.Perm (worker :: others))
    (hAwake : worker.wakes ≤ shift.now)
    (hEnds :
      worker.rest = [] ∨
        shift.scheduler.isCancelled worker.task = true ∧
          ∃ goesOn done,
            phaseOf shift.journal worker.task =
              .underway goesOn (done ++ [.check])) :
    Kept
      { scheduler := shift.scheduler.endRun worker.task
        workers := others
        journal :=
          shift.noting (.ended worker.task worker.name) } := by
  have hRestages := shift.scheduler.restages_endRun
  have hCarries :
      Carries shift.scheduler
        (shift.scheduler.endRun worker.task) := by
    refine carries_update ?_ _ worker.task
    intro task
    rcases hRestages task with ⟨stage, hStaged⟩
    have hPlan := congrArg Task.plan hStaged
    exact hPlan
  have hWorker : worker ∈ shift.workers :=
    hWorkers.mem_iff.mpr List.mem_cons_self
  have hNow : worker.wakes = shift.now :=
    Nat.le_antisymm hAwake (h.working worker hWorker).1
  rcases h.apart hWorkers with ⟨hSingle, hApart⟩
  rcases h.exists_stands hWorker with
    ⟨task, since, done, hTask, hScheduled, hPhase, hActions⟩
  rw [hNow] at hPhase
  refine
    { clock := h.clock
      past := h.past_noting _
      ordered := h.ordered_noting _
      timely := ?_
      single := hSingle
      working := ?_
      named := ?_
      unnamed := ?_
      cancelled := ?_
      stands := ?_ }
  · refine
      h.timely.snoc
        ⟨since, task.plan, done, worker.rest, hScheduled, hPhase,
          hActions, ?_⟩
    refine hEnds.imp_right ?_
    rintro ⟨hCancelled, goesOn, before, hChecked⟩
    cases hPhase.symm.trans hChecked
    exact ⟨(h.cancelled _).mpr hCancelled, by simp⟩
  · intro other hMember
    rcases h.working other
        (hWorkers.mem_iff.mpr (List.mem_cons_of_mem _ hMember)) with
      ⟨hWakes, found, hFound, hStage⟩
    refine ⟨hWakes, found, ?_, hStage⟩
    refine Eq.trans (Scheduler.task?_update ..) ?_
    rw [if_neg (Ne.symm (hApart other hMember))]
    exact hFound
  · exact h.named_noting hCarries nofun
  · refine h.unnamed_noting hCarries ?_
    rintro other ⟨⟩ hNone
    cases hTask.symm.trans hNone
  · refine h.cancelled_noting ?_ (by exact nofun)
    exact Scheduler.isCancelled_update hRestages _ worker.task
  · intro id found hFound
    rcases Scheduler.exists_of_task?_update hRestages hFound with
      ⟨old, stage, hOld, hStaged, hSelf, hElse⟩
    have hPlan : found.plan = old.plan := by
      rw [hStaged]
      rfl
    rw [hPlan]
    by_cases hSame : worker.task = id
    · subst hSame
      cases hTask.symm.trans hOld
      refine ⟨since, schedules_mono hScheduled _, ?_⟩
      unfold noting
      rw [phaseOf_ended, hSelf rfl]
      exact stands_ended shift.now others worker.task since task
    · rw [hElse (Ne.symm hSame)]
      refine h.stands_noting hOld ?_ (mem_others hWorkers hSame)
      exact fun hEqual => hSame (Option.some.inj hEqual)

/- Time passes while nothing is due. -/
theorem Kept.passes
    (h : shift.Kept)
    {time : Millis}
    (hLater : shift.now ≤ time)
    (hTasks :
      ∀ id task due,
        shift.scheduler.task? id = some task →
          task.due? = some due → time ≤ due)
    (hWorkers : ∀ worker ∈ shift.workers, time ≤ worker.wakes) :
    Kept
      { shift with scheduler := shift.scheduler.setTime time } where
  clock := h.clock
  past entry hMember := Nat.le_trans (h.past entry hMember) hLater
  ordered := h.ordered
  timely := h.timely
  single := h.single
  working worker hMember :=
    ⟨hWorkers worker hMember, (h.working worker hMember).2⟩
  named := h.named
  unnamed := h.unnamed
  cancelled := h.cancelled
  stands id task hTask := by
    rcases h.stands id task hTask with ⟨since, hScheduled, hStands⟩
    refine ⟨since, hScheduled, ?_⟩
    cases hStands with
    | waits due hStage hDue hTimely =>
        refine .waits due hStage hDue fun hLive => ?_
        apply hTasks id task due hTask
        unfold Task.due?
        rw [hStage, hLive]
    | runs worker done hStage hWorker hTask hPhase hActions =>
        exact
          .runs worker done hStage hWorker hTask hPhase hActions
    | rests ended hStage hPhase hOver =>
        exact .rests ended hStage hPhase hOver

theorem Kept.permutes
    (h : shift.Kept)
    {workers : List Sleeper}
    (hWorkers : shift.workers.Perm workers) :
    Kept { shift with workers := workers } where
  clock := h.clock
  past := h.past
  ordered := h.ordered
  timely := h.timely
  single := (hWorkers.map Sleeper.task).nodup_iff.mp h.single
  working worker hMember :=
    h.working worker (hWorkers.mem_iff.mpr hMember)
  named := h.named
  unnamed := h.unnamed
  cancelled := h.cancelled
  stands id task hTask := by
    rcases h.stands id task hTask with ⟨since, hScheduled, hStands⟩
    refine ⟨since, hScheduled, hStands.frame ?_⟩
    exact fun worker hMember _ => hWorkers.mem_iff.mp hMember

end Kept

end Shift

end BrainLink
