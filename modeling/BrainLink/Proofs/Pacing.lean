import BrainLink.Proofs.Shifts
import Mathlib.Data.List.Induction

/-
  When the runs of a task begin and end.

  Key definitions include:
    * `beginnings`
    * `endings`
    * `Paced`
    * `Shift.Settled`
    * `Shift.KeepsTime`

  Main statements:
    * `paced_of_timely`
    * `Shift.Kept.isFinished_iff`
    * `Shift.Kept.began_iff`
    * `Shift.Kept.keepsTime`

  What is right of each incident is summed up here: a run
  begins one period after its task was scheduled, or after the
  run before it has ended.
-/

namespace BrainLink

------------------------------------------------------------
-- Beginnings and Endings
------------------------------------------------------------

/- When the runs of a task began. -/
def beginnings (journal : Journal) (id : TaskId) : List Millis :=
  journal.filterMap fun entry =>
    match entry.2 with
    | .began other _ => if other = id then some entry.1 else none
    | _ => none

/- When the runs of a task ended. -/
def endings (journal : Journal) (id : TaskId) : List Millis :=
  journal.filterMap fun entry =>
    match entry.2 with
    | .ended other _ => if other = id then some entry.1 else none
    | _ => none

section Journals

variable {journal : Journal}

theorem mem_beginnings {id : TaskId} {time : Millis} :
    time ∈ beginnings journal id ↔
      ∃ name, (time, .began id name) ∈ journal := by
  unfold beginnings
  rw [List.mem_filterMap]
  constructor
  · rintro ⟨⟨other, incident⟩, hMember, hFound⟩
    cases incident with
    | began runner name =>
        dsimp only at hFound
        split at hFound
        · rename_i hSame
          cases hFound
          rw [← hSame]
          exact ⟨name, hMember⟩
        · cases hFound
    | _ => cases hFound
  · exact fun ⟨name, hMember⟩ => ⟨_, hMember, if_pos rfl⟩

theorem beginnings_snoc
    (entry : Millis × Incident)
    (id : TaskId) :
    beginnings (journal ++ [entry]) id =
      beginnings journal id ++ beginnings [entry] id :=
  List.filterMap_append

theorem endings_snoc
    (entry : Millis × Incident)
    (id : TaskId) :
    endings (journal ++ [entry]) id =
      endings journal id ++ endings [entry] id :=
  List.filterMap_append

/- What is noted of other tasks begins and ends no run. -/
theorem edges_other
    {incident : Incident}
    {id : TaskId}
    (hOther : incident.runner? ≠ some id)
    (time : Millis) :
    beginnings [(time, incident)] id = [] ∧
      endings [(time, incident)] id = [] := by
  have hElse
      {other : TaskId}
      (hRunner : some other ≠ some id) :
      other ≠ id :=
    fun hSame => hRunner (congrArg some hSame)
  unfold beginnings endings
  cases incident with
  | began other name => simp [hElse hOther]
  | ended other name => simp [hElse hOther]
  | _ => simp

/- A task is scheduled once. -/
theorem schedules_unique
    (hTimely : Throughout IsTimely journal)
    {id : TaskId}
    {since other : Millis}
    {plan more : Plan}
    (hFirst : Schedules journal id since plan)
    (hSecond : Schedules journal id other more) :
    since = other ∧ plan = more := by
  rcases List.append_of_mem hFirst with ⟨early, late, hCut⟩
  unfold Schedules at hSecond
  rw [hCut] at hSecond
  have hNone := hTimely early _ late hCut
  rcases List.mem_append.mp hSecond with hEarly | hRest
  · exact absurd hEarly (hNone other more)
  · rcases List.mem_cons.mp hRest with hSame | hLate
    · cases hSame
      exact ⟨rfl, rfl⟩
    · rcases List.append_of_mem hLate with ⟨between, after, hAfter⟩
      rw [hAfter, ← List.cons_append, ← List.append_assoc] at hCut
      refine absurd ?_ (hTimely _ _ after hCut since plan)
      exact List.mem_append_right _ List.mem_cons_self

end Journals

------------------------------------------------------------
-- Pace
------------------------------------------------------------

/-
  The runs of a task, as they stand. The first began a period
  after the task was scheduled, each other one a period after
  the one before it had ended, and none before that.
-/
inductive Turns
    (since period : Millis)
    (begun ended : List Millis) :
    Phase → Prop where
| fresh
    (hBegun : begun = [])
    (hEnded : ended = []) :
    Turns since period begun ended .fresh
| underway
    (goesOn : Millis)
    (done : List Action)
    (hBegun : begun = (since :: ended).map (· + period)) :
    Turns since period begun ended (.underway goesOn done)
| rested
    (last : Millis)
    (earlier : List Millis)
    (hBegun : begun = (since :: earlier).map (· + period))
    (hEnded : ended = earlier ++ [last]) :
    Turns since period begun ended (.rested last)

/-
  Runs in turn, no more than one of a task that runs once, and
  none that ended before it began.
-/
structure Paced
    (since : Millis)
    (plan : Plan)
    (begun ended : List Millis)
    (phase : Phase) :
    Prop where
  turns : Turns since plan.period begun ended phase
  single :
    plan.repetition = .once → begun <+: [since + plan.period]
  order :
    ∀ (k : Nat) (began ending : Millis),
      begun[k]? = some began →
        ended[k]? = some ending → began ≤ ending

section Paced

variable {since : Millis}
variable {plan : Plan}
variable {begun ended : List Millis}
variable {phase : Phase}

/- Runs in turn have the pace of their task. -/
theorem Turns.paced
    {period : Millis}
    (h : Turns since period begun ended phase) :
    begun <+: (since :: ended).map (· + period) ∧
      ended.length ≤ begun.length := by
  cases h with
  | fresh hBegun hEnded =>
      rw [hBegun, hEnded]
      exact ⟨List.nil_prefix, Nat.le_refl _⟩
  | underway goesOn done hBegun =>
      rw [hBegun]
      exact ⟨List.prefix_refl _, by simp⟩
  | rested last earlier hBegun hEnded =>
      rw [hBegun, hEnded]
      refine ⟨⟨[last + period], ?_⟩, by simp⟩
      simp

/- A run begins when it is due. -/
theorem Paced.begins
    (h : Paced since plan begun ended phase)
    {time : Millis}
    (hDue : plan.due? since phase = some time) :
    Paced since plan (begun ++ [time]) ended
      (.underway time []) := by
  rcases h with ⟨hTurns, hSingle, hOrder⟩
  cases hTurns with
  | fresh hBegun hEnded =>
      cases hDue
      rw [hBegun, hEnded]
      exact
        { turns := .underway _ _ rfl
          single := fun _ => List.prefix_refl _
          order := fun _ _ _ _ hNone => nomatch hNone }
  | underway goesOn done hBegun => cases hDue
  | rested last earlier hBegun hEnded =>
      unfold Plan.due? at hDue
      cases hRepetition : plan.repetition with
      | once =>
          rw [hRepetition] at hDue
          cases hDue
      | recurring =>
          rw [hRepetition] at hDue
          cases hDue
          refine
            { turns := .underway _ _ ?_
              single := fun hOnce => ?_
              order := ?_ }
          · rw [hBegun, hEnded]
            simp
          · rw [hRepetition] at hOnce
            cases hOnce
          · intro k began ending hBegan hEnding
            have hLength : begun.length = ended.length := by
              rw [hBegun, hEnded]
              simp
            have hK : k < begun.length := by
              rw [hLength]
              exact (List.getElem?_eq_some_iff.mp hEnding).1
            rw [List.getElem?_append_left hK] at hBegan
            exact hOrder k began ending hBegan hEnding

/- A run ends that no run has begun after. -/
theorem Paced.ends
    {goesOn : Millis}
    {done : List Action}
    (h : Paced since plan begun ended (.underway goesOn done))
    {time : Millis}
    (hLate : ∀ began ∈ begun, began ≤ time) :
    Paced since plan begun (ended ++ [time]) (.rested time) := by
  rcases h with ⟨hTurns, hSingle, hOrder⟩
  cases hTurns with
  | underway _ _ hBegun =>
      refine
        { turns := .rested time ended hBegun rfl
          single := hSingle
          order := ?_ }
      intro k began ending hBegan hEnding
      rcases Nat.lt_or_ge k ended.length with hK | hK
      · rw [List.getElem?_append_left hK] at hEnding
        exact hOrder k began ending hBegan hEnding
      · rw [List.getElem?_append_right hK] at hEnding
        have hTime : ending ∈ [time] :=
          List.mem_of_getElem? hEnding
        rw [List.mem_singleton.mp hTime]
        exact hLate began (List.mem_of_getElem? hBegan)

/- What a run does is no turn. -/
theorem Paced.does
    {goesOn : Millis}
    {done : List Action}
    (h : Paced since plan begun ended (.underway goesOn done))
    (later : Millis)
    (more : List Action) :
    Paced since plan begun ended (.underway later more) := by
  rcases h with ⟨hTurns, hSingle, hOrder⟩
  cases hTurns with
  | underway _ _ hBegun =>
      exact ⟨.underway later more hBegun, hSingle, hOrder⟩

end Paced

/- The runs of a task have the pace of its plan. -/
theorem paced_of_timely
    {journal : Journal}
    (hTimely : Throughout IsTimely journal)
    (hOrdered :
      journal.Pairwise fun early late => early.1 ≤ late.1)
    {id : TaskId}
    {since : Millis}
    {plan : Plan}
    (hPlan :
      ∀ other more,
        Schedules journal id other more →
          other = since ∧ more = plan) :
    Paced since plan (beginnings journal id)
      (endings journal id) (phaseOf journal id) := by
  induction journal using List.reverseRecOn with
  | nil =>
      exact
        { turns := .fresh rfl rfl
          single := fun _ => List.nil_prefix
          order := fun _ _ _ hNone => nomatch hNone }
  | append_singleton journal entry ih =>
      rcases throughout_snoc_iff.mp hTimely with ⟨hBefore, hLast⟩
      rcases List.pairwise_append.mp hOrdered with
        ⟨hEarlier, -, hLate⟩
      have hPaced :=
        ih hBefore hEarlier fun other more hScheduled =>
          hPlan other more (List.mem_append_left _ hScheduled)
      rcases entry with ⟨time, incident⟩
      by_cases hRunner : incident.runner? = some id
      · cases incident with
        | began other name =>
            cases hRunner
            rcases hLast with ⟨-, first, found, hFound, hDue⟩
            rcases hPlan first found
                (List.mem_append_left _ hFound) with
              ⟨rfl, rfl⟩
            rw [phaseOf_began]
            simpa [beginnings, endings] using hPaced.begins hDue
        | did other action =>
            cases hRunner
            rcases hLast with
              ⟨first, found, done, rest, hFound, hPhase, -⟩
            rw [hPhase] at hPaced
            rw [phaseOf_did hPhase]
            simpa [beginnings, endings] using
              hPaced.does (time + action.span) (done ++ [action])
        | ended other name =>
            cases hRunner
            rcases hLast with
              ⟨first, found, done, rest, hFound, hPhase, -⟩
            rw [hPhase] at hPaced
            rw [phaseOf_ended]
            have hEnded :=
              hPaced.ends fun began hBegan => by
                rcases mem_beginnings.mp hBegan with
                  ⟨label, hMember⟩
                exact hLate _ hMember _ (List.mem_singleton_self _)
            simpa [beginnings, endings] using hEnded
        | _ => cases hRunner
      · rcases edges_other hRunner time with ⟨hNone, hNever⟩
        rw [beginnings_snoc, endings_snoc, hNone, hNever,
          phaseOf_snoc_other hRunner, List.append_nil,
          List.append_nil]
        exact hPaced

/- A task that has not begun a run had not begun one before. -/
theorem phaseOf_early
    {early late : Journal}
    {id : TaskId}
    (hFresh : phaseOf (early ++ late) id = .fresh) :
    phaseOf early id = .fresh := by
  induction late using List.reverseRecOn with
  | nil => rwa [List.append_nil] at hFresh
  | append_singleton late entry ih =>
      rw [← List.append_assoc, phaseOf_snoc] at hFresh
      apply ih
      generalize phaseOf (early ++ late) id = phase at hFresh ⊢
      rcases entry with ⟨time, incident⟩
      cases incident with
      | began other name =>
          unfold Phase.after at hFresh
          dsimp only at hFresh
          split at hFresh
          · cases hFresh
          · exact hFresh
      | did other action =>
          cases phase with
          | fresh => rfl
          | underway goesOn done =>
              unfold Phase.after at hFresh
              dsimp only at hFresh
              split at hFresh
              · cases hFresh
              · cases hFresh
          | rested ended => cases hFresh
      | ended other name =>
          unfold Phase.after at hFresh
          dsimp only at hFresh
          split at hFresh
          · cases hFresh
          · exact hFresh
      | _ => exact hFresh

/- No run begins after its task was cancelled. -/
theorem not_began_after
    {journal early late : Journal}
    (hTimely : Throughout IsTimely journal)
    {time : Millis}
    {id : TaskId}
    (hCut : journal = early ++ (time, .cancelled id) :: late)
    (other : Millis)
    (name : String) :
    (other, .began id name) ∉ late := by
  intro hMember
  rcases List.append_of_mem hMember with ⟨between, after, hLate⟩
  rw [hLate, ← List.cons_append, ← List.append_assoc] at hCut
  rcases hTimely _ _ after hCut with ⟨hLive, -⟩
  exact
    hLive
      ⟨time, List.mem_append_right _ List.mem_cons_self⟩

namespace Shift

/- All that was due by now has happened. -/
structure Settled (shift : Shift) : Prop where
  tasks :
    ∀ id task due,
      shift.scheduler.task? id = some task →
        task.due? = some due → shift.now < due
  workers :
    ∀ worker ∈ shift.workers, shift.now < worker.wakes

/- A task is not cancelled at the instant at which it is due. -/
def Untied (journal : Journal) (id : TaskId) (due : Millis) :
    Prop :=
  ∀ early late,
    journal = early ++ (due, .cancelled id) :: late →
      due ∈ beginnings early id

section Kept

variable {shift : Shift}
variable {id : TaskId}
variable {since : Millis}
variable {plan : Plan}

/- A task that was scheduled is there, and stands as noted. -/
theorem Kept.exists_task
    (h : shift.Kept)
    (hScheduled : Schedules shift.journal id since plan) :
    ∃ task,
      shift.scheduler.task? id = some task ∧
        task.plan = plan ∧
          Stands shift.now shift.workers
            (phaseOf shift.journal id) id since task := by
  rcases h.named id since plan hScheduled with
    ⟨task, hTask, hPlan⟩
  rcases h.stands id task hTask with ⟨other, hOther, hStands⟩
  rcases schedules_unique h.timely hScheduled hOther with ⟨rfl, -⟩
  exact ⟨task, hTask, hPlan, hStands⟩

theorem Kept.paced
    (h : shift.Kept)
    (hScheduled : Schedules shift.journal id since plan) :
    Paced since plan (beginnings shift.journal id)
      (endings shift.journal id) (phaseOf shift.journal id) := by
  apply paced_of_timely h.timely h.ordered
  intro other more hOther
  rcases schedules_unique h.timely hScheduled hOther with
    ⟨rfl, rfl⟩
  exact ⟨rfl, rfl⟩

/- A live task is due later, once all that was due happened. -/
theorem Kept.now_lt_due
    (h : shift.Kept)
    (hSettled : shift.Settled)
    (hScheduled : Schedules shift.journal id since plan)
    (hLive : ¬ Cancels shift.journal id)
    {due : Millis}
    (hDue :
      plan.due? since (phaseOf shift.journal id) = some due) :
    shift.now < due := by
  rcases h.exists_task hScheduled with ⟨task, hTask, rfl, hStands⟩
  rw [h.cancelled, Scheduler.isCancelled_of_task? hTask,
    Bool.not_eq_true] at hLive
  rcases hStands.le_due hLive hDue with ⟨hStage, -⟩
  apply hSettled.tasks id task due hTask
  unfold Task.due?
  rw [hStage, hLive]

/- A run in progress sleeps, once all that was due happened. -/
theorem Kept.now_lt_goesOn
    (h : shift.Kept)
    (hSettled : shift.Settled)
    (hScheduled : Schedules shift.journal id since plan)
    {goesOn : Millis}
    {done : List Action}
    (hPhase :
      phaseOf shift.journal id = .underway goesOn done) :
    shift.now < goesOn := by
  rcases h.exists_task hScheduled with ⟨task, hTask, rfl, hStands⟩
  rw [hPhase] at hStands
  cases hStands with
  | waits due hStage hDue hTimely => cases hDue
  | runs worker done hStage hWorker hSame hPhase hActions =>
      cases hPhase
      exact hSettled.workers worker hWorker
  | rests ended hStage hPhase hOver => cases hPhase

/-
  The first run begins exactly one period after its task was
  scheduled, if and only if that was not cancelled before.
-/
theorem Kept.began_iff
    (h : shift.Kept)
    (hSettled : shift.Settled)
    (hScheduled : Schedules shift.journal id since plan)
    (hPast : since + plan.period ≤ shift.now)
    (hUntied : Untied shift.journal id (since + plan.period)) :
    since + plan.period ∈ beginnings shift.journal id ↔
      ∀ time < since + plan.period,
        (time, .cancelled id) ∉ shift.journal := by
  constructor
  · intro hBegan time hEarly hCancelled
    rcases mem_beginnings.mp hBegan with ⟨name, hMember⟩
    rcases List.append_of_mem hMember with ⟨early, late, hCut⟩
    rcases h.timely early _ late hCut with ⟨hLive, -⟩
    have hOrdered := h.ordered
    rw [hCut] at hCancelled hOrdered
    rcases List.mem_append.mp hCancelled with hBefore | hRest
    · exact hLive ⟨time, hBefore⟩
    · rcases List.mem_cons.mp hRest with hSame | hLate
      · cases hSame
      · have hTime :=
          (List.pairwise_cons.mp
            (List.pairwise_append.mp hOrdered).2.1).1 _ hLate
        exact Nat.not_lt_of_le hTime hEarly
  · intro hNever
    have hTurns := (h.paced hScheduled).turns
    cases hPhase : phaseOf shift.journal id with
    | fresh =>
        have hCancels : Cancels shift.journal id := by
          refine Classical.not_not.mp fun hLive => ?_
          refine
            Nat.not_lt_of_le hPast
              (h.now_lt_due hSettled hScheduled hLive ?_)
          rw [hPhase]
          rfl
        rcases hCancels with ⟨time, hCancelled⟩
        rcases List.append_of_mem hCancelled with
          ⟨early, late, hCut⟩
        have hFresh : phaseOf early id = .fresh := by
          rw [hCut] at hPhase
          exact phaseOf_early hPhase
        rcases h.timely early _ late hCut with
          ⟨-, first, found, hFound, hDue⟩
        have hSame :=
          schedules_unique h.timely hScheduled
            (by rw [hCut]; exact List.mem_append_left _ hFound)
        rcases hSame with ⟨rfl, rfl⟩
        have hTime : time ≤ since + plan.period := by
          apply hDue
          rw [hFresh]
          rfl
        rcases Nat.lt_or_eq_of_le hTime with hEarly | rfl
        · exact absurd hCancelled (hNever time hEarly)
        · rcases mem_beginnings.mp (hUntied early late hCut) with
            ⟨name, hBegan⟩
          rw [hCut, mem_beginnings]
          exact ⟨name, List.mem_append_left _ hBegan⟩
    | underway goesOn done =>
        rw [hPhase] at hTurns
        cases hTurns with
        | underway _ _ hBegun =>
            rw [hBegun]
            exact List.mem_cons_self
    | rested ended =>
        rw [hPhase] at hTurns
        cases hTurns with
        | rested _ earlier hBegun hEnded =>
            rw [hBegun]
            exact List.mem_cons_self

/-
  A task is finished when its one run has ended, or when it
  was cancelled and no run of it is in progress.
-/
theorem Kept.isFinished_iff
    (h : shift.Kept)
    (hScheduled : Schedules shift.journal id since plan) :
    shift.scheduler.isFinished id = true ↔
      plan.repetition = .once ∧ endings shift.journal id ≠ [] ∨
        Cancels shift.journal id ∧
          (beginnings shift.journal id).length =
            (endings shift.journal id).length := by
  have hPaced := h.paced hScheduled
  rcases h.exists_task hScheduled with ⟨task, hTask, rfl, hStands⟩
  have hCancelled :
      Cancels shift.journal id ↔ task.cancelled = true := by
    rw [h.cancelled, Scheduler.isCancelled_of_task? hTask]
  rw [hCancelled]
  unfold Scheduler.isFinished
  rw [hTask, h.clock]
  dsimp only
  rcases hPaced with ⟨hTurns, hSingle, -⟩
  generalize beginnings shift.journal id = begun at *
  generalize endings shift.journal id = ended at *
  cases hStands with
  | waits due hStage hDue hTimely =>
      rw [hStage]
      dsimp only
      generalize phaseOf shift.journal id = phase at hTurns hDue
      cases hTurns with
      | fresh hBegun hEnded => simp [hBegun, hEnded]
      | underway goesOn done hBegun => cases hDue
      | rested last earlier hBegun hEnded =>
          unfold Plan.due? at hDue
          cases hRepetition : task.plan.repetition with
          | once =>
              rw [hRepetition] at hDue
              cases hDue
          | recurring => simp [hBegun, hEnded]
  | runs worker done hStage hWorker hSame hPhase hActions =>
      rw [hStage]
      rw [hPhase] at hTurns
      cases hTurns with
      | underway _ _ hBegun =>
          have hMore : begun.length = ended.length + 1 := by
            rw [hBegun]
            simp
          constructor
          · exact fun hFalse => nomatch hFalse
          · rintro (⟨hOnce, hSome⟩ | ⟨-, hEqual⟩)
            · have hLength := (hSingle hOnce).length_le
              have hPositive := List.length_pos_iff.mpr hSome
              simp only [List.length_singleton] at hLength
              omega
            · omega
  | rests last hStage hPhase hOver =>
      rw [hStage]
      rw [hPhase] at hTurns
      cases hTurns with
      | rested _ earlier hBegun hEnded =>
          have hEqual : begun.length = ended.length := by
            rw [hBegun, hEnded]
            simp
          have hSome : ended ≠ [] := by
            rw [hEnded]
            simp
          refine iff_of_true rfl ?_
          exact hOver.imp (⟨·, hSome⟩) (⟨·, hEqual⟩)

------------------------------------------------------------
-- Keeping Time
------------------------------------------------------------

/-
  How the tasks of a shift keep time. What is noted is right:
  a run of a task does what its job says and is not cut off. A
  task that runs once begins once, and the first run of each
  begins just one period after it was scheduled if it was not
  cancelled before. Later runs begin one period after the run
  before has ended, so that no two runs of a task overlap, and
  none begins after the task was cancelled. Once all that was
  due has happened, a live task is due later, a run in progress
  sleeps, and a task is finished that has run once or was
  cancelled, and has no run in progress.
-/
structure KeepsTime (shift : Shift) : Prop where
  timely : Throughout IsTimely shift.journal
  ordered :
    shift.journal.Pairwise fun early late => early.1 ≤ late.1
  once :
    ∀ id since plan,
      Schedules shift.journal id since plan →
        plan.repetition = .once →
          beginnings shift.journal id <+: [since + plan.period]
  starts :
    shift.Settled →
      ∀ id since plan,
        Schedules shift.journal id since plan →
          since + plan.period ≤ shift.now →
            Untied shift.journal id (since + plan.period) →
              (since + plan.period ∈
                  beginnings shift.journal id ↔
                ∀ time < since + plan.period,
                  (time, .cancelled id) ∉ shift.journal)
  paced :
    ∀ id since plan,
      Schedules shift.journal id since plan →
        beginnings shift.journal id <+:
            (since :: endings shift.journal id).map
              (· + plan.period) ∧
          (endings shift.journal id).length ≤
              (beginnings shift.journal id).length ∧
            ∀ (k : Nat) (began ended : Millis),
              (beginnings shift.journal id)[k]? = some began →
                (endings shift.journal id)[k]? = some ended →
                  began ≤ ended
  stops :
    ∀ early time id late,
      shift.journal = early ++ (time, .cancelled id) :: late →
        ∀ other name, (other, .began id name) ∉ late
  awaits :
    shift.Settled →
      ∀ id since plan due,
        Schedules shift.journal id since plan →
          ¬ Cancels shift.journal id →
            plan.due? since (phaseOf shift.journal id) =
                some due →
              shift.now < due
  sleeps :
    shift.Settled →
      ∀ id since plan goesOn done,
        Schedules shift.journal id since plan →
          phaseOf shift.journal id = .underway goesOn done →
            shift.now < goesOn
  finished :
    ∀ id since plan,
      Schedules shift.journal id since plan →
        (shift.scheduler.isFinished id = true ↔
          plan.repetition = .once ∧
              endings shift.journal id ≠ [] ∨
            Cancels shift.journal id ∧
              (beginnings shift.journal id).length =
                (endings shift.journal id).length)

theorem Kept.keepsTime (h : shift.Kept) : shift.KeepsTime where
  timely := h.timely
  ordered := h.ordered
  once _ _ _ hScheduled := (h.paced hScheduled).single
  starts hSettled _ _ _ := h.began_iff hSettled
  paced _ _ _ hScheduled := by
    rcases (h.paced hScheduled).turns.paced with
      ⟨hBegun, hLength⟩
    exact ⟨hBegun, hLength, (h.paced hScheduled).order⟩
  stops _ _ _ _ := not_began_after h.timely
  awaits hSettled _ _ _ _ hScheduled hLive hDue :=
    h.now_lt_due hSettled hScheduled hLive hDue
  sleeps hSettled _ _ _ _ _ hScheduled hPhase :=
    h.now_lt_goesOn hSettled hScheduled hPhase
  finished _ _ _ := h.isFinished_iff

end Kept

end Shift

end BrainLink
