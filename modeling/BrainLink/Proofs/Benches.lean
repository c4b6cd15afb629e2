import BrainLink.Proofs.Records
import BrainLink.Proofs.Pacing
import BrainLink.Proofs.Dues

/-
  Tasks on a bench with a clock keep time.

  Key definitions include:
    * `Bench.Order`
    * `Bench.after`
    * `Bench.timeOf`
    * `Bench.ordersOf`
    * `Action.isPaced`
    * `Bench.Recorded`
    * `Bench.IsPaced`
    * `Bench.overdue`
    * `Bench.KeepsTime`

  Main statements:
    * `Bench.recorded_perform`
    * `Bench.calms_happen`
    * `Bench.isReady_settle`
    * `Bench.isReady_after`
    * `Bench.tasks_keep_time`

  All that is due by now is done by a bench before time passes.
  It takes as many things as are overdue: what is done makes
  nothing new due, since all delays and pauses are positive.
-/

namespace BrainLink

------------------------------------------------------------
-- Programs
------------------------------------------------------------

mutual

/- All delays and pauses in an action are positive. -/
def Action.isPaced : Action → Bool
| .schedule _ _ period actions _ =>
    decide (0 < period) && arePaced actions
| _ => true

/- All delays and pauses in some actions are positive. -/
def arePaced : List Action → Bool
| [] => true
| action :: rest => action.isPaced && arePaced rest

end

namespace Bench

/- What a program asks of a bench. -/
inductive Order where
| act (action : Action)
| advance (span : Millis)

/- Do what is ordered. -/
def obey (bench : Bench) : Order → Bench
| .act action => (bench.order action).1
| .advance span => bench.advance span

/- What becomes of a bench with a clock, the latest first. -/
def after : List Order → Bench
| [] => .empty .clock
| order :: orders => (after orders).obey order

/- How much time a program lets pass. -/
def timeOf : List Order → Millis
| [] => 0
| .act _ :: orders => timeOf orders
| .advance span :: orders => timeOf orders + span

/- The actions that a program orders, and when. -/
def ordersOf : List Order → List (Millis × Action)
| [] => []
| .act action :: orders =>
    ordersOf orders ++ [(timeOf orders, action)]
| .advance _ :: orders => ordersOf orders

end Bench

------------------------------------------------------------
-- What Is Seen
------------------------------------------------------------

/- The actions that were ordered from outside, and when. -/
def ordersIn (journal : Journal) : List (Millis × Action) :=
  journal.filterMap fun entry =>
    match entry.2 with
    | .ordered action => some (entry.1, action)
    | _ => none

/- The beginning or the end of a run of a job, and when. -/
abbrev Edge :=
  Millis × String × Bool

/- When runs began and ended, by what was noted. -/
def edgesIn (journal : Journal) : List Edge :=
  journal.filterMap fun entry =>
    match entry.2 with
    | .began _ name => some (entry.1, name, true)
    | .ended _ name => some (entry.1, name, false)
    | _ => none

/- Whether a job tells that a run begins, or that it ends. -/
def Note.edge? : Note → Option Bool
| .run => some true
| .ended => some false
| .interrupted => some false
| _ => none

/- When runs began and ended, by what the jobs told. -/
def Bench.edges (bench : Bench) : List Edge :=
  bench.log.filterMap fun line =>
    line.note.edge?.map fun began => (line.time, line.name, began)

theorem Bench.edges_note
    (bench : Bench)
    (name : String)
    (what : Note) :
    (bench.note name what).edges =
      bench.edges ++
        (what.edge?.map fun began =>
          (bench.scheduler.now, name, began)).toList := by
  unfold edges note
  rw [List.filterMap_append]
  cases what with
  | run => rfl
  | ended => rfl
  | goesOn => rfl
  | interrupted => rfl
  | did _ _ => rfl

theorem edgesIn_append (early late : Journal) :
    edgesIn (early ++ late) = edgesIn early ++ edgesIn late :=
  List.filterMap_append

theorem ordersIn_append (early late : Journal) :
    ordersIn (early ++ late) = ordersIn early ++ ordersIn late :=
  List.filterMap_append

/- A new task and one that is cancelled are neither seen. -/
theorem notSeen_effects
    (time : Millis)
    (action : Action)
    (subject stopped : Option TaskId) :
    let journal := notedAt time (effects action subject stopped)
    edgesIn journal = [] ∧ ordersIn journal = [] := by
  unfold effects
  cases action.plan? with
  | none =>
      cases stopped with
      | none => exact ⟨rfl, rfl⟩
      | some id => exact ⟨rfl, rfl⟩
  | some plan =>
      cases subject with
      | none =>
          cases stopped with
          | none => exact ⟨rfl, rfl⟩
          | some id => exact ⟨rfl, rfl⟩
      | some new =>
          cases stopped with
          | none => exact ⟨rfl, rfl⟩
          | some id => exact ⟨rfl, rfl⟩

------------------------------------------------------------
-- Runs
------------------------------------------------------------

namespace Bench

variable {bench : Bench}
variable {active : List Sleeper}
variable {orders : List (Millis × Action)}

/-
  A bench on which some runs go on, besides those that sleep.
  The tasks are as its record tells, and so are the orders and
  what the log tells of runs.
-/
structure Recorded
    (bench : Bench)
    (active : List Sleeper)
    (orders : List (Millis × Action)) :
    Prop where
  kept : (bench.shift active).Kept
  linked : bench.Linked
  edges : edgesIn (journalOf bench.record) = bench.edges
  orders : ordersIn (journalOf bench.record) = orders

theorem recorded_empty : (empty .clock).Recorded [] [] where
  kept := Shift.kept_start
  linked :=
    { linked := throughout_nil _
      count := rfl
      handles := fun handle => by
        cases handle with
        | slot slot =>
            cases slot with
            | connect => rfl
            | check => rfl
        | _ => rfl }
  edges := rfl
  orders := rfl

theorem Recorded.clock (h : bench.Recorded active orders) :
    bench.scheduler.drive = .clock :=
  h.kept.clock

theorem Recorded.le_wakes
    (h : bench.Recorded active orders) :
    ∀ worker ∈ active ++ bench.sleepers,
      bench.scheduler.now ≤ worker.wakes :=
  fun worker hMember => (h.kept.working worker hMember).1

/- Runs fall asleep or wake up, and no other. -/
theorem Recorded.perm
    (h : bench.Recorded active orders)
    {others sleepers : List Sleeper}
    (hWorkers :
      (active ++ bench.sleepers).Perm (others ++ sleepers)) :
    Recorded { bench with sleepers := sleepers } others
      orders where
  kept := h.kept.permutes hWorkers
  linked := h.linked.frame rfl rfl fun _ => rfl
  edges := h.edges
  orders := h.orders

/- A line that tells of no beginning and no end is not seen. -/
theorem Recorded.note
    (h : bench.Recorded active orders)
    (name : String)
    {what : Note}
    (hEdge : what.edge? = none) :
    (bench.note name what).Recorded active orders where
  kept := h.kept
  linked := h.linked.frame rfl rfl fun _ => rfl
  edges := by
    rw [edges_note, hEdge]
    exact h.edges.trans (List.append_nil _).symm
  orders := h.orders

/- What is recorded of an action, and what comes of it. -/
theorem Recorded.act
    (h : bench.Recorded active orders)
    (runner : Option TaskId)
    (action : Action)
    {later : List Sleeper}
    (hFirst :
      Shift.Kept
        ⟨bench.scheduler, later ++ bench.sleepers,
          (bench.shift active).noting
            (.ofAction action runner)⟩) :
    (bench.act runner action).1.Recorded later
      (orders ++
        ordersIn
          [(bench.scheduler.now, .ofAction action runner)]) := by
  have hFrames :=
    (bench.enter (bench.entered runner action)).frames_apply
      action
  have hStopped (id : TaskId) :
      bench.scheduler.isCancelled id =
        stopsIn bench.record id := by
    rw [Bool.eq_iff_iff, stopsIn_iff]
    exact (h.kept.cancelled id).symm
  have hJournal :
      journalOf (bench.act runner action).1.record =
        journalOf bench.record ++
            [(bench.scheduler.now, .ofAction action runner)] ++
          notedAt bench.scheduler.now
            (effects action (bench.subject? action)
              ((bench.target? action).filter fun id =>
                !bench.scheduler.isCancelled id)) := by
    rw [record_act, journalOf_snoc]
    exact List.append_cons ..
  rcases notSeen_effects bench.scheduler.now action
      (bench.subject? action)
      ((bench.target? action).filter fun id =>
        !bench.scheduler.isCancelled id) with
    ⟨hEdges, hOrders⟩
  refine ⟨?_, h.linked.act hStopped runner action, ?_, ?_⟩
  · have hSleepers :
        (bench.act runner action).1.sleepers = bench.sleepers :=
      hFrames.sleepers
    unfold Bench.shift
    rw [hJournal, hSleepers]
    exact
      kept_apply (bench.enter (bench.entered runner action))
        action hFirst fun _ => h.linked.exists_target
  · have hLog : (bench.act runner action).1.edges = bench.edges :=
      congrArg (List.filterMap _) hFrames.log
    rw [hJournal, edgesIn_append, edgesIn_append, hEdges, hLog,
      h.edges, List.append_nil]
    cases runner with
    | none => exact List.append_nil _
    | some id => exact List.append_nil _
  · rw [hJournal, ordersIn_append, ordersIn_append, hOrders,
      h.orders]
    exact List.append_nil _

/- Something is ordered from outside. -/
theorem Recorded.order
    (h : bench.Recorded [] orders)
    (action : Action) :
    (bench.act none action).1.Recorded []
      (orders ++ [(bench.scheduler.now, action)]) :=
  h.act none action (h.kept.orders action)

/- A run does its next action. -/
theorem Recorded.does
    {id : TaskId}
    {name : String}
    {action : Action}
    {rest : List Action}
    (h :
      bench.Recorded
        [⟨id, name, bench.scheduler.now, action :: rest⟩]
        orders) :
    (bench.act (some id) action).1.Recorded
      [⟨id, name, bench.scheduler.now + action.span, rest⟩]
      orders := by
  have hFirst :
      Shift.Kept
        ⟨bench.scheduler,
          [⟨id, name, bench.scheduler.now + action.span, rest⟩] ++
            bench.sleepers,
          Shift.noting
            (bench.shift
              [⟨id, name, bench.scheduler.now, action :: rest⟩])
            (.did id action)⟩ :=
    h.kept.does (.refl _) (Nat.le_refl _) rfl
  have hActed := h.act (some id) action hFirst
  exact List.append_nil orders ▸ hActed

/- What a run has done that has just checked. -/
theorem Recorded.exists_checked
    {id : TaskId}
    {name : String}
    {rest : List Action}
    (h :
      bench.Recorded
        [⟨id, name, bench.scheduler.now, .check :: rest⟩]
        orders) :
    ∃ goesOn done,
      phaseOf (journalOf (bench.act (some id) .check).1.record)
          id =
        .underway goesOn (done ++ [.check]) := by
  rcases h.kept.exists_stands List.mem_cons_self with
    ⟨task, since, done, -, -, hPhase, -⟩
  refine ⟨bench.scheduler.now, done, ?_⟩
  rw [record_act, journalOf_snoc]
  exact phaseOf_did hPhase bench.scheduler.now .check

/- A run ends, as the job tells. -/
theorem Recorded.finish
    {id : TaskId}
    {name : String}
    {rest : List Action}
    (h :
      bench.Recorded [⟨id, name, bench.scheduler.now, rest⟩]
        orders)
    {what : Note}
    (hEdge : what.edge? = some false)
    (hEnds :
      rest = [] ∨
        bench.scheduler.isCancelled id = true ∧
          ∃ goesOn done,
            phaseOf (journalOf bench.record) id =
              .underway goesOn (done ++ [.check])) :
    ((bench.note name what).finish id name).Recorded []
      orders := by
  have hJournal :
      journalOf ((bench.note name what).finish id name).record =
        journalOf bench.record ++
          [(bench.scheduler.now, .ended id name)] :=
    journalOf_snoc _ _ _
  refine ⟨?_, ?_, ?_, ?_⟩
  · unfold Bench.shift
    rw [hJournal]
    exact h.kept.ends (.refl _) (Nat.le_refl _) hEnds
  · have hNoted : (bench.note name what).Linked :=
      h.linked.frame rfl rfl fun _ => rfl
    exact
      (hNoted.enter rfl).frame rfl (List.length_modify ..)
        fun _ => rfl
  · rw [hJournal, edgesIn_append, h.edges]
    refine Eq.symm ((edges_note bench name what).trans ?_)
    rw [hEdge]
    rfl
  · rw [hJournal, ordersIn_append, h.orders]
    exact List.append_nil _

/- A run of a task begins that is due, as the job tells. -/
theorem Recorded.begins
    (h : bench.Recorded [] orders)
    {id : TaskId}
    {task : Task Script}
    (hTask : bench.scheduler.task? id = some task)
    {due : Millis}
    (hDue : task.due? = some due)
    (hPast : due ≤ bench.scheduler.now) :
    Recorded
      ((enter
            { bench with
              scheduler := bench.scheduler.beginRun id }
            (.began id task.job.name)).note
        task.job.name .run)
      [⟨id, task.job.name, bench.scheduler.now,
          task.job.actions⟩]
      orders := by
  have hJournal :
      journalOf
          (bench.record ++
            [(bench.scheduler.now, .began id task.job.name)]) =
        journalOf bench.record ++
          [(bench.scheduler.now, .began id task.job.name)] :=
    journalOf_snoc _ _ _
  have hKept :
      Shift.Kept
        ⟨bench.scheduler.beginRun id,
          ⟨id, task.job.name, bench.scheduler.now,
              task.job.actions⟩
            :: bench.sleepers,
          journalOf bench.record ++
            [(bench.scheduler.now, .began id task.job.name)]⟩ := by
    unfold Task.due? at hDue
    split at hDue
    · rename_i time hStage hLive
      cases hDue
      exact h.kept.begins hTask hStage hLive hPast
    · cases hDue
  refine ⟨?_, ?_, ?_, ?_⟩
  · change
      Shift.Kept
        ⟨bench.scheduler.beginRun id,
          ⟨id, task.job.name, bench.scheduler.now,
              task.job.actions⟩
            :: bench.sleepers,
          journalOf
            (bench.record ++
              [(bench.scheduler.now, .began id task.job.name)])⟩
    rw [hJournal]
    exact hKept
  · have hBegun :
        Linked
          { bench with
            scheduler := bench.scheduler.beginRun id } :=
      h.linked.frame rfl (List.length_modify ..) fun _ => rfl
    exact (hBegun.enter rfl).frame rfl rfl fun _ => rfl
  · refine (congrArg edgesIn hJournal).trans ?_
    rw [edgesIn_append, h.edges, edges_note]
    rfl
  · refine (congrArg ordersIn hJournal).trans ?_
    rw [ordersIn_append, h.orders]
    exact List.append_nil _

/- A run goes on until it sleeps or ends. -/
theorem recorded_perform
    (id : TaskId)
    (name : String)
    (actions : List Action)
    (h :
      bench.Recorded [⟨id, name, bench.scheduler.now, actions⟩]
        orders) :
    (perform id name actions bench).Recorded [] orders := by
  induction actions generalizing bench with
  | nil => exact h.finish rfl (.inl rfl)
  | cons action rest ih =>
      have hDone := h.does
      have hNow :
          (bench.act (some id) action).1.scheduler.now =
            bench.scheduler.now :=
        (frames_apply _ action).now
      rw [← hNow] at hDone
      have hGoesOn
          (hSpan : action.span = 0) :
          (bench.act (some id) action).1.Recorded
            [⟨id, name,
                (bench.act (some id) action).1.scheduler.now,
                rest⟩]
            orders := by
        rw [hSpan] at hDone
        exact hDone
      have hOther
          (hSpan : action.span = 0) :
          (perform id name rest
              ((bench.act (some id) action).1.note name
                (.did action
                  (bench.act (some id) action).2))).Recorded
            [] orders :=
        ih ((hGoesOn hSpan).note name rfl)
      cases action with
      | sleep span =>
          unfold perform
          dsimp only
          rw [hDone.clock]
          cases span with
          | zero => exact ih (hGoesOn rfl)
          | succ span =>
              refine hDone.perm ?_
              exact (List.perm_append_singleton _ _).symm
      | check =>
          unfold perform
          dsimp only
          split
          · rename_i hCancelled
            exact
              (hGoesOn rfl).finish rfl
                (.inr ⟨hCancelled, h.exists_checked⟩)
          · exact ih ((hGoesOn rfl).note name rfl)
      | schedule repetition label period actions slot =>
          exact hOther rfl
      | cancel label => exact hOther rfl
      | clear slot => exact hOther rfl
      | put label slot => exact hOther rfl

/- The first that is found is taken out, and no other. -/
theorem eraseP_of_find?
    {α : Type}
    {p : α → Bool}
    {items : List α}
    {item : α}
    (hFound : items.find? p = some item) :
    p item = true ∧
      ∃ before others,
        items = before ++ item :: others ∧
          items.eraseP p = before ++ others := by
  rcases List.find?_eq_some_iff_append.mp hFound with
    ⟨hItem, before, others, hSplit, hNone⟩
  refine ⟨hItem, before, others, hSplit, ?_⟩
  rw [hSplit, List.eraseP_append_right,
    List.eraseP_cons_of_pos hItem]
  exact fun other hMember => by simpa using hNone other hMember

/- A task that is due by now is there, and begins a run. -/
theorem exists_of_due
    (hClock : bench.scheduler.drive = .clock)
    {id : TaskId}
    (hDue : id ∈ bench.scheduler.dueTasks) :
    ∃ task,
      bench.scheduler.task? id = some task ∧
        task.due?.any (· ≤ bench.scheduler.now) = true ∧
          let begun :=
            { bench with scheduler := bench.scheduler.beginRun id }
          begun.run id =
            perform id task.job.name task.job.actions
              ((begun.enter (.began id task.job.name)).note
                task.job.name .run) := by
  unfold Scheduler.dueTasks at hDue
  rw [hClock] at hDue
  rcases Scheduler.mem_idsWhere.mp hDue with ⟨task, hTask, hTime⟩
  have hRuns :
      (bench.scheduler.beginRun id).task? id =
        some { task with stage := .running } := by
    refine Eq.trans (Scheduler.task?_update ..) ?_
    rw [if_pos rfl, hTask]
    rfl
  refine ⟨task, hTask, hTime, ?_⟩
  unfold run
  dsimp only
  rw [hRuns]

theorem recorded_run
    (h : bench.Recorded [] orders)
    {id : TaskId}
    (hDue : id ∈ bench.scheduler.dueTasks) :
    Recorded
      (run { bench with scheduler := bench.scheduler.beginRun id }
        id)
      [] orders := by
  rcases exists_of_due h.clock hDue with
    ⟨task, hTask, hTime, hRun⟩
  rcases (Option.any_eq_true _ _).mp hTime with
    ⟨due, hTaskDue, hPast⟩
  rw [hRun]
  apply recorded_perform
  exact h.begins hTask hTaskDue (of_decide_eq_true hPast)

/- One thing that is due by now is done. -/
theorem recorded_happen
    (h : bench.Recorded [] orders)
    {later : Bench}
    (hHappens : bench.happen? = some later) :
    later.Recorded [] orders := by
  unfold happen? at hHappens
  split at hHappens
  · rename_i sleeper hFound
    cases hHappens
    rcases eraseP_of_find? hFound with
      ⟨hWakes, before, others, hSplit, hErased⟩
    have hNow : sleeper.wakes = bench.scheduler.now := by
      refine Nat.le_antisymm (of_decide_eq_true hWakes) ?_
      refine h.le_wakes sleeper ?_
      rw [hSplit]
      simp
    apply recorded_perform
    dsimp only
    rw [hErased, ← hNow]
    refine h.perm ?_
    rw [hSplit]
    exact List.perm_middle
  · rcases Option.map_eq_some_iff.mp hHappens with
      ⟨id, hDue, rfl⟩
    exact recorded_run h (List.mem_of_head? hDue)

theorem recorded_settleWithin
    (h : bench.Recorded [] orders)
    (count : Nat) :
    (bench.settleWithin count).Recorded [] orders := by
  induction count generalizing bench with
  | zero => exact h
  | succ count ih =>
      unfold settleWithin
      split
      · exact h
      · rename_i later hHappens
        exact ih (recorded_happen h hHappens)

------------------------------------------------------------
-- Being Overdue
------------------------------------------------------------

/- How many tasks are due by now. -/
def overdueTasks (scheduler : Scheduler Script) : Nat :=
  scheduler.tasks.countP fun task =>
    task.due?.any (· ≤ scheduler.now)

/- How many runs are to go on by now. -/
def overdueRuns (now : Millis) (sleepers : List Sleeper) : Nat :=
  sleepers.countP fun sleeper => sleeper.wakes ≤ now

/- How many things are to be done by now. -/
def overdue (bench : Bench) : Nat :=
  overdueTasks bench.scheduler +
    overdueRuns bench.scheduler.now bench.sleepers

/- All delays and pauses are positive, now and later. -/
structure IsPaced (bench : Bench) : Prop where
  tasks :
    ∀ task ∈ bench.scheduler.tasks,
      0 < task.period ∧ arePaced task.job.actions = true
  sleepers :
    ∀ sleeper ∈ bench.sleepers, arePaced sleeper.rest = true

/- A bench on which time stands still, and nothing gets due. -/
structure Calms (before after : Bench) : Prop where
  now : after.scheduler.now = before.scheduler.now
  drive : after.scheduler.drive = before.scheduler.drive
  paced : after.IsPaced
  overdue : after.overdue ≤ before.overdue

theorem Calms.refl (h : bench.IsPaced) : bench.Calms bench :=
  ⟨rfl, rfl, h, Nat.le_refl _⟩

theorem Calms.trans
    {before middle after : Bench}
    (hFirst : before.Calms middle)
    (hLast : middle.Calms after) :
    before.Calms after where
  now := hLast.now.trans hFirst.now
  drive := hLast.drive.trans hFirst.drive
  paced := hLast.paced
  overdue := Nat.le_trans hLast.overdue hFirst.overdue

/- An item that changes counts no longer, if it did. -/
theorem countP_modify_le
    {α : Type}
    {p : α → Bool}
    {change : α → α}
    {items : List α}
    (hChange : ∀ item ∈ items, p (change item) = false)
    (place : Nat) :
    (items.modify place change).countP p ≤ items.countP p := by
  induction items generalizing place with
  | nil => simp
  | cons item items ih =>
      rcases List.forall_mem_cons.mp hChange with ⟨hItem, hRest⟩
      cases place with
      | zero =>
          rw [List.modify_zero_cons, List.countP_cons,
            List.countP_cons, hItem, if_neg Bool.false_ne_true]
          exact Nat.le_add_right _ _
      | succ place =>
          rw [List.modify_succ_cons, List.countP_cons,
            List.countP_cons]
          exact Nat.add_le_add_right (ih hRest place) _

theorem countP_modify_lt
    {α : Type}
    {p : α → Bool}
    {change : α → α}
    {items : List α}
    (hChange : ∀ item ∈ items, p (change item) = false)
    {place : Nat}
    {item : α}
    (hItem : items[place]? = some item)
    (hCounts : p item = true) :
    (items.modify place change).countP p < items.countP p := by
  induction items generalizing place with
  | nil => cases hItem
  | cons first items ih =>
      rcases List.forall_mem_cons.mp hChange with ⟨hFirst, hRest⟩
      cases place with
      | zero =>
          cases hItem
          rw [List.modify_zero_cons, List.countP_cons,
            List.countP_cons, hFirst, hCounts]
          simp
      | succ place =>
          rw [List.modify_succ_cons, List.countP_cons,
            List.countP_cons]
          exact Nat.add_lt_add_right (ih hRest hItem) _

/- A change of tasks that leaves none of them overdue. -/
structure Relieves
    (now : Millis)
    (change : Task Script → Task Script) :
    Prop where
  period : ∀ task, (change task).period = task.period
  job : ∀ task, (change task).job = task.job
  due :
    ∀ task,
      0 < task.period →
        (change task).due?.any (· ≤ now) = false

theorem relieves_cancel (now : Millis) :
    Relieves now fun task => { task with cancelled := true } where
  period _ := rfl
  job _ := rfl
  due _ _ := by simp [Task.due?]

theorem relieves_beginRun (now : Millis) :
    Relieves now fun task => { task with stage := .running } where
  period _ := rfl
  job _ := rfl
  due _ _ := rfl

theorem relieves_endRun (now : Millis) :
    Relieves now fun task =>
      match task.repetition, task.cancelled with
      | .recurring, false =>
          { task with stage := .waiting (now + task.period) }
      | _, _ => { task with stage := .over } where
  period task := by
    split
    · rfl
    · rfl
  job task := by
    split
    · rfl
    · rfl
  due task hPositive := by
    split
    · rename_i hLive
      have hLater : ¬ now + task.period ≤ now :=
        Nat.not_le_of_lt (Nat.lt_add_of_pos_right hPositive)
      simp [Task.due?, hLive, hLater]
    · rfl

/- Tasks are updated, and none gets due. -/
theorem calms_update
    (h : bench.IsPaced)
    {change : Task Script → Task Script}
    (hChange : Relieves bench.scheduler.now change)
    (id : TaskId) :
    bench.Calms
      { bench with
        scheduler := bench.scheduler.update id change } where
  now := rfl
  drive := rfl
  paced := by
    refine ⟨?_, h.sleepers⟩
    intro task hMember
    rcases List.getElem?_of_mem hMember with ⟨place, hPlace⟩
    have hTask :
        (bench.scheduler.update id change).task? place =
          some task :=
      hPlace
    rw [Scheduler.task?_update] at hTask
    split at hTask
    · rcases Option.map_eq_some_iff.mp hTask with
        ⟨before, hBefore, rfl⟩
      rw [hChange.period, hChange.job]
      exact h.tasks before (List.mem_of_getElem? hBefore)
    · exact h.tasks task (List.mem_of_getElem? hTask)
  overdue := by
    refine Nat.add_le_add_right ?_ _
    refine countP_modify_le ?_ id
    exact fun task hMember =>
      hChange.due task (h.tasks task hMember).1

theorem calms_release
    (h : bench.IsPaced)
    (slot : Slot) :
    bench.Calms
      { bench with
        scheduler := slot.release bench.scheduler } := by
  cases slot with
  | none => exact .refl h
  | some id => exact calms_update h (relieves_cancel _) id

/- A task that is new is due later. -/
theorem calms_add
    (h : bench.IsPaced)
    (repetition : Repetition)
    {period : Millis}
    (hPeriod : 0 < period)
    (job : Script)
    (hJob : arePaced job.actions = true) :
    bench.Calms
      { bench with
        scheduler :=
          bench.scheduler.add repetition period job } where
  now := rfl
  drive := rfl
  paced := by
    refine ⟨?_, h.sleepers⟩
    intro task hMember
    rcases List.mem_append.mp hMember with hOld | hNew
    · exact h.tasks task hOld
    · rw [List.mem_singleton.mp hNew]
      exact ⟨hPeriod, hJob⟩
  overdue := by
    refine Nat.add_le_add_right ?_ _
    unfold overdueTasks Scheduler.add
    have hLater :
        ¬ bench.scheduler.now + period ≤ bench.scheduler.now :=
      Nat.not_le_of_lt (Nat.lt_add_of_pos_right hPeriod)
    rw [List.countP_append]
    simp [Task.due?, hLater]

/- Nothing is said of names, slots and the log. -/
theorem Calms.frame
    {before after later : Bench}
    (h : before.Calms after)
    (hScheduler : later.scheduler = after.scheduler)
    (hSleepers : later.sleepers = after.sleepers) :
    before.Calms later := by
  rcases h with ⟨hNow, hDrive, ⟨hTasks, hRuns⟩, hOverdue⟩
  refine ⟨?_, ?_, ⟨?_, ?_⟩, ?_⟩
  · rw [hScheduler, hNow]
  · rw [hScheduler, hDrive]
  · rw [hScheduler]
    exact hTasks
  · rw [hSleepers]
    exact hRuns
  · unfold Bench.overdue at *
    rw [hScheduler, hSleepers]
    exact hOverdue

theorem calms_apply
    (h : bench.IsPaced)
    {action : Action}
    (hPaced : action.isPaced = true) :
    bench.Calms (bench.apply action).1 := by
  have hSleepers := (bench.frames_apply action).sleepers
  cases action with
  | sleep span => exact .refl h
  | check => exact .refl h
  | schedule repetition name period actions slot =>
      unfold Action.isPaced at hPaced
      rcases Bool.and_eq_true_iff.mp hPaced with
        ⟨hPeriod, hActions⟩
      have hAdded :=
        calms_add h repetition (of_decide_eq_true hPeriod)
          ⟨name, actions⟩ hActions
      cases slot with
      | none => exact hAdded.frame rfl rfl
      | some slot =>
          have hReleased :=
            calms_release hAdded.paced (bench.slot slot)
          exact (hAdded.trans hReleased).frame rfl hSleepers
  | cancel name =>
      change bench.Calms (bench.cancel name).1
      rw [cancel_eq]
      exact calms_release h _
  | clear slot =>
      exact
        (calms_release h (bench.slot slot)).frame rfl hSleepers
  | put name slot =>
      unfold apply put at hSleepers ⊢
      dsimp only at hSleepers ⊢
      cases hKept : bench.kept.lookup name with
      | none => exact .refl h
      | some id =>
          rw [hKept] at hSleepers
          exact
            (calms_release h (bench.slot slot)).frame rfl hSleepers

theorem calms_act
    (h : bench.IsPaced)
    (runner : Option TaskId)
    {action : Action}
    (hPaced : action.isPaced = true) :
    bench.Calms (bench.act runner action).1 := by
  have hEntered :
      bench.Calms (bench.enter (bench.entered runner action)) :=
    (Calms.refl h).frame rfl rfl
  exact hEntered.trans (calms_apply hEntered.paced hPaced)

/- A run that falls asleep goes on later. -/
theorem calms_sleep
    (h : bench.IsPaced)
    {sleeper : Sleeper}
    (hRest : arePaced sleeper.rest = true)
    (hWakes : bench.scheduler.now < sleeper.wakes) :
    bench.Calms
      { bench with sleepers := bench.sleepers ++ [sleeper] } := by
  refine ⟨rfl, rfl, ⟨h.tasks, ?_⟩, ?_⟩
  · intro other hMember
    rcases List.mem_append.mp hMember with hOld | hNew
    · exact h.sleepers other hOld
    · rw [List.mem_singleton.mp hNew]
      exact hRest
  · refine Nat.add_le_add_left ?_ _
    unfold overdueRuns
    have hLater : ¬ sleeper.wakes ≤ bench.scheduler.now :=
      Nat.not_le_of_lt hWakes
    rw [List.countP_append]
    simp [hLater]

/- A run that goes on makes nothing due. -/
theorem calms_perform
    (hClock : bench.scheduler.drive = .clock)
    (h : bench.IsPaced)
    (id : TaskId)
    (name : String)
    {actions : List Action}
    (hActions : arePaced actions = true) :
    bench.Calms (perform id name actions bench) := by
  induction actions generalizing bench with
  | nil =>
      exact
        (calms_update h (relieves_endRun _) id).frame rfl rfl
  | cons action rest ih =>
      unfold arePaced at hActions
      rcases Bool.and_eq_true_iff.mp hActions with
        ⟨hAction, hRest⟩
      have hActed := calms_act h (some id) hAction
      have hDrive := hActed.drive.trans hClock
      have hGoesOn (what : Note) :
          bench.Calms
            (perform id name rest
              ((bench.act (some id) action).1.note name
                what)) := by
        have hNoted :
            bench.Calms
              ((bench.act (some id) action).1.note name what) :=
          hActed.frame rfl rfl
        exact hNoted.trans (ih hDrive hNoted.paced hRest)
      cases action with
      | sleep span =>
          unfold perform
          dsimp only
          rw [hDrive]
          cases span with
          | zero =>
              exact hActed.trans (ih hDrive hActed.paced hRest)
          | succ span =>
              refine
                hActed.trans (calms_sleep hActed.paced hRest ?_)
              exact Nat.lt_add_of_pos_right (Nat.succ_pos span)
      | check =>
          unfold perform
          dsimp only
          split
          · refine hActed.trans ?_
            exact
              (calms_update hActed.paced (relieves_endRun _)
                id).frame rfl rfl
          · exact hGoesOn .goesOn
      | schedule repetition label period actions slot =>
          exact hGoesOn _
      | cancel label => exact hGoesOn _
      | clear slot => exact hGoesOn _
      | put label slot => exact hGoesOn _

/- A run that goes on was overdue, and is no longer. -/
theorem calms_wake
    (hClock : bench.scheduler.drive = .clock)
    (h : bench.IsPaced)
    {sleeper : Sleeper}
    {before others : List Sleeper}
    (hSplit : bench.sleepers = before ++ sleeper :: others)
    (hWakes : sleeper.wakes ≤ bench.scheduler.now) :
    let woken := { bench with sleepers := before ++ others }
    let later :=
      perform sleeper.task sleeper.name sleeper.rest woken
    bench.Calms later ∧ later.overdue < bench.overdue := by
  have hFewer :
      Bench.overdue { bench with sleepers := before ++ others } <
        bench.overdue := by
    refine Nat.add_lt_add_left ?_ _
    unfold overdueRuns
    dsimp only
    rw [hSplit, List.countP_append, List.countP_append,
      List.countP_cons, if_pos (by simpa using hWakes)]
    omega
  have hWoken :
      bench.Calms { bench with sleepers := before ++ others } := by
    refine ⟨rfl, rfl, ⟨h.tasks, ?_⟩, Nat.le_of_lt hFewer⟩
    intro other hMember
    apply h.sleepers
    rw [hSplit]
    rcases List.mem_append.mp hMember with hBefore | hOthers
    · exact List.mem_append_left _ hBefore
    · exact
        List.mem_append_right _ (List.mem_cons_of_mem _ hOthers)
  have hRest : arePaced sleeper.rest = true := by
    apply h.sleepers
    rw [hSplit]
    simp
  have hPerformed :=
    calms_perform (hWoken.drive.trans hClock) hWoken.paced
      sleeper.task sleeper.name hRest
  exact
    ⟨hWoken.trans hPerformed,
      Nat.lt_of_le_of_lt hPerformed.overdue hFewer⟩

/- A task that begins a run was due, and is no longer. -/
theorem calms_run
    (hClock : bench.scheduler.drive = .clock)
    (h : bench.IsPaced)
    {id : TaskId}
    (hDue : id ∈ bench.scheduler.dueTasks) :
    let later :=
      run
        { bench with scheduler := bench.scheduler.beginRun id }
        id
    bench.Calms later ∧ later.overdue < bench.overdue := by
  rcases exists_of_due hClock hDue with
    ⟨task, hTask, hTime, hRun⟩
  have hRelieves := relieves_beginRun bench.scheduler.now
  have hBegun :
      bench.Calms
        { bench with scheduler := bench.scheduler.beginRun id } :=
    calms_update h hRelieves id
  have hFewer :
      Bench.overdue
          { bench with scheduler := bench.scheduler.beginRun id } <
        bench.overdue := by
    refine Nat.add_lt_add_right ?_ _
    exact
      countP_modify_lt
        (fun task hMember =>
          hRelieves.due task (h.tasks task hMember).1)
        hTask hTime
  have hNoted :
      bench.Calms
        ((enter
              { bench with
                scheduler := bench.scheduler.beginRun id }
              (.began id task.job.name)).note
          task.job.name .run) :=
    hBegun.frame rfl rfl
  have hPerformed :=
    calms_perform (hNoted.drive.trans hClock) hNoted.paced id
      task.job.name
      (h.tasks task (List.mem_of_getElem? hTask)).2
  dsimp only
  rw [hRun]
  exact
    ⟨hNoted.trans hPerformed,
      Nat.lt_of_le_of_lt hPerformed.overdue hFewer⟩

/- Each thing that is done leaves fewer to be done by now. -/
theorem calms_happen
    (hClock : bench.scheduler.drive = .clock)
    (h : bench.IsPaced)
    {later : Bench}
    (hHappens : bench.happen? = some later) :
    bench.Calms later ∧ later.overdue < bench.overdue := by
  unfold happen? at hHappens
  split at hHappens
  · rename_i sleeper hFound
    cases hHappens
    rcases eraseP_of_find? hFound with
      ⟨hWakes, before, others, hSplit, hErased⟩
    rw [hErased]
    exact
      calms_wake hClock h hSplit (of_decide_eq_true hWakes)
  · rcases Option.map_eq_some_iff.mp hHappens with
      ⟨id, hDue, rfl⟩
    exact calms_run hClock h (List.mem_of_head? hDue)

/- Nothing is due until after a time. -/
structure IsCalmUntil (bench : Bench) (time : Millis) : Prop where
  tasks :
    ∀ id task due,
      bench.scheduler.task? id = some task →
        task.due? = some due → time < due
  sleepers : ∀ sleeper ∈ bench.sleepers, time < sleeper.wakes

theorem isCalmUntil_of_happen
    (hClock : bench.scheduler.drive = .clock)
    (hNone : bench.happen? = none) :
    bench.IsCalmUntil bench.scheduler.now := by
  unfold happen? at hNone
  split at hNone
  · cases hNone
  · rename_i hAsleep
    have hIdle : bench.scheduler.dueTasks = [] := by
      rw [← List.head?_eq_none_iff]
      exact Option.map_eq_none_iff.mp hNone
    constructor
    · intro id task due hTask hDue
      rw [← Nat.not_le]
      intro hPast
      have hMember : id ∈ bench.scheduler.dueTasks := by
        unfold Scheduler.dueTasks
        rw [hClock]
        exact
          Scheduler.mem_idsWhere.mpr
            ⟨task, hTask, by simpa [hDue] using hPast⟩
      rw [hIdle] at hMember
      cases hMember
    · intro sleeper hMember
      have hWakes := List.find?_eq_none.mp hAsleep sleeper hMember
      simpa using hWakes

/- As many things as are overdue, and all is done. -/
theorem calms_settleWithin
    (hClock : bench.scheduler.drive = .clock)
    (h : bench.IsPaced)
    {count : Nat}
    (hCount : bench.overdue ≤ count) :
    bench.Calms (bench.settleWithin count) ∧
      (bench.settleWithin count).happen? = none := by
  induction count generalizing bench with
  | zero =>
      refine ⟨.refl h, ?_⟩
      change bench.happen? = none
      cases hHappens : bench.happen? with
      | none => rfl
      | some later =>
          have hLess := (calms_happen hClock h hHappens).2
          exact
            absurd (Nat.lt_of_lt_of_le hLess hCount)
              (Nat.not_lt_zero _)
  | succ count ih =>
      unfold settleWithin
      split
      · rename_i hNone
        exact ⟨.refl h, hNone⟩
      · rename_i later hHappens
        rcases calms_happen hClock h hHappens with
          ⟨hCalms, hLess⟩
        rcases ih (hCalms.drive.trans hClock) hCalms.paced
            (Nat.le_of_lt_succ
              (Nat.lt_of_lt_of_le hLess hCount)) with
          ⟨hLater, hNone⟩
        exact ⟨hCalms.trans hLater, hNone⟩

theorem length_le_foldl
    {α : Type}
    (size : α → Nat)
    (items : List α)
    (start : Nat) :
    start + items.length ≤
      items.foldl (fun total item => total + 1 + size item)
        start := by
  induction items generalizing start with
  | nil => exact Nat.le_refl _
  | cons item items ih =>
      rw [List.foldl_cons, List.length_cons]
      have hRest := ih (start + 1 + size item)
      omega

/- The bound is large enough for all that is overdue. -/
theorem overdue_le_weight (bench : Bench) :
    bench.overdue ≤ bench.weight := by
  unfold overdue overdueTasks overdueRuns weight
  dsimp only
  have hTasks :=
    length_le_foldl (fun task : Task Script => task.job.weight)
      bench.scheduler.tasks 0
  have hRuns :=
    length_le_foldl (fun sleeper => weightAll sleeper.rest)
      bench.sleepers
      (bench.scheduler.tasks.foldl
        (fun total task => total + 1 + task.job.weight) 0)
  refine Nat.le_trans ?_ hRuns
  refine Nat.add_le_add ?_ List.countP_le_length
  refine Nat.le_trans List.countP_le_length ?_
  rw [Nat.zero_add] at hTasks
  exact hTasks

------------------------------------------------------------
-- Time
------------------------------------------------------------

/-
  A bench between two steps: all that happened is recorded, and
  all that was due by now is done.
-/
structure IsReady
    (bench : Bench)
    (orders : List (Millis × Action)) :
    Prop where
  recorded : bench.Recorded [] orders
  paced : bench.IsPaced
  calm : bench.IsCalmUntil bench.scheduler.now

theorem isReady_settle
    (h : bench.Recorded [] orders)
    (hPaced : bench.IsPaced) :
    bench.settle.IsReady orders ∧
      bench.settle.scheduler.now = bench.scheduler.now := by
  rcases calms_settleWithin h.clock hPaced
      bench.overdue_le_weight with
    ⟨hCalms, hNone⟩
  exact
    ⟨{ recorded := recorded_settleWithin h _
       paced := hCalms.paced
       calm :=
        isCalmUntil_of_happen (hCalms.drive.trans h.clock)
          hNone },
      hCalms.now⟩

/- An order is obeyed now. -/
theorem IsReady.order
    (h : bench.IsReady orders)
    {action : Action}
    (hPaced : action.isPaced = true) :
    (bench.order action).1.IsReady
        (orders ++ [(bench.scheduler.now, action)]) ∧
      (bench.order action).1.scheduler.now =
        bench.scheduler.now := by
  have hActed := calms_act h.paced none hPaced
  rcases isReady_settle (h.recorded.order action)
      hActed.paced with
    ⟨hReady, hNow⟩
  exact ⟨hReady, hNow.trans hActed.now⟩

theorem eq_nil_of_earliest?
    {times : List Millis}
    (hNone : earliest? times = none) :
    times = [] := by
  cases times with
  | nil => rfl
  | cons first rest =>
      unfold earliest? at hNone
      split at hNone
      · cases hNone
      · cases hNone

/- The least of some times comes after no other. -/
theorem le_of_earliest?
    {times : List Millis}
    {time : Millis}
    (hEarliest : earliest? times = some time) :
    ∀ other ∈ times, time ≤ other := by
  induction times generalizing time with
  | nil => cases hEarliest
  | cons first rest ih =>
      unfold earliest? at hEarliest
      intro other hMember
      split at hEarliest
      · rename_i hNone
        cases hEarliest
        rw [eq_nil_of_earliest? hNone] at hMember
        exact Nat.le_of_eq (List.mem_singleton.mp hMember).symm
      · rename_i least hLeast
        cases hEarliest
        rcases List.mem_cons.mp hMember with rfl | hRest
        · exact Nat.min_le_left _ _
        · exact
            Nat.le_trans (Nat.min_le_right _ _)
              (ih hLeast other hRest)

/- All times at which something is due or a run wakes. -/
def dues (bench : Bench) : List Millis :=
  bench.scheduler.tasks.filterMap Task.due? ++
    bench.sleepers.map Sleeper.wakes

theorem mem_dues {due : Millis} :
    due ∈ bench.dues ↔
      (∃ id task,
          bench.scheduler.task? id = some task ∧
            task.due? = some due) ∨
        ∃ sleeper ∈ bench.sleepers, sleeper.wakes = due := by
  unfold dues
  rw [List.mem_append, List.mem_filterMap, List.mem_map]
  refine or_congr_left ?_
  constructor
  · rintro ⟨task, hMember, hDue⟩
    rcases List.getElem?_of_mem hMember with ⟨id, hTask⟩
    exact ⟨id, task, hTask, hDue⟩
  · rintro ⟨id, task, hTask, hDue⟩
    exact ⟨task, List.mem_of_getElem? hTask, hDue⟩

theorem isCalmUntil_iff {time : Millis} :
    bench.IsCalmUntil time ↔ ∀ due ∈ bench.dues, time < due := by
  constructor
  · intro h due hMember
    rcases mem_dues.mp hMember with
      ⟨id, task, hTask, hDue⟩ | ⟨sleeper, hSleeper, rfl⟩
    · exact h.tasks id task due hTask hDue
    · exact h.sleepers sleeper hSleeper
  · intro h
    constructor
    · intro id task due hTask hDue
      exact h due (mem_dues.mpr (.inl ⟨id, task, hTask, hDue⟩))
    · intro sleeper hSleeper
      exact h _ (mem_dues.mpr (.inr ⟨sleeper, hSleeper, rfl⟩))

/- The next time at which something is due is the least. -/
theorem nextDue?_spec
    (hClock : bench.scheduler.drive = .clock) :
    (bench.nextDue? = none → bench.dues = []) ∧
      ∀ time,
        bench.nextDue? = some time →
          time ∈ bench.dues ∧ ∀ due ∈ bench.dues, time ≤ due := by
  unfold nextDue? dues Scheduler.nextDue?
  rw [hClock]
  dsimp only
  cases hTasks :
      earliest? (bench.scheduler.tasks.filterMap Task.due?) with
  | none =>
      rw [eq_nil_of_earliest? hTasks]
      exact
        ⟨eq_nil_of_earliest?, fun time hTime =>
          ⟨mem_of_earliest? hTime, le_of_earliest? hTime⟩⟩
  | some first =>
      constructor
      · intro hNone
        cases eq_nil_of_earliest? hNone
      · intro time hTime
        have hLeast := le_of_earliest? hTime
        constructor
        · rcases List.mem_cons.mp (mem_of_earliest? hTime) with
            rfl | hRest
          · exact List.mem_append_left _ (mem_of_earliest? hTasks)
          · exact List.mem_append_right _ hRest
        · intro due hMember
          rcases List.mem_append.mp hMember with hTask | hRuns
          · exact
              Nat.le_trans (hLeast first List.mem_cons_self)
                (le_of_earliest? hTasks due hTask)
          · exact hLeast due (List.mem_cons_of_mem _ hRuns)

/- Time passes up to the next thing that is due. -/
theorem Recorded.passes
    (h : bench.Recorded [] orders)
    {time : Millis}
    (hLater : bench.scheduler.now ≤ time)
    (hDues : ∀ due ∈ bench.dues, time ≤ due) :
    Recorded
      { bench with scheduler := bench.scheduler.setTime time }
      []
      orders where
  kept := by
    apply h.kept.passes hLater
    · intro id task due hTask hDue
      exact
        hDues due (mem_dues.mpr (.inl ⟨id, task, hTask, hDue⟩))
    · intro sleeper hSleeper
      exact hDues _ (mem_dues.mpr (.inr ⟨sleeper, hSleeper, rfl⟩))
  linked := h.linked.frame rfl rfl fun _ => rfl
  edges := h.edges
  orders := h.orders

/- No time passes on a bench on which nothing is due. -/
theorem advanceTo_of_none
    (hNever : bench.nextDue? = none)
    (last : Millis)
    (count : Nat) :
    timeline.advance last (count + 1) bench = bench := by
  have hNext : timeline.next? bench = none := hNever
  rw [Timeline.advance, hNext]

theorem advanceTo_of_some
    {time : Millis}
    (hTime : bench.nextDue? = some time)
    (last : Millis)
    (count : Nat) :
    timeline.advance last (count + 1) bench =
      if time ≤ last then
        timeline.advance last count (timeline.happen time bench)
      else
        bench := by
  have hNext : timeline.next? bench = some time := hTime
  rw [Timeline.advance, hNext]

/- All that is due up to a time is done, each at its time. -/
theorem IsReady.advanceTo
    (h : bench.IsReady orders)
    (last : Millis)
    (count : Nat)
    (hLast : bench.scheduler.now ≤ last)
    (hCount : last < bench.scheduler.now + count) :
    let later := timeline.advance last count bench
    later.IsReady orders ∧
      later.scheduler.now ≤ last ∧ later.IsCalmUntil last := by
  induction count generalizing bench with
  | zero => exact absurd hLast (Nat.not_le_of_lt hCount)
  | succ count ih =>
      rcases nextDue?_spec h.recorded.clock with ⟨hNever, hNext⟩
      dsimp only
      cases hTime : bench.nextDue? with
      | none =>
          rw [advanceTo_of_none hTime]
          refine ⟨h, hLast, isCalmUntil_iff.mpr ?_⟩
          rw [hNever hTime]
          exact fun _ hMember => nomatch hMember
      | some time =>
          rcases hNext time hTime with ⟨hMember, hLeast⟩
          rw [advanceTo_of_some hTime]
          split
          · rename_i hDue
            have hSince : bench.scheduler.now < time :=
              isCalmUntil_iff.mp h.calm time hMember
            have hPassed :=
              h.recorded.passes (Nat.le_of_lt hSince) hLeast
            rcases isReady_settle hPassed
                ⟨h.paced.tasks, h.paced.sleepers⟩ with
              ⟨hReady, hNow⟩
            apply ih hReady
            · exact Nat.le_trans (Nat.le_of_eq hNow) hDue
            · rw [hNow]
              have hNext :
                  bench.scheduler.now + 1 + count ≤ time + count :=
                Nat.add_le_add_right hSince count
              rw [Nat.add_assoc, Nat.add_comm 1] at hNext
              exact Nat.lt_of_lt_of_le hCount hNext
          · rename_i hLater
            refine ⟨h, hLast, isCalmUntil_iff.mpr ?_⟩
            intro due hDue
            exact
              Nat.lt_of_lt_of_le (Nat.lt_of_not_le hLater)
                (hLeast due hDue)

/- Time passes, and all that is due meanwhile is done. -/
theorem IsReady.advance
    (h : bench.IsReady orders)
    (span : Millis) :
    (bench.advance span).IsReady orders := by
  rcases h.advanceTo (bench.scheduler.now + span) (span + 1)
      (Nat.le_add_right _ _) (Nat.lt_succ_self _) with
    ⟨hReady, hNow, hCalm⟩
  have hDues := isCalmUntil_iff.mp hCalm
  exact
    { recorded :=
        hReady.recorded.passes hNow fun due hMember =>
          Nat.le_of_lt (hDues due hMember)
      paced := ⟨hReady.paced.tasks, hReady.paced.sleepers⟩
      calm := ⟨hCalm.tasks, hCalm.sleepers⟩ }

------------------------------------------------------------
-- Benches
------------------------------------------------------------

theorem isReady_empty : (empty .clock).IsReady [] where
  recorded := recorded_empty
  paced :=
    { tasks := fun _ hMember => nomatch hMember
      sleepers := fun _ hMember => nomatch hMember }
  calm :=
    { tasks := fun _ _ _ hTask => nomatch hTask
      sleepers := fun _ hMember => nomatch hMember }

/- All delays and pauses in a program are positive. -/
def ArePaced (orders : List Order) : Prop :=
  ∀ action, .act action ∈ orders → action.isPaced = true

/- A program is done as it says, and in its time. -/
theorem isReady_after
    {orders : List Order}
    (hPaced : ArePaced orders) :
    (after orders).IsReady (ordersOf orders) ∧
      (after orders).scheduler.now = timeOf orders := by
  induction orders with
  | nil => exact ⟨isReady_empty, rfl⟩
  | cons order orders ih =>
      rcases ih fun action hMember =>
          hPaced action (List.mem_cons_of_mem _ hMember) with
        ⟨hReady, hNow⟩
      cases order with
      | act action =>
          have hOrdered :=
            hReady.order (hPaced action List.mem_cons_self)
          rw [hNow] at hOrdered
          exact hOrdered
      | advance span =>
          refine ⟨hReady.advance span, ?_⟩
          exact congrArg (· + span) hNow

/-
  How tasks on a bench keep time. All that its record tells of
  them is right, and each action is linked to the tasks that it
  is about and that it cancels. The actions ordered from
  outside are those of the program, each at its time, and the
  log tells when runs began and ended. All that is due by now
  is done.
-/
structure KeepsTime (bench : Bench) (orders : List Order) :
    Prop where
  now : bench.scheduler.now = timeOf orders
  linked : Throughout IsLinked bench.record
  tasks : (bench.shift []).KeepsTime
  settled : (bench.shift []).Settled
  orders : ordersIn (journalOf bench.record) = ordersOf orders
  edges : edgesIn (journalOf bench.record) = bench.edges

/- Tasks on a bench keep time, whatever they do to each other. -/
theorem tasks_keep_time
    (orders : List Order)
    (hPaced : ArePaced orders) :
    (after orders).KeepsTime orders := by
  rcases isReady_after hPaced with ⟨hReady, hNow⟩
  exact
    { now := hNow
      linked := hReady.recorded.linked.linked
      tasks := hReady.recorded.kept.keepsTime
      settled := ⟨hReady.calm.tasks, hReady.calm.sleepers⟩
      orders := hReady.recorded.orders
      edges := hReady.recorded.edges }

/-
  A job that cancels itself in its first run, which goes on
  until it checks.
-/
theorem job_keeps_time :
    let job : Action :=
      .schedule .recurring "job" 3
        [.sleep 1, .cancel "job", .check] none
    let orders : List Order := [.advance 10, .act job]
    ArePaced orders ∧
      (after orders).KeepsTime orders ∧
        (after orders).scheduler.isFinished 0 = true ∧
          (after orders).edges =
            [(3, "job", true), (4, "job", false)] := by
  intro job orders
  have hPaced : ArePaced orders := by
    intro action hMember
    simp only [orders, List.mem_cons, reduceCtorEq,
      Order.act.injEq, List.not_mem_nil, or_false,
      false_or] at hMember
    rw [hMember]
    rfl
  exact
    ⟨hPaced, tasks_keep_time orders hPaced, by decide +kernel,
      by decide +kernel⟩

end Bench

end BrainLink
