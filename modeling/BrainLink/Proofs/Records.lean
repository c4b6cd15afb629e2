import BrainLink.Proofs.Shifts
import Mathlib.Data.List.Induction

/-
  What the record of a bench tells of its tasks.

  Key definitions include:
    * `Activity.incidents`
    * `journalOf`
    * `Handle`
    * `taskIn`
    * `IsLinked`
    * `Bench.Linked`
    * `Bench.shift`

  Main statements:
    * `taskIn_lt`
    * `Bench.Linked.act`
    * `Bench.kept_apply`

  A record tells which task an action is about: the next one if
  it is scheduled, or else the one that a name or a slot stands
  for by all that was entered before. So a record tells of the
  tasks what is noted of those of a shift.
-/

namespace BrainLink

/- What happened so far, and when. -/
abbrev Record :=
  List (Millis × Activity)

------------------------------------------------------------
-- Journals of records
------------------------------------------------------------

/- What an action schedules, if it does. -/
def Action.plan? : Action → Option Plan
| .schedule repetition _ period actions _ =>
    some ⟨repetition, period, actions⟩
| _ => none

/- An action is ordered from outside, or done by a run. -/
def Incident.ofAction (action : Action) :
    Option TaskId → Incident
| none => .ordered action
| some id => .did id action

/- What comes of an action: a task is new, or is cancelled. -/
def effects
    (action : Action)
    (subject stopped : Option TaskId) :
    List Incident :=
  (action.plan?.bind fun plan =>
      subject.map fun id => .scheduled id plan).toList ++
    stopped.toList.map .cancelled

/- What is noted when something happens. -/
def Activity.incidents : Activity → List Incident
| .acted runner action subject stopped =>
    .ofAction action runner :: effects action subject stopped
| .began id name => [.began id name]
| .ended id name => [.ended id name]

/- Some incidents at one time. -/
def notedAt (time : Millis) (incidents : List Incident) :
    Journal :=
  incidents.map fun incident => (time, incident)

/- What is noted of tasks in all that happened. -/
def journalOf (record : Record) : Journal :=
  record.flatMap fun entry => notedAt entry.1 entry.2.incidents

theorem journalOf_snoc
    (record : Record)
    (time : Millis)
    (activity : Activity) :
    journalOf (record ++ [(time, activity)]) =
      journalOf record ++ notedAt time activity.incidents := by
  unfold journalOf
  rw [List.flatMap_append, List.flatMap_singleton]

------------------------------------------------------------
-- Names and slots
------------------------------------------------------------

/-
  What can stand for a task: a name, for the latest task that
  was scheduled under it or for the one that is kept under it,
  and a slot.
-/
inductive Handle where
| latest (name : String)
| kept (name : String)
| slot (slot : SlotName)

namespace Activity

/- The task that an action is about. -/
def subject? : Activity → Option TaskId
| .acted _ _ subject _ => subject
| _ => none

/- The task that is cancelled. -/
def stopped? : Activity → Option TaskId
| .acted _ _ _ stopped => stopped
| _ => none

/- Whether a task is scheduled. -/
def isNew : Activity → Bool
| .acted _ action _ _ => action.plan?.isSome
| _ => false

/- The task for which a handle stands afterwards. -/
def fill (before : Option TaskId) :
    Handle → Activity → Option TaskId
| .latest name, .acted _ (.schedule _ other _ _ _) subject _ =>
    if other = name then subject else before
| .kept name, .acted _ (.schedule _ other _ _ none) subject _ =>
    if other = name then subject else before
| .kept name, .acted _ (.put other _) _ _ =>
    if other = name then none else before
| .slot slot,
    .acted _ (.schedule _ _ _ _ (some other)) subject _ =>
    if other = slot then subject else before
| .slot slot, .acted _ (.clear other) _ _ =>
    if other = slot then none else before
| .slot slot, .acted _ (.put _ other) (some id) _ =>
    if other = slot then some id else before
| _, _ => before

/- Whether a run begins or ends. -/
def isRun : Activity → Bool
| .acted _ _ _ _ => false
| _ => true

theorem isNew_of_isRun
    {activity : Activity}
    (hRun : activity.isRun = true) :
    activity.isNew = false := by
  cases activity with
  | acted runner action subject stopped => cases hRun
  | began id name => rfl
  | ended id name => rfl

theorem fill_of_isRun
    {activity : Activity}
    (hRun : activity.isRun = true)
    (before : Option TaskId)
    (handle : Handle) :
    activity.fill before handle = before := by
  unfold fill
  cases activity with
  | acted runner action subject stopped => cases hRun
  | began id name => simp
  | ended id name => simp

/- A handle stands for the same task, for another, or for none. -/
theorem mem_fill
    {activity : Activity}
    {handle : Handle}
    {before : Option TaskId}
    {id : TaskId}
    (hMember : id ∈ activity.fill before handle) :
    id ∈ before ∨ id ∈ activity.subject? := by
  have hEither
      {condition : Prop}
      [Decidable condition]
      {other : Option TaskId}
      (hFound : id ∈ if condition then other else before) :
      id ∈ before ∨ id ∈ other := by
    split at hFound
    · exact .inr hFound
    · exact .inl hFound
  unfold fill at hMember
  split at hMember
  · exact hEither hMember
  · exact hEither hMember
  · exact (hEither hMember).imp_right nofun
  · exact hEither hMember
  · exact (hEither hMember).imp_right nofun
  · exact hEither hMember
  · exact .inl hMember

end Activity

/- The task for which a handle stands by what happened. -/
def taskIn (record : Record) (handle : Handle) : Option TaskId :=
  record.foldl (fun before entry => entry.2.fill before handle)
    none

/- How many tasks were scheduled. -/
def scheduledIn (record : Record) : Nat :=
  record.countP fun entry => entry.2.isNew

/- Whether a task was cancelled. -/
def stopsIn (record : Record) (id : TaskId) : Bool :=
  record.any fun entry => entry.2.stopped? == some id

/- The task kept under a name, or else the latest of the name. -/
def findIn (record : Record) (name : String) : Option TaskId :=
  match taskIn record (.kept name) with
  | some id => some id
  | none => taskIn record (.latest name)

/- The task that an action is about. -/
def subjectIn (record : Record) : Action → Option TaskId
| .schedule _ _ _ _ _ => some (scheduledIn record)
| .cancel name => findIn record name
| .put name _ => taskIn record (.kept name)
| _ => none

/-
  The task that an action cancels: the one of its name, or the
  one that leaves its slot.
-/
def targetIn (record : Record) : Action → Option TaskId
| .schedule _ _ _ _ slot =>
    slot.bind fun slot => taskIn record (.slot slot)
| .cancel name => findIn record name
| .clear slot => taskIn record (.slot slot)
| .put name slot =>
    (taskIn record (.kept name)).bind fun _ =>
      taskIn record (.slot slot)
| _ => none

/-
  An action is linked to its tasks if it is about the one that
  its name stands for, and cancels just the one that it is to,
  unless that was cancelled before.
-/
def IsLinked (early : Record) : Millis × Activity → Prop
| (_, .acted _ action subject stopped) =>
    subject = subjectIn early action ∧
      stopped =
        (targetIn early action).filter fun id =>
          !stopsIn early id
| _ => True

section Records

variable {record : Record}

theorem taskIn_snoc
    (record : Record)
    (entry : Millis × Activity)
    (handle : Handle) :
    taskIn (record ++ [entry]) handle =
      entry.2.fill (taskIn record handle) handle :=
  List.foldl_append

theorem scheduledIn_snoc
    (record : Record)
    (entry : Millis × Activity) :
    scheduledIn (record ++ [entry]) =
      scheduledIn record + if entry.2.isNew then 1 else 0 := by
  unfold scheduledIn
  rw [List.countP_append, List.countP_singleton]

theorem cancelled_mem_incidents
    {activity : Activity}
    {id : TaskId} :
    .cancelled id ∈ activity.incidents ↔
      activity.stopped? = some id := by
  cases activity with
  | acted runner action subject stopped =>
      unfold Activity.incidents effects
      have hNew :
          .cancelled id ∉
            (action.plan?.bind fun plan =>
              subject.map fun id =>
                Incident.scheduled id plan).toList := by
        cases action.plan? with
        | none => simp
        | some plan => simp
      have hFirst :
          .cancelled id ≠ Incident.ofAction action runner := by
        cases runner with
        | none => exact nofun
        | some runner => exact nofun
      rw [List.mem_cons, List.mem_append, or_iff_right hFirst,
        or_iff_right hNew]
      cases stopped with
      | none => simp [Activity.stopped?]
      | some other =>
          simp [Activity.stopped?, eq_comm]
  | began runner name =>
      simp [Activity.incidents, Activity.stopped?]
  | ended runner name =>
      simp [Activity.incidents, Activity.stopped?]

/- What was cancelled was noted. -/
theorem stopsIn_iff {id : TaskId} :
    stopsIn record id = true ↔ Cancels (journalOf record) id := by
  unfold stopsIn Cancels journalOf notedAt
  rw [List.any_eq_true]
  constructor
  · rintro ⟨entry, hMember, hStops⟩
    refine ⟨entry.1, List.mem_flatMap.mpr ⟨_, hMember, ?_⟩⟩
    refine List.mem_map.mpr ⟨.cancelled id, ?_, rfl⟩
    exact cancelled_mem_incidents.mpr (beq_iff_eq.mp hStops)
  · rintro ⟨time, hMember⟩
    rcases List.mem_flatMap.mp hMember with
      ⟨entry, hEntry, hIncident⟩
    rcases List.mem_map.mp hIncident with
      ⟨incident, hCancelled, hSame⟩
    cases hSame
    refine ⟨entry, hEntry, ?_⟩
    exact beq_iff_eq.mpr (cancelled_mem_incidents.mp hCancelled)

theorem mem_findIn
    {name : String}
    {id : TaskId}
    (hFound : id ∈ findIn record name) :
    id ∈ taskIn record (.kept name) ∨
      id ∈ taskIn record (.latest name) := by
  unfold findIn at hFound
  split at hFound
  · rename_i hKept
    exact .inl (hKept.trans hFound)
  · exact .inr hFound

/- Whatever a handle stands for was scheduled. -/
theorem taskIn_lt
    (h : Throughout IsLinked record)
    {handle : Handle}
    {id : TaskId}
    (hTask : id ∈ taskIn record handle) :
    id < scheduledIn record := by
  induction record using List.reverseRecOn generalizing handle with
  | nil => cases hTask
  | append_singleton record entry ih =>
      rcases throughout_snoc_iff.mp h with ⟨hBefore, hLast⟩
      have hOld
          {handle : Handle}
          (hFound : id ∈ taskIn record handle) :
          id < scheduledIn (record ++ [entry]) := by
        rw [scheduledIn_snoc]
        exact Nat.lt_add_right _ (ih hBefore hFound)
      rw [taskIn_snoc] at hTask
      rcases Activity.mem_fill hTask with hFound | hSubject
      · exact hOld hFound
      · rcases entry with ⟨time, activity⟩
        cases activity with
        | acted runner action subject stopped =>
            have hSame : subject = subjectIn record action :=
              hLast.1
            change id ∈ subject at hSubject
            rw [hSame] at hSubject
            cases action with
            | schedule repetition name period actions slot =>
                cases hSubject
                rw [scheduledIn_snoc]
                exact Nat.lt_succ_self _
            | cancel name =>
                rcases mem_findIn hSubject with hKept | hLatest
                · exact hOld hKept
                · exact hOld hLatest
            | put name slot => exact hOld hSubject
            | _ => cases hSubject
        | _ => cases hSubject

theorem targetIn_lt
    (h : Throughout IsLinked record)
    {action : Action}
    {id : TaskId}
    (hTarget : targetIn record action = some id) :
    id < scheduledIn record := by
  cases action with
  | schedule repetition name period actions slot =>
      rcases Option.bind_eq_some_iff.mp hTarget with
        ⟨other, -, hFound⟩
      exact taskIn_lt h hFound
  | cancel name =>
      rcases mem_findIn hTarget with hKept | hLatest
      · exact taskIn_lt h hKept
      · exact taskIn_lt h hLatest
  | clear slot => exact taskIn_lt h hTarget
  | put name slot =>
      rcases Option.bind_eq_some_iff.mp hTarget with
        ⟨kept, -, hFound⟩
      exact taskIn_lt h hFound
  | _ => cases hTarget

end Records

------------------------------------------------------------
-- Benches
------------------------------------------------------------

namespace Bench

variable {bench : Bench}

/- What is left alone by all that takes no time. -/
structure Frames (before after : Bench) : Prop where
  now : after.scheduler.now = before.scheduler.now
  sleepers : after.sleepers = before.sleepers
  log : after.log = before.log
  record : after.record = before.record

theorem now_release
    (slot : Slot)
    (scheduler : Scheduler Script) :
    (slot.release scheduler).now = scheduler.now := by
  cases slot with
  | none => rfl
  | some id => rfl

/- Whatever a name stands for is cancelled as from a slot. -/
theorem cancel_eq (bench : Bench) (name : String) :
    (bench.cancel name).1 =
      { bench with
        scheduler :=
          Slot.release (bench.find? name) bench.scheduler } := by
  unfold cancel
  cases bench.find? name with
  | none => rfl
  | some id => rfl

theorem frames_refill
    (bench : Bench)
    (name : SlotName)
    (value : Slot) :
    bench.Frames (bench.refill name value) := by
  have hNow := now_release (bench.slot name) bench.scheduler
  cases name with
  | connect => exact ⟨hNow, rfl, rfl, rfl⟩
  | check => exact ⟨hNow, rfl, rfl, rfl⟩

theorem frames_apply (bench : Bench) (action : Action) :
    bench.Frames (bench.apply action).1 := by
  cases action with
  | sleep span => exact ⟨rfl, rfl, rfl, rfl⟩
  | check => exact ⟨rfl, rfl, rfl, rfl⟩
  | schedule repetition name period actions slot =>
      cases slot with
      | none => exact ⟨rfl, rfl, rfl, rfl⟩
      | some slot =>
          have hFrames :=
            frames_refill
              { bench with
                scheduler :=
                  bench.scheduler.add repetition period
                    ⟨name, actions⟩
                named :=
                  bind name bench.scheduler.nextId bench.named }
              slot (some bench.scheduler.nextId)
          exact
            ⟨hFrames.now, hFrames.sleepers, hFrames.log,
              hFrames.record⟩
  | cancel name =>
      change bench.Frames (bench.cancel name).1
      rw [cancel_eq]
      exact ⟨now_release _ _, rfl, rfl, rfl⟩
  | clear slot => exact frames_refill _ slot _
  | put name slot =>
      unfold apply put
      dsimp only
      cases bench.kept.lookup name with
      | none => exact ⟨rfl, rfl, rfl, rfl⟩
      | some id =>
          have hFrames :=
            frames_refill
              { bench with
                kept :=
                  bench.kept.filter fun entry =>
                    entry.1 != name }
              slot (some id)
          exact
            ⟨hFrames.now, hFrames.sleepers, hFrames.log,
              hFrames.record⟩

/- The task for which a handle stands. -/
def taskAt (bench : Bench) : Handle → Option TaskId
| .latest name => bench.named.lookup name
| .kept name => bench.kept.lookup name
| .slot slot => bench.slot slot

theorem lookup_filter
    {α : Type}
    (entries : List (String × α))
    (name other : String) :
    (entries.filter fun entry => entry.1 != name).lookup other =
      if name = other then none else entries.lookup other := by
  induction entries with
  | nil =>
      split
      · rfl
      · rfl
  | cons entry entries ih =>
      rw [List.filter_cons]
      by_cases hEntry : entry.1 = name
      · rw [if_neg (by simpa using hEntry), ih, List.lookup_cons]
        by_cases hOther : name = other
        · rw [if_pos hOther, if_pos hOther]
        · have hMissed : (other == entry.1) = false := by
            rw [hEntry]
            exact beq_eq_false_iff_ne.mpr (Ne.symm hOther)
          rw [hMissed, if_neg hOther]
      · rw [if_pos (by simpa using hEntry), List.lookup_cons,
          List.lookup_cons, ih]
        by_cases hOther : name = other
        · have hMissed : (other == entry.1) = false := by
            rw [← hOther]
            exact beq_eq_false_iff_ne.mpr (Ne.symm hEntry)
          rw [hMissed, if_pos hOther]
        · rw [if_neg hOther, if_neg hOther]

theorem lookup_bind
    {α : Type}
    (name : String)
    (value : α)
    (entries : List (String × α))
    (other : String) :
    (bind name value entries).lookup other =
      if name = other then
        some value
      else
        entries.lookup other := by
  unfold bind
  rw [List.lookup_cons, lookup_filter]
  by_cases hOther : name = other
  · simp [hOther]
  · have hMissed : (other == name) = false :=
      beq_eq_false_iff_ne.mpr (Ne.symm hOther)
    rw [hMissed, if_neg hOther, if_neg hOther]

theorem taskAt_refill
    (bench : Bench)
    (name : SlotName)
    (value : Slot)
    (handle : Handle) :
    (bench.refill name value).taskAt handle =
      match handle with
      | .slot slot =>
          if name = slot then value else bench.slot slot
      | other => bench.taskAt other := by
  cases handle with
  | latest label =>
      cases name with
      | connect => rfl
      | check => rfl
  | kept label =>
      cases name with
      | connect => rfl
      | check => rfl
  | slot slot =>
      cases name with
      | connect =>
          cases slot with
          | connect => rfl
          | check => rfl
      | check =>
          cases slot with
          | connect => rfl
          | check => rfl

/- For what a handle stands after an action. -/
theorem taskAt_apply
    (bench : Bench)
    (action : Action)
    (runner stopped : Option TaskId)
    (handle : Handle) :
    (bench.apply action).1.taskAt handle =
      (Activity.acted runner action (bench.subject? action)
            stopped).fill
        (bench.taskAt handle) handle := by
  cases action with
  | sleep span =>
      cases handle with
      | latest other => rfl
      | kept other => rfl
      | slot other => rfl
  | check =>
      cases handle with
      | latest other => rfl
      | kept other => rfl
      | slot other => rfl
  | schedule repetition name period actions slot =>
      cases slot with
      | none =>
          cases handle with
          | latest other => exact lookup_bind ..
          | kept other => exact lookup_bind ..
          | slot other => rfl
      | some slot =>
          refine (taskAt_refill ..).trans ?_
          cases handle with
          | latest other => exact lookup_bind ..
          | kept other => rfl
          | slot other => rfl
  | cancel name =>
      change (bench.cancel name).1.taskAt handle = _
      rw [cancel_eq]
      cases handle with
      | latest other => rfl
      | kept other => rfl
      | slot other => rfl
  | clear slot =>
      refine (taskAt_refill ..).trans ?_
      cases handle with
      | latest other => rfl
      | kept other => rfl
      | slot other => rfl
  | put name slot =>
      change
        (bench.put name slot).1.taskAt handle =
          (Activity.acted runner (.put name slot)
                (bench.kept.lookup name) stopped).fill
            (bench.taskAt handle) handle
      unfold put
      cases hKept : bench.kept.lookup name with
      | none =>
          cases handle with
          | latest other => rfl
          | kept other =>
              change bench.kept.lookup other = ite _ _ _
              split
              · rename_i hSame
                rw [← hSame]
                exact hKept
              · rfl
          | slot other => rfl
      | some id =>
          refine (taskAt_refill ..).trans ?_
          cases handle with
          | latest other => rfl
          | kept other => exact lookup_filter ..
          | slot other => rfl

/- The scheduler once an action has added its task, if it does. -/
def added (bench : Bench) : Action → Scheduler Script
| .schedule repetition name period actions _ =>
    bench.scheduler.add repetition period ⟨name, actions⟩
| _ => bench.scheduler

/- An action adds a task and then cancels another. -/
theorem scheduler_apply (bench : Bench) (action : Action) :
    (bench.apply action).1.scheduler =
      Slot.release (bench.target? action)
        (bench.added action) := by
  cases action with
  | sleep span => rfl
  | check => rfl
  | schedule repetition name period actions slot =>
      cases slot with
      | none => rfl
      | some slot => rfl
  | cancel name =>
      change (bench.cancel name).1.scheduler = _
      rw [cancel_eq]
      rfl
  | clear slot => rfl
  | put name slot =>
      change
        (bench.put name slot).1.scheduler =
          Slot.release
            ((bench.kept.lookup name).bind fun _ =>
              bench.slot slot)
            bench.scheduler
      unfold put
      cases bench.kept.lookup name with
      | none => rfl
      | some id => rfl

theorem nextId_release
    (slot : Slot)
    (scheduler : Scheduler Script) :
    (slot.release scheduler).nextId = scheduler.nextId := by
  cases slot with
  | none => rfl
  | some id => exact List.length_modify ..

theorem nextId_apply (bench : Bench) (action : Action) :
    (bench.apply action).1.scheduler.nextId =
      bench.scheduler.nextId +
        if action.plan?.isSome then 1 else 0 := by
  rw [scheduler_apply, nextId_release]
  cases action with
  | schedule repetition name period actions slot =>
      exact List.length_append
  | _ => rfl

------------------------------------------------------------
-- Links
------------------------------------------------------------

/-
  A bench is linked to its record if each action is, and if
  names and slots stand for the tasks that the record says.
-/
structure Linked (bench : Bench) : Prop where
  linked : Throughout IsLinked bench.record
  count : bench.scheduler.nextId = scheduledIn bench.record
  handles :
    ∀ handle, bench.taskAt handle = taskIn bench.record handle

theorem Linked.find?_eq (h : bench.Linked) (name : String) :
    bench.find? name = findIn bench.record name := by
  have hKept : bench.kept.lookup name = _ := h.handles (.kept name)
  have hLatest : bench.named.lookup name = _ :=
    h.handles (.latest name)
  cases hTask : taskIn bench.record (.kept name) with
  | none => simp [find?, findIn, hKept, hLatest, hTask]
  | some id => simp [find?, findIn, hKept, hTask]

theorem Linked.subject?_eq (h : bench.Linked) (action : Action) :
    bench.subject? action = subjectIn bench.record action := by
  cases action with
  | schedule repetition name period actions slot =>
      exact congrArg some h.count
  | cancel name => exact h.find?_eq name
  | put name slot => exact h.handles (.kept name)
  | _ => rfl

theorem Linked.target?_eq (h : bench.Linked) (action : Action) :
    bench.target? action = targetIn bench.record action := by
  have hSlot (slot : SlotName) :
      bench.slot slot = taskIn bench.record (.slot slot) :=
    h.handles (.slot slot)
  cases action with
  | schedule repetition name period actions slot =>
      cases slot with
      | none => rfl
      | some slot => exact hSlot slot
  | cancel name => exact h.find?_eq name
  | clear slot => exact hSlot slot
  | put name slot =>
      have hKept : bench.kept.lookup name = _ :=
        h.handles (.kept name)
      change
        ((bench.kept.lookup name).bind fun _ =>
            bench.slot slot) =
          (taskIn bench.record (.kept name)).bind fun _ =>
            taskIn bench.record (.slot slot)
      rw [hKept, hSlot]
  | _ => rfl

/- Whatever an action cancels is there. -/
theorem Linked.exists_target
    (h : bench.Linked)
    {action : Action}
    {id : TaskId}
    (hTarget : bench.target? action = some id) :
    ∃ task, bench.scheduler.task? id = some task := by
  rw [h.target?_eq] at hTarget
  have hLess := targetIn_lt h.linked hTarget
  rw [← h.count] at hLess
  exact ⟨_, List.getElem?_eq_getElem hLess⟩

/- Nothing is linked but tasks by their count, names and slots. -/
theorem Linked.frame
    (h : bench.Linked)
    {later : Bench}
    (hRecord : later.record = bench.record)
    (hNext : later.scheduler.nextId = bench.scheduler.nextId)
    (hHandles :
      ∀ handle, later.taskAt handle = bench.taskAt handle) :
    later.Linked := by
  refine ⟨?_, ?_, fun handle => ?_⟩
  · rw [hRecord]
    exact h.linked
  · rw [hRecord, hNext]
    exact h.count
  · rw [hRecord, hHandles]
    exact h.handles handle

/- The beginning or the end of a run is linked to nothing. -/
theorem Linked.enter
    (h : bench.Linked)
    {activity : Activity}
    (hRun : activity.isRun = true) :
    (bench.enter activity).Linked := by
  refine ⟨h.linked.snoc ?_, ?_, fun handle => ?_⟩
  · cases activity with
    | acted runner action subject stopped => cases hRun
    | began id name => trivial
    | ended id name => trivial
  · refine h.count.trans ?_
    refine Eq.symm ((scheduledIn_snoc _ _).trans ?_)
    rw [Activity.isNew_of_isRun hRun]
    rfl
  · refine (h.handles handle).trans ?_
    refine Eq.symm ((taskIn_snoc _ _ _).trans ?_)
    exact Activity.fill_of_isRun hRun _ handle

/- What is entered into the record of an action. -/
def entered
    (bench : Bench)
    (runner : Option TaskId)
    (action : Action) :
    Activity :=
  .acted runner action (bench.subject? action)
    ((bench.target? action).filter fun id =>
      !bench.scheduler.isCancelled id)

theorem record_act
    (bench : Bench)
    (runner : Option TaskId)
    (action : Action) :
    (bench.act runner action).1.record =
      bench.record ++
        [(bench.scheduler.now, bench.entered runner action)] :=
  (frames_apply _ action).record

/- An action is linked to its tasks by the record. -/
theorem Linked.act
    (h : bench.Linked)
    (hStopped :
      ∀ id,
        bench.scheduler.isCancelled id =
          stopsIn bench.record id)
    (runner : Option TaskId)
    (action : Action) :
    (bench.act runner action).1.Linked := by
  refine ⟨?_, ?_, fun handle => ?_⟩
  · rw [record_act]
    refine h.linked.snoc ⟨h.subject?_eq action, ?_⟩
    rw [← h.target?_eq]
    refine congrArg (Option.filter · (bench.target? action)) ?_
    exact funext fun id => congrArg (!·) (hStopped id)
  · rw [record_act, scheduledIn_snoc, ← h.count]
    exact nextId_apply _ action
  · rw [record_act, taskIn_snoc, ← h.handles]
    exact taskAt_apply _ action _ _ handle

------------------------------------------------------------
-- Shifts
------------------------------------------------------------

/- A bench as a shift, with the runs that go on. -/
def shift (bench : Bench) (active : List Sleeper) : Shift where
  scheduler := bench.scheduler
  workers := active ++ bench.sleepers
  journal := journalOf bench.record

end Bench

/- An update that leaves its task as it is changes nothing. -/
theorem Scheduler.update_eq_self
    {J : Type}
    {scheduler : Scheduler J}
    {id : TaskId}
    {change : Task J → Task J}
    (hSame :
      ∀ task,
        scheduler.task? id = some task → change task = task) :
    scheduler.update id change = scheduler := by
  have hTasks :
      scheduler.tasks.modify id change = scheduler.tasks := by
    apply List.ext_getElem?
    intro other
    rw [List.getElem?_modify]
    by_cases hOther : id = other
    · subst hOther
      cases hTask : scheduler.tasks[id]? with
      | none => rfl
      | some task => simp [hSame task hTask]
    · simp [hOther]
  unfold update
  rw [hTasks]

/- A task is cancelled, and that is noted if it was not before. -/
theorem Shift.Kept.releases
    {shift : Shift}
    (h : shift.Kept)
    {target : Slot}
    (hThere :
      ∀ id,
        target = some id →
          ∃ task, shift.scheduler.task? id = some task) :
    Kept
      { shift with
        scheduler := target.release shift.scheduler
        journal :=
          shift.journal ++
            notedAt shift.now
              ((target.filter fun id =>
                    !shift.scheduler.isCancelled id).toList.map
                .cancelled) } := by
  cases target with
  | none =>
      change Kept { shift with journal := shift.journal ++ [] }
      rw [List.append_nil]
      exact h
  | some id =>
      rcases hThere id rfl with ⟨task, hTask⟩
      have hFound := Scheduler.isCancelled_of_task? hTask
      cases hCancelled : task.cancelled with
      | false =>
          rw [hCancelled] at hFound
          rw [Option.filter_some, hFound]
          exact h.cancels hTask hCancelled
      | true =>
          have hSame :
              shift.scheduler.cancel id = shift.scheduler := by
            refine Scheduler.update_eq_self fun other hOther => ?_
            cases hTask.symm.trans hOther
            rw [← hCancelled]
          rw [hCancelled] at hFound
          rw [Option.filter_some, hFound]
          change
            Kept
              { shift with
                scheduler := shift.scheduler.cancel id
                journal := shift.journal ++ [] }
          rw [hSame, List.append_nil]
          exact h

namespace Bench

variable {bench : Bench}

/- A task that is added changes none that was there. -/
theorem task?_added
    {id : TaskId}
    {task : Task Script}
    (hTask : bench.scheduler.task? id = some task)
    (action : Action) :
    (bench.added action).task? id = some task := by
  cases action with
  | schedule repetition name period actions slot =>
      refine (Scheduler.task?_add ..).trans ?_
      rw [if_neg, hTask]
      rintro rfl
      rw [Scheduler.task?_nextId] at hTask
      cases hTask
  | _ => exact hTask

theorem isCancelled_added (action : Action) (id : TaskId) :
    (bench.added action).isCancelled id =
      bench.scheduler.isCancelled id := by
  cases action with
  | schedule repetition name period actions slot =>
      unfold added Scheduler.isCancelled
      dsimp only
      rw [Scheduler.task?_add]
      by_cases hNext : id = bench.scheduler.nextId
      · rw [hNext, if_pos rfl, Scheduler.task?_nextId]
      · rw [if_neg hNext]
  | _ => rfl

theorem now_added (bench : Bench) (action : Action) :
    (bench.added action).now = bench.scheduler.now := by
  cases action with
  | _ => rfl

/- What comes of an action is noted of the shift. -/
theorem kept_apply
    (bench : Bench)
    (action : Action)
    {workers : List Sleeper}
    {journal : Journal}
    (h : Shift.Kept ⟨bench.scheduler, workers, journal⟩)
    (hThere :
      ∀ id,
        bench.target? action = some id →
          ∃ task, bench.scheduler.task? id = some task) :
    Shift.Kept
      ⟨(bench.apply action).1.scheduler,
        workers,
        journal ++
          notedAt bench.scheduler.now
            (effects action (bench.subject? action)
              ((bench.target? action).filter fun id =>
                !bench.scheduler.isCancelled id))⟩ := by
  let plans : List Incident :=
    (action.plan?.bind fun plan =>
      (bench.subject? action).map fun id =>
        .scheduled id plan).toList
  have hAdded :
      Shift.Kept
        ⟨bench.added action, workers,
          journal ++ notedAt bench.scheduler.now plans⟩ := by
    cases action with
    | schedule repetition name period actions slot =>
        exact h.adds repetition period ⟨name, actions⟩
    | _ =>
        change Shift.Kept ⟨_, _, journal ++ []⟩
        rw [List.append_nil]
        exact h
  have hStill :
      ∀ id,
        bench.target? action = some id →
          ∃ task, (bench.added action).task? id = some task := by
    intro id hTarget
    rcases hThere id hTarget with ⟨task, hTask⟩
    exact ⟨task, task?_added hTask action⟩
  have hReleased := hAdded.releases hStill
  have hStopped :
      (fun id => !(bench.added action).isCancelled id) =
        fun id => !bench.scheduler.isCancelled id :=
    funext fun id => congrArg (!·) (isCancelled_added action id)
  unfold Shift.now at hReleased
  dsimp only at hReleased
  rw [hStopped, now_added, List.append_assoc,
    ← scheduler_apply] at hReleased
  unfold effects notedAt
  rw [List.map_append]
  exact hReleased

end Bench

end BrainLink
