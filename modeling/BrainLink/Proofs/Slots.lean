import BrainLink.Connection.Resume
import BrainLink.Proofs.Listening

/-
  Which tasks a connection holds in its slots, and which it
  has cancelled.

  Key definitions include:
    * `Task.Suits`
    * `Ledger`
    * `Connection.Tidy`

  Main statements:
    * `Ledger.install`
    * `Connection.tidy_new`
    * `Connection.Tidy.clear`
    * `Connection.Tidy.schedule`
    * `Connection.Tidy.goOffline`
    * `Connection.Tidy.goOnline`
    * `Connection.Tidy.unique`

  In a tidy connection a task is held in the slot of its job
  or cancelled, never both and never neither, and a closed
  connection holds none.
-/

namespace BrainLink

------------------------------------------------------------
-- Jobs
------------------------------------------------------------

/- A task is scheduled as its job and a configuration say. -/
structure Task.Suits
    (task : Task Job)
    (config : Config) : Prop where
  repetition : task.repetition = task.job.repetition
  period : task.period = task.job.period config
  positive : task.period ≠ 0

------------------------------------------------------------
-- Ledgers
------------------------------------------------------------

/-
  Every task suits the configuration, a task is held by the
  slot of its job exactly if it was not cancelled, and a slot
  holds tasks of its own job.
-/
structure Ledger
    (config : Config)
    (tasks : Scheduler Job)
    (slots : Job → Slot) : Prop where
  suits :
    ∀ id task,
      tasks.task? id = some task → task.Suits config
  held :
    ∀ id task,
      tasks.task? id = some task →
        (slots task.job = some id ↔ task.cancelled = false)
  known :
    ∀ job id,
      slots job = some id →
        ∃ task, tasks.task? id = some task ∧ task.job = job

namespace Ledger

variable {config : Config}
variable {tasks : Scheduler Job}
variable {slots : Job → Slot}

/- What a released slot does to a task that is there. -/
theorem exists_of_task?_release
    {slot : Slot}
    {id : TaskId}
    {task : Task Job}
    (hTask : (slot.release tasks).task? id = some task) :
    ∃ old,
      tasks.task? id = some old ∧
        (slot = some id ∧
            task = { old with cancelled := true } ∨
          slot ≠ some id ∧ task = old) := by
  rw [Slot.task?_release] at hTask
  by_cases hHeld : slot = some id
  · rw [if_pos hHeld] at hTask
    rcases Option.map_eq_some_iff.mp hTask with
      ⟨old, hOld, hEq⟩
    exact ⟨old, hOld, Or.inl ⟨hHeld, hEq.symm⟩⟩
  · rw [if_neg hHeld] at hTask
    exact ⟨task, hTask, Or.inr ⟨hHeld, rfl⟩⟩

/- Emptying a slot cancels the one task that it held. -/
theorem release
    (h : Ledger config tasks slots)
    (job : Job) :
    Ledger config ((slots job).release tasks)
      (fun other =>
        if other = job then none else slots other) := by
  constructor
  · intro id task hTask
    rcases exists_of_task?_release hTask with
      ⟨old, hOld, ⟨-, rfl⟩ | ⟨-, rfl⟩⟩
    · have hSuits := h.suits id old hOld
      exact
        ⟨hSuits.repetition, hSuits.period, hSuits.positive⟩
    · exact h.suits id task hOld
  · intro id task hTask
    rcases exists_of_task?_release hTask with
      ⟨old, hOld, ⟨hHeld, rfl⟩ | ⟨hHeld, rfl⟩⟩
    · rcases h.known job id hHeld with ⟨same, hSame, hJob⟩
      rw [hOld] at hSame
      cases hSame
      simp [hJob]
    · by_cases hJob : task.job = job
      · have hTaskHeld := h.held id task hOld
        rw [hJob] at hTaskHeld
        simp [hJob, ← hTaskHeld, hHeld]
      · simpa [hJob] using h.held id task hOld
  · intro other id hSlot
    split at hSlot
    · cases hSlot
    · rcases h.known other id hSlot with ⟨old, hOld, hJob⟩
      rw [Slot.task?_release, hOld]
      by_cases hHeld : slots job = some id
      · exact ⟨_, if_pos hHeld, hJob⟩
      · exact ⟨old, if_neg hHeld, hJob⟩

/- A new task of a job goes into the slot that waits for it. -/
theorem add
    (h : Ledger config tasks slots)
    (job : Job)
    (hEmpty : slots job = none)
    (hPeriod : job.period config ≠ 0) :
    Ledger config
      (tasks.add job.repetition (job.period config) job)
      (fun other =>
        if other = job then
          some tasks.nextId
        else
          slots other) := by
  have hOld :
      ∀ other id,
        slots other = some id → id ≠ tasks.nextId := by
    intro other id hSlot hNext
    rcases h.known other id hSlot with ⟨task, hTask, -⟩
    rw [hNext, Scheduler.task?_nextId] at hTask
    cases hTask
  constructor
  · intro id task hTask
    rw [Scheduler.task?_add] at hTask
    split at hTask
    · cases hTask
      exact ⟨rfl, rfl, hPeriod⟩
    · exact h.suits id task hTask
  · intro id task hTask
    rw [Scheduler.task?_add] at hTask
    split at hTask
    · rename_i hNext
      cases hTask
      simp [hNext]
    · rename_i hNext
      rw [← h.held id task hTask]
      by_cases hJob : task.job = job
      · simp [hJob, hEmpty, Ne.symm hNext]
      · simp [hJob]
  · intro other id hSlot
    rw [Scheduler.task?_add]
    split at hSlot
    · rename_i hJob
      cases hSlot
      exact ⟨_, if_pos rfl, hJob.symm⟩
    · rcases h.known other id hSlot with ⟨task, hTask, hJob⟩
      exact
        ⟨task, by rw [if_neg (hOld other id hSlot), hTask],
          hJob⟩

/- A ledger only looks at the tasks by their names. -/
theorem congr
    {other : Scheduler Job}
    (h : Ledger config tasks slots)
    (hSame : ∀ id, other.task? id = tasks.task? id) :
    Ledger config other slots where
  suits id task hTask :=
    h.suits id task ((hSame id).symm.trans hTask)
  held id task hTask :=
    h.held id task ((hSame id).symm.trans hTask)
  known job id hSlot := by
    rcases h.known job id hSlot with ⟨task, hTask, hJob⟩
    exact ⟨task, (hSame id).trans hTask, hJob⟩

/- Nor does a ledger look at stages. -/
theorem update
    (h : Ledger config tasks slots)
    {change : Task Job → Task Job}
    (hChange : Task.Restages change)
    (id : TaskId) :
    Ledger config (tasks.update id change) slots where
  suits other task hTask := by
    rcases Scheduler.exists_of_task?_update hChange hTask with
      ⟨old, stage, hOld, rfl, -⟩
    have hSuits := h.suits other old hOld
    exact ⟨hSuits.repetition, hSuits.period, hSuits.positive⟩
  held other task hTask := by
    rcases Scheduler.exists_of_task?_update hChange hTask with
      ⟨old, stage, hOld, rfl, -⟩
    exact h.held other old hOld
  known job other hSlot := by
    rcases h.known job other hSlot with ⟨old, hOld, hJob⟩
    rcases Scheduler.exists_task?_update hChange id hOld with
      ⟨stage, hNew⟩
    exact ⟨_, hNew, hJob⟩

/-
  A new task of a job may also be added first, and cancel
  after that what its slot held.
-/
theorem install
    (h : Ledger config tasks slots)
    (job : Job)
    (hPeriod : job.period config ≠ 0) :
    Ledger config
      ((slots job).release
        (tasks.add job.repetition (job.period config) job))
      (fun other =>
        if other = job then
          some tasks.nextId
        else
          slots other) := by
  have hNextId :
      ((slots job).release tasks).nextId = tasks.nextId := by
    cases slots job with
    | none => rfl
    | some id =>
        simp [Slot.release, Scheduler.cancel,
          Scheduler.update, Scheduler.nextId]
  have hNow :
      ((slots job).release tasks).now = tasks.now := by
    cases slots job <;> rfl
  have hFresh : slots job ≠ some tasks.nextId := by
    intro hHeld
    rcases h.known job _ hHeld with ⟨task, hTask, -⟩
    rw [Scheduler.task?_nextId] at hTask
    cases hTask
  have hAdded :=
    (h.release job).add job (if_pos rfl) hPeriod
  rw [hNextId] at hAdded
  have hSlots :
      (fun other : Job =>
        if other = job then
          some tasks.nextId
        else if other = job then none else slots other) =
      fun other =>
        if other = job then
          some tasks.nextId
        else
          slots other := by
    funext other
    by_cases hJob : other = job
    · simp [hJob]
    · simp [hJob]
  rw [hSlots] at hAdded
  apply hAdded.congr
  intro id
  rw [Slot.task?_release, Scheduler.task?_add,
    Scheduler.task?_add, Slot.task?_release, hNextId]
  by_cases hNext : id = tasks.nextId
  · subst hNext
    simp [hFresh, hNow]
  · simp [hNext]

end Ledger

------------------------------------------------------------
-- Tidiness
------------------------------------------------------------

namespace Connection

/-
  A tidy connection keeps its configuration, its books are in
  order, and once it is closed it has nothing scheduled.
-/
structure Tidy
    (config : Config)
    (connection : Connection) : Prop where
  sameConfig : connection.config = config
  delay : config.connectDelay ≠ 0
  ledger : Ledger config connection.tasks connection.slots
  hushed :
    connection.isClosed = true →
      ∀ job, connection.slots job = none

/- A valid configuration has a delay. -/
theorem connectDelay_ne_zero
    {config : Config}
    (hValid : config.validate = .ok ()) :
    config.connectDelay ≠ 0 := by
  intro hDelay
  have hFault :
      (config.connectDelay == 0,
        "Connect delay must be greater than 0") ∈
        config.faults := by
    simp [Config.faults]
  unfold Config.validate at hValid
  split at hValid
  · rename_i hNone
    have hFree := List.find?_eq_none.mp hNone _ hFault
    simp [hDelay] at hFree
  · cases hValid

/- A new connection is tidy. -/
theorem tidy_new
    {config : Config}
    {drive : Drive}
    {connection : Connection}
    (hNew : Connection.new config drive = .ok connection) :
    connection.Tidy config := by
  unfold Connection.new at hNew
  split at hNew
  · cases hNew
  · rename_i hValid
    cases hNew
    refine ⟨rfl, connectDelay_ne_zero hValid, ?_, ?_⟩
    · refine ⟨?_, ?_, ?_⟩
      · intro id task hTask
        simp [Scheduler.task?, Scheduler.empty] at hTask
      · intro id task hTask
        simp [Scheduler.task?, Scheduler.empty] at hTask
      · intro job id hSlot
        cases job with
        | connect => cases hSlot
        | checkHealth => cases hSlot
    · intro hClosed
      cases hClosed

namespace Tidy

variable {config : Config}
variable {before after connection : Connection}

/- Tidiness only looks at the books and who closed them. -/
theorem congr
    (h : before.Tidy config)
    (hConfig : after.config = before.config)
    (hTasks :
      ∀ id, after.tasks.task? id = before.tasks.task? id)
    (hSlots : after.slots = before.slots)
    (hClosed : after.isClosed = before.isClosed) :
    after.Tidy config where
  sameConfig := hConfig.trans h.sameConfig
  delay := h.delay
  ledger := by
    rw [hSlots]
    exact h.ledger.congr hTasks
  hushed hState := by
    rw [hSlots]
    exact h.hushed (hClosed.symm.trans hState)

/- A task of a job is cancelled, and leaves its slot. -/
theorem clear
    (h : connection.Tidy config)
    (job : Job) :
    (connection.clear job).Tidy config := by
  refine ⟨h.sameConfig, h.delay, ?_, ?_⟩
  · rw [slots_clear]
    exact h.ledger.release job
  · intro hClosed other
    rw [slots_clear]
    simp [h.hushed hClosed other]

theorem clearSlots
    (h : connection.Tidy config) :
    connection.clearSlots.Tidy config :=
  (h.clear .checkHealth).clear .connect

/- Nothing is left in a slot. -/
theorem slots_clearSlots (job : Job) :
    connection.clearSlots.slots job = none := by
  cases job <;> rfl

theorem shut
    (h : connection.Tidy config) :
    connection.shut.Tidy config :=
  ⟨h.sameConfig, h.delay, h.clearSlots.ledger,
    fun _ => slots_clearSlots⟩

theorem drop
    (h : connection.Tidy config) :
    connection.drop.Tidy config :=
  h.clearSlots.congr rfl (fun _ => rfl) rfl rfl

/- What is written down does not matter. -/
theorem record
    (h : connection.Tidy config)
    (effect : Effect) :
    (connection.record effect).Tidy config :=
  h.congr rfl (fun _ => rfl) rfl rfl

/- Nor do the stages of tasks. -/
theorem restage
    (h : connection.Tidy config)
    {change : Task Job → Task Job}
    (hChange : Task.Restages change)
    (id : TaskId) :
    Tidy config
      { connection with
        tasks := connection.tasks.update id change } :=
  ⟨h.sameConfig, h.delay, h.ledger.update hChange id,
    h.hushed⟩

/- A closed connection drops what it has scheduled. -/
theorem schedule
    (h : connection.Tidy config)
    (job : Job)
    (hPeriod : job.period config ≠ 0) :
    (connection.schedule job).Tidy config := by
  have hLedger :
      Ledger config (connection.install job).tasks
        (connection.install job).slots := by
    have hInstalled := h.ledger.install job hPeriod
    rw [slots_install]
    rw [← h.sameConfig] at hInstalled ⊢
    exact hInstalled
  unfold Connection.schedule
  dsimp only
  split
  · rename_i hClosed
    -- The books are in order before the task is dropped
    -- again, though the slot is not yet as it should be.
    have hOpened :
        { connection.install job with
          isClosed := false }.Tidy config :=
      ⟨h.sameConfig, h.delay, hLedger, nofun⟩
    refine ⟨h.sameConfig, h.delay, (hOpened.clear job).ledger, ?_⟩
    intro _ other
    rw [slots_clear, slots_install]
    dsimp only
    split
    · rfl
    · exact h.hushed hClosed other
  · rename_i hOpen
    exact
      ⟨h.sameConfig, h.delay, hLedger,
        fun hClosed => absurd hClosed hOpen⟩

theorem scheduleConnect
    (h : connection.Tidy config) :
    connection.scheduleConnect.Tidy config :=
  h.schedule .connect h.delay

theorem scheduleCheck
    (h : connection.Tidy config) :
    connection.scheduleCheck.Tidy config := by
  rw [scheduleCheck_eq]
  split
  · rename_i hChecks
    refine h.schedule .checkHealth ?_
    rw [h.sameConfig] at hChecks
    change config.checkInterval ≠ 0
    simpa [Config.checksHealth] using hChecks
  · exact h

end Tidy

------------------------------------------------------------
-- Going Online and Offline
------------------------------------------------------------

/- Listeners leave a connection tidy. -/
theorem steadfast_tidy (config : Config) :
    Steadfast (Tidy config) where
  note hNotes h := by
    cases hNotes with
    | intro registry names closings journal hRequests =>
        exact h.congr rfl (fun _ => rfl) rfl rfl
  start _ h := h.scheduleConnect

namespace Tidy

variable {config : Config}
variable {connection : Connection}

theorem bare
    (h : connection.Tidy config) :
    connection.bare.Tidy config :=
  (h.clear .checkHealth).congr rfl (fun _ => rfl) rfl rfl

theorem stayOffline
    (h : connection.Tidy config) :
    connection.stayOffline.Tidy config :=
  h.congr rfl (fun _ => rfl) rfl rfl

theorem closeNow
    {world : World}
    {offline : Connection → Connection}
    (hOffline :
      ∀ other, Tidy config other → Tidy config (offline other))
    (h : connection.Tidy config) :
    (connection.closeNow world offline).Tidy config := by
  apply closeNow_cases
  · exact fun _ => h
  · exact fun _ _ => hOffline _ h.shut.bare
  · exact fun _ _ _ _ _ _ => hOffline _ (h.shut.record _).bare
  · exact fun _ _ _ _ _ => h.shut.record _

theorem goOffline
    (h : connection.Tidy config)
    (world : World) :
    (connection.goOffline world).Tidy config := by
  cases hFlag : connection.session.isConnected with
  | false =>
      rw [goOffline_of_down hFlag]
      exact h.stayOffline
  | true =>
      rw [goOffline_of_up hFlag]
      apply (steadfast_tidy config).announce
      · intro current hCurrent
        exact
          hCurrent.closeNow fun _ hOther => hOther.stayOffline
      · exact h.stayOffline

theorem goOnline
    (h : connection.Tidy config)
    (world : World) :
    (connection.goOnline world).Tidy config := by
  have hRaised :
      { connection with
        session :=
          connection.session.setConnected true }.Tidy config :=
    h.congr rfl (fun _ => rfl) rfl rfl
  unfold Connection.goOnline Connection.setConnected
  dsimp only
  split
  · exact hRaised
  · apply (steadfast_tidy config).announce
    · intro current hCurrent
      exact hCurrent.closeNow fun _ hOther =>
        hOther.goOffline world
    · exact hRaised

end Tidy

------------------------------------------------------------
-- Consequences
------------------------------------------------------------

namespace Tidy

variable {config : Config}
variable {connection : Connection}

/- A task is held by its slot unless it was cancelled. -/
theorem slots_eq_iff
    (h : connection.Tidy config)
    {id : TaskId}
    {task : Task Job}
    (hTask : connection.tasks.task? id = some task) :
    connection.slots task.job = some id ↔
      task.cancelled = false :=
  h.ledger.held id task hTask

/- What a closed connection had scheduled was cancelled. -/
theorem cancelled_of_isClosed
    (h : connection.Tidy config)
    (hClosed : connection.isClosed = true)
    {id : TaskId}
    {task : Task Job}
    (hTask : connection.tasks.task? id = some task) :
    task.cancelled = true := by
  cases hCancelled : task.cancelled with
  | true => rfl
  | false =>
      have hHeld := (h.slots_eq_iff hTask).mpr hCancelled
      rw [h.hushed hClosed] at hHeld
      cases hHeld

/- So one that was not cancelled tells that it is open. -/
theorem isClosed_of_calm
    (h : connection.Tidy config)
    {id : TaskId}
    {task : Task Job}
    (hTask : connection.tasks.task? id = some task)
    (hCalm : connection.isCancelled id = false) :
    connection.isClosed = false := by
  cases hClosed : connection.isClosed with
  | false => rfl
  | true =>
      have hCancelled := h.cancelled_of_isClosed hClosed hTask
      rw [Connection.isCancelled,
        Scheduler.isCancelled_of_task? hTask, hCancelled]
        at hCalm
      cases hCalm

/- The attempt in the connect slot was not cancelled. -/
theorem exists_of_connect
    (h : connection.Tidy config)
    {id : TaskId}
    (hHeld : connection.session.connect = some id) :
    ∃ task,
      connection.tasks.task? id = some task ∧
        task.job = .connect ∧
          task.cancelled = false := by
  rcases h.ledger.known .connect id hHeld with
    ⟨task, hTask, hJob⟩
  have hSlot : connection.slots task.job = some id := by
    rw [hJob]
    exact hHeld
  exact ⟨task, hTask, hJob, (h.slots_eq_iff hTask).mp hSlot⟩

/- And an attempt that was not cancelled is in the slot. -/
theorem connect_of_calm
    (h : connection.Tidy config)
    {id : TaskId}
    {task : Task Job}
    (hTask : connection.tasks.task? id = some task)
    (hJob : task.job = .connect)
    (hCalm : connection.isCancelled id = false) :
    connection.session.connect = some id := by
  rw [Connection.isCancelled,
    Scheduler.isCancelled_of_task? hTask] at hCalm
  have hSlot := (h.slots_eq_iff hTask).mpr hCalm
  rw [hJob] at hSlot
  exact hSlot

/- No job has two tasks that were not cancelled. -/
theorem unique
    (h : connection.Tidy config)
    {first second : TaskId}
    {one other : Task Job}
    (hOne : connection.tasks.task? first = some one)
    (hOther : connection.tasks.task? second = some other)
    (hJob : one.job = other.job)
    (hFirst : one.cancelled = false)
    (hSecond : other.cancelled = false) :
    first = second := by
  have hHeld := (h.slots_eq_iff hOne).mpr hFirst
  rw [hJob, (h.slots_eq_iff hOther).mpr hSecond] at hHeld
  cases hHeld
  rfl

end Tidy

end Connection

end BrainLink
