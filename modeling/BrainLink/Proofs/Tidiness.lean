import BrainLink.Proofs.Course

/-
  Whatever happens to a connection leaves it tidy.

  Main statements:
    * `Connection.Tidy.runJob`
    * `Connection.Tidy.resume`
    * `Connection.Tidy.obey`
    * `Situation.tidy_after`
    * `tidy_replay`
    * `each_task_held_or_cancelled`

  Each function of a connection is built from a few that are
  known to leave it tidy, so its lemma follows its branches.
-/

namespace BrainLink

namespace Connection

------------------------------------------------------------
-- Beginnings
------------------------------------------------------------

/- A connection with a new transport, on its way to connect. -/
def equip (connection : Connection) : Connection :=
  { connection with
    session :=
      { connection.session with
        state := .connecting
        transport := some (connection.transports + 1) }
    transports := connection.transports + 1 }.record
    (.resolved
      connection.config.brainHost
      connection.config.brainPort)

/- How an attempt begins, in one piece. -/
theorem beginAttempt_eq
    (world : World)
    (task : TaskId)
    (connection : Connection) :
    connection.beginAttempt world task =
      let offline := connection.goOffline world
      if world.creates then
        match world.address with
        | none => (offline.equip.goOffline world, .over)
        | some address =>
            offline.equip.useAddress world task
              (offline.transports + 1) address
      else
        failAttempt world task
          (Cause.ofFailure creationDisabled)
          { offline with
            session :=
              { offline.session with
                state := .connecting } } := by
  unfold beginAttempt createTransport
  cases hCreates : world.creates with
  | false => rfl
  | true =>
      cases world.address with
      | none => rfl
      | some address => rfl

namespace Tidy

variable {config : Config}
variable {connection : Connection}

------------------------------------------------------------
-- Attempts
------------------------------------------------------------

/- Only the slots of a session matter. -/
theorem withSession
    (h : connection.Tidy config)
    (session : Session)
    (hConnect : session.connect = connection.session.connect)
    (hCheck : session.check = connection.session.check) :
    Tidy config { connection with session := session } := by
  have hSlots :
      { connection with session := session }.slots =
        connection.slots := by
    funext job
    cases job with
    | connect => exact hConnect
    | checkHealth => exact hCheck
  exact h.congr rfl (fun _ => rfl) hSlots rfl

theorem start
    (h : connection.Tidy config) :
    connection.start.Tidy config := by
  unfold Connection.start
  split
  · exact h
  · exact h.scheduleConnect

theorem failAttempt
    (h : connection.Tidy config)
    (world : World)
    (task : TaskId)
    (cause : Cause) :
    (connection.failAttempt world task
      cause).1.Tidy config := by
  unfold Connection.failAttempt
  dsimp only
  split
  · exact h.goOffline world
  · exact (h.goOffline world).scheduleConnect

theorem sendRegistration
    (h : connection.Tidy config)
    (world : World)
    (task : TaskId)
    (transport : TransportId) :
    (connection.sendRegistration world task transport).1.Tidy
      config := by
  unfold Connection.sendRegistration
  split
  · exact h.failAttempt world task _
  · exact h.record _

theorem replaceRegistration
    (h : connection.Tidy config)
    (world : World)
    (task : TaskId)
    (transport : TransportId) :
    (connection.replaceRegistration world task transport).1.Tidy
      config := by
  unfold Connection.replaceRegistration
  split
  · exact (h.clear .checkHealth).failAttempt world task _
  · exact (h.clear .checkHealth).sendRegistration world task
      transport
  · exact h.record _

theorem useAddress
    (h : connection.Tidy config)
    (world : World)
    (task : TaskId)
    (transport : TransportId)
    (address : Address) :
    (connection.useAddress world task transport address).1.Tidy
      config := by
  unfold Connection.useAddress
  split
  · exact h.failAttempt world task _
  · rename_i url hUrl
    have hNamed := h.withSession
      { connection.session with callbackUrl := some url }
      rfl rfl
    dsimp only
    split
    · exact hNamed.failAttempt world task _
    · exact hNamed.replaceRegistration world task transport

theorem equip
    (h : connection.Tidy config) :
    connection.equip.Tidy config :=
  h.congr rfl (fun _ => rfl) rfl rfl

theorem beginAttempt
    (h : connection.Tidy config)
    (world : World)
    (task : TaskId) :
    (connection.beginAttempt world task).1.Tidy config := by
  rw [beginAttempt_eq]
  split
  · split
    · exact (h.goOffline world).equip.goOffline world
    · exact (h.goOffline world).equip.useAddress world task _ _
  · have hConnecting :=
      (h.goOffline world).withSession
        { (connection.goOffline world).session with
          state := .connecting } rfl rfl
    exact hConnecting.failAttempt world task _

theorem afterUnregister
    (h : connection.Tidy config)
    (world : World)
    (task : TaskId)
    (transport : TransportId)
    (answer : Http.Answer) :
    (connection.afterUnregister world task transport
      answer).1.Tidy config := by
  unfold Connection.afterUnregister
  dsimp only
  split
  · exact (h.clear .checkHealth).failAttempt world task _
  · exact (h.clear .checkHealth).sendRegistration world task
      transport

theorem afterRegister
    (h : connection.Tidy config)
    (world : World)
    (task : TaskId)
    (transport : TransportId)
    (answer : Http.Answer) :
    (connection.afterRegister world task transport
      answer).1.Tidy config := by
  unfold Connection.afterRegister
  split
  · exact h.failAttempt world task _
  · split
    · exact h.failAttempt world task _
    · exact h.record _

theorem afterKeys
    (h : connection.Tidy config)
    (world : World)
    (task : TaskId)
    (answer : Http.Answer) :
    (connection.afterKeys world task answer).1.Tidy config := by
  have hKeys :
      Tidy config
        { connection with
          keys :=
            (KeyCache.update connection.keys answer).1 } :=
    h.congr rfl (fun _ => rfl) rfl rfl
  unfold Connection.afterKeys
  dsimp only
  split
  · exact hKeys.failAttempt world task _
  · split
    · exact hKeys.failAttempt world task _
    · have hOnline := hKeys.goOnline world
      split
      · exact (hOnline.goOffline world).failAttempt world task _
      · exact hOnline.scheduleCheck

------------------------------------------------------------
-- Jobs and Commands
------------------------------------------------------------

theorem runJob
    (h : connection.Tidy config)
    (world : World)
    (task : TaskId) :
    (connection.runJob world task).1.Tidy config := by
  unfold Connection.runJob
  split
  · exact h
  · exact h.beginAttempt world task
  · unfold beginCheck
    split
    · exact h
    · exact h.record _

theorem afterProbe
    (h : connection.Tidy config)
    (world : World)
    (task : TaskId)
    (isReachable : Bool) :
    (connection.afterProbe world task isReachable).1.Tidy
      config := by
  unfold Connection.afterProbe
  split
  · exact h
  · exact ((h.goOffline world).clear .checkHealth).scheduleConnect

theorem askInSession
    (h : connection.Tidy config)
    (request : Http.Request)
    (errand : TransportId → Errand) :
    (connection.askInSession request errand).1.Tidy config := by
  unfold Connection.askInSession
  split
  · exact h
  · exact h.record _

theorem askAnew
    (h : connection.Tidy config)
    (world : World)
    (endpoint : Endpoint)
    (errand : Errand) :
    (Connection.askAnew world connection endpoint errand).1.Tidy
      config := by
  unfold Connection.askAnew createTransport
  cases hCreates : world.creates with
  | false => exact h
  | true =>
      have hMade :
          Tidy config
            { connection with
              transports := connection.transports + 1 } :=
        h.congr rfl (fun _ => rfl) rfl rfl
      exact hMade.record _

theorem endClose
    (h : connection.Tidy config)
    (world : World) :
    (connection.endClose (Connection.goOffline world)).Tidy
      config := by
  rw [endClose_eq]
  exact h.bare.goOffline world

theorem beginClose
    (h : connection.Tidy config)
    (world : World) :
    (connection.beginClose world).1.Tidy config := by
  unfold Connection.beginClose
  split
  · exact h
  · dsimp only
    split
    · exact h.shut.record _
    · exact h.shut.endClose world

theorem obey
    (h : connection.Tidy config)
    (world : World)
    (command : Command) :
    (connection.obey world command).1.Tidy config := by
  cases command with
  | close => exact h.beginClose world
  | notify message =>
      change (connection.beginNotify message).1.Tidy config
      unfold beginNotify
      split
      · exact h.askInSession _ _
      · exact h
  | executeRecipe key on =>
      change (connection.beginRecipe key on).1.Tidy config
      unfold beginRecipe
      split
      · exact h
      · exact h.askInSession _ _
  | systemInfo => exact h.askAnew world _ _
  | blinkLed => exact h.askAnew world _ _
  | logHtml => exact h.askAnew world _ _

theorem afterListing
    (h : connection.Tidy config)
    (transport : TransportId)
    (key : String)
    (on : Bool)
    (answer : Http.Answer) :
    (connection.afterListing transport key on answer).1.Tidy
      config := by
  unfold Connection.afterListing
  split
  · exact h
  · split
    · exact h
    · split
      · exact h
      · exact h.record _

theorem resume
    (h : connection.Tidy config)
    (world : World)
    (errand : Errand)
    (answer : Http.Answer) :
    (connection.resume world errand answer).1.Tidy config := by
  cases errand with
  | unregistering task transport =>
      exact h.afterUnregister world task transport answer
  | registering task transport =>
      exact h.afterRegister world task transport answer
  | fetchingKeys task transport =>
      exact h.afterKeys world task answer
  | closing => exact h.endClose world
  | notifying => exact h
  | listingRecipes transport key on =>
      exact h.afterListing transport key on answer
  | runningRecipe => exact h
  | readingInfo => exact h
  | blinking => exact h
  | readingLog => exact h

------------------------------------------------------------
-- Runs and Listeners
------------------------------------------------------------

theorem beginRun
    (h : connection.Tidy config)
    (task : TaskId) :
    (connection.beginRun task).Tidy config := by
  unfold Connection.beginRun
  split
  · exact h
  · exact h.restage Scheduler.restages_beginRun task

theorem endRun
    (h : connection.Tidy config)
    (task : TaskId) :
    (connection.endRun task).Tidy config :=
  h.restage (Scheduler.restages_endRun _) task

theorem notice
    (h : connection.Tidy config)
    (task : TaskId) :
    (connection.notice task).Tidy config := by
  apply h.restage
  intro other
  unfold Task.noticed
  split
  · exact ⟨.over, rfl⟩
  · exact ⟨other.stage, rfl⟩

theorem attend
    (h : connection.Tidy config)
    (change : Audience) :
    (connection.attend change).Tidy config := by
  cases change with
  | remove name =>
      change (connection.removeListener name).1.Tidy config
      unfold removeListener
      split
      · exact h
      · exact h.congr rfl (fun _ => rfl) rfl rfl
  | add watcher => exact h.congr rfl (fun _ => rfl) rfl rfl
  | subscribe => exact h.congr rfl (fun _ => rfl) rfl rfl
  | closeChannel id => exact h.congr rfl (fun _ => rfl) rfl rfl
  | drain id => exact h.congr rfl (fun _ => rfl) rfl rfl
  | closingsMade => exact h.congr rfl (fun _ => rfl) rfl rfl

end Tidy

end Connection

------------------------------------------------------------
-- Courses
------------------------------------------------------------

/- What comes of a step is as tidy as what the step leaves. -/
theorem Situation.tidy_proceed
    {config : Config}
    {step : Connection × Progress}
    (h : step.1.Tidy config)
    (waiting : List Question)
    (task? : Option TaskId) :
    (proceed waiting task? step).connection.Tidy config := by
  unfold proceed
  split
  · exact h
  · exact h
  · split
    · exact h
    · exact h.endRun _

/- One occurrence leaves a tidy connection tidy. -/
theorem Situation.tidy_after
    {config : Config}
    {situation : Situation}
    (h : situation.connection.Tidy config)
    (occurrence : Occurrence) :
    (situation.after occurrence).connection.Tidy config := by
  cases occurrence with
  | start =>
      simp only [after]
      split
      · exact h.start
      · exact h
  | command world command =>
      simp only [after]
      split
      · exact tidy_proceed (h.obey world command) _ _
      · exact h
  | drop =>
      simp only [after]
      split
      · exact h
      · exact h.drop
  | run world task =>
      simp only [after]
      split
      · exact
          tidy_proceed ((h.beginRun task).runJob world task) _ _
      · exact h
  | notice task => exact h.notice task
  | setTime time => exact h.congr rfl (fun _ => rfl) rfl rfl
  | answer world request errand answer =>
      simp only [after]
      split
      · exact tidy_proceed (h.resume world errand answer) _ _
      · exact h
  | probe world task isReachable =>
      simp only [after]
      split
      · exact
          tidy_proceed (h.afterProbe world task isReachable) _ _
      · exact h
  | listen change => exact h.attend change

/- So a connection is tidy in the whole course of it. -/
theorem tidy_replay
    {config : Config}
    {drive : Drive}
    {connection : Connection}
    (hNew : Connection.new config drive = .ok connection)
    (past : List Occurrence) :
    (replay connection past).connection.Tidy config := by
  induction past with
  | nil => exact Connection.tidy_new hNew
  | cons occurrence past ih =>
      exact Situation.tidy_after ih occurrence

/-
  In the whole course of a connection, each task that was
  ever scheduled is the one that the slot of its job holds or
  was cancelled, never both, so no job has two tasks that
  were not cancelled. Each attempt has the delay of the
  configuration and each health check its interval, and
  neither is zero.
-/
theorem each_task_held_or_cancelled
    {config : Config}
    {drive : Drive}
    {connection : Connection}
    (hNew : Connection.new config drive = .ok connection)
    (past : List Occurrence) :
    let now := (replay connection past).connection
    (∀ id task,
        now.tasks.task? id = some task →
          (now.slots task.job = some id ↔
            now.isCancelled id = false)) ∧
      (∀ first second one other,
        now.tasks.task? first = some one →
          now.tasks.task? second = some other →
            one.job = other.job →
              now.isCancelled first = false →
                now.isCancelled second = false →
                  first = second) ∧
      (∀ id task,
        now.tasks.task? id = some task →
          task.repetition = task.job.repetition ∧
            task.period = task.job.period config ∧
              0 < task.period) := by
  intro now
  have hTidy : now.Tidy config := tidy_replay hNew past
  refine ⟨?_, ?_, ?_⟩
  · intro id task hTask
    rw [Connection.isCancelled,
      Scheduler.isCancelled_of_task? hTask]
    exact hTidy.slots_eq_iff hTask
  · intro first second one other hOne hOther hJob
    unfold Connection.isCancelled
    rw [Scheduler.isCancelled_of_task? hOne,
      Scheduler.isCancelled_of_task? hOther]
    exact hTidy.unique hOne hOther hJob
  · intro id task hTask
    have hSuits := hTidy.ledger.suits id task hTask
    exact
      ⟨hSuits.repetition, hSuits.period,
        Nat.pos_of_ne_zero hSuits.positive⟩

/- Started twice, a connection cancels its first attempt. -/
theorem cancelled_of_started_twice :
    let now := replay Sample.connection [.start, .start]
    now.connection.isCancelled 0 = true ∧
      now.connection.isCancelled 1 = false := by
  have hJobs :
      let now := replay Sample.connection [.start, .start]
      (now.connection.tasks.task? 0).map Task.job =
          some .connect ∧
        (now.connection.tasks.task? 1).map Task.job =
          some .connect ∧
        now.connection.slots .connect = some 1 := by
    decide +kernel
  rcases hJobs with ⟨hFirst, hSecond, hSlot⟩
  rcases Option.map_eq_some_iff.mp hFirst with
    ⟨first, hFirst, hFirstJob⟩
  rcases Option.map_eq_some_iff.mp hSecond with
    ⟨second, hSecond, hSecondJob⟩
  have hHeld :=
    (each_task_held_or_cancelled Sample.new_connection
      [.start, .start]).1
  have hOne := hHeld 0 first hFirst
  have hTwo := hHeld 1 second hSecond
  rw [hFirstJob, hSlot] at hOne
  rw [hSecondJob, hSlot] at hTwo
  refine ⟨eq_true_of_ne_false fun hCalm => ?_, hTwo.mp rfl⟩
  cases hOne.mpr hCalm

end BrainLink
