import BrainLink.Proofs.Vigil

/-
  What follows an attempt that finds no local address.

  Key definitions include:
    * `Situation.StandsStill`
    * `StandsStillSince`
    * `failsSince`
    * `Situation.OfflineIdle`

  Main statements:
    * `Situation.Sound.offlineIdle_after`
    * `offlineIdle_later`
    * `stands_still_unless_check_fails`

  Such an attempt schedules no other. But it leaves the health
  check of the connection before it where it was, and a health
  check that fails schedules an attempt.
-/

namespace BrainLink

------------------------------------------------------------
-- Standing Still
------------------------------------------------------------

/- Whether a job of a connection begins or goes on. -/
def Occurrence.isOfJob : Occurrence → Bool
| .run _ _ => true
| .answer _ _ errand _ => errand.attempt?.isSome
| .probe _ _ _ => true
| _ => false

namespace Situation

/- Whether a health check finds that its brain is gone. -/
def failsCheck
    (situation : Situation) :
    Occurrence → Bool
| .probe _ task isReachable =>
    situation.waiting.contains (.probing task) &&
      !isReachable &&
      !situation.connection.isCancelled task
| _ => false

/-
  Nothing is scheduled, no attempt begins or is under way, and
  no job sends a request.
-/
structure StandsStill
    (before after : Situation)
    (occurrence : Occurrence) : Prop where
  scheduled :
    ∀ id,
      before.connection.tasks.task? id = none →
        after.connection.tasks.task? id = none
  begins : before.begins? occurrence = none
  attempts : after.attempts = []
  requests :
    occurrence.isOfJob = true →
      after.connection.requests = before.connection.requests

end Situation

/- All that happened since part of the course stood still. -/
def StandsStillSince
    (connection : Connection) :
    List Occurrence → List Occurrence → Prop
| [], _ => True
| occurrence :: later, past =>
    (replay connection (later ++ past)).StandsStill
        (replay connection (occurrence :: (later ++ past)))
        occurrence ∧
      StandsStillSince connection later past

/- Whether a health check has failed since. -/
def failsSince
    (connection : Connection) :
    List Occurrence → List Occurrence → Bool
| [], _ => false
| occurrence :: later, past =>
    (replay connection (later ++ past)).failsCheck occurrence ||
      failsSince connection later past

------------------------------------------------------------
-- Tasks
------------------------------------------------------------

/- What is released was there before. -/
theorem Slot.task?_release_eq_none
    {J : Type}
    {scheduler : Scheduler J}
    {id : TaskId}
    (hNone : scheduler.task? id = none)
    (slot : Slot) :
    (slot.release scheduler).task? id = none := by
  rw [task?_release, hNone]
  simp

/- A task that runs once is over at the end of its run. -/
theorem Scheduler.stage_endRun_of_once
    {J : Type}
    {scheduler : Scheduler J}
    {id : TaskId}
    {task : Task J}
    (hTask : (scheduler.endRun id).task? id = some task)
    (hOnce : task.repetition = .once) :
    task.stage = .over := by
  unfold endRun at hTask
  rw [task?_update, if_pos rfl, Option.map_eq_some_iff]
    at hTask
  rcases hTask with ⟨known, -, hEnded⟩
  split at hEnded
  · rename_i hRecurs _
    rw [← hEnded] at hOnce
    cases hRecurs.symm.trans hOnce
  · rw [← hEnded]

namespace Connection

variable {config : Config}
variable {world : World}
variable {connection : Connection}

/- A connection that is offline is closed without a word. -/
theorem endClose_of_down
    (hDown : connection.session.isConnected = false) :
    connection.endClose (goOffline world) =
      connection.bare.stayOffline := by
  have hBare : connection.bare.session.isConnected = false :=
    hDown
  rw [endClose_eq, goOffline_of_down hBare]

/- An attempt that finds no address. -/
theorem beginAttempt_of_strands
    (hStrands : world.strands = true)
    (task : TaskId) :
    connection.beginAttempt world task =
      ((connection.goOffline world).equip.goOffline world,
        .over) := by
  unfold World.strands at hStrands
  rw [Bool.and_eq_true, Option.isNone_iff_eq_none] at hStrands
  rw [beginAttempt_eq]
  dsimp only
  rw [if_pos hStrands.1, hStrands.2]

/- A probe that fails in vain leaves all as it was. -/
theorem afterProbe_of_calm
    {task : TaskId}
    {isReachable : Bool}
    (hCalm :
      (!isReachable && !connection.isCancelled task) = false) :
    connection.afterProbe world task isReachable =
      (connection, .over) := by
  apply if_pos
  cases isReachable with
  | true => rfl
  | false => simpa using hCalm

/- What a closed connection has pending is nothing. -/
theorem Tidy.pending_of_isClosed
    (h : connection.Tidy config)
    (hClosed : connection.isClosed = true) :
    connection.hasPendingConnect = false := by
  have hSlot : connection.session.connect = none :=
    h.hushed hClosed .connect
  unfold hasPendingConnect
  rw [hSlot]
  rfl

/- A task that is live is pending, if it is an attempt. -/
theorem Tidy.pending_of_isLive
    {id : TaskId}
    {task : Task Job}
    (h : connection.Tidy config)
    (hTask : connection.tasks.task? id = some task)
    (hJob : task.job = .connect)
    (hLive : task.isLive = true) :
    connection.hasPendingConnect = true := by
  have hCalm :=
    (Scheduler.isCancelled_of_task? hTask).trans
      (Task.cancelled_of_isLive hLive)
  have hOnce : task.repetition = .once := by
    rw [(h.ledger.suits id task hTask).repetition, hJob]
    rfl
  refine
    h.hasPendingConnect_iff.mpr
      ⟨id, task, h.connect_of_calm hTask hJob hCalm, hTask, ?_⟩
  intro hOver
  simp [Task.isLive, hOnce, Task.isWaiting, hOver] at hLive

end Connection

namespace Situation

------------------------------------------------------------
-- Idle Connections
------------------------------------------------------------

/-
  An offline connection for which no attempt is pending or
  under way, and with no health check but one.
-/
structure OfflineIdle
    (check : Slot)
    (situation : Situation) : Prop where
  attempts : situation.attempts = []
  offline : situation.connection.session.isConnected = false
  pending : situation.connection.hasPendingConnect = false
  check : HasCheck check situation.connection

section OfflineIdle

variable {config : Config}
variable {check : Slot}
variable {before after : Situation}
variable {occurrence : Occurrence}

/- What is pending was so before, if nothing has happened. -/
theorem Sound.pending_of_idles
    (h : before.Sound config)
    (hAfter : after.connection.Tidy config)
    (hIdles : before.Idles after)
    (hPending : after.connection.hasPendingConnect = true) :
    before.connection.hasPendingConnect = true := by
  rcases hAfter.hasPendingConnect_iff.mp hPending with
    ⟨id, task, hSlot, hTask, hStage⟩
  rw [hIdles.connection.session] at hSlot
  rcases h.tidy.exists_of_connect hSlot with
    ⟨known, hKnown, hJob, hCalm⟩
  rcases hIdles.connection.tasks.kept id known hKnown with
    ⟨stage, hLater, hStays⟩
  refine
    h.tidy.hasPendingConnect_iff.mpr
      ⟨id, known, hSlot, hKnown, ?_⟩
  rw [← (hStays hCalm).1 hJob]
  rw [hLater] at hTask
  cases hTask
  exact hStage

/- A health check that does not fail passes idly. -/
theorem Sound.idles_of_probe
    (h : before.Sound config)
    {world : World}
    {task : TaskId}
    {isReachable : Bool}
    (hFails :
      before.failsCheck (.probe world task isReachable) =
        false) :
    before.Idles (before.after (.probe world task isReachable)) ∧
      (before.after
            (.probe world task isReachable)).connection.requests =
        before.connection.requests := by
  simp only [Situation.after]
  split
  · rename_i hMember
    have hCalm :
        (!isReachable &&
            !before.connection.isCancelled task) =
          false := by
      simpa [failsCheck, hMember] using hFails
    rw [Connection.afterProbe_of_calm hCalm]
    exact ⟨h.idles_reached hMember, rfl⟩
  · exact ⟨idles_of_waiting (.refl _) rfl, rfl⟩

/- Nothing has happened. -/
theorem Sound.offlineIdle_of_idles
    (h : before.Sound config)
    (hRests : before.OfflineIdle check)
    (hAfter : after.connection.Tidy config)
    (hIdles : before.Idles after) :
    after.OfflineIdle check where
  attempts := by
    have hPerm := hIdles.attempts
    rw [hRests.attempts] at hPerm
    exact hPerm.eq_nil
  offline := by
    rw [hIdles.connection.session]
    exact hRests.offline
  pending := by
    apply eq_false_of_ne_true
    intro hPending
    cases hRests.pending.symm.trans
      (h.pending_of_idles hAfter hIdles hPending)
  check := by
    unfold HasCheck
    rw [hIdles.connection.session]
    exact hRests.check

/- A live attempt that is run begins. -/
theorem begins?_of_hasTask
    {world : World}
    {task : TaskId}
    (hRuns :
      before.hasTask task
          (fun known =>
            known.isLive && known.job == .connect) =
        true) :
    before.begins? (.run world task) = some world :=
  if_pos hRuns

/- No attempt can begin. -/
theorem Sound.begins?_of_offlineIdle
    (h : before.Sound config)
    (hRests : before.OfflineIdle check)
    (occurrence : Occurrence) :
    before.begins? occurrence = none := by
  cases occurrence with
  | run world task =>
      apply if_neg
      intro hRuns
      unfold hasTask at hRuns
      rcases (Option.any_eq_true _ _).mp hRuns with
        ⟨known, hKnown, hIs⟩
      simp only [Bool.and_eq_true, beq_iff_eq] at hIs
      cases hRests.pending.symm.trans
        (h.tidy.pending_of_isLive hKnown hIs.2 hIs.1)
  | _ => rfl

/-
  Unless it is started or its health check fails, a connection
  that is offline and idle stays so and stands still.
-/
theorem Sound.offlineIdle_after
    (h : before.Sound config)
    (hRests : before.OfflineIdle check)
    (hStart : occurrence ≠ .start)
    (hFails : before.failsCheck occurrence = false) :
    (before.after occurrence).OfflineIdle check ∧
      before.StandsStill (before.after occurrence)
        occurrence := by
  have hBegins := h.begins?_of_offlineIdle hRests occurrence
  have hAfter := tidy_after h.tidy occurrence
  have hIdle :
      ∀ hIdles : before.Idles (before.after occurrence),
        (occurrence.isOfJob = true →
            (before.after occurrence).connection.requests =
              before.connection.requests) →
          (before.after occurrence).OfflineIdle check ∧
            before.StandsStill (before.after occurrence)
              occurrence := by
    intro hIdles hRequests
    have hStill := h.offlineIdle_of_idles hRests hAfter hIdles
    exact
      ⟨hStill,
        ⟨hIdles.connection.tasks.gone, hBegins,
          hStill.attempts, hRequests⟩⟩
  have hTurn := h.turn_after occurrence
  have hProbe :
      ∀ world task isReachable,
        occurrence = .probe world task isReachable →
          (before.after occurrence).OfflineIdle check ∧
            before.StandsStill (before.after occurrence)
              occurrence := by
    rintro world task isReachable rfl
    have hPasses := h.idles_of_probe hFails
    exact hIdle hPasses.1 fun _ => hPasses.2
  generalize before.after occurrence = after
    at hAfter hIdle hTurn hProbe ⊢
  cases hTurn with
  | idle _ _ hIdles hPasses hRequests =>
      apply hIdle hIdles
      intro hJob
      apply hRequests
      cases occurrence with
      | answer world request errand answer =>
          change errand.attempt?.isSome = true at hJob
          have hSome : errand.attempt?.isNone = false := by
            rw [← Option.not_isSome, hJob]
            rfl
          exact Bool.and_eq_false_imp.mpr fun hNone => by
            cases hSome.symm.trans hNone
      | command world order => cases hJob
      | _ => rfl
  | starts => exact absurd rfl hStart
  | drops =>
      refine
        ⟨⟨hRests.attempts, hRests.offline, rfl, ?_⟩, ?_⟩
      · exact Or.inl rfl
      · refine ⟨?_, hBegins, hRests.attempts, nofun⟩
        intro id hNone
        exact
          Slot.task?_release_eq_none
            (Slot.task?_release_eq_none hNone _) _
  | opens world task known hTask hJob hLive result hResult
      hOpening =>
      cases hRests.pending.symm.trans
        (h.tidy.pending_of_isLive hTask hJob hLive)
  | advances world request errand answer task hMember hAttempt
      result hResult hAdvance =>
      exact
        (not_mem_waiting hRests.attempts hMember
          hAttempt).elim
  | fails world task isReachable later hMember hLater hLowered
      hRenewed =>
      exact hProbe world task isReachable rfl
  | parts world transport request hOpen hParting =>
      refine
        ⟨⟨hRests.attempts, hRests.offline,
            hAfter.pending_of_isClosed rfl, Or.inl rfl⟩,
          ⟨?_, hBegins, hRests.attempts, nofun⟩⟩
      intro id hNone
      exact
        Slot.task?_release_eq_none
          (Slot.task?_release_eq_none hNone _) _
  | closes world hOpen hParting =>
      have hDown :
          before.connection.shut.session.isConnected = false :=
        hRests.offline
      rw [Connection.endClose_of_down hDown] at hAfter ⊢
      refine
        ⟨⟨hRests.attempts, rfl,
            hAfter.pending_of_isClosed rfl, Or.inl rfl⟩,
          ⟨?_, hBegins, hRests.attempts, nofun⟩⟩
      intro id hNone
      exact
        Slot.task?_release_eq_none
          (Slot.task?_release_eq_none
            (Slot.task?_release_eq_none hNone _) _) _
  | concludes world request answer hMember =>
      have hStill :=
        attempts_erase_eq_nil hRests.attempts
          before.connection.bare.stayOffline
          (.asking request .closing)
      rw [Connection.endClose_of_down hRests.offline]
        at hAfter ⊢
      refine
        ⟨⟨hStill, rfl,
            hAfter.pending_of_isClosed
              (h.parting request hMember),
            Or.inl rfl⟩,
          ⟨?_, hBegins, hStill, nofun⟩⟩
      intro id hNone
      exact Slot.task?_release_eq_none hNone _

/- A health check that fails is the one in its slot. -/
theorem Sound.check_of_failsCheck
    (h : before.Sound config)
    {world : World}
    {task : TaskId}
    {isReachable : Bool}
    (hFails :
      before.failsCheck (.probe world task isReachable) =
        true) :
    .probing task ∈ before.waiting ∧
      isReachable = false ∧
        before.connection.isCancelled task = false ∧
          before.connection.session.check = some task := by
  simp only [failsCheck, Bool.and_eq_true,
    List.contains_iff_mem, Bool.not_eq_true'] at hFails
  rcases hFails with ⟨⟨hMember, hGone⟩, hCalm⟩
  refine ⟨hMember, hGone, hCalm, ?_⟩
  rcases h.crew.probing task (mem_checks hMember) with
    ⟨known, hKnown, hJob⟩
  rw [Connection.isCancelled,
    Scheduler.isCancelled_of_task? hKnown] at hCalm
  have hSlot := (h.tidy.slots_eq_iff hKnown).mpr hCalm
  rw [hJob] at hSlot
  exact hSlot

/- A health check that fails schedules an attempt. -/
theorem Sound.not_standsStill_of_failsCheck
    (h : before.Sound config)
    (hRests : before.OfflineIdle check)
    (hFails : before.failsCheck occurrence = true) :
    ¬ before.StandsStill (before.after occurrence)
        occurrence := by
  intro hStill
  cases occurrence with
  | probe world task isReachable =>
      rcases h.check_of_failsCheck hFails with
        ⟨hMember, hGone, hCalm, -⟩
      rcases h.crew.probing task (mem_checks hMember) with
        ⟨known, hKnown, -⟩
      have hOpen := h.tidy.isClosed_of_calm hKnown hCalm
      have hSchedules :
          before.connection.afterProbe world task isReachable =
            (before.connection.stayOffline.clearCheck.scheduleConnect,
              .over) := by
        rw [← Connection.goOffline_of_down hRests.offline]
        exact if_neg (by simp [hGone, hCalm])
      have hClear :
          before.connection.stayOffline.clearCheck.isClosed =
            false :=
        hOpen
      have hSlot := Connection.connect_scheduleConnect hClear
      have hAfter :=
        tidy_after h.tidy (.probe world task isReachable)
      have hNone :
          before.connection.tasks.task?
              before.connection.stayOffline.clearCheck.tasks.nextId =
            none :=
        (Slot.grows_release _ _).task?_eq_none
          (Scheduler.task?_nextId _)
      have hGoes := hStill.scheduled _ hNone
      simp only [Situation.after, if_pos hMember, hSchedules]
        at hAfter hGoes
      rcases hAfter.exists_of_connect hSlot with
        ⟨fresh, hFresh, -⟩
      cases hFresh.symm.trans hGoes
  | _ => cases hFails

end OfflineIdle

section Strand

variable {config : Config}
variable {before : Situation}
variable {world : World}
variable {task : TaskId}

/- An attempt that finds no address is over at once. -/
theorem after_run_of_strands
    (hMoves : before.moves? (.run world task) = some task)
    (hStrands : world.strands = true) :
    before.after (.run world task) =
      ⟨((((before.connection.beginRun task).goOffline
          world).equip).goOffline world).endRun task,
        before.waiting⟩ := by
  rw [after_run hMoves,
    Connection.beginAttempt_of_strands hStrands]
  rfl

/- If one is pending then, a listener has started it. -/
theorem Sound.fresh_of_strands
    (h : before.Sound config)
    (hMoves : before.moves? (.run world task) = some task)
    (hStrands : world.strands = true)
    (hPending :
      (before.after
          (.run world task)).connection.hasPendingConnect =
        true) :
    ∃ id,
      (before.after
            (.run world task)).connection.session.connect =
          some id ∧
        before.connection.tasks.task? id = none := by
  rcases exists_of_moves?_run hMoves with
    ⟨-, known, hKnown, hLive, hJob⟩
  have hAfter := tidy_after h.tidy (.run world task)
  have hOnce : known.repetition = .once := by
    rw [(h.tidy.ledger.suits task known hKnown).repetition,
      hJob]
    rfl
  have hCalm :=
    (Scheduler.isCancelled_of_task? hKnown).trans
      (Task.cancelled_of_isLive hLive)
  have hSlot := h.tidy.connect_of_calm hKnown hJob hCalm
  have hLowered :=
    Connection.lowered_goOffline world
      (before.connection.beginRun task)
  rw [after_run_of_strands hMoves hStrands] at hAfter hPending ⊢
  rw [Connection.beginRun_of_once hKnown hOnce]
    at hAfter hPending hLowered ⊢
  generalize
    { before.connection with
        tasks :=
          before.connection.tasks.beginRun task }.goOffline
      world = offline at hAfter hPending hLowered ⊢
  have hDown : offline.equip.session.isConnected = false :=
    hLowered.offline.flag
  rw [Connection.goOffline_of_down hDown]
    at hAfter hPending ⊢
  have hOpen : offline.isClosed = false := by
    apply eq_false_of_ne_true
    intro hClosed
    cases (hAfter.pending_of_isClosed hClosed).symm.trans
      hPending
  rcases hLowered.connect hOpen with
    hSame | ⟨id, hFresh, hNone⟩
  · -- The attempt itself is over and pending no longer.
    rcases hAfter.hasPendingConnect_iff.mp hPending with
      ⟨id, ended, hHeld, hEnded, hStage⟩
    have hEnds : offline.session.connect = some task :=
      hSame.trans hSlot
    cases hEnds.symm.trans hHeld
    rcases hAfter.exists_of_connect hHeld with
      ⟨other, hOther, hJob, -⟩
    cases hEnded.symm.trans hOther
    have hOnce : ended.repetition = .once := by
      rw [(hAfter.ledger.suits task ended hEnded).repetition,
        hJob]
      rfl
    exact
      (hStage (Scheduler.stage_endRun_of_once hEnded hOnce)).elim
  · refine ⟨id, hFresh, ?_⟩
    change (before.connection.tasks.update task _).task? id = _
      at hNone
    rw [Scheduler.task?_update] at hNone
    split at hNone
    · exact Option.map_eq_none_iff.mp hNone
    · exact hNone

/- If none is, the connection is offline and idle. -/
theorem offlineIdle_of_strands
    (hMoves : before.moves? (.run world task) = some task)
    (hStrands : world.strands = true)
    (hRest : before.isAtRest = true)
    (hPending :
      (before.after
          (.run world task)).connection.hasPendingConnect =
        false) :
    (before.after (.run world task)).OfflineIdle
      (before.after
        (.run world task)).connection.session.check := by
  have hLowered :=
    Connection.lowered_goOffline world
      (before.connection.beginRun task)
  refine ⟨?_, ?_, hPending, Or.inr rfl⟩
  · rw [after_run_of_strands hMoves hStrands]
    exact ((isAtRest_iff before).mp hRest).1
  · rw [after_run_of_strands hMoves hStrands]
    exact
      (Connection.lowered_goOffline world _).offline.flag

end Strand

end Situation

------------------------------------------------------------
-- Courses
------------------------------------------------------------

section Replay

variable {config : Config}
variable {drive : Drive}
variable {connection : Connection}
variable {check : Slot}
variable {past : List Occurrence}

/- Where no health check fails, all stays as it is. -/
theorem offlineIdle_later
    (hNew : Connection.new config drive = .ok connection)
    (hRests : (replay connection past).OfflineIdle check)
    {later : List Occurrence}
    (hStart : .start ∉ later)
    (hFails : failsSince connection later past = false) :
    (replay connection (later ++ past)).OfflineIdle check ∧
      StandsStillSince connection later past := by
  induction later with
  | nil => exact ⟨hRests, trivial⟩
  | cons occurrence later ih =>
      rw [List.mem_cons, not_or] at hStart
      unfold failsSince at hFails
      rw [Bool.or_eq_false_iff] at hFails
      rcases ih hStart.2 hFails.2 with ⟨hStill, hSince⟩
      rcases
          (sound_replay hNew (later ++ past)).offlineIdle_after
            hStill (Ne.symm hStart.1) hFails.1 with
        ⟨hAfter, hStands⟩
      exact ⟨hAfter, hStands, hSince⟩

/- The first to fail puts an end to it. -/
theorem standsStillSince_iff
    (hNew : Connection.new config drive = .ok connection)
    (hRests : (replay connection past).OfflineIdle check)
    {later : List Occurrence}
    (hStart : .start ∉ later) :
    StandsStillSince connection later past ↔
      failsSince connection later past = false := by
  constructor
  · intro hStands
    induction later with
    | nil => rfl
    | cons occurrence later ih =>
        rw [List.mem_cons, not_or] at hStart
        have hBefore := ih hStart.2 hStands.2
        have hStill :=
          (offlineIdle_later hNew hRests hStart.2 hBefore).1
        unfold failsSince
        rw [hBefore, Bool.or_false]
        apply eq_false_of_ne_true
        intro hFails
        exact
          (sound_replay hNew
            (later ++ past)).not_standsStill_of_failsCheck
              hStill hFails hStands.1
  · intro hFails
    exact (offlineIdle_later hNew hRests hStart hFails).2

/- Where there is no health check, none fails. -/
theorem failsSince_of_unchecked
    (hNew : Connection.new config drive = .ok connection)
    (hRests : (replay connection past).OfflineIdle none)
    {later : List Occurrence}
    (hStart : .start ∉ later) :
    failsSince connection later past = false := by
  induction later with
  | nil => rfl
  | cons occurrence later ih =>
      rw [List.mem_cons, not_or] at hStart
      have hBefore := ih hStart.2
      have hStill :=
        (offlineIdle_later hNew hRests hStart.2 hBefore).1
      have hSound := sound_replay hNew (later ++ past)
      unfold failsSince
      rw [hBefore, Bool.or_false]
      apply eq_false_of_ne_true
      intro hFails
      cases occurrence with
      | probe world task isReachable =>
          have hSlot := (hSound.check_of_failsCheck hFails).2.2.2
          have hGone := hStill.check.elim id id
          cases hGone.symm.trans hSlot
      | _ => cases hFails

/-
  An attempt that finds no local address leaves an attempt
  pending only if a listener has started it on the way.
  Otherwise nothing is scheduled, no attempt begins and no job
  sends a request until the next start, unless a health check
  of the connection before it fails. None does if there was
  none.
-/
theorem stands_still_unless_check_fails
    (hNew : Connection.new config drive = .ok connection)
    (past : List Occurrence)
    (world : World)
    (task : TaskId)
    (hBegins :
      (replay connection past).begins? (.run world task) =
        some world)
    (hStrands : world.strands = true)
    (hOrderly :
      orderly connection (.run world task :: past) = true) :
    ((replay connection
            (.run world task ::
              past)).connection.hasPendingConnect =
          true →
        ∃ id,
          (replay connection
                (.run world task ::
                  past)).connection.session.connect =
              some id ∧
            (replay connection past).connection.tasks.task? id =
              none) ∧
      ((replay connection
            (.run world task ::
              past)).connection.hasPendingConnect =
          false →
        ∀ later : List Occurrence,
          .start ∉ later →
            (StandsStillSince connection later
                  (.run world task :: past) ↔
                failsSince connection later
                    (.run world task :: past) =
                  false) ∧
              ((replay connection
                      (.run world task ::
                        past)).connection.hasHealthCheck =
                    false →
                failsSince connection later
                    (.run world task :: past) =
                  false)) := by
  have hSound := sound_replay hNew past
  have hMoves :
      (replay connection past).moves? (.run world task) =
        some task := by
    simp only [Situation.begins?] at hBegins
    split at hBegins
    · rename_i hRuns
      exact if_pos hRuns
    · cases hBegins
  refine ⟨hSound.fresh_of_strands hMoves hStrands, ?_⟩
  intro hPending later hStart
  have hRests :=
    Situation.offlineIdle_of_strands hMoves hStrands
      ((orderly_cons hOrderly).2 rfl) hPending
  refine ⟨standsStillSince_iff hNew hRests hStart, ?_⟩
  intro hCheck
  have hGone :
      (replay connection
            (.run world task ::
              past)).connection.session.check =
          none := by
    apply Classical.byContradiction
    intro hSome
    have hAfter := sound_replay hNew (.run world task :: past)
    cases hCheck.symm.trans (hAfter.hasHealthCheck hSome)
  have hUnchecked :
      (replay connection (.run world task :: past)).OfflineIdle
        none :=
    ⟨hRests.attempts, hRests.offline, hPending,
      Or.inl hGone⟩
  exact failsSince_of_unchecked hNew hUnchecked hStart

end Replay

/- A world in which the adapter has no address. -/
def Sample.nowhere : World where
  address := none
  creates := true
  immediate _ := none

/-
  The first attempt finds no address. Nothing comes of it,
  though the attempt is run once more and the brain seems to
  be gone.
-/
theorem stands_still_of_nowhere :
    StandsStillSince Sample.connection
      [.probe Sample.nowhere 1 false, .run Sample.nowhere 0]
      [.run Sample.nowhere 0, .start] := by
  have hCourse :
      orderly Sample.connection
          [.run Sample.nowhere 0, .start] =
        true ∧
      (replay Sample.connection
            [.run Sample.nowhere 0,
              .start]).connection.hasPendingConnect =
          false ∧
        (replay Sample.connection
              [.run Sample.nowhere 0,
                .start]).connection.hasHealthCheck =
            false := by
    decide +kernel
  rcases hCourse with ⟨hOrderly, hPending, hCheck⟩
  have hLater :
      Occurrence.start ∉
        [.probe Sample.nowhere 1 false,
          .run Sample.nowhere 0] := by
    simp
  have hStands :=
    (stands_still_unless_check_fails Sample.new_connection
        [.start] Sample.nowhere 0 rfl rfl hOrderly).2
      hPending _ hLater
  exact hStands.1.mpr (hStands.2 hCheck)

namespace Sample

/- A connection that is online starts again. -/
def restarted : List Occurrence :=
  .start :: undisturbed

/- The health check that was there before fails. -/
def roused : List Occurrence :=
  [.probe nowhere 1 false, .run nowhere 1]

end Sample

/-
  The new attempt finds no address. But the health check then
  schedules an attempt, and nothing was started.
-/
theorem roused_by_check :
    ¬ ∀ past later world task,
        (replay Sample.connection past).begins?
              (.run world task) =
            some world →
          world.strands = true →
            orderly Sample.connection
                  (later ++ .run world task :: past) =
                true →
              (replay Sample.connection
                      (.run world task ::
                        past)).connection.hasPendingConnect =
                  false →
                .start ∉ later →
                  StandsStillSince Sample.connection later
                    (.run world task :: past) := by
  intro hAlways
  have hCourse :
      orderly Sample.connection
            (Sample.roused ++
              .run Sample.nowhere 2 :: Sample.restarted) =
          true ∧
        (replay Sample.connection
              (.run Sample.nowhere 2 ::
                Sample.restarted)).connection.hasPendingConnect =
            false ∧
          (replay Sample.connection Sample.restarted).hasTask 2
              (fun known =>
                known.isLive && known.job == .connect) =
            true := by
    decide +kernel
  rcases hCourse with ⟨hOrderly, hPending, hRuns⟩
  have hStart : Occurrence.start ∉ Sample.roused := by
    simp [Sample.roused]
  have hStands :=
    hAlways Sample.restarted Sample.roused Sample.nowhere 2
      (Situation.begins?_of_hasTask hRuns) rfl hOrderly hPending
      hStart
  have hFresh :
      ((replay Sample.connection
              ([.run Sample.nowhere 1] ++
                .run Sample.nowhere 2 ::
                  Sample.restarted)).connection.tasks.task?
            3).isNone =
          true ∧
        ((replay Sample.connection
                (.probe Sample.nowhere 1 false ::
                  ([.run Sample.nowhere 1] ++
                    .run Sample.nowhere 2 ::
                      Sample.restarted))).connection.tasks.task?
              3).isNone =
          false := by
    decide +kernel
  rw [Sample.roused, StandsStillSince] at hStands
  have hNone :=
    hStands.1.scheduled 3
      (Option.isNone_iff_eq_none.mp hFresh.1)
  cases hFresh.2.symm.trans
    (Option.isNone_iff_eq_none.mpr hNone)

end BrainLink
