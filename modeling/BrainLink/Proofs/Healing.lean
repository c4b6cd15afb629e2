import BrainLink.Proofs.Soundness

/-
  How a connection that was started stays online or comes
  back, and when it does not.

  Key definitions include:
    * `Connection.isHealed`
    * `stranded`
    * `overlapped`
    * `Situation.AttemptOver`
    * `Situation.PendingOrOver`

  Main statements:
    * `Situation.Sound.pendingOrOver_of_turn`
    * `pendingOrOver_replay`
    * `healed_unless_overlapped`

  While nothing is under way, a connection that was started
  either has an attempt pending or has ended one last. If
  that one came online alone, the connection is online. If it
  overtook an attempt that was cancelled before, the end of
  the latter has taken the connection offline.
-/

namespace BrainLink

------------------------------------------------------------
-- Pending Attempts
------------------------------------------------------------

/- A task that was not cancelled is active until it is over. -/
theorem Scheduler.isActive_iff
    {J : Type}
    {scheduler : Scheduler J}
    {id : TaskId}
    {task : Task J}
    (hTask : scheduler.task? id = some task)
    (hCalm : task.cancelled = false) :
    scheduler.isActive id = true ↔ task.stage ≠ .over := by
  unfold isActive isCancelled isFinished
  simp only [hTask, hCalm]
  cases task.stage with
  | waiting due =>
      cases scheduler.drive with
      | clock => simp
      | hand => simp
  | _ => simp

namespace Connection

variable {config : Config}
variable {connection : Connection}

/- An attempt is pending until the task in its slot is over. -/
theorem Tidy.hasPendingConnect_iff
    (h : connection.Tidy config) :
    connection.hasPendingConnect = true ↔
      ∃ id task,
        connection.session.connect = some id ∧
          connection.tasks.task? id = some task ∧
            task.stage ≠ .over := by
  unfold hasPendingConnect Slot.isActive
  cases hSlot : connection.session.connect with
  | none => simp
  | some id =>
      rcases h.exists_of_connect hSlot with
        ⟨task, hTask, -, hCalm⟩
      rw [Scheduler.isActive_iff hTask hCalm]
      constructor
      · intro hStage
        exact ⟨id, task, rfl, hTask, hStage⟩
      · rintro ⟨other, same, hOther, hSame, hStage⟩
        cases hOther
        rw [hTask] at hSame
        cases hSame
        exact hStage

/- An attempt that was just scheduled is pending. -/
theorem Tidy.pending_of_fresh
    {before : Scheduler Job}
    {id : TaskId}
    (h : connection.Tidy config)
    (hTasks : before.Grows connection.tasks)
    (hSlot : connection.session.connect = some id)
    (hNone : before.task? id = none) :
    connection.hasPendingConnect = true := by
  rcases h.exists_of_connect hSlot with ⟨task, hTask, -⟩
  have hWaiting := hTasks.new id task hNone hTask
  refine
    h.hasPendingConnect_iff.mpr ⟨id, task, hSlot, hTask, ?_⟩
  intro hOver
  simp [Task.isWaiting, hOver] at hWaiting

/- The end of another task does not matter to it. -/
theorem Tidy.pending_endRun
    {id other : TaskId}
    (h : connection.Tidy config)
    (hPending : connection.hasPendingConnect = true)
    (hSlot : connection.session.connect = some id)
    (hOther : other ≠ id) :
    (connection.endRun other).hasPendingConnect = true := by
  rcases h.hasPendingConnect_iff.mp hPending with
    ⟨same, task, hSame, hTask, hStage⟩
  rw [hSlot] at hSame
  cases hSame
  refine
    (h.endRun other).hasPendingConnect_iff.mpr
      ⟨id, task, hSlot, ?_, hStage⟩
  change (connection.tasks.update other _).task? id = _
  rw [Scheduler.task?_update, if_neg hOther, hTask]

/-
  The connection is online, with a health check if one is
  wanted, or an attempt to connect is pending.
-/
def isHealed (connection : Connection) : Bool :=
  connection.session.isConnected &&
      (!connection.config.checksHealth ||
        connection.hasHealthCheck) ||
    connection.hasPendingConnect

end Connection

------------------------------------------------------------
-- Histories
------------------------------------------------------------

/- The world in which an occurrence begins an attempt. -/
def Situation.begins?
    (situation : Situation) :
    Occurrence → Option World
| .run world task =>
    if situation.hasTask task
        (fun known =>
          known.isLive && known.job == .connect) then
      some world
    else
      none
| _ => none

/- Whether the attempt that began last found no address. -/
def Situation.strandsNext
    (situation : Situation)
    (occurrence : Occurrence)
    (strands : Bool) :
    Bool :=
  match situation.begins? occurrence with
  | none => strands
  | some world => world.strands

/-
  Whether other attempts were still under way when the
  connection last came online.
-/
def Situation.overlapsNext
    (before after : Situation)
    (overlaps : Bool) :
    Bool :=
  if before.comesOnline after then
    !after.attempts.isEmpty
  else
    overlaps

/- In the course of a connection, its last attempt to begin. -/
def stranded (connection : Connection) :
    List Occurrence → Bool
| [] => false
| occurrence :: past =>
    (replay connection past).strandsNext occurrence
      (stranded connection past)

/- And its last attempt to come online. -/
def overlapped (connection : Connection) :
    List Occurrence → Bool
| [] => false
| occurrence :: past =>
    (replay connection past).overlapsNext
      (replay connection (occurrence :: past))
      (overlapped connection past)

namespace Situation

------------------------------------------------------------
-- Attempts That Are Over
------------------------------------------------------------

/-
  The attempt that was scheduled last is over and has left
  nothing pending. If it came online alone, the connection is
  online still. If it did not, the flag is down or others
  that can lower it are under way.
-/
structure AttemptOver
    (config : Config)
    (situation : Situation)
    (overlaps : Bool) : Prop where
  ended :
    ∃ id task,
      situation.connection.session.connect = some id ∧
        situation.connection.tasks.task? id = some task ∧
          task.stage = .over
  alone :
    overlaps = false →
      situation.connection.session.isConnected = true ∧
        situation.attempts = [] ∧
          (config.checksHealth = true →
            situation.connection.session.check ≠ none)
  crowd :
    overlaps = true →
      situation.connection.session.isConnected = true →
        situation.attempts ≠ []

/-
  An open connection has an attempt pending, or its last one
  found no address, or it is over.
-/
def PendingOrOver
    (config : Config)
    (situation : Situation)
    (strands overlaps : Bool) : Prop :=
  situation.connection.isClosed = false →
    situation.connection.isHeld = true →
      situation.connection.hasPendingConnect = true ∨
        strands = true ∨
          situation.AttemptOver config overlaps

section PendingOrOver

variable {config : Config}
variable {before : Situation}
variable {strands overlaps : Bool}

/- A fresh attempt outlives the end of one that was there. -/
theorem pending_of_renewed
    {tasks : Scheduler Job}
    {after : Connection}
    {task : TaskId}
    (hTidy : after.Tidy config)
    (hTasks : tasks.Grows after.tasks)
    (hKnown : tasks.task? task ≠ none)
    (hFresh :
      ∃ id,
        after.session.connect = some id ∧
          tasks.task? id = none) :
    (after.endRun task).hasPendingConnect = true := by
  rcases hFresh with ⟨id, hSlot, hNone⟩
  apply hTidy.pending_endRun _ hSlot
  · intro hSame
    rw [hSame] at hKnown
    exact hKnown hNone
  · exact hTidy.pending_of_fresh hTasks hSlot hNone

/- Nothing has happened. -/
theorem Sound.pendingOrOver_of_idles
    {after : Situation}
    (h : before.Sound config)
    (hAfter : after.connection.Tidy config)
    (hIdles : before.Idles after)
    (hPends : before.PendingOrOver config strands overlaps) :
    after.PendingOrOver config strands overlaps := by
  have hSession := hIdles.connection.session
  intro hOpen hHeld
  rw [hIdles.connection.isClosed] at hOpen
  rw [hIdles.connection.isHeld] at hHeld
  -- The attempt in the slot is where it was.
  have hKept :
      ∀ id task,
        before.connection.session.connect = some id →
          before.connection.tasks.task? id = some task →
            after.connection.tasks.task? id = some task := by
    intro id task hSlot hTask
    rcases h.tidy.exists_of_connect hSlot with
      ⟨same, hSame, hJob, hCalm⟩
    rw [hTask] at hSame
    cases hSame
    rcases hIdles.connection.tasks.kept id task hTask with
      ⟨stage, hLater, hStage⟩
    rw [hLater, (hStage hCalm).1 hJob]
  rcases hPends hOpen hHeld with hPending | hStrands | hOver
  · rcases h.tidy.hasPendingConnect_iff.mp hPending with
      ⟨id, task, hSlot, hTask, hStage⟩
    refine Or.inl (hAfter.hasPendingConnect_iff.mpr ?_)
    exact
      ⟨id, task, by rw [hSession]; exact hSlot,
        hKept id task hSlot hTask, hStage⟩
  · exact Or.inr (Or.inl hStrands)
  · refine Or.inr (Or.inr ⟨?_, ?_, ?_⟩)
    · rcases hOver.ended with
        ⟨id, task, hSlot, hTask, hStage⟩
      exact
        ⟨id, task, by rw [hSession]; exact hSlot,
          hKept id task hSlot hTask, hStage⟩
    · intro hAlone
      rw [hSession]
      rcases hOver.alone hAlone with ⟨hUp, hNone, hCheck⟩
      refine ⟨hUp, ?_, hCheck⟩
      have hPerm := hIdles.attempts
      rw [hNone] at hPerm
      exact hPerm.eq_nil
    · intro hCrowd hUp hNone
      rw [hSession] at hUp
      have hPerm := hIdles.attempts
      rw [hNone] at hPerm
      exact hOver.crowd hCrowd hUp hPerm.symm.eq_nil

/- An attempt asks again. -/
theorem Sound.pendingOrOver_of_keeps
    {after : Connection}
    {request : Http.Request}
    {errand : Errand}
    {waiting : List Question}
    {task : TaskId}
    (h : before.Sound config)
    (hAfter : after.Tidy config)
    (hMember : task ∈ before.attempts)
    (hErrand : errand.attempt? = some task)
    (hKeeps : before.connection.Keeps after)
    (hPends : before.PendingOrOver config strands overlaps) :
    PendingOrOver config
      ⟨after, .asking request errand :: waiting⟩
      strands overlaps := by
  intro hOpen hHeld
  rcases hPends (hKeeps.isClosed.symm.trans hOpen)
      (hKeeps.isHeld.symm.trans hHeld) with
    hPending | hStrands | hOver
  · rcases h.tidy.hasPendingConnect_iff.mp hPending with
      ⟨id, known, hSlot, hTask, hStage⟩
    rcases hKeeps.tasks.old id known hTask with
      ⟨cancelled, hLater, -⟩
    refine Or.inl (hAfter.hasPendingConnect_iff.mpr ?_)
    exact ⟨id, _, hKeeps.connect.trans hSlot, hLater, hStage⟩
  · exact Or.inr (Or.inl hStrands)
  · refine Or.inr (Or.inr ⟨?_, ?_, ?_⟩)
    · rcases hOver.ended with
        ⟨id, known, hSlot, hTask, hStage⟩
      rcases hKeeps.tasks.old id known hTask with
        ⟨cancelled, hLater, -⟩
      exact
        ⟨id, _, hKeeps.connect.trans hSlot, hLater, hStage⟩
    · intro hAlone
      rcases hOver.alone hAlone with ⟨-, hNone, -⟩
      rw [hNone] at hMember
      cases hMember
    · intro _ _ hNone
      have hAsked :
          (Question.asking request errand).attempt? =
            some task :=
        hErrand
      unfold attempts at hNone
      rw [List.filterMap_cons, hAsked] at hNone
      cases hNone

/- An attempt that was cancelled before comes to its end. -/
theorem Sound.pendingOrOver_of_cancelled
    {after : Connection}
    {waiting : List Question}
    {task : TaskId}
    (h : before.Sound config)
    (hAfter : after.Tidy config)
    (hMember : task ∈ before.attempts)
    (hCancelled : before.connection.isCancelled task = true)
    (hFallen : before.connection.Fallen after)
    (hPends : before.PendingOrOver config strands overlaps) :
    PendingOrOver config ⟨after.endRun task, waiting⟩
      strands overlaps := by
  intro hOpen hHeld
  have hKnown :
      before.connection.tasks.task? task ≠ none := by
    rcases h.crew.known task hMember with ⟨known, hKnown, -⟩
    simp [hKnown]
  rcases hFallen.connect hOpen with hSame | hFresh
  · have hBefore : before.connection.isClosed = false := by
      cases hClosed : before.connection.isClosed with
      | false => rfl
      | true =>
          have hStill : after.isClosed = false := hOpen
          rw [hFallen.closed hClosed] at hStill
          cases hStill
    -- The slot holds another attempt, as this was cancelled.
    have hOther :
        ∀ id known,
          before.connection.session.connect = some id →
            before.connection.tasks.task? id = some known →
              ∃ later,
                (after.endRun task).tasks.task? id =
                    some later ∧
                  later.stage = known.stage := by
      intro id known hSlot hTask
      rcases h.tidy.exists_of_connect hSlot with
        ⟨same, hThere, -, hCalm⟩
      have hNot : task ≠ id := by
        intro hEq
        rw [hEq, Connection.isCancelled,
          Scheduler.isCancelled_of_task? hThere, hCalm]
          at hCancelled
        cases hCancelled
      rcases hFallen.tasks.old id known hTask with
        ⟨cancelled, hLater, -⟩
      refine ⟨{ known with cancelled := cancelled }, ?_, rfl⟩
      change (after.tasks.update task _).task? id = _
      rw [Scheduler.task?_update, if_neg hNot, hLater]
    rcases hPends hBefore (hFallen.isHeld.symm.trans hHeld) with
      hPending | hStrands | hOver
    · rcases h.tidy.hasPendingConnect_iff.mp hPending with
        ⟨id, known, hSlot, hTask, hStage⟩
      rcases hOther id known hSlot hTask with
        ⟨later, hLater, hEq⟩
      refine
        Or.inl
          ((hAfter.endRun task).hasPendingConnect_iff.mpr ?_)
      exact
        ⟨id, later, hSame.trans hSlot, hLater,
          by rw [hEq]; exact hStage⟩
    · exact Or.inr (Or.inl hStrands)
    · refine Or.inr (Or.inr ⟨?_, ?_, ?_⟩)
      · rcases hOver.ended with
          ⟨id, known, hSlot, hTask, hStage⟩
        rcases hOther id known hSlot hTask with
          ⟨later, hLater, hEq⟩
        exact
          ⟨id, later, hSame.trans hSlot, hLater,
            hEq.trans hStage⟩
      · intro hAlone
        rcases hOver.alone hAlone with ⟨-, hNone, -⟩
        rw [hNone] at hMember
        cases hMember
      · intro _ hUp
        have hDown : after.session.isConnected = true := hUp
        rw [hFallen.offline.flag] at hDown
        cases hDown
  · exact
      Or.inl
        (pending_of_renewed hAfter hFallen.tasks hKnown hFresh)

/- An attempt that began, and asks. -/
theorem pending_of_asking
    {after : Situation}
    {task : TaskId}
    (hAfter : after.Sound config)
    (hMember : task ∈ after.attempts)
    (hCalm : after.connection.isCancelled task = false) :
    after.connection.hasPendingConnect = true := by
  rcases hAfter.crew.known task hMember with
    ⟨known, hKnown, hJob⟩
  have hSlot := hAfter.tidy.connect_of_calm hKnown hJob hCalm
  rw [Connection.isCancelled,
    Scheduler.isCancelled_of_task? hKnown] at hCalm
  have hRunning :=
    (hAfter.crew.working task known hKnown hJob hCalm).mpr
      hMember
  refine
    hAfter.tidy.hasPendingConnect_iff.mpr
      ⟨task, known, hSlot, hKnown, ?_⟩
  rw [hRunning]
  intro hOver
  cases hOver

/- The attempt that has come online is over. -/
theorem Sound.attemptOver_of_risen
    {after : Connection}
    {waiting : List Question}
    {task : TaskId}
    (h : before.Sound config)
    (hAfter : after.Tidy config)
    (hMember : task ∈ before.attempts)
    (hCalm : before.connection.isCancelled task = false)
    (hRisen : before.connection.Risen after) :
    AttemptOver config ⟨after.endRun task, waiting⟩
      (!(attempts ⟨after.endRun task, waiting⟩).isEmpty) := by
  have hEngaged := h.engaged hMember
  have hSlot : after.session.connect = some task :=
    hRisen.connect.trans (hEngaged.connect hCalm)
  rcases hAfter.exists_of_connect hSlot with
    ⟨known, hKnown, hJob, -⟩
  have hOnce : known.repetition = .once := by
    rw [(hAfter.ledger.suits task known hKnown).repetition,
      hJob]
    rfl
  refine ⟨?_, ?_, ?_⟩
  · refine ⟨task, { known with stage := .over }, hSlot, ?_, rfl⟩
    change (after.tasks.update task _).task? task = _
    rw [Scheduler.task?_update, if_pos rfl, hKnown]
    simp [hOnce]
  · intro hAlone
    refine ⟨hRisen.flag, ?_, ?_⟩
    · simpa using hAlone
    · intro hChecks
      rw [← h.tidy.sameConfig] at hChecks
      exact hRisen.check hChecks
  · intro hCrowd _ hNone
    rw [hNone] at hCrowd
    cases hCrowd

end PendingOrOver

------------------------------------------------------------
-- Steps
------------------------------------------------------------

section Step

variable {config : Config}
variable {before after : Situation}
variable {occurrence : Occurrence}
variable {strands overlaps : Bool}

/- What a connection passes over begins no attempt. -/
theorem begins?_of_passes
    (hPasses : before.Passes occurrence) :
    before.begins? occurrence = none := by
  cases occurrence with
  | run world task =>
      change before.hasTask task _ = false at hPasses
      exact if_neg (by rw [hPasses]; simp)
  | _ => rfl

/- A live attempt that is run begins. -/
theorem begins?_of_isLive
    {world : World}
    {task : TaskId}
    {known : Task Job}
    (hTask : before.connection.tasks.task? task = some known)
    (hJob : known.job = .connect)
    (hLive : known.isLive = true) :
    before.begins? (.run world task) = some world := by
  apply if_pos
  simp [hasTask, hTask, hLive, hJob]

/- A flag that is not raised leaves the company as it was. -/
theorem overlapsNext_of_flag
    (hFlag :
      before.connection.session.isConnected = false →
        after.connection.session.isConnected = false) :
    before.overlapsNext after overlaps = overlaps := by
  unfold overlapsNext comesOnline
  cases hBefore : before.connection.session.isConnected with
  | true => rfl
  | false =>
      rw [hFlag hBefore]
      rfl

/- Where no attempt begins, none is stranded. -/
theorem strandsNext_of_none
    (hNone : before.begins? occurrence = none) :
    before.strandsNext occurrence strands = strands := by
  unfold strandsNext
  rw [hNone]

/- A closed connection has nothing to make up for. -/
theorem pendingOrOver_of_isClosed
    (hClosed : after.connection.isClosed = true) :
    after.PendingOrOver config strands overlaps := by
  intro hOpen
  cases hClosed.symm.trans hOpen

/- Nothing has happened, even at a start. -/
theorem Sound.pendingOrOver_of_passes
    (h : before.Sound config)
    (hAfter : after.Sound config)
    (hIdles : before.Idles after)
    (hPasses : before.Passes occurrence)
    (hBefore :
      before.PendingOrOver config strands overlaps ∨
        occurrence = .start) :
    after.PendingOrOver config
      (before.strandsNext occurrence strands)
      (before.overlapsNext after overlaps) := by
  have hFlag :
      before.connection.session.isConnected = false →
        after.connection.session.isConnected = false := by
    rw [hIdles.connection.session]
    exact id
  rw [overlapsNext_of_flag hFlag,
    strandsNext_of_none (begins?_of_passes hPasses)]
  rcases hBefore with hPends | hStart
  · exact h.pendingOrOver_of_idles hAfter.tidy hIdles hPends
  · subst hStart
    intro hOpen hHeld
    rw [hIdles.connection.isHeld] at hHeld
    rw [hIdles.connection.isClosed, hPasses hHeld] at hOpen
    cases hOpen

/- An attempt begins, and asks unless it finds no address. -/
theorem pendingOrOver_of_opening
    {world : World}
    {task : TaskId}
    {known : Task Job}
    {result : Connection × Progress}
    (hAfter :
      Sound config (proceed before.waiting (some task) result))
    (hTask : before.connection.tasks.task? task = some known)
    (hJob : known.job = .connect)
    (hLive : known.isLive = true)
    (hResult : result.1.Tidy config)
    (hOpening :
      { before.connection with
        tasks :=
          before.connection.tasks.beginRun task }.Opening
        world task result) :
    PendingOrOver config
      (proceed before.waiting (some task) result)
      (before.strandsNext (.run world task) strands)
      overlaps := by
  cases hOpening with
  | asks later request transport hHeld hOpen hTasks hCalm hFlag
      hUrl =>
      intro _ _
      exact
        Or.inl
          (pending_of_asking hAfter
            (mem_attempts (List.mem_cons_self ..) rfl) hCalm)
  | falls later hFallen hRenewed hRequests hTransport =>
      intro hOpen _
      unfold strandsNext
      rw [begins?_of_isLive hTask hJob hLive]
      cases hStrands : world.strands with
      | true => exact Or.inr (Or.inl hStrands)
      | false =>
          rcases Scheduler.exists_task?_update
              Scheduler.restages_beginRun task hTask with
            ⟨stage, hBegun⟩
          refine
            Or.inl
              (pending_of_renewed hResult hFallen.tasks ?_
                (hRenewed hStrands hOpen))
          intro hNone
          cases hBegun.symm.trans hNone

/- An attempt is answered. -/
theorem Sound.pendingOrOver_of_advance
    (h : before.Sound config)
    {world : World}
    {request : Http.Request}
    {errand : Errand}
    {answer : Http.Answer}
    {task : TaskId}
    {result : Connection × Progress}
    (hMember : .asking request errand ∈ before.waiting)
    (hAttempt : errand.attempt? = some task)
    (hResult : result.1.Tidy config)
    (hAdvance :
      before.connection.Advance world answer errand result)
    (hPends : before.PendingOrOver config strands overlaps) :
    PendingOrOver config
      (proceed
        (before.waiting.erase (.asking request errand))
        (some task)
        result)
      strands
      (before.overlapsNext
        (proceed
          (before.waiting.erase (.asking request errand))
          (some task)
          result)
        overlaps) := by
  have hAsked := Question.attempt?_asking hAttempt request
  have hIn := mem_attempts hMember hAsked
  have hKnown :
      before.connection.tasks.task? task ≠ none := by
    rcases h.crew.known task hIn with ⟨known, hKnown, -⟩
    simp [hKnown]
  cases hAdvance with
  | registers other transport later again hKeeps hUrl =>
      rw [overlapsNext_of_flag hKeeps.flag.trans]
      exact
        h.pendingOrOver_of_keeps hResult hIn hAttempt hKeeps
          hPends
  | fetches other transport later again hKeeps hCalm =>
      rw [overlapsNext_of_flag hKeeps.flag.trans]
      exact
        h.pendingOrOver_of_keeps hResult hIn hAttempt hKeeps
          hPends
  | falls _ other later hOther hLowered hRenewed =>
      rw [hAttempt] at hOther
      cases hOther
      rw [overlapsNext_of_flag fun _ => hLowered.offline.flag]
      cases hCalm : before.connection.isCancelled task with
      | true =>
          exact
            h.pendingOrOver_of_cancelled hResult hIn hCalm
              hLowered.toFallen hPends
      | false =>
          intro hOpen _
          exact
            Or.inl
              (pending_of_renewed hResult hLowered.tasks hKnown
                (hRenewed hCalm hOpen))
  | flickers other transport hCalm hRaised hFallen hRenewed =>
      intro hOpen _
      exact
        Or.inl
          (pending_of_renewed hResult hFallen.tasks hKnown
            (hRenewed hOpen))
  | rises other transport later hCalm hRisen =>
      cases hAttempt
      have hDown := h.down task hIn hCalm
      intro _ _
      have hRaised :
          before.comesOnline
              (proceed
                (before.waiting.erase
                  (.asking request
                    (.fetchingKeys task transport)))
                (some task) (later, .over)) =
            true := by
        unfold comesOnline
        rw [hDown]
        exact hRisen.flag
      unfold overlapsNext
      rw [if_pos hRaised]
      exact
        Or.inr
          (Or.inr
            (h.attemptOver_of_risen hResult hIn hCalm hRisen))

/-
  Whatever happens, an open connection that was started has an
  attempt pending, or one that is over.
-/
theorem Sound.pendingOrOver_of_turn
    (h : before.Sound config)
    (hAfter : after.Sound config)
    (hTurn : before.Turn config occurrence after)
    (hBefore :
      before.PendingOrOver config strands overlaps ∨
        occurrence = .start) :
    after.PendingOrOver config
      (before.strandsNext occurrence strands)
      (before.overlapsNext after overlaps) := by
  cases hTurn with
  | idle _ _ hIdles hPasses hRequests =>
      exact
        h.pendingOrOver_of_passes hAfter hIdles hPasses hBefore
  | starts hHeld hOpen =>
      intro _ _
      have hTasks := before.connection.grows_scheduleConnect
      exact
        Or.inl
          (hAfter.tidy.pending_of_fresh hTasks
            (Connection.connect_scheduleConnect hOpen)
            (Scheduler.task?_nextId _))
  | drops =>
      intro _ hHeld
      cases hHeld
  | opens world task known hTask hJob hLive result hResult
      hOpening =>
      exact
        pendingOrOver_of_opening hAfter hTask hJob hLive hResult
          hOpening
  | advances world request errand answer task hMember hAttempt
      result hResult hAdvance =>
      have hPends := hBefore.resolve_right nofun
      exact
        h.pendingOrOver_of_advance hMember hAttempt hResult
          hAdvance hPends
  | fails world task isReachable later hMember hLater hLowered
      hRenewed =>
      intro hOpen _
      rcases h.crew.probing task (mem_checks hMember) with
        ⟨known, hKnown, -⟩
      exact
        Or.inl
          (pending_of_renewed hLater hLowered.tasks
            (by rw [hKnown]; simp) (hRenewed hOpen))
  | parts world transport request hOpen hParting =>
      exact pendingOrOver_of_isClosed rfl
  | closes world hOpen hParting =>
      have hEnded :=
        before.connection.shut.ended_endClose world
      exact pendingOrOver_of_isClosed (hEnded.closed rfl)
  | concludes world request answer hMember =>
      have hEnded := before.connection.ended_endClose world
      exact
        pendingOrOver_of_isClosed
          (hEnded.closed (h.parting request hMember))

end Step

end Situation

------------------------------------------------------------
-- Courses
------------------------------------------------------------

section Replay

variable {config : Config}
variable {drive : Drive}
variable {connection : Connection}

/- So it is in the whole course of one that was started. -/
theorem pendingOrOver_replay
    (hNew : Connection.new config drive = .ok connection)
    (past : List Occurrence)
    (hStarted : .start ∈ past) :
    (replay connection past).PendingOrOver config
      (stranded connection past)
      (overlapped connection past) := by
  induction past with
  | nil => cases hStarted
  | cons occurrence past ih =>
      have hBefore := sound_replay hNew past
      have hAfter := sound_replay hNew (occurrence :: past)
      have hTurn := turn_replay hNew occurrence past
      apply hBefore.pendingOrOver_of_turn hAfter hTurn
      rcases List.mem_cons.mp hStarted with hStart | hEarlier
      · exact Or.inr hStart.symm
      · exact Or.inl (ih hEarlier)

/- A health check in its slot is active. -/
theorem Situation.Sound.hasHealthCheck
    {situation : Situation}
    (h : situation.Sound config)
    (hCheck : situation.connection.session.check ≠ none) :
    situation.connection.hasHealthCheck = true := by
  rcases Option.ne_none_iff_exists'.mp hCheck with ⟨id, hSlot⟩
  rcases h.tidy.ledger.known .checkHealth id hSlot with
    ⟨task, hTask, hJob⟩
  have hHeld :
      situation.connection.slots task.job = some id := by
    rw [hJob]
    exact hSlot
  have hCalm := (h.tidy.slots_eq_iff hTask).mp hHeld
  unfold Connection.hasHealthCheck Slot.isActive
  rw [hSlot]
  exact
    (Scheduler.isActive_iff hTask hCalm).mpr
      (h.crew.tireless id task hTask hJob hCalm)

/-
  Let a connection be started and not closed, let nothing be
  under way, and let the last attempt to begin have found a
  local address. Then the connection is online, with a health
  check if one is wanted, or has an attempt pending, with one
  exception: nothing is pending, and when it last came online
  an attempt that was replaced before was still under way.
-/
theorem healed_unless_overlapped
    (hNew : Connection.new config drive = .ok connection)
    (past : List Occurrence)
    (hStarted : .start ∈ past)
    (hOpen :
      (replay connection past).connection.isClosed = false)
    (hHeld :
      (replay connection past).connection.isHeld = true)
    (hQuiet : (replay connection past).isQuiet = true)
    (hAddress : stranded connection past = false) :
    (replay connection past).connection.isHealed = true ↔
      (replay connection past).connection.hasPendingConnect =
          true ∨
        overlapped connection past = false := by
  have hSound := sound_replay hNew past
  have hPends :=
    pendingOrOver_replay hNew past hStarted hOpen hHeld
  have hAlone : (replay connection past).attempts = [] := by
    unfold Situation.isQuiet at hQuiet
    simp only [Bool.and_eq_true, List.isEmpty_iff] at hQuiet
    exact hQuiet.1
  rw [hAddress] at hPends
  unfold Connection.isHealed
  rcases hPends with hPending | hStrands | hOver
  · simp [hPending]
  · cases hStrands
  · cases hOverlaps : overlapped connection past with
    | true =>
        have hDown :
            (replay connection
                past).connection.session.isConnected =
              false := by
          apply eq_false_of_ne_true
          intro hUp
          exact hOver.crowd hOverlaps hUp hAlone
        simp [hDown]
    | false =>
        rcases hOver.alone hOverlaps with ⟨hUp, -, hCheck⟩
        rw [hSound.tidy.sameConfig, hUp]
        cases hChecks : config.checksHealth with
        | false => simp
        | true =>
            have hHealth :=
              hSound.hasHealthCheck (hCheck hChecks)
            simp [hHealth]

end Replay

/- It comes online alone, and the connection stays online. -/
theorem healed_of_undisturbed :
    (replay Sample.connection
      Sample.undisturbed).connection.isHealed = true := by
  have hCourse :
      let now := replay Sample.connection Sample.undisturbed
      now.connection.isClosed = false ∧
        now.connection.isHeld = true ∧
        now.isQuiet = true ∧
        stranded Sample.connection Sample.undisturbed = false ∧
        overlapped Sample.connection Sample.undisturbed =
          false := by
    decide +kernel
  rcases hCourse with
    ⟨hOpen, hHeld, hQuiet, hAddress, hAlone⟩
  exact
    (healed_unless_overlapped Sample.new_connection
      Sample.undisturbed (by simp [Sample.undisturbed])
      hOpen hHeld hQuiet hAddress).mpr (Or.inr hAlone)

/-
  An attempt awaits the answer to its registration while
  another replaces it and comes online. Then it ends.
-/
def Sample.overtaken : List Occurrence :=
  [ registers 0 1,
    tellsKeys 1 2,
    registers 1 2,
    unregisters 1 2,
    .run world 1,
    .start,
    unregisters 0 1,
    .run world 0,
    .start ]

/- Its end leaves the connection offline, nothing pending. -/
theorem not_healed_of_overtaken :
    let before :=
      replay Sample.connection Sample.overtaken.tail
    let after := replay Sample.connection Sample.overtaken
    before.connection.isHealed = true ∧
      after.isQuiet = true ∧
      after.connection.isClosed = false ∧
      after.connection.isHeld = true ∧
      stranded Sample.connection Sample.overtaken = false ∧
      after.connection.isHealed = false := by
  decide +kernel

end BrainLink
