import BrainLink.Proofs.Healing

/-
  Two connections that do the same at different times, whether
  their tasks run by the clock or by hand.

  Key definitions include:
    * `Task.Agrees`
    * `Scheduler.Agrees`
    * `Connection.Agrees`
    * `Connection.Tallies`

  Main statements:
    * `Connection.Agrees.view`
    * `Connection.Agrees.goOffline`
    * `Connection.Agrees.goOnline`
    * `Connection.Agrees.obey`
    * `Connection.Agrees.resume`

  A connection reads of its tasks which were cancelled and
  which are over, and never the time. So whatever two
  connections do that agree on this, they do alike, and agree
  on it again.
-/

namespace BrainLink

------------------------------------------------------------
-- Tasks
------------------------------------------------------------

/-
  Two tasks agree if they are the same but for their stages,
  and unless they were cancelled both are over or neither is.
  If they run once, both wait or neither does.
-/
inductive Task.Agrees (task : Task Job) : Task Job → Prop where
| intro
    (stage : Stage)
    (hStage :
      task.cancelled = false →
        (stage = .over ↔ task.stage = .over) ∧
          (task.repetition = .once →
            isWaiting { task with stage := stage } =
              task.isWaiting)) :
    Agrees task { task with stage := stage }

namespace Task.Agrees

variable {left right : Task Job}

theorem repetition (h : left.Agrees right) :
    right.repetition = left.repetition := by
  cases h
  rfl

theorem job (h : left.Agrees right) : right.job = left.job := by
  cases h
  rfl

theorem cancelled (h : left.Agrees right) :
    right.cancelled = left.cancelled := by
  cases h
  rfl

theorem over_iff
    (h : left.Agrees right)
    (hCalm : left.cancelled = false) :
    right.stage = .over ↔ left.stage = .over := by
  cases h with
  | intro stage hStage => exact (hStage hCalm).1

theorem waits
    (h : left.Agrees right)
    (hCalm : left.cancelled = false)
    (hOnce : left.repetition = .once) :
    right.isWaiting = left.isWaiting := by
  cases h with
  | intro stage hStage => exact (hStage hCalm).2 hOnce

/- A task that was cancelled agrees wherever it stands. -/
theorem cancel (h : left.Agrees right) :
    Task.Agrees { left with cancelled := true }
      { right with cancelled := true } := by
  cases h with
  | intro stage hStage => exact .intro stage nofun

/- Both stand elsewhere. -/
theorem restage
    (h : left.Agrees right)
    (one other : Stage)
    (hStages :
      left.cancelled = false →
        (other = .over ↔ one = .over) ∧
          (left.repetition = .once →
            isWaiting { left with stage := other } =
              isWaiting { left with stage := one })) :
    Task.Agrees { left with stage := one }
      { right with stage := other } := by
  cases h with
  | intro stage hStage => exact .intro other hStages

end Task.Agrees

------------------------------------------------------------
-- Schedulers
------------------------------------------------------------

/- Two schedulers agree if their tasks do, one by one. -/
structure Scheduler.Agrees (left right : Scheduler Job) : Prop where
  length : right.tasks.length = left.tasks.length
  task :
    ∀ id one other,
      left.task? id = some one →
        right.task? id = some other → one.Agrees other

namespace Scheduler

variable {left right : Scheduler Job}

theorem Agrees.nextId (h : left.Agrees right) :
    right.nextId = left.nextId :=
  h.length

/- A name stands for something in both or in neither. -/
theorem Agrees.cases
    (h : left.Agrees right)
    (id : TaskId) :
    (left.task? id = none ∧ right.task? id = none) ∨
      ∃ one other,
        left.task? id = some one ∧
          right.task? id = some other ∧ one.Agrees other := by
  cases hLeft : left.task? id with
  | none =>
      refine Or.inl ⟨rfl, ?_⟩
      unfold task? at hLeft ⊢
      rw [List.getElem?_eq_none_iff] at hLeft ⊢
      rw [h.length]
      exact hLeft
  | some one =>
      cases hRight : right.task? id with
      | some other =>
          exact
            Or.inr
              ⟨one, other, rfl, rfl,
                h.task id one other hLeft hRight⟩
      | none =>
          unfold task? at hLeft hRight
          rw [List.getElem?_eq_none_iff, h.length,
            ← List.getElem?_eq_none_iff, hLeft] at hRight
          cases hRight

/- Each task changes in its own way. -/
theorem Agrees.update
    (h : left.Agrees right)
    (id : TaskId)
    {change switch : Task Job → Task Job}
    (hChange :
      ∀ one other,
        left.task? id = some one →
          one.Agrees other →
            (change one).Agrees (switch other)) :
    (left.update id change).Agrees (right.update id switch) where
  length := by
    unfold Scheduler.update
    rw [List.length_modify, List.length_modify]
    exact h.length
  task other one two hOne hTwo := by
    rw [task?_update] at hOne hTwo
    by_cases hSame : id = other
    · subst hSame
      rw [if_pos rfl, Option.map_eq_some_iff] at hOne hTwo
      rcases hOne with ⟨first, hFirst, rfl⟩
      rcases hTwo with ⟨second, hSecond, rfl⟩
      exact
        hChange first second hFirst
          (h.task id first second hFirst hSecond)
    · rw [if_neg hSame] at hOne hTwo
      exact h.task other one two hOne hTwo

/- The time does not matter. -/
theorem Agrees.setTime
    (h : left.Agrees right)
    (time : Millis) :
    (left.setTime time).Agrees right :=
  ⟨h.length, h.task⟩

theorem Agrees.cancel
    (h : left.Agrees right)
    (id : TaskId) :
    (left.cancel id).Agrees (right.cancel id) :=
  h.update id fun _ _ _ hAgrees => hAgrees.cancel

theorem Agrees.add
    (h : left.Agrees right)
    (repetition : Repetition)
    (period : Millis)
    (job : Job) :
    (left.add repetition period job).Agrees
      (right.add repetition period job) where
  length := by
    unfold Scheduler.add
    rw [List.length_append, List.length_append, h.length]
    rfl
  task id one other hOne hOther := by
    rw [task?_add] at hOne hOther
    rw [h.nextId] at hOther
    split at hOne
    · rename_i hNext
      rw [if_pos hNext] at hOther
      cases hOne
      cases hOther
      exact .intro _ fun _ => ⟨⟨nofun, nofun⟩, fun _ => rfl⟩
    · rename_i hOld
      rw [if_neg hOld] at hOther
      exact h.task id one other hOne hOther

/- The run of a task ends in both. -/
theorem Agrees.endRun
    (h : left.Agrees right)
    (id : TaskId) :
    (left.endRun id).Agrees (right.endRun id) := by
  apply h.update
  intro one other _ hAgrees
  cases hAgrees with
  | intro stage hStage =>
      dsimp only
      split
      · rename_i hRecurs _
        refine .intro _ fun _ => ⟨⟨nofun, nofun⟩, ?_⟩
        intro hOnce
        cases hRecurs.symm.trans hOnce
      · exact
          .intro _ fun _ =>
            ⟨⟨fun _ => rfl, fun _ => rfl⟩, fun _ => rfl⟩

theorem Agrees.isCancelled
    (h : left.Agrees right)
    (id : TaskId) :
    right.isCancelled id = left.isCancelled id := by
  rcases h.cases id with
    ⟨hLeft, hRight⟩ | ⟨one, other, hLeft, hRight, hAgrees⟩
  · simp [Scheduler.isCancelled, hLeft, hRight]
  · rw [isCancelled_of_task? hLeft, isCancelled_of_task? hRight]
    exact hAgrees.cancelled

/- Whatever drives a task, it is active until it is over. -/
theorem Agrees.isActive
    (h : left.Agrees right)
    (id : TaskId) :
    right.isActive id = left.isActive id := by
  rcases h.cases id with
    ⟨hLeft, hRight⟩ | ⟨one, other, hLeft, hRight, hAgrees⟩
  · simp [Scheduler.isActive, hLeft, hRight]
  · have hLeftGone := isCancelled_of_task? hLeft
    have hRightGone := isCancelled_of_task? hRight
    rw [hAgrees.cancelled] at hRightGone
    cases hCancelled : one.cancelled with
    | true =>
        rw [hCancelled] at hLeftGone hRightGone
        simp [Scheduler.isActive, hLeft, hRight, hLeftGone,
          hRightGone]
    | false =>
        apply Bool.eq_iff_iff.mpr
        rw [isActive_iff hLeft hCancelled,
          isActive_iff hRight
            (hAgrees.cancelled.trans hCancelled)]
        exact not_congr (hAgrees.over_iff hCancelled)

end Scheduler

namespace Slot

variable {left right : Scheduler Job}

theorem agrees_release
    (h : left.Agrees right)
    (slot : Slot) :
    (slot.release left).Agrees (slot.release right) := by
  cases slot with
  | none => exact h
  | some id => exact h.cancel id

theorem agrees_isActive
    (h : left.Agrees right)
    (slot : Slot) :
    slot.isActive right = slot.isActive left := by
  cases slot with
  | none => rfl
  | some id => exact h.isActive id

end Slot

------------------------------------------------------------
-- Connections
------------------------------------------------------------

/-
  Two connections agree if they are the same, but that their
  tasks only agree and that they have done the same things at
  other times.
-/
inductive Connection.Agrees (left : Connection) :
    Connection → Prop where
| intro
    (tasks : Scheduler Job)
    (journal : List (Millis × Effect))
    (hTasks : left.tasks.Agrees tasks)
    (hJournal :
      journal.map Prod.snd = left.journal.map Prod.snd) :
    Agrees left
      { left with
        tasks := tasks
        journal := journal }

namespace Connection

/- An attempt goes on under the name that it has found. -/
theorem useAddress_eq
    (world : World)
    (task : TaskId)
    (transport : TransportId)
    (address : Address)
    (connection : Connection) :
    connection.useAddress world task transport address =
      match connection.config.callbackUrl address with
      | .error cause => connection.failAttempt world task cause
      | .ok url =>
          if (connection.named url).isCancelled task then
            (connection.named url).failAttempt world task
              .interrupted
          else
            (connection.named url).replaceRegistration world
              task transport :=
  rfl

/- They have come equally far. -/
def Tallies (left right : Connection × Progress) : Prop :=
  left.1.Agrees right.1 ∧ right.2 = left.2

namespace Agrees

variable {left right : Connection}

------------------------------------------------------------
-- What They See
------------------------------------------------------------

theorem tasks (h : left.Agrees right) :
    left.tasks.Agrees right.tasks := by
  cases h with
  | intro tasks journal hTasks hJournal => exact hTasks

theorem isCancelled
    (h : left.Agrees right)
    (task : TaskId) :
    right.isCancelled task = left.isCancelled task :=
  h.tasks.isCancelled task

theorem view (h : left.Agrees right) :
    right.view = left.view := by
  cases h with
  | intro tasks journal hTasks hJournal =>
      have hConnect :=
        Slot.agrees_isActive hTasks left.session.connect
      have hCheck :=
        Slot.agrees_isActive hTasks left.session.check
      simp only [Connection.view, hasPendingConnect,
        hasHealthCheck, hConnect, hCheck]

theorem registry (h : left.Agrees right) :
    right.registry = left.registry := by
  cases h
  rfl

theorem isHeld (h : left.Agrees right) :
    right.isHeld = left.isHeld := by
  cases h
  rfl

theorem effects (h : left.Agrees right) :
    right.journal.map Prod.snd = left.journal.map Prod.snd := by
  cases h with
  | intro tasks journal hTasks hJournal => exact hJournal

theorem closings (h : left.Agrees right) :
    right.closings = left.closings := by
  cases h
  rfl

------------------------------------------------------------
-- Small Steps
------------------------------------------------------------

/- They write down the same. -/
theorem record
    (h : left.Agrees right)
    (effect : Effect) :
    (left.record effect).Agrees (right.record effect) := by
  cases h with
  | intro tasks journal hTasks hJournal =>
      refine .intro tasks _ hTasks ?_
      simp [Connection.record, hJournal]

/- Their tasks change. -/
theorem withTasks
    (h : left.Agrees right)
    {one other : Scheduler Job}
    (hTasks : one.Agrees other) :
    Agrees { left with tasks := one }
      { right with tasks := other } := by
  cases h with
  | intro tasks journal _ hJournal =>
      exact .intro other journal hTasks hJournal

/- Their sessions change. -/
theorem withSession
    (h : left.Agrees right)
    (change : Session → Session) :
    Agrees { left with session := change left.session }
      { right with session := change right.session } := by
  cases h with
  | intro tasks journal hTasks hJournal =>
      exact .intro tasks journal hTasks hJournal

/- Those who listen change. -/
theorem withRegistry
    (h : left.Agrees right)
    (change : Registry Watcher → Registry Watcher) :
    Agrees { left with registry := change left.registry }
      { right with registry := change right.registry } := by
  cases h with
  | intro tasks journal hTasks hJournal =>
      exact .intro tasks journal hTasks hJournal

theorem clear (h : left.Agrees right) (job : Job) :
    (left.clear job).Agrees (right.clear job) := by
  cases h with
  | intro tasks journal hTasks hJournal =>
      exact
        .intro _ journal (Slot.agrees_release hTasks _) hJournal

/- A connection is closed where the other is. -/
theorem clearIfClosed
    (h : left.Agrees right)
    {clear : Connection → Connection}
    (hClear :
      ∀ {left right : Connection},
        left.Agrees right → (clear left).Agrees (clear right)) :
    Agrees (if left.isClosed then clear left else left)
      (if right.isClosed then clear right else right) := by
  have hCleared := hClear h
  cases h with
  | intro tasks journal hTasks hJournal =>
      dsimp only
      split
      · exact hCleared
      · exact .intro tasks journal hTasks hJournal

/- Each has the next name for the task that it schedules. -/
theorem install (h : left.Agrees right) (job : Job) :
    (left.install job).Agrees (right.install job) := by
  cases h with
  | intro tasks journal hTasks hJournal =>
      have hInstalled :
          Agrees
            { left with
              tasks :=
                (left.slots job).release
                  (left.tasks.add job.repetition
                    (job.period left.config) job)
              session :=
                job.fill left.session (some left.tasks.nextId) }
            { left with
              tasks :=
                (left.slots job).release
                  (tasks.add job.repetition
                    (job.period left.config) job)
              session :=
                job.fill left.session (some tasks.nextId)
              journal := journal } := by
        rw [hTasks.nextId]
        exact
          .intro _ journal
            (Slot.agrees_release (hTasks.add ..) _) hJournal
      exact hInstalled.record _

theorem schedule (h : left.Agrees right) (job : Job) :
    (left.schedule job).Agrees (right.schedule job) :=
  (h.install job).clearIfClosed fun hAgrees => hAgrees.clear job

theorem scheduleConnect (h : left.Agrees right) :
    left.scheduleConnect.Agrees right.scheduleConnect :=
  h.schedule .connect

theorem scheduleCheck (h : left.Agrees right) :
    left.scheduleCheck.Agrees right.scheduleCheck := by
  have hScheduled := h.schedule .checkHealth
  cases h with
  | intro tasks journal hTasks hJournal =>
      rw [Connection.scheduleCheck_eq,
        Connection.scheduleCheck_eq]
      dsimp only
      split
      · exact hScheduled
      · exact .intro tasks journal hTasks hJournal

theorem start (h : left.Agrees right) :
    left.start.Agrees right.start := by
  have hScheduled := h.scheduleConnect
  cases h with
  | intro tasks journal hTasks hJournal =>
      unfold Connection.start
      dsimp only
      split
      · exact .intro tasks journal hTasks hJournal
      · exact hScheduled

theorem drop (h : left.Agrees right) :
    left.drop.Agrees right.drop := by
  cases h with
  | intro tasks journal hTasks hJournal =>
      exact
        .intro _ journal
          (Slot.agrees_release
            (Slot.agrees_release hTasks _) _) hJournal

------------------------------------------------------------
-- Listeners
------------------------------------------------------------

theorem addListener
    (h : left.Agrees right)
    (watcher : Watcher) :
    (left.addListener watcher).Agrees
      (right.addListener watcher) := by
  cases h with
  | intro tasks journal hTasks hJournal =>
      exact .intro tasks journal hTasks hJournal

theorem removeListener
    (h : left.Agrees right)
    (name : String) :
    (left.removeListener name).1.Agrees
      (right.removeListener name).1 := by
  cases h with
  | intro tasks journal hTasks hJournal =>
      unfold Connection.removeListener
      dsimp only
      split
      · exact .intro tasks journal hTasks hJournal
      · exact .intro tasks journal hTasks hJournal

theorem subscribe (h : left.Agrees right) :
    left.subscribe.Agrees right.subscribe :=
  h.withRegistry Registry.subscribe

/- What is the same for each listener is so for all. -/
theorem visitEach
    (h : left.Agrees right)
    {isClosed : Entry Watcher → Connection → Bool}
    {visit : Entry Watcher → Connection → Connection}
    (hClosed :
      ∀ {left right : Connection} (entry : Entry Watcher),
        left.Agrees right →
          isClosed entry right = isClosed entry left)
    (hVisit :
      ∀ {left right : Connection} (entry : Entry Watcher),
        left.Agrees right →
          (visit entry left).Agrees (visit entry right))
    (entries : List (Entry Watcher)) :
    (BrainLink.visitEach isClosed visit entries left).1.Agrees
        (BrainLink.visitEach isClosed visit entries right).1 ∧
      (BrainLink.visitEach isClosed visit entries right).2 =
        (BrainLink.visitEach isClosed visit entries left).2 := by
  induction entries generalizing left right with
  | nil => exact ⟨h, rfl⟩
  | cons entry entries ih =>
      unfold BrainLink.visitEach
      rw [hClosed entry h]
      split
      · exact ⟨(ih h).1, rfl⟩
      · exact ih (hVisit entry h)

section Telling

variable {closeNow : Connection → Connection}
variable
  (hClose :
    ∀ {left right : Connection},
      left.Agrees right →
        (closeNow left).Agrees (closeNow right))

include hClose

/- A listener moves them alike. -/
theorem makeMove
    (h : left.Agrees right)
    (move : Move) :
    (left.makeMove closeNow move).Agrees
      (right.makeMove closeNow move) := by
  unfold Connection.makeMove
  rw [h.isHeld]
  split
  · cases move with
    | start => exact h.start
    | close =>
        cases h with
        | intro tasks journal hTasks hJournal =>
            exact .intro tasks journal hTasks hJournal
    | closeNow => exact hClose h
    | addListener name moves => exact h.addListener _
    | removeListener name => exact h.removeListener name
    | subscribe => exact h.subscribe
  · exact h

theorem makeMoves
    (h : left.Agrees right)
    (moves : List Move) :
    (moves.foldl (Connection.makeMove closeNow) left).Agrees
      (moves.foldl (Connection.makeMove closeNow) right) := by
  induction moves generalizing left right with
  | nil => exact h
  | cons move moves ih => exact ih (h.makeMove hClose move)

/- A listener is told the same of them. -/
theorem tell
    (h : left.Agrees right)
    (event : Event)
    (entry : Entry Watcher) :
    (left.tell closeNow event entry).Agrees
      (right.tell closeNow event entry) := by
  unfold Connection.tell
  cases entry.2 with
  | channel =>
      exact
        (h.withRegistry fun registry =>
          registry.push entry.1 event).record _
  | callback watcher =>
      dsimp only
      rw [h.view, h.isHeld]
      exact (h.record _).makeMoves hClose _

theorem announce
    (h : left.Agrees right)
    (event : Event) :
    (left.announce closeNow event).Agrees
      (right.announce closeNow event) := by
  have hClosed :
      ∀ {left right : Connection} (entry : Entry Watcher),
        left.Agrees right →
          right.registry.isClosed entry =
            left.registry.isClosed entry := by
    intro left right entry hAgrees
    rw [hAgrees.registry]
  have hVisited :=
    h.visitEach hClosed
      (fun entry hAgrees => hAgrees.tell hClose event entry)
      left.registry.entries
  unfold Connection.announce
  rw [h.registry]
  dsimp only at hVisited ⊢
  rw [hVisited.2]
  split
  · exact hVisited.1.withRegistry Registry.prune
  · exact hVisited.1

theorem setConnected
    (h : left.Agrees right)
    (value : Bool) :
    (left.setConnected closeNow value).Agrees
      (right.setConnected closeNow value) := by
  have hSession : right.session = left.session := by
    cases h
    rfl
  have hSet := h.withSession fun session =>
    session.setConnected value
  unfold Connection.setConnected
  rw [hSession] at hSet ⊢
  dsimp only
  split
  · exact hSet
  · exact hSet.announce hClose _

end Telling

------------------------------------------------------------
-- Closing
------------------------------------------------------------

theorem endClosings (h : left.Agrees right) :
    Agrees { left with closings := 0 }
      { right with closings := 0 } := by
  cases h with
  | intro tasks journal hTasks hJournal =>
      exact .intro tasks journal hTasks hJournal

theorem shut (h : left.Agrees right) :
    left.shut.Agrees right.shut := by
  cases h with
  | intro tasks journal hTasks hJournal =>
      exact
        .intro _ journal
          (Slot.agrees_release
            (Slot.agrees_release hTasks _) _) hJournal

theorem farewell (h : left.Agrees right) :
    right.farewell = left.farewell := by
  cases h
  rfl

theorem endClose
    (h : left.Agrees right)
    {offline : Connection → Connection}
    (hOffline :
      ∀ {left right : Connection},
        left.Agrees right →
          (offline left).Agrees (offline right)) :
    (left.endClose offline).Agrees (right.endClose offline) :=
  hOffline
    ((h.clear .checkHealth).withSession fun session =>
      { session with
        transport := none
        callbackUrl := none })

/- The same requests are answered at once. -/
theorem closeNow
    (h : left.Agrees right)
    (world : World)
    {offline : Connection → Connection}
    (hOffline :
      ∀ {left right : Connection},
        left.Agrees right →
          (offline left).Agrees (offline right)) :
    (left.closeNow world offline).Agrees
      (right.closeNow world offline) := by
  have hClosed : right.isClosed = left.isClosed := by
    cases h
    rfl
  unfold Connection.closeNow
  rw [hClosed, h.farewell]
  split
  · exact h
  · dsimp only
    split
    · split
      · exact h.shut.record _
      · exact (h.shut.record _).endClose hOffline
    · exact h.shut.endClose hOffline

theorem stayOffline (h : left.Agrees right) :
    left.stayOffline.Agrees right.stayOffline :=
  h.withSession fun session => session.setConnected false

/- They go offline, and tell the same. -/
theorem goOffline
    (h : left.Agrees right)
    (world : World) :
    (left.goOffline world).Agrees (right.goOffline world) := by
  apply h.setConnected
  intro left right hAgrees
  exact hAgrees.closeNow world fun hOther => hOther.stayOffline

/- They come online, and tell the same. -/
theorem goOnline
    (h : left.Agrees right)
    (world : World) :
    (left.goOnline world).Agrees (right.goOnline world) := by
  apply h.setConnected
  intro left right hAgrees
  exact
    hAgrees.closeNow world fun hOther => hOther.goOffline world

------------------------------------------------------------
-- Attempts
------------------------------------------------------------

theorem config (h : left.Agrees right) :
    right.config = left.config := by
  cases h
  rfl

theorem session (h : left.Agrees right) :
    right.session = left.session := by
  cases h
  rfl

theorem registrar (h : left.Agrees right) :
    right.registrar = left.registrar := by
  cases h
  rfl

theorem keys (h : left.Agrees right) :
    right.keys = left.keys := by
  cases h
  rfl

/- They ask the same. -/
theorem ask
    (h : left.Agrees right)
    (sending : Sending)
    (errand : Errand) :
    Tallies (left.ask sending errand)
      (right.ask sending errand) :=
  ⟨h.record _, rfl⟩

/- They come to the same end. -/
theorem ends
    (h : left.Agrees right)
    (progress : Progress) :
    Tallies (left, progress) (right, progress) :=
  ⟨h, rfl⟩

theorem failAttempt
    (h : left.Agrees right)
    (world : World)
    (task : TaskId)
    (cause : Cause) :
    Tallies (left.failAttempt world task cause)
      (right.failAttempt world task cause) := by
  have hLow := h.goOffline world
  unfold Connection.failAttempt
  rw [h.isCancelled task]
  dsimp only
  split
  · exact hLow.ends .over
  · exact hLow.scheduleConnect.ends .over

theorem sendRegistration
    (h : left.Agrees right)
    (world : World)
    (task : TaskId)
    (transport : TransportId) :
    Tallies (left.sendRegistration world task transport)
      (right.sendRegistration world task transport) := by
  unfold Connection.sendRegistration
  rw [h.registrar, h.session]
  split
  · exact h.failAttempt world task _
  · exact h.ask _ _

theorem replaceRegistration
    (h : left.Agrees right)
    (world : World)
    (task : TaskId)
    (transport : TransportId) :
    Tallies (left.replaceRegistration world task transport)
      (right.replaceRegistration world task transport) := by
  unfold Connection.replaceRegistration
  rw [h.farewell]
  split
  · exact (h.clear .checkHealth).failAttempt world task _
  · exact (h.clear .checkHealth).sendRegistration world task
      transport
  · exact h.ask _ _

theorem useAddress
    (h : left.Agrees right)
    (world : World)
    (task : TaskId)
    (transport : TransportId)
    (address : Address) :
    Tallies (left.useAddress world task transport address)
      (right.useAddress world task transport address) := by
  rw [useAddress_eq, useAddress_eq, h.config]
  split
  · exact h.failAttempt world task _
  · rename_i url _
    have hNamed : (left.named url).Agrees (right.named url) :=
      h.withSession fun session =>
        { session with callbackUrl := some url }
    rw [hNamed.isCancelled task]
    split
    · exact hNamed.failAttempt world task _
    · exact hNamed.replaceRegistration world task transport

/- They make their transports alike. -/
theorem equip (h : left.Agrees right) :
    left.equip.Agrees right.equip := by
  cases h with
  | intro tasks journal hTasks hJournal =>
      refine .intro tasks _ hTasks ?_
      simp [Connection.equip, Connection.record, hJournal]

theorem transports (h : left.Agrees right) :
    right.transports = left.transports := by
  cases h
  rfl

theorem beginAttempt
    (h : left.Agrees right)
    (world : World)
    (task : TaskId) :
    Tallies (left.beginAttempt world task)
      (right.beginAttempt world task) := by
  have hLow := h.goOffline world
  rw [beginAttempt_eq, beginAttempt_eq]
  dsimp only
  split
  · split
    · exact (hLow.equip.goOffline world).ends .over
    · rw [hLow.transports]
      exact hLow.equip.useAddress world task _ _
  · have hTried := hLow.withSession fun session =>
      { session with state := .connecting }
    exact hTried.failAttempt world task _

theorem afterUnregister
    (h : left.Agrees right)
    (world : World)
    (task : TaskId)
    (transport : TransportId)
    (answer : Http.Answer) :
    Tallies (left.afterUnregister world task transport answer)
      (right.afterUnregister world task transport answer) := by
  unfold Connection.afterUnregister
  dsimp only
  split
  · exact (h.clear .checkHealth).failAttempt world task _
  · exact (h.clear .checkHealth).sendRegistration world task
      transport

theorem afterRegister
    (h : left.Agrees right)
    (world : World)
    (task : TaskId)
    (transport : TransportId)
    (answer : Http.Answer) :
    Tallies (left.afterRegister world task transport answer)
      (right.afterRegister world task transport answer) := by
  unfold Connection.afterRegister
  rw [h.isCancelled task, h.config]
  split
  · exact h.failAttempt world task _
  · split
    · exact h.failAttempt world task _
    · exact h.ask _ _

/- They learn the same keys. -/
theorem withKeys
    (h : left.Agrees right)
    (keys : DeviceKeys) :
    Agrees { left with keys := keys }
      { right with keys := keys } := by
  cases h with
  | intro tasks journal hTasks hJournal =>
      exact .intro tasks journal hTasks hJournal

theorem afterKeys
    (h : left.Agrees right)
    (world : World)
    (task : TaskId)
    (answer : Http.Answer) :
    Tallies (left.afterKeys world task answer)
      (right.afterKeys world task answer) := by
  unfold Connection.afterKeys
  rw [h.keys]
  have hLearnt := h.withKeys (KeyCache.update left.keys answer).1
  have hUp := hLearnt.goOnline world
  dsimp only
  rw [hLearnt.isCancelled task, hUp.isCancelled task]
  split
  · exact hLearnt.failAttempt world task _
  · split
    · exact hLearnt.failAttempt world task _
    · split
      · exact (hUp.goOffline world).failAttempt world task _
      · exact hUp.scheduleCheck.ends .over

------------------------------------------------------------
-- Health Checks
------------------------------------------------------------

theorem beginCheck
    (h : left.Agrees right)
    (task : TaskId) :
    Tallies (left.beginCheck task) (right.beginCheck task) := by
  unfold Connection.beginCheck
  rw [h.isCancelled task, h.config]
  split
  · exact h.ends .over
  · exact (h.record _).ends (.probes task)

theorem afterProbe
    (h : left.Agrees right)
    (world : World)
    (task : TaskId)
    (isReachable : Bool) :
    Tallies (left.afterProbe world task isReachable)
      (right.afterProbe world task isReachable) := by
  unfold Connection.afterProbe
  rw [h.isCancelled task]
  split
  · exact h.ends .over
  · exact
      ((h.goOffline world).clear
        .checkHealth).scheduleConnect.ends .over

------------------------------------------------------------
-- Commands
------------------------------------------------------------

theorem askInSession
    (h : left.Agrees right)
    (request : Http.Request)
    (errand : TransportId → Errand) :
    Tallies (left.askInSession request errand)
      (right.askInSession request errand) := by
  unfold Connection.askInSession
  rw [h.session]
  split
  · exact h.ends _
  · exact h.ask _ _

theorem askAnew
    (h : left.Agrees right)
    (world : World)
    (endpoint : Endpoint)
    (errand : Errand) :
    Tallies (left.askAnew world endpoint errand)
      (right.askAnew world endpoint errand) := by
  cases h with
  | intro tasks journal hTasks hJournal =>
      unfold Connection.askAnew createTransport
      cases world.creates with
      | false => exact ⟨.intro tasks journal hTasks hJournal, rfl⟩
      | true =>
          refine ⟨.intro tasks _ hTasks ?_, rfl⟩
          simp [Connection.ask, Connection.record, hJournal]

theorem beginClose
    (h : left.Agrees right)
    (world : World) :
    Tallies (left.beginClose world)
      (right.beginClose world) := by
  have hClosed : right.isClosed = left.isClosed := by
    cases h
    rfl
  have hEnded :=
    h.shut.endClose fun hAgrees => hAgrees.goOffline world
  unfold Connection.beginClose
  rw [hClosed, h.farewell]
  split
  · exact h.ends .over
  · dsimp only
    split
    · exact h.shut.ask _ _
    · exact hEnded.ends .over

theorem obey
    (h : left.Agrees right)
    (world : World)
    (command : Command) :
    Tallies (left.obey world command)
      (right.obey world command) := by
  cases command with
  | close => exact h.beginClose world
  | notify message =>
      unfold Connection.obey beginNotify
      dsimp only
      rw [h.session, h.config]
      split
      · exact h.askInSession _ _
      · exact h.ends .over
  | executeRecipe key on =>
      unfold Connection.obey beginRecipe
      dsimp only
      rw [h.config]
      split
      · exact h.ends _
      · exact h.askInSession _ _
  | systemInfo => exact h.askAnew world _ _
  | blinkLed => exact h.askAnew world _ _
  | logHtml => exact h.askAnew world _ _

theorem afterListing
    (h : left.Agrees right)
    (transport : TransportId)
    (key : String)
    (on : Bool)
    (answer : Http.Answer) :
    Tallies (left.afterListing transport key on answer)
      (right.afterListing transport key on answer) := by
  unfold Connection.afterListing
  rw [h.config]
  split
  · exact h.ends _
  · split
    · exact h.ends .over
    · split
      · exact h.ends .over
      · exact h.ask _ _

------------------------------------------------------------
-- Going On
------------------------------------------------------------

/- Given the same answer, they go on alike. -/
theorem resume
    (h : left.Agrees right)
    (world : World)
    (errand : Errand)
    (answer : Http.Answer) :
    Tallies (left.resume world errand answer)
      (right.resume world errand answer) := by
  cases errand with
  | unregistering task transport =>
      exact h.afterUnregister world task transport answer
  | registering task transport =>
      exact h.afterRegister world task transport answer
  | fetchingKeys task transport =>
      exact h.afterKeys world task answer
  | closing =>
      exact
        (h.endClose fun hAgrees =>
          hAgrees.goOffline world).ends .over
  | listingRecipes transport key on =>
      exact h.afterListing transport key on answer
  | _ => exact h.ends _

/- They run a task alike. -/
theorem runJob
    (h : left.Agrees right)
    (world : World)
    (task : TaskId) :
    Tallies (left.runJob world task)
      (right.runJob world task) := by
  rcases h.tasks.cases task with
    ⟨hLeft, hRight⟩ | ⟨one, other, hLeft, hRight, hAgrees⟩
  · unfold Connection.runJob
    rw [hLeft, hRight]
    exact h.ends .over
  · have hSame := hAgrees.job
    cases hJob : one.job with
    | connect =>
        rw [runJob_of_connect world hLeft hJob,
          runJob_of_connect world hRight (hSame.trans hJob)]
        exact h.beginAttempt world task
    | checkHealth =>
        rw [runJob_of_checkHealth world hLeft hJob,
          runJob_of_checkHealth world hRight (hSame.trans hJob)]
        exact h.beginCheck task

end Agrees

end Connection

end BrainLink
