import BrainLink.Proofs.Tidiness

/-
  What an attempt or a health check comes to from one answer
  to its next question.

  Key definitions include:
    * `Connection.giveUp`
    * `Connection.Renewed`
    * `Connection.Alike`
    * `Connection.Opening`
    * `Connection.Advance`

  Main statements:
    * `Connection.failAttempt_eq`
    * `Connection.lowered_giveUp`
    * `Connection.opening_beginAttempt`
    * `Connection.advance_resume`
    * `Connection.afterProbe_cases`

  Whatever goes wrong in an attempt, it gives up in the same
  way: it goes offline and schedules another attempt, unless
  it was cancelled.
-/

namespace BrainLink

------------------------------------------------------------
-- Failures
------------------------------------------------------------

/- A refused request can be tried again. -/
theorem isRetryable_of_accept
    {answer : Http.Answer}
    {cause : Cause}
    (hAnswer : Http.accept answer = .error cause) :
    cause.isRetryable = true := by
  unfold Http.accept at hAnswer
  split at hAnswer
  · cases hAnswer
    rfl
  · split at hAnswer
    · cases hAnswer
    · cases hAnswer
      rfl

/- So can a project that could not be read. -/
theorem isRetryable_of_ofProject
    {body : String}
    {cause : Cause}
    (hProject : DeviceKeys.ofProject body = .error cause) :
    cause.isRetryable = true := by
  unfold DeviceKeys.ofProject at hProject
  split at hProject
  · cases hProject
    rfl
  · split at hProject
    · cases hProject
      rfl
    · cases hProject

theorem isRetryable_of_update
    {keys : DeviceKeys}
    {answer : Http.Answer}
    {cause : Cause}
    (hUpdate :
      (KeyCache.update keys answer).2 = .error cause) :
    cause.isRetryable = true := by
  unfold KeyCache.update DeviceKeys.ofAnswer at hUpdate
  cases hAnswer : Http.accept answer with
  | error refusal =>
      simp only [hAnswer] at hUpdate
      cases hUpdate
      exact isRetryable_of_accept hAnswer
  | ok body =>
      simp only [hAnswer] at hUpdate
      cases hProject : DeviceKeys.ofProject body with
      | error fault =>
          simp only [hProject] at hUpdate
          cases hUpdate
          exact isRetryable_of_ofProject hProject
      | ok found =>
          simp only [hProject] at hUpdate
          cases hUpdate

/- So can an attempt that has no URL to register. -/
theorem isRetryable_of_callbackUrl
    {config : Config}
    {address : Address}
    {cause : Cause}
    (hUrl : config.callbackUrl address = .error cause) :
    cause.isRetryable = true := by
  unfold Config.callbackUrl callbackUrl at hUrl
  dsimp only at hUrl
  split at hUrl
  · cases hUrl
  · cases hUrl
    rfl

theorem isRetryable_of_register
    {registrar : Registrar}
    {session : Session}
    {cause : Cause}
    (hRegister : registrar.register session = .error cause) :
    cause.isRetryable = true := by
  unfold Registrar.register Session.send? at hRegister
  split at hRegister
  · cases hRegister
    rfl
  · split at hRegister
    · cases hRegister
      rfl
    · cases hRegister

namespace Connection

------------------------------------------------------------
-- Giving Up
------------------------------------------------------------

/- How an attempt ends that did not come online. -/
def giveUp
    (world : World)
    (task : TaskId)
    (connection : Connection) :
    Connection :=
  if connection.isCancelled task then
    connection.goOffline world
  else
    (connection.goOffline world).scheduleConnect

/- An attempt fails in one way. -/
theorem failAttempt_eq
    {world : World}
    {task : TaskId}
    {cause : Cause}
    {connection : Connection}
    (hCause :
      cause.isRetryable = true ∨
        connection.isCancelled task = true) :
    connection.failAttempt world task cause =
      (connection.giveUp world task, .over) := by
  unfold failAttempt giveUp
  cases hCancelled : connection.isCancelled task with
  | true => simp
  | false =>
      rcases hCause with hRetry | hCause
      · simp [hRetry]
      · rw [hCancelled] at hCause
        cases hCause

theorem lowered_giveUp
    (world : World)
    (task : TaskId)
    (connection : Connection) :
    connection.Lowered (connection.giveUp world task) := by
  unfold giveUp
  split
  · exact lowered_goOffline world connection
  · exact (lowered_goOffline world connection).scheduleConnect

@[simp] theorem isClosed_scheduleConnect
    (connection : Connection) :
    connection.scheduleConnect.isClosed =
      connection.isClosed := by
  have hRearranges := connection.rearranges_scheduleConnect
  generalize connection.scheduleConnect = later at hRearranges
  cases hRearranges with
  | intro tasks connect check journal hTasks hRequests
      hNews => rfl

/-
  Unless it was closed, a connection holds an attempt that it
  has scheduled meanwhile.
-/
def Renewed (before after : Connection) : Prop :=
  after.isClosed = false →
    ∃ id,
      after.session.connect = some id ∧
        before.tasks.task? id = none

/- What is scheduled after going offline is new. -/
theorem Fallen.renewed_scheduleConnect
    {before after : Connection}
    (h : before.Fallen after) :
    before.Renewed after.scheduleConnect := by
  intro hOpen
  rw [isClosed_scheduleConnect] at hOpen
  exact
    ⟨after.tasks.nextId, connect_scheduleConnect hOpen,
      h.tasks.task?_eq_none (Scheduler.task?_nextId _)⟩

/- Who gives up without being cancelled schedules another. -/
theorem renewed_giveUp
    {world : World}
    {task : TaskId}
    {connection : Connection}
    (hCalm : connection.isCancelled task = false) :
    connection.Renewed (connection.giveUp world task) := by
  have hFallen :=
    (lowered_goOffline world connection).toFallen
  simpa [giveUp, hCalm] using hFallen.renewed_scheduleConnect

/-
  Who was cancelled on the way was so because another attempt
  was scheduled, or the connection closed.
-/
theorem Fallen.renewed
    {config : Config}
    {before after : Connection}
    {task : TaskId}
    (h : before.Fallen after)
    (hTidy : after.Tidy config)
    (hHeld : before.session.connect = some task)
    (hCancelled : after.isCancelled task = true) :
    before.Renewed after := by
  intro hOpen
  rcases h.connect hOpen with hSame | hFresh
  · rcases hTidy.exists_of_connect (hSame.trans hHeld) with
      ⟨known, hKnown, -, hCalm⟩
    rw [isCancelled, Scheduler.isCancelled_of_task? hKnown,
      hCalm] at hCancelled
    cases hCancelled
  · exact hFresh

------------------------------------------------------------
-- Going On
------------------------------------------------------------

/- What an attempt leaves as it is while it goes on. -/
structure Alike (before after : Connection) : Prop where
  isHeld : after.isHeld = before.isHeld
  isClosed : after.isClosed = before.isClosed
  tasks : before.tasks.Grows after.tasks
  flag : after.session.isConnected = before.session.isConnected
  connect : after.session.connect = before.session.connect

/- Where the flag is down, giving up has no other effect. -/
theorem alike_giveUp_of_down
    (world : World)
    (task : TaskId)
    {connection : Connection}
    (hDown : connection.session.isConnected = false) :
    (connection.giveUp world task).isClosed =
        connection.isClosed ∧
      (connection.giveUp world task).session.transport =
        connection.session.transport := by
  have hClosed :
      (connection.giveUp world task).isClosed =
        connection.isClosed := by
    unfold giveUp
    rw [goOffline_of_down hDown]
    split
    · rfl
    · simp [stayOffline]
  have hTransport :=
    (lowered_giveUp world task connection).transport
  rw [if_pos hClosed] at hTransport
  exact ⟨hClosed, hTransport⟩

/- Giving up some way after going offline. -/
theorem Fallen.giveUp
    {before middle after : Connection}
    (h : before.Fallen middle)
    (hAlike : middle.Alike after)
    (world : World)
    (task : TaskId) :
    before.Fallen (after.giveUp world task) := by
  have hDown : after.session.isConnected = false :=
    hAlike.flag.trans h.offline.flag
  have hStays : before.Fallen after.stayOffline :=
    { isHeld := hAlike.isHeld.trans h.isHeld
      tasks := h.tasks.trans hAlike.tasks
      offline := isOffline_stayOffline _
      closed := fun hClosed =>
        hAlike.isClosed.trans (h.closed hClosed)
      connect := fun hOpen => by
        have hMiddle := h.connect (hAlike.isClosed ▸ hOpen)
        rw [← hAlike.connect] at hMiddle
        exact hMiddle }
  unfold Connection.giveUp
  rw [goOffline_of_down hDown]
  split
  · exact hStays
  · exact hStays.scheduleConnect

/- It leaves another attempt, as the last had not ended. -/
theorem Fallen.renewed_giveUp
    {config : Config}
    {before middle after : Connection}
    {task : TaskId}
    (h : before.Fallen middle)
    (hAlike : middle.Alike after)
    (hTidy : after.Tidy config)
    (hHeld : before.session.connect = some task)
    (world : World) :
    before.Renewed (after.giveUp world task) := by
  have hFallen := h.giveUp hAlike world task
  cases hCancelled : after.isCancelled task with
  | false =>
      intro hOpen
      rcases Connection.renewed_giveUp hCancelled hOpen with
        ⟨id, hSlot, hNone⟩
      exact
        ⟨id, hSlot,
          (h.tasks.trans hAlike.tasks).task?_eq_none hNone⟩
  | true =>
      have hDown : after.session.isConnected = false :=
        hAlike.flag.trans h.offline.flag
      have hStays :
          after.giveUp world task = after.stayOffline := by
        unfold Connection.giveUp
        rw [if_pos hCancelled, goOffline_of_down hDown]
      rw [hStays] at hFallen ⊢
      exact hFallen.renewed hTidy.stayOffline hHeld hCancelled

------------------------------------------------------------
-- Openings
------------------------------------------------------------

end Connection

/- Whether an attempt ends at once for want of an address. -/
def World.strands (world : World) : Bool :=
  world.creates && world.address.isNone

namespace Connection

/-
  How an attempt begins: it asks the brain to forget its URL,
  or it is over. It leaves a transport behind even if it was
  closed at its very beginning.
-/
inductive Opening
    (world : World)
    (task : TaskId)
    (before : Connection) :
    Connection × Progress → Prop where
| asks
    (after : Connection)
    (request : Http.Request)
    (transport : TransportId)
    (hHeld : after.isHeld = before.isHeld)
    (hOpen : after.isClosed = false)
    (hTasks : before.tasks.Grows after.tasks)
    (hCalm : after.isCancelled task = false)
    (hFlag : after.session.isConnected = false)
    (hUrl : after.session.callbackUrl ≠ none) :
    Opening world task before
      (after, .asks request (.unregistering task transport))
| falls
    (after : Connection)
    (hFallen : before.Fallen after)
    (hRenewed :
      world.strands = false → before.Renewed after)
    (hRequests : after.requests = before.requests)
    (hTransport :
      after.isClosed = true →
        (after.session.transport = none ↔
          world.creates = false)) :
    Opening world task before (after, .over)

/- A connection whose session knows its URL. -/
def named
    (url : String)
    (connection : Connection) :
    Connection :=
  { connection with
    session :=
      { connection.session with callbackUrl := some url } }

/-
  An attempt that has a transport and a local address gives
  up for want of a URL or because it was cancelled, and asks
  otherwise.
-/
theorem useAddress_cases
    {P : Connection × Progress → Prop}
    {world : World}
    {task : TaskId}
    {transport : TransportId}
    {address : Address}
    {connection : Connection}
    (hTransport : connection.session.transport ≠ none)
    (hInvalid : P (connection.giveUp world task, .over))
    (hCancelled :
      ∀ url,
        P ((connection.named url).giveUp world task, .over))
    (hCalm :
      ∀ url (sending : Sending),
        connection.isCancelled task = false →
          P
            ((connection.named url).record
                (.asked sending.1 sending.2),
              .asks sending.2
                (.unregistering task transport))) :
    P (connection.useAddress world task transport address) := by
  unfold useAddress
  cases hAddress : connection.config.callbackUrl address with
  | error cause =>
      dsimp only
      rw [failAttempt_eq
        (Or.inl (isRetryable_of_callbackUrl hAddress))]
      exact hInvalid
  | ok url =>
      dsimp only
      split
      · rename_i hCase
        rw [failAttempt_eq (Or.inr hCase)]
        exact hCancelled url
      · rename_i hCase
        rcases Option.ne_none_iff_exists'.mp hTransport with
          ⟨sender, hSender⟩
        have hParting :
            (connection.named url).parting =
              some
                (sender,
                  connection.registrar.request .unregister
                    url) := by
          unfold parting
          rw [show (connection.named url).session.transport =
            some sender from hSender]
          rfl
        change
          P
            ((connection.named url).replaceRegistration
              world task transport)
        unfold replaceRegistration
        rw [farewell_of_parting_eq_some hParting]
        exact hCalm url _ (eq_false_of_ne_true hCase)

/- Giving up soon after the beginning. -/
theorem opening_giveUp
    {config : Config}
    {world : World}
    {before offline later : Connection}
    {task : TaskId}
    (hLowered : before.Lowered offline)
    (hOpen : before.isClosed = false)
    (hHeld : before.session.connect = some task)
    (hAlike : offline.Alike later)
    (hTidy : later.Tidy config)
    (hRequests : later.requests = offline.requests)
    (hTransport :
      later.session.transport =
        if world.creates then
          some (offline.transports + 1)
        else
          offline.session.transport) :
    before.Opening world task
      (later.giveUp world task, .over) := by
  have hFallen := hLowered.toFallen
  have hDown : later.session.isConnected = false :=
    hAlike.flag.trans hFallen.offline.flag
  rcases alike_giveUp_of_down world task hDown with
    ⟨hClosed, hKept⟩
  apply Opening.falls
  · exact hFallen.giveUp hAlike world task
  · intro _
    exact hFallen.renewed_giveUp hAlike hTidy hHeld world
  · rw [(lowered_giveUp world task later).requests, hRequests,
      hLowered.requests]
  · intro hState
    rw [hClosed, hAlike.isClosed] at hState
    have hGone := hLowered.transport
    rw [hState, hOpen] at hGone
    rw [hKept, hTransport]
    cases hCreates : world.creates with
    | true => simp
    | false => simpa using hGone

theorem opening_beginAttempt
    {config : Config}
    {before : Connection}
    {task : TaskId}
    (world : World)
    (hTidy : before.Tidy config)
    (hOpen : before.isClosed = false)
    (hHeld : before.session.connect = some task) :
    before.Opening world task
      (before.beginAttempt world task) := by
  have hLowered := lowered_goOffline world before
  have hTidyLater := hTidy.goOffline world
  rw [beginAttempt_eq]
  generalize before.goOffline world = offline
    at hLowered hTidyLater
  have hFallen := hLowered.toFallen
  have hSent : offline.equip.requests = offline.requests := by
    unfold equip
    rw [requests_record]
    exact List.append_nil _
  dsimp only
  cases hCreates : world.creates with
  | false =>
      rw [if_neg (by simp), failAttempt_eq (Or.inl rfl)]
      apply opening_giveUp hLowered hOpen hHeld
      · exact ⟨rfl, rfl, .refl _, rfl, rfl⟩
      · exact hTidyLater.withSession _ rfl rfl
      · rfl
      · simp [hCreates]
  | true =>
      rw [if_pos rfl]
      cases hAddress : world.address with
      | none =>
          have hDown :
              offline.equip.session.isConnected = false :=
            hFallen.offline.flag
          rw [goOffline_of_down hDown]
          apply Opening.falls
          · exact
              { isHeld := hFallen.isHeld
                tasks := hFallen.tasks
                offline := isOffline_stayOffline _
                closed := hFallen.closed
                connect := hFallen.connect }
          · intro hStrands
            simp [World.strands, hCreates, hAddress] at hStrands
          · exact hSent.trans hLowered.requests
          · intro _
            rw [hCreates]
            exact
              ⟨fun hNone => (by cases hNone),
                fun hNever => (by cases hNever)⟩
      | some address =>
          apply useAddress_cases
          · intro hNone
            cases hNone
          · apply opening_giveUp hLowered hOpen hHeld
            · exact ⟨rfl, rfl, .refl _, rfl, rfl⟩
            · exact hTidyLater.equip
            · exact hSent
            · rw [hCreates]
              rfl
          · intro url
            apply opening_giveUp hLowered hOpen hHeld
            · exact ⟨rfl, rfl, .refl _, rfl, rfl⟩
            · exact hTidyLater.equip.withSession _ rfl rfl
            · exact hSent
            · rw [hCreates]
              rfl
          · intro url sending hCalm
            rcases hTidy.exists_of_connect hHeld with
              ⟨known, hKnown, -⟩
            rcases hFallen.tasks.old task known hKnown with
              ⟨_, hLater, -⟩
            have hStillOpen : offline.isClosed = false :=
              hTidyLater.isClosed_of_calm hLater hCalm
            exact
              .asks _ _ _ hFallen.isHeld hStillOpen
                hFallen.tasks hCalm hFallen.offline.flag
                (fun hNone => by cases hNone)

------------------------------------------------------------
-- Answers
------------------------------------------------------------

/- What an attempt that asks again leaves as it is. -/
structure Keeps (before after : Connection) : Prop
    extends before.Alike after where
  url : after.session.callbackUrl = before.session.callbackUrl
  transport : after.session.transport = before.session.transport

/- The connection, online with the keys that it was told. -/
def lit
    (world : World)
    (answer : Http.Answer)
    (connection : Connection) :
    Connection :=
  goOnline world
    { connection with
      keys := (KeyCache.update connection.keys answer).1 }

/- An attempt has brought a connection online. -/
structure Risen (before after : Connection) : Prop where
  isHeld : after.isHeld = before.isHeld
  isClosed : after.isClosed = false
  tasks : before.tasks.Grows after.tasks
  flag : after.session.isConnected = true
  url : after.session.callbackUrl = before.session.callbackUrl
  connect : after.session.connect = before.session.connect
  check :
    before.config.checksHealth = true →
      after.session.check ≠ none

/-
  What comes of an answer to an attempt. It asks again, or
  gives up, or it is online. It may have been cancelled just
  when it was, and goes offline again.
-/
inductive Advance
    (world : World)
    (answer : Http.Answer)
    (before : Connection) :
    Errand → Connection × Progress → Prop where
| registers
    (task : TaskId)
    (transport : TransportId)
    (after : Connection)
    (request : Http.Request)
    (hKeeps : before.Keeps after)
    (hUrl : before.session.callbackUrl ≠ none) :
    Advance world answer before
      (.unregistering task transport)
      (after, .asks request (.registering task transport))
| fetches
    (task : TaskId)
    (transport : TransportId)
    (after : Connection)
    (request : Http.Request)
    (hKeeps : before.Keeps after)
    (hCalm : before.isCancelled task = false) :
    Advance world answer before
      (.registering task transport)
      (after, .asks request (.fetchingKeys task transport))
| falls
    (errand : Errand)
    (task : TaskId)
    (after : Connection)
    (hAttempt : errand.attempt? = some task)
    (hLowered : before.Lowered after)
    (hRenewed :
      before.isCancelled task = false → before.Renewed after) :
    Advance world answer before errand (after, .over)
| flickers
    (task : TaskId)
    (transport : TransportId)
    (hCalm : before.isCancelled task = false)
    (hRaised : before.Raised world (before.lit world answer))
    (hFallen :
      before.Fallen
        (((before.lit world answer).goOffline world).goOffline
          world))
    (hRenewed :
      before.Renewed
        (((before.lit world answer).goOffline world).goOffline
          world)) :
    Advance world answer before
      (.fetchingKeys task transport)
      (((before.lit world answer).goOffline world).goOffline
          world,
        .over)
| rises
    (task : TaskId)
    (transport : TransportId)
    (after : Connection)
    (hCalm : before.isCancelled task = false)
    (hRisen : before.Risen after) :
    Advance world answer before
      (.fetchingKeys task transport)
      (after, .over)

theorem keeps_clearCheck (connection : Connection) :
    connection.Keeps connection.clearCheck where
  isHeld := rfl
  isClosed := rfl
  tasks := Slot.grows_release _ _
  flag := rfl
  connect := rfl
  url := rfl
  transport := rfl

/- Nothing else changes in an attempt that asks or has keys. -/
theorem keeps_of_tasks
    {before after : Connection}
    (hHeld : after.isHeld = before.isHeld)
    (hClosed : after.isClosed = before.isClosed)
    (hTasks : after.tasks = before.tasks)
    (hSession : after.session = before.session) :
    before.Keeps after where
  isHeld := hHeld
  isClosed := hClosed
  tasks := by
    rw [hTasks]
    exact .refl _
  flag := by
    rw [hSession]
  connect := by
    rw [hSession]
  url := by
    rw [hSession]
  transport := by
    rw [hSession]

theorem Keeps.record
    {before after : Connection}
    (h : before.Keeps after)
    (effect : Effect) :
    before.Keeps (after.record effect) :=
  ⟨⟨h.isHeld, h.isClosed, h.tasks, h.flag, h.connect⟩,
    h.url, h.transport⟩

/- Giving up after something that leaves all as it was. -/
theorem Keeps.lowered_giveUp
    {before later : Connection}
    (h : before.Keeps later)
    (hJournal : later.journal = before.journal)
    (world : World)
    (task : TaskId) :
    before.Lowered (later.giveUp world task) := by
  have hLowered := Connection.lowered_giveUp world task later
  exact
    { isHeld := hLowered.isHeld.trans h.isHeld
      tasks := h.tasks.trans hLowered.tasks
      offline := hLowered.offline
      closed := fun hClosed =>
        hLowered.closed (h.isClosed.trans hClosed)
      connect := fun hOpen => by
        rcases hLowered.connect hOpen with
          hSame | ⟨id, hSlot, hNone⟩
        · exact Or.inl (hSame.trans h.connect)
        · exact
            Or.inr ⟨id, hSlot, h.tasks.task?_eq_none hNone⟩
      transport := by
        rw [hLowered.transport, h.isClosed, h.transport]
      requests := by
        rw [hLowered.requests]
        unfold requests
        rw [hJournal]
      silent := fun hDown => by
        rcases hLowered.silent (h.flag.trans hDown) with
          ⟨hClosed, hNews⟩
        refine ⟨hClosed.trans h.isClosed, ?_⟩
        rw [hNews]
        unfold news
        rw [hJournal] }

/- What is known of an attempt that gets an answer. -/
structure Engaged
    (config : Config)
    (task : TaskId)
    (connection : Connection) : Prop where
  tidy : connection.Tidy config
  known :
    ∃ known,
      connection.tasks.task? task = some known ∧
        known.job = .connect
  down :
    connection.isCancelled task = false →
      connection.session.isConnected = false

section Answers

variable {config : Config}
variable {world : World}
variable {task : TaskId}
variable {answer : Http.Answer}
variable {before : Connection}

theorem Engaged.connect
    (h : before.Engaged config task)
    (hCalm : before.isCancelled task = false) :
    before.session.connect = some task := by
  rcases h.known with ⟨known, hKnown, hJob⟩
  exact h.tidy.connect_of_calm hKnown hJob hCalm

theorem Engaged.isClosed
    (h : before.Engaged config task)
    (hCalm : before.isCancelled task = false) :
    before.isClosed = false := by
  rcases h.known with ⟨known, hKnown, -⟩
  exact h.tidy.isClosed_of_calm hKnown hCalm

/- An attempt gives up because of an answer. -/
theorem Engaged.advance_giveUp
    {later : Connection}
    (h : before.Engaged config task)
    (hKeeps : before.Keeps later)
    (hTidy : later.Tidy config)
    (hJournal : later.journal = before.journal)
    {errand : Errand}
    (hAttempt : errand.attempt? = some task) :
    before.Advance world answer errand
      (later.giveUp world task, .over) := by
  apply Advance.falls errand task _ hAttempt
  · exact hKeeps.lowered_giveUp hJournal world task
  · intro hCalm hOpen
    have hHeld := hKeeps.connect.trans (h.connect hCalm)
    rcases hTidy.exists_of_connect hHeld with
      ⟨known, hKnown, -, hFlag⟩
    have hLater : later.isCancelled task = false :=
      (Scheduler.isCancelled_of_task? hKnown).trans hFlag
    rcases renewed_giveUp hLater hOpen with
      ⟨id, hSlot, hNone⟩
    exact ⟨id, hSlot, hKeeps.tasks.task?_eq_none hNone⟩

/- The old registration was taken back, or not. -/
theorem Engaged.advance_afterUnregister
    (h : before.Engaged config task)
    (transport : TransportId) :
    before.Advance world answer
      (.unregistering task transport)
      (before.afterUnregister world task transport answer) := by
  have hKeeps := before.keeps_clearCheck
  have hGiveUp :
      before.Advance world answer
        (.unregistering task transport)
        (before.clearCheck.giveUp world task, .over) :=
    h.advance_giveUp hKeeps (h.tidy.clear .checkHealth) rfl rfl
  unfold afterUnregister
  dsimp only
  split
  · rename_i cause hAnswer
    rw [failAttempt_eq (Or.inl (isRetryable_of_accept hAnswer))]
    exact hGiveUp
  · unfold sendRegistration
    split
    · rename_i cause hRegister
      rw [failAttempt_eq
        (Or.inl (isRetryable_of_register hRegister))]
      exact hGiveUp
    · rename_i sending hRegister
      apply Advance.registers
      · exact hKeeps.record _
      · intro hNone
        unfold Registrar.register at hRegister
        rw [hKeeps.url, hNone] at hRegister
        cases hRegister

/- The new one was accepted, or not. -/
theorem Engaged.advance_afterRegister
    (h : before.Engaged config task)
    (transport : TransportId) :
    before.Advance world answer
      (.registering task transport)
      (before.afterRegister world task transport answer) := by
  have hKeeps : before.Keeps before :=
    keeps_of_tasks rfl rfl rfl rfl
  have hGiveUp :
      before.Advance world answer
        (.registering task transport)
        (before.giveUp world task, .over) :=
    h.advance_giveUp hKeeps h.tidy rfl rfl
  unfold afterRegister
  split
  · rename_i cause hAnswer
    rw [failAttempt_eq (Or.inl (isRetryable_of_accept hAnswer))]
    exact hGiveUp
  · split
    · rename_i hCancelled
      rw [failAttempt_eq (Or.inr hCancelled)]
      exact hGiveUp
    · rename_i hCalm
      exact
        Advance.fetches task transport _ _ (hKeeps.record _)
          (eq_false_of_ne_true hCalm)

/- What going online with new keys comes to. -/
theorem Engaged.raised_lit
    (h : before.Engaged config task)
    (hCalm : before.isCancelled task = false) :
    before.Raised world (before.lit world answer) := by
  have hRaised :
      Raised world
        { before with
          keys := (KeyCache.update before.keys answer).1 }
        (before.lit world answer) :=
    raised_goOnline (h.down hCalm) (h.isClosed hCalm)
  exact
    { config := hRaised.config
      isHeld := hRaised.isHeld
      tasks := hRaised.tasks
      flag := hRaised.flag
      url := hRaised.url
      transport := hRaised.transport
      connect := hRaised.connect
      requests := hRaised.requests
      bare := hRaised.bare }

theorem Tidy.lit
    (h : before.Tidy config)
    (world : World)
    (answer : Http.Answer) :
    (before.lit world answer).Tidy config := by
  have hKeys :
      Tidy config
        { before with
          keys := (KeyCache.update before.keys answer).1 } :=
    h.congr rfl (fun _ => rfl) rfl rfl
  exact hKeys.goOnline world

/- Online and offline again. -/
theorem Raised.fallen
    {middle after : Connection}
    (hRaised : before.Raised world middle)
    (hFallen : middle.Fallen after)
    (hOpen : before.isClosed = false) :
    before.Fallen after where
  isHeld := hFallen.isHeld.trans hRaised.isHeld
  tasks := hRaised.tasks.trans hFallen.tasks
  offline := hFallen.offline
  closed hClosed := by
    rw [hOpen] at hClosed
    cases hClosed
  connect hAfter := by
    have hMiddle : middle.isClosed = false := by
      cases hState : middle.isClosed with
      | false => rfl
      | true =>
          rw [hFallen.closed hState] at hAfter
          cases hAfter
    rcases hFallen.connect hAfter with
      hSame | ⟨id, hSlot, hNone⟩
    · rw [hSame]
      exact hRaised.connect hMiddle
    · exact
        Or.inr
          ⟨id, hSlot, hRaised.tasks.task?_eq_none hNone⟩

/- Going offline twice is like going offline once. -/
theorem Fallen.again
    {middle : Connection}
    (h : before.Fallen middle)
    (world : World) :
    middle.goOffline world = middle.stayOffline ∧
      before.Fallen (middle.goOffline world) := by
  have hStays : middle.goOffline world = middle.stayOffline :=
    goOffline_of_down h.offline.flag
  rw [hStays]
  exact
    ⟨rfl,
      { isHeld := h.isHeld
        tasks := h.tasks
        offline := isOffline_stayOffline _
        closed := h.closed
        connect := h.connect }⟩

/- The attempt is at its end, and nobody has cancelled it. -/
theorem Raised.risen
    {middle : Connection}
    (hRaised : before.Raised world middle)
    (hTidy : middle.Tidy config)
    (hCalm : middle.isCancelled task = false)
    (hBefore : before.Tidy config)
    (hKnown :
      ∃ known,
        before.tasks.task? task = some known ∧
          known.job = .connect)
    (hHeld : before.session.connect = some task) :
    before.Risen middle.scheduleCheck := by
  rcases hKnown with ⟨known, hTask, hJob⟩
  rcases hRaised.tasks.old task known hTask with
    ⟨cancelled, hLater, -⟩
  have hOpen : middle.isClosed = false :=
    hTidy.isClosed_of_calm hLater hCalm
  have hSlot : middle.session.connect = some task :=
    hTidy.connect_of_calm hLater hJob hCalm
  have hChecked :
      before.config.checksHealth = true →
        middle.scheduleCheck.session.check ≠ none := by
    intro hChecks hNone
    rw [hBefore.sameConfig, ← hTidy.sameConfig] at hChecks
    simp [scheduleCheck, hChecks, record, hOpen] at hNone
  have hRearranges := middle.rearranges_scheduleCheck
  have hConnect :
      middle.scheduleCheck.session.connect =
        middle.session.connect := by
    unfold scheduleCheck
    dsimp only
    split
    · split
      · rfl
      · rfl
    · rfl
  generalize middle.scheduleCheck = after
    at hChecked hRearranges hConnect
  cases hRearranges with
  | intro tasks connect check journal hTasks hRequests hNews =>
      exact
        { isHeld := hRaised.isHeld
          isClosed := hOpen
          tasks := hRaised.tasks.trans hTasks
          flag := hRaised.flag hOpen
          url := hRaised.url hOpen
          connect := (hConnect.trans hSlot).trans hHeld.symm
          check := hChecked }

/- The keys are there, or not. -/
theorem Engaged.advance_afterKeys
    (h : before.Engaged config task)
    (transport : TransportId) :
    before.Advance world answer
      (.fetchingKeys task transport)
      (before.afterKeys world task answer) := by
  let keyed : Connection :=
    { before with
      keys := (KeyCache.update before.keys answer).1 }
  have hKeeps : before.Keeps keyed :=
    keeps_of_tasks rfl rfl rfl rfl
  have hTidy : keyed.Tidy config :=
    h.tidy.congr rfl (fun _ => rfl) rfl rfl
  have hGiveUp :
      before.Advance world answer
        (.fetchingKeys task transport)
        (keyed.giveUp world task, .over) :=
    h.advance_giveUp hKeeps hTidy rfl rfl
  unfold afterKeys
  dsimp only
  split
  · rename_i cause hResult
    rw [failAttempt_eq
      (Or.inl (isRetryable_of_update hResult))]
    exact hGiveUp
  · split
    · rename_i hCancelled
      rw [failAttempt_eq (Or.inr hCancelled)]
      exact hGiveUp
    · rename_i hCase
      have hCalm : before.isCancelled task = false :=
        eq_false_of_ne_true hCase
      have hRaised :
          before.Raised world (before.lit world answer) :=
        h.raised_lit hCalm
      have hLit := h.tidy.lit world answer
      have hHeld := h.connect hCalm
      change
        before.Advance world answer
          (.fetchingKeys task transport)
          (if (before.lit world answer).isCancelled task then
            ((before.lit world answer).goOffline
              world).failAttempt world task .interrupted
          else
            ((before.lit world answer).scheduleCheck, .over))
      split
      · rename_i hCancelled
        have hLowered :=
          lowered_goOffline world (before.lit world answer)
        have hStill :
            ((before.lit world answer).goOffline
              world).isCancelled task = true :=
          hLowered.tasks.isCancelled hCancelled
        have hFallen :=
          hRaised.fallen hLowered.toFallen (h.isClosed hCalm)
        rcases hFallen.again world with ⟨hStays, hTwice⟩
        rw [failAttempt_eq (Or.inr hStill), giveUp,
          if_pos hStill]
        apply
          Advance.flickers task transport hCalm hRaised hTwice
        rw [hStays] at hTwice ⊢
        exact
          hTwice.renewed (hLit.goOffline world).stayOffline
            hHeld hStill
      · rename_i hLitCalm
        apply Advance.rises task transport _ hCalm
        exact
          hRaised.risen hLit (eq_false_of_ne_true hLitCalm)
            h.tidy h.known hHeld

/- What comes of any answer to an attempt. -/
theorem Engaged.advance_resume
    (h : before.Engaged config task)
    {errand : Errand}
    (hAttempt : errand.attempt? = some task) :
    before.Advance world answer errand
      (before.resume world errand answer) := by
  cases errand with
  | unregistering other transport =>
      cases hAttempt
      exact h.advance_afterUnregister transport
  | registering other transport =>
      cases hAttempt
      exact h.advance_afterRegister transport
  | fetchingKeys other transport =>
      cases hAttempt
      exact h.advance_afterKeys transport
  | _ => cases hAttempt

end Answers

------------------------------------------------------------
-- Probes
------------------------------------------------------------

/-
  A brain that cannot be reached is gone; the connection is
  offline and tries to connect again.
-/
theorem afterProbe_cases
    (world : World)
    (task : TaskId)
    (isReachable : Bool)
    (before : Connection) :
    before.afterProbe world task isReachable = (before, .over) ∨
      ∃ after,
        before.afterProbe world task isReachable =
            (after, .over) ∧
          before.Lowered after ∧
            before.Renewed after := by
  unfold afterProbe
  split
  · exact Or.inl rfl
  · have hLowered := lowered_goOffline world before
    have hCleared :
        before.Lowered (before.goOffline world).clearCheck :=
      { isHeld := hLowered.isHeld
        tasks :=
          hLowered.tasks.trans (Slot.grows_release _ _)
        offline :=
          ⟨hLowered.offline.flag, hLowered.offline.url,
            hLowered.offline.state⟩
        closed := hLowered.closed
        connect := hLowered.connect
        transport := hLowered.transport
        requests := hLowered.requests
        silent := hLowered.silent }
    exact
      Or.inr
        ⟨_, rfl, hCleared.scheduleConnect,
          hCleared.toFallen.renewed_scheduleConnect⟩

end Connection

end BrainLink
