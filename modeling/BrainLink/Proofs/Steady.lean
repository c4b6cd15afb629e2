import BrainLink.Proofs.CallbackUrls
import BrainLink.Proofs.Registering
import BrainLink.Proofs.Standstill
import BrainLink.Proofs.Transports

/-
  What an attempt does at each of its steps while nobody
  cancels it.

  Key definitions include:
    * `Connection.AwaitsConnect`
    * `Connection.GivesUp`
    * `Connection.Strands`
    * `Connection.Arrives`

  Main statements:
    * `Config.exists_url`
    * `Connection.beginAttempt_of_address`
    * `Connection.resume_registering`
    * `Connection.resume_fetchingKeys`
    * `Connection.Engaged.givesUp`
    * `Connection.Engaged.strands`
    * `Connection.Engaged.arrives`

  `Begins` and `Replies` say all that an attempt may do. Here
  it is said when it does what, from the address that was
  found and from the answers of the brain.
-/

namespace BrainLink

/- A callback URL can be built for every address. -/
theorem Config.exists_url
    (config : Config)
    (address : Address) :
    ∃ url, config.callbackUrl address = .ok url := by
  rcases config.exists_callbackPath with ⟨rest, hRest⟩
  rcases exists_callbackUrl address config.callbackPort hRest
    with ⟨url, hUrl, -⟩
  exact ⟨_, hUrl⟩

namespace KeyCache

variable {answer : Http.Answer}

/- Keys that could be read are kept, and no others. -/
theorem update_of_ok
    {keys : DeviceKeys}
    (hKeys : DeviceKeys.ofAnswer answer = .ok keys)
    (old : DeviceKeys) :
    update old answer = (keys, .ok ()) := by
  unfold update
  rw [hKeys]

theorem update_of_error
    {cause : Cause}
    (hKeys : DeviceKeys.ofAnswer answer = .error cause)
    (old : DeviceKeys) :
    update old answer = (old, .error cause) := by
  unfold update
  rw [hKeys]

end KeyCache

namespace Connection

------------------------------------------------------------
-- Scheduling
------------------------------------------------------------

/- Scheduling changes no settings, and no keys. -/
theorem Rearranges.config
    {before after : Connection}
    (h : before.Rearranges after) :
    after.config = before.config := by
  cases h with
  | intro tasks connect check journal hTasks hRequests
      hNews => rfl

theorem Rearranges.keys
    {before after : Connection}
    (h : before.Rearranges after) :
    after.keys = before.keys := by
  cases h with
  | intro tasks connect check journal hTasks hRequests
      hNews => rfl

/- Nothing is asked, either. -/
theorem Rearranges.requests
    {before after : Connection}
    (h : before.Rearranges after) :
    after.requests = before.requests := by
  cases h with
  | intro tasks connect check journal hTasks hRequests
      hNews => exact hRequests

section Steps

variable {config : Config}
variable {world : World}
variable {task : TaskId}
variable {answer : Http.Answer}
variable {connection : Connection}

------------------------------------------------------------
-- Beginnings
------------------------------------------------------------

/- Without a transport an attempt gives up. -/
theorem beginAttempt_of_not_creates
    (hCreates : world.creates = false)
    (task : TaskId)
    (connection : Connection) :
    ∃ later,
      (connection.goOffline world).Prepared later ∧
        connection.beginAttempt world task =
          (later.giveUp world task, .over) := by
  rw [beginAttempt_eq]
  dsimp only
  rw [hCreates, if_neg Bool.false_ne_true,
    failAttempt_eq (Or.inl rfl)]
  exact ⟨_, .bare, rfl⟩

/- With one, and with an address, it asks to unregister. -/
theorem beginAttempt_of_address
    {address : Address}
    {url : String}
    (hCreates : world.creates = true)
    (hAddress : world.address = some address)
    (hCalm :
      (connection.goOffline world).isCancelled task = false)
    (hUrl :
      (connection.goOffline world).config.callbackUrl
          address =
        .ok url) :
    connection.beginAttempt world task =
      (((connection.goOffline world).equip.named url).record
          (.asked
            ((connection.goOffline world).transports + 1)
            ((connection.goOffline world).registrar.request
              .unregister url)),
        .asks
          ((connection.goOffline world).registrar.request
            .unregister url)
          (.unregistering task
            ((connection.goOffline world).transports + 1))) :=
    by
  rw [beginAttempt_eq]
  generalize connection.goOffline world = offline
    at hCalm hUrl ⊢
  dsimp only
  rw [if_pos hCreates, hAddress]
  dsimp only
  unfold useAddress
  rw [show offline.equip.config.callbackUrl address = .ok url
    from hUrl]
  dsimp only
  split
  · rename_i hCancelled
    cases hCalm.symm.trans hCancelled
  · rfl

------------------------------------------------------------
-- Answers
------------------------------------------------------------

/- A brain that was told the URL is asked for its keys. -/
theorem resume_registering
    (hCalm : connection.isCancelled task = false)
    (transport : TransportId) :
    connection.resume world (.registering task transport)
        answer =
      match Http.accept answer with
      | .error _ => (connection.giveUp world task, .over)
      | .ok _ =>
          (connection.record
              (.asked transport
                (KeyCache.request connection.config.brainUrl)),
            .asks
              (KeyCache.request connection.config.brainUrl)
              (.fetchingKeys task transport)) := by
  change
    connection.afterRegister world task transport answer = _
  unfold afterRegister
  cases hAnswer : Http.accept answer with
  | error cause =>
      dsimp only
      rw [failAttempt_eq
        (Or.inl (isRetryable_of_accept hAnswer))]
  | ok body =>
      dsimp only
      rw [hCalm, if_neg Bool.false_ne_true]
      rfl

/- Keys that can be read bring the connection online. -/
theorem resume_fetchingKeys
    (hCalm : connection.isCancelled task = false)
    (hLit :
      (DeviceKeys.ofAnswer answer).isOk = true →
        (connection.lit world answer).isCancelled task = false)
    (transport : TransportId) :
    connection.resume world (.fetchingKeys task transport)
        answer =
      match DeviceKeys.ofAnswer answer with
      | .error _ => (connection.giveUp world task, .over)
      | .ok _ =>
          ((connection.lit world answer).scheduleCheck,
            .over) := by
  change connection.afterKeys world task answer = _
  unfold afterKeys
  cases hKeys : DeviceKeys.ofAnswer answer with
  | error cause =>
      have hUpdate :=
        KeyCache.update_of_error hKeys connection.keys
      have hRetry : cause.isRetryable = true :=
        isRetryable_of_update (congrArg Prod.snd hUpdate)
      rw [hUpdate]
      dsimp only
      rw [failAttempt_eq (Or.inl hRetry)]
  | ok keys =>
      have hStays := hLit (by rw [hKeys]; rfl)
      unfold lit at hStays ⊢
      rw [KeyCache.update_of_ok hKeys] at hStays ⊢
      dsimp only at hStays ⊢
      split
      · rename_i hCancelled
        cases hCalm.symm.trans hCancelled
      · rw [hStays, if_neg Bool.false_ne_true]

------------------------------------------------------------
-- Attempts at Work
------------------------------------------------------------

/- An attempt that has gone offline. -/
theorem Tidy.engaged_goOffline
    (h : connection.Tidy config)
    (hKnown :
      ∃ known,
        connection.tasks.task? task = some known ∧
          known.job = .connect)
    (world : World) :
    (connection.goOffline world).Engaged config task := by
  have hLowered := lowered_goOffline world connection
  rcases hKnown with ⟨known, hTask, hJob⟩
  rcases hLowered.tasks.old task known hTask with
    ⟨_, hLater, -⟩
  exact
    { tidy := h.goOffline world
      known := ⟨_, hLater, hJob⟩
      down := fun _ => hLowered.offline.flag }

/- It is at work still, however far it has prepared. -/
theorem Prepared.engaged
    {offline later : Connection}
    (hPrepared : offline.Prepared later)
    (h : offline.Engaged config task) :
    later.Engaged config task := by
  cases hPrepared with
  | bare =>
      exact ⟨h.tidy.withSession _ rfl rfl, h.known, h.down⟩
  | equipped => exact ⟨h.tidy.equip, h.known, h.down⟩
  | named url =>
      exact
        ⟨h.tidy.equip.withSession _ rfl rfl, h.known, h.down⟩

/- Until then it has asked nothing. -/
theorem Prepared.requests
    {offline later : Connection}
    (h : offline.Prepared later) :
    later.requests = offline.requests := by
  cases h with
  | bare => rfl
  | equipped =>
      exact (requests_record _ _).trans (List.append_nil _)
  | named url =>
      exact (requests_record _ _).trans (List.append_nil _)

theorem Prepared.keys
    {offline later : Connection}
    (h : offline.Prepared later) :
    later.keys = offline.keys := by
  cases h <;> rfl

/- An attempt that takes back a health check is at work. -/
theorem Engaged.clearCheck
    (h : connection.Engaged config task) :
    connection.clearCheck.Engaged config task := by
  have hKeeps := connection.keeps_clearCheck
  rcases h.known with ⟨known, hTask, hJob⟩
  rcases hKeeps.tasks.old task known hTask with
    ⟨_, hLater, -⟩
  refine ⟨h.tidy.clear .checkHealth, ⟨_, hLater, hJob⟩, ?_⟩
  intro hCalm
  apply h.down
  apply eq_false_of_ne_true
  intro hCancelled
  cases (hKeeps.tasks.isCancelled hCancelled).symm.trans hCalm

------------------------------------------------------------
-- Failures
------------------------------------------------------------

/-
  A connect task waits in its slot, from now for as long as
  the configuration says.
-/
def AwaitsConnect (connection : Connection) : Prop :=
  ∃ id,
    connection.session.connect = some id ∧
      connection.tasks.task? id =
        some
          { repetition := .once
            period := connection.config.connectDelay
            job := .connect
            stage :=
              .waiting
                (connection.tasks.now +
                  connection.config.connectDelay)
            cancelled := false }

/- What is scheduled for an open connection waits there. -/
theorem Tidy.awaitsConnect_scheduleConnect
    (h : connection.Tidy config)
    (hOpen : connection.isClosed = false) :
    connection.scheduleConnect.AwaitsConnect := by
  have hOther :
      connection.session.connect ≠
        some connection.tasks.nextId := by
    intro hSame
    rcases h.exists_of_connect hSame with ⟨known, hKnown, -⟩
    rw [Scheduler.task?_nextId] at hKnown
    cases hKnown
  have hNow :
      (connection.session.connect.release
          (connection.tasks.add .once
            connection.config.connectDelay .connect)).now =
        connection.tasks.now :=
    (Slot.grows_release _ _).now
  have hTask :=
    Slot.task?_release connection.session.connect
      (connection.tasks.add .once
        connection.config.connectDelay .connect)
      connection.tasks.nextId
  rw [if_neg hOther, Scheduler.task?_add, if_pos rfl] at hTask
  have hTasks :
      connection.scheduleConnect.tasks =
        connection.session.connect.release
          (connection.tasks.add .once
            connection.config.connectDelay .connect) := by
    simp [Connection.scheduleConnect, Connection.record, hOpen]
  have hConfig :
      connection.scheduleConnect.config = connection.config :=
    (rearranges_scheduleConnect _).config
  refine
    ⟨connection.tasks.nextId,
      connect_scheduleConnect hOpen, ?_⟩
  rw [hTasks, hConfig, hTask, hNow]

/- The end of a run that is not its own leaves it there. -/
theorem AwaitsConnect.endRun
    (h : connection.AwaitsConnect)
    (hOther : connection.session.connect ≠ some task) :
    (connection.endRun task).AwaitsConnect := by
  rcases h with ⟨id, hSlot, hTask⟩
  refine ⟨id, hSlot, ?_⟩
  change (connection.tasks.update task _).task? id = _
  rw [Scheduler.task?_update, if_neg, hTask]
  · rfl
  · rintro rfl
    exact hOther hSlot

/- A pending connect task is waited for. -/
theorem AwaitsConnect.hasPendingConnect
    (h : connection.AwaitsConnect)
    (hTidy : connection.Tidy config) :
    connection.hasPendingConnect = true := by
  rcases h with ⟨id, hSlot, hTask⟩
  exact
    hTidy.hasPendingConnect_iff.mpr
      ⟨id, _, hSlot, hTask, nofun⟩

/-
  What is left of a connection whose attempt has given up: it
  is offline with the keys that it had, nothing was asked, and
  another attempt is waited for.
-/
structure GivesUp (before after : Connection) : Prop where
  requests : after.requests = before.requests
  offline : after.session.IsOffline
  keys : after.keys = before.keys
  awaits : after.AwaitsConnect

/- An attempt gives up that was not cancelled. -/
theorem Engaged.givesUp
    (h : connection.Engaged config task)
    (hCalm : connection.isCancelled task = false)
    (world : World) :
    connection.GivesUp
      ((connection.giveUp world task).endRun task) := by
  have hOpen := h.isClosed hCalm
  have hLowered := lowered_giveUp world task connection
  have hGivesUp :
      connection.giveUp world task =
        connection.stayOffline.scheduleConnect := by
    unfold giveUp
    rw [hCalm, if_neg Bool.false_ne_true,
      goOffline_of_down (h.down hCalm)]
  rw [hGivesUp] at hLowered ⊢
  have hStays := h.tidy.stayOffline
  have hAwaits := hStays.awaitsConnect_scheduleConnect hOpen
  refine ⟨hLowered.requests, hLowered.offline, ?_, ?_⟩
  · exact (rearranges_scheduleConnect _).keys
  · apply hAwaits.endRun
    rw [connect_scheduleConnect
      (show connection.stayOffline.isClosed = false from hOpen)]
    rcases h.known with ⟨known, hKnown, -⟩
    intro hSame
    cases hSame
    rw [show connection.stayOffline.tasks = connection.tasks
      from rfl, Scheduler.task?_nextId] at hKnown
    cases hKnown

/- After the end of its run an attempt is not pending. -/
theorem Engaged.pending_endRun
    (h : connection.Engaged config task)
    (hCalm : connection.isCancelled task = false) :
    (connection.endRun task).hasPendingConnect = false := by
  have hSlot := h.connect hCalm
  have hTidy := h.tidy.endRun task
  apply eq_false_of_ne_true
  intro hPending
  rcases hTidy.hasPendingConnect_iff.mp hPending with
    ⟨id, ended, hHeld, hEnded, hStage⟩
  cases hSlot.symm.trans hHeld
  rcases hTidy.exists_of_connect hHeld with
    ⟨other, hOther, hJob, -⟩
  cases hEnded.symm.trans hOther
  have hOnce : ended.repetition = .once := by
    rw [(hTidy.ledger.suits task ended hEnded).repetition,
      hJob]
    rfl
  exact hStage (Scheduler.stage_endRun_of_once hEnded hOnce)

/-
  What is left of a connection whose attempt has found no
  address: no other attempt is pending.
-/
structure Strands (before after : Connection) : Prop where
  requests : after.requests = before.requests
  offline : after.session.IsOffline
  keys : after.keys = before.keys
  pending : after.hasPendingConnect = false

/- An attempt finds no address that was not cancelled. -/
theorem Engaged.strands
    (h : connection.Engaged config task)
    (hCalm : connection.isCancelled task = false)
    (world : World) :
    connection.Strands
      ((connection.equip.goOffline world).endRun task) := by
  have hEquipped := Prepared.equipped.engaged h
  rw [goOffline_of_down (hEquipped.down hCalm)]
  have hStays :
      connection.equip.stayOffline.Engaged config task :=
    ⟨hEquipped.tidy.stayOffline, hEquipped.known,
      fun _ => rfl⟩
  exact
    { requests := Prepared.equipped.requests
      offline := isOffline_stayOffline _
      keys := rfl
      pending := hStays.pending_endRun hCalm }

------------------------------------------------------------
-- Successes
------------------------------------------------------------

/-
  What is left of a connection whose attempt has succeeded: it
  is online with the URL that it had and with new keys, and
  nothing was asked.
-/
structure Arrives
    (keys : DeviceKeys)
    (before after : Connection) : Prop where
  requests : after.requests = before.requests
  flag : after.session.isConnected = true
  state : after.session.state = .connected
  url : after.session.callbackUrl = before.session.callbackUrl
  keys : after.keys = keys

/- An attempt succeeds that was not cancelled. -/
theorem Engaged.arrives
    (h : connection.Engaged config task)
    (hCalm : connection.isCancelled task = false)
    (hLit :
      (connection.lit world answer).isCancelled task = false)
    {keys : DeviceKeys}
    (hKeys : DeviceKeys.ofAnswer answer = .ok keys) :
    connection.Arrives keys
      (((connection.lit world answer).scheduleCheck).endRun
        task) := by
  have hRaised :
      connection.Raised world (connection.lit world answer) :=
    h.raised_lit hCalm
  have hRisen :=
    hRaised.risen (h.tidy.lit world answer) hLit h.tidy h.known
      (h.connect hCalm)
  have hAligned := Aligned.lit world answer connection
  have hOpen :
      (connection.lit world answer).isClosed = false := by
    rcases h.known with ⟨known, hKnown, -⟩
    rcases hRaised.tasks.old task known hKnown with
      ⟨_, hLater, -⟩
    exact
      (h.tidy.lit world answer).isClosed_of_calm hLater hLit
  have hHas : (connection.lit world answer).keys = keys := by
    apply (enduring_hasKeys keys).goOnline world
    exact
      congrArg Prod.fst
        (KeyCache.update_of_ok hKeys connection.keys)
  have hChecks :=
    (connection.lit world answer).rearranges_scheduleCheck
  rcases hChecks.exists_session with
    ⟨connect, check, hSession⟩
  have hState :
      (connection.lit world answer).session.state =
        .connected :=
    hAligned.mp (hRaised.flag hOpen)
  have hRequests := hRaised.requests
  rw [hOpen, if_neg Bool.false_ne_true, List.append_nil]
    at hRequests
  exact
    { requests := hChecks.requests.trans hRequests
      flag := hRisen.flag
      state :=
        (congrArg Session.state hSession).trans hState
      url := hRisen.url
      keys := hChecks.keys.trans hHas }

end Steps

end Connection

end BrainLink
