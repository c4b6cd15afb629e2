import BrainLink.Proofs.Stretches

/-
  Exactly what an attempt does between two questions, with
  every request it sends.

  Key definitions include:
    * `Connection.Prepared`
    * `Connection.noted`
    * `Connection.bringsOnline`
    * `Connection.Begins`
    * `Connection.Replies`

  Main statements:
    * `Connection.begins_beginAttempt`
    * `Connection.replies_resume`
    * `Connection.Begins.ends_of_cancelled`
    * `Connection.Replies.ends_of_cancelled`

  `Opening` and `Advance` say what an attempt leaves of the
  session. Here its beginning and its replies to the brain
  are written out, up to what those do who are told that the
  brain has gone or come.
-/

namespace BrainLink

namespace Connection

------------------------------------------------------------
-- Giving Up
------------------------------------------------------------

/- A cancelled attempt gives up by going offline. -/
theorem giveUp_of_cancelled
    {world : World}
    {task : TaskId}
    {connection : Connection}
    (hCancelled : connection.isCancelled task = true) :
    connection.giveUp world task =
      connection.goOffline world :=
  if_pos hCancelled

/- An attempt that is interrupted never tries again. -/
theorem failAttempt_interrupted
    (world : World)
    (task : TaskId)
    (connection : Connection) :
    connection.failAttempt world task .interrupted =
      (connection.goOffline world, .over) :=
  rfl

------------------------------------------------------------
-- Beginnings
------------------------------------------------------------

/-
  How far an attempt has come that gives up before it asks
  anything: it may have a transport, and a URL.
-/
inductive Prepared (offline : Connection) :
    Connection → Prop where
| bare :
    Prepared offline
      { offline with
        session :=
          { offline.session with state := .connecting } }
| equipped : Prepared offline offline.equip
| named (url : String) :
    Prepared offline (offline.equip.named url)

/-
  How an attempt begins once the connection is offline. It
  gives up, or has no address to be called back at, or asks
  the brain to forget its URL.
-/
inductive Begins
    (world : World)
    (task : TaskId)
    (offline : Connection) :
    Connection × Progress → Prop where
| givesUp
    (later : Connection)
    (hPrepared : offline.Prepared later) :
    Begins world task offline
      (later.giveUp world task, .over)
| strands
    (hStrands : world.strands = true) :
    Begins world task offline
      (offline.equip.goOffline world, .over)
| asks
    (url : String)
    (hCalm : offline.isCancelled task = false) :
    Begins world task offline
      ((offline.equip.named url).record
          (.asked
            (offline.transports + 1)
            (offline.registrar.request .unregister url)),
        .asks
          (offline.registrar.request .unregister url)
          (.unregistering task (offline.transports + 1)))

theorem begins_beginAttempt
    (world : World)
    (task : TaskId)
    (connection : Connection) :
    (connection.goOffline world).Begins world task
      (connection.beginAttempt world task) := by
  rw [beginAttempt_eq]
  generalize connection.goOffline world = offline
  dsimp only
  cases hCreates : world.creates with
  | false =>
      rw [if_neg (by simp), failAttempt_eq (Or.inl rfl)]
      exact .givesUp _ .bare
  | true =>
      rw [if_pos rfl]
      cases hAddress : world.address with
      | none =>
          exact
            .strands
              (by simp [World.strands, hCreates, hAddress])
      | some address =>
          dsimp only
          unfold useAddress
          cases hUrl :
              offline.equip.config.callbackUrl address with
          | error cause =>
              dsimp only
              rw [failAttempt_eq
                (Or.inl (isRetryable_of_callbackUrl hUrl))]
              exact .givesUp _ .equipped
          | ok url =>
              dsimp only
              split
              · rename_i hCancelled
                rw [failAttempt_eq (Or.inr hCancelled)]
                exact .givesUp _ (.named url)
              · rename_i hCalm
                exact .asks url (eq_false_of_ne_true hCalm)

/- All is scheduled as it was when it went offline. -/
theorem Prepared.tasks
    {offline later : Connection}
    (h : offline.Prepared later) :
    later.tasks = offline.tasks := by
  cases h <;> rfl

theorem Prepared.connect
    {offline later : Connection}
    (h : offline.Prepared later) :
    later.session.connect = offline.session.connect := by
  cases h <;> rfl

theorem Prepared.check
    {offline later : Connection}
    (h : offline.Prepared later) :
    later.session.check = offline.session.check := by
  cases h <;> rfl

/-
  Where the flag is down and the attempt was cancelled, it
  ends in silence.
-/
theorem Begins.ends_of_cancelled
    {world : World}
    {task : TaskId}
    {offline : Connection}
    {result : Connection × Progress}
    (h : offline.Begins world task result)
    (hDown : offline.session.isConnected = false)
    (hCancelled : offline.isCancelled task = true) :
    ∃ later : Connection,
      offline.Prepared later ∧
        result = (later.stayOffline, .over) := by
  cases h with
  | givesUp later hPrepared =>
      have hStill : later.isCancelled task = true := by
        unfold isCancelled
        rw [hPrepared.tasks]
        exact hCancelled
      have hFlag : later.session.isConnected = false := by
        cases hPrepared <;> exact hDown
      refine ⟨later, hPrepared, ?_⟩
      rw [giveUp_of_cancelled hStill, goOffline_of_down hFlag]
  | strands hStrands =>
      refine ⟨offline.equip, .equipped, ?_⟩
      rw [goOffline_of_down
        (show offline.equip.session.isConnected = false from
          hDown)]
  | asks url hCalm =>
      cases hCalm.symm.trans hCancelled

------------------------------------------------------------
-- Replies
------------------------------------------------------------

/-
  A connection that has taken note of an answer to one of its
  attempts: a registration that may have been taken back is
  not checked any more, and keys are kept.
-/
def noted
    (answer : Http.Answer)
    (connection : Connection) :
    Errand → Connection
| .unregistering _ _ => connection.clearCheck
| .fetchingKeys _ _ =>
    { connection with
      keys := (KeyCache.update connection.keys answer).1 }
| _ => connection

/- Whether an answer brings the connection online. -/
def bringsOnline
    (answer : Http.Answer)
    (connection : Connection) :
    Errand → Bool
| .fetchingKeys task _ =>
    !connection.isCancelled task &&
      (DeviceKeys.ofAnswer answer).isOk
| _ => false

/- What an attempt does once an answer is there. -/
inductive Replies
    (world : World)
    (answer : Http.Answer)
    (before : Connection) :
    Errand → Connection × Progress → Prop where
| givesUp
    (errand : Errand)
    (task : TaskId)
    (hAttempt : errand.attempt? = some task)
    (hStays : before.bringsOnline answer errand = false) :
    Replies world answer before errand
      ((before.noted answer errand).giveUp world task, .over)
| registers
    (task : TaskId)
    (transport sender : TransportId)
    (url : String)
    (hUrl : before.session.callbackUrl = some url) :
    Replies world answer before
      (.unregistering task transport)
      (before.clearCheck.record
          (.asked sender
            (before.registrar.request .register url)),
        .asks
          (before.registrar.request .register url)
          (.registering task transport))
| fetches
    (task : TaskId)
    (transport : TransportId)
    (body : String)
    (hAnswer : Http.accept answer = .ok body)
    (hCalm : before.isCancelled task = false) :
    Replies world answer before
      (.registering task transport)
      (before.record
          (.asked transport
            (KeyCache.request before.config.brainUrl)),
        .asks
          (KeyCache.request before.config.brainUrl)
          (.fetchingKeys task transport))
| flickers
    (task : TaskId)
    (transport : TransportId)
    (hCalm : before.isCancelled task = false)
    (hCancelled :
      (before.lit world answer).isCancelled task = true)
    (hKeys : (KeyCache.update before.keys answer).2 = .ok ()) :
    Replies world answer before
      (.fetchingKeys task transport)
      (((before.lit world answer).goOffline world).goOffline
          world,
        .over)
| rises
    (task : TaskId)
    (transport : TransportId)
    (hCalm : before.isCancelled task = false)
    (hLitCalm :
      (before.lit world answer).isCancelled task = false)
    (hKeys : (KeyCache.update before.keys answer).2 = .ok ()) :
    Replies world answer before
      (.fetchingKeys task transport)
      ((before.lit world answer).scheduleCheck, .over)

section Replies

variable {world : World}
variable {answer : Http.Answer}
variable {before : Connection}

theorem replies_afterUnregister
    (task : TaskId)
    (transport : TransportId) :
    before.Replies world answer
      (.unregistering task transport)
      (before.afterUnregister world task transport answer) := by
  unfold afterUnregister
  dsimp only
  split
  · rename_i cause hAnswer
    rw [failAttempt_eq (Or.inl (isRetryable_of_accept hAnswer))]
    exact .givesUp _ task rfl rfl
  · unfold sendRegistration
    split
    · rename_i cause hRegister
      rw [failAttempt_eq
        (Or.inl (isRetryable_of_register hRegister))]
      exact .givesUp _ task rfl rfl
    · rename_i sending hRegister
      unfold Registrar.register Session.send? at hRegister
      split at hRegister
      · cases hRegister
      · rename_i url hUrl
        split at hRegister
        · cases hRegister
        · rename_i sender hSender
          cases hRegister
          exact .registers task transport sender url hUrl

theorem replies_afterRegister
    (task : TaskId)
    (transport : TransportId) :
    before.Replies world answer
      (.registering task transport)
      (before.afterRegister world task transport answer) := by
  unfold afterRegister
  split
  · rename_i cause hAnswer
    rw [failAttempt_eq (Or.inl (isRetryable_of_accept hAnswer))]
    exact .givesUp (.registering task transport) task rfl rfl
  · rename_i body hAnswer
    split
    · rename_i hCancelled
      rw [failAttempt_eq (Or.inr hCancelled)]
      exact .givesUp (.registering task transport) task rfl rfl
    · rename_i hCalm
      exact
        .fetches task transport body hAnswer
          (eq_false_of_ne_true hCalm)

/- Keys that could not be read bring nobody online. -/
theorem isOk_of_update_error
    {keys : DeviceKeys}
    {cause : Cause}
    (hUpdate :
      (KeyCache.update keys answer).2 = .error cause) :
    (DeviceKeys.ofAnswer answer).isOk = false := by
  unfold KeyCache.update at hUpdate
  cases hAnswer : DeviceKeys.ofAnswer answer with
  | error other => rfl
  | ok found =>
      rw [hAnswer] at hUpdate
      cases hUpdate

/- Keys that could be read do, unless it was cancelled. -/
theorem bringsOnline_of_update
    {task : TaskId}
    (transport : TransportId)
    (hCalm : before.isCancelled task = false)
    (hUpdate :
      (KeyCache.update before.keys answer).2 = .ok ()) :
    before.bringsOnline answer (.fetchingKeys task transport) =
      true := by
  unfold KeyCache.update at hUpdate
  cases hAnswer : DeviceKeys.ofAnswer answer with
  | error other =>
      rw [hAnswer] at hUpdate
      cases hUpdate
  | ok found =>
      simp only [bringsOnline, hCalm, hAnswer]
      rfl

theorem replies_afterKeys
    (task : TaskId)
    (transport : TransportId) :
    before.Replies world answer
      (.fetchingKeys task transport)
      (before.afterKeys world task answer) := by
  unfold afterKeys
  dsimp only
  split
  · rename_i cause hResult
    have hStays :
        before.bringsOnline answer
            (.fetchingKeys task transport) =
          false := by
      simp [bringsOnline, isOk_of_update_error hResult]
    rw [failAttempt_eq (Or.inl (isRetryable_of_update hResult))]
    exact
      .givesUp (.fetchingKeys task transport) task rfl hStays
  · rename_i result hResult
    split
    · rename_i hCancelled
      have hBefore : before.isCancelled task = true :=
        hCancelled
      have hStays :
          before.bringsOnline answer
              (.fetchingKeys task transport) =
            false := by
        simp [bringsOnline, hBefore]
      rw [failAttempt_eq (Or.inr hCancelled)]
      exact
        .givesUp (.fetchingKeys task transport) task rfl hStays
    · rename_i hCase
      have hCalm : before.isCancelled task = false :=
        eq_false_of_ne_true hCase
      change
        before.Replies world answer
          (.fetchingKeys task transport)
          (if (before.lit world answer).isCancelled task then
            ((before.lit world answer).goOffline
              world).failAttempt world task .interrupted
          else
            ((before.lit world answer).scheduleCheck, .over))
      split
      · rename_i hCancelled
        rw [failAttempt_interrupted]
        exact
          .flickers task transport hCalm hCancelled hResult
      · rename_i hLit
        exact
          .rises task transport hCalm
            (eq_false_of_ne_true hLit) hResult

/- What any attempt makes of any answer. -/
theorem replies_resume
    (world : World)
    (answer : Http.Answer)
    (before : Connection)
    {errand : Errand}
    {task : TaskId}
    (hAttempt : errand.attempt? = some task) :
    before.Replies world answer errand
      (before.resume world errand answer) := by
  cases errand with
  | unregistering other transport =>
      exact replies_afterUnregister other transport
  | registering other transport =>
      exact replies_afterRegister other transport
  | fetchingKeys other transport =>
      exact replies_afterKeys other transport
  | _ => cases hAttempt

/- Taking note cancels no attempt that was not cancelled. -/
theorem grows_noted
    (answer : Http.Answer)
    (connection : Connection)
    (errand : Errand) :
    connection.tasks.Grows
      (connection.noted answer errand).tasks := by
  cases errand with
  | unregistering task transport => exact Slot.grows_release _ _
  | _ => exact .refl _

/-
  An attempt that was cancelled before goes offline and is at
  its end, unless the brain has just forgotten its URL. Then
  it still asks to be registered.
-/
theorem Replies.ends_of_cancelled
    {errand : Errand}
    {task : TaskId}
    {result : Connection × Progress}
    (h : before.Replies world answer errand result)
    (hAttempt : errand.attempt? = some task)
    (hCancelled : before.isCancelled task = true) :
    result =
        ((before.noted answer errand).goOffline world, .over) ∨
      ∃ transport sender url,
        errand = .unregistering task transport ∧
          before.session.callbackUrl = some url ∧
            result =
              (before.clearCheck.record
                  (.asked sender
                    (before.registrar.request .register url)),
                .asks
                  (before.registrar.request .register url)
                  (.registering task transport)) := by
  cases h with
  | givesUp _ other hOther hStays =>
      cases hAttempt.symm.trans hOther
      have hStill :
          (before.noted answer errand).isCancelled task =
            true :=
        (grows_noted answer before errand).isCancelled
          hCancelled
      rw [giveUp_of_cancelled hStill]
      exact Or.inl rfl
  | registers other transport sender url hUrl =>
      cases hAttempt
      exact
        Or.inr ⟨transport, sender, url, rfl, hUrl, rfl⟩
  | fetches other transport body hAnswer hCalm =>
      cases hAttempt
      cases hCalm.symm.trans hCancelled
  | flickers other transport hCalm hLit hKeys =>
      cases hAttempt
      cases hCalm.symm.trans hCancelled
  | rises other transport hCalm hLit hKeys =>
      cases hAttempt
      cases hCalm.symm.trans hCancelled

end Replies

end Connection

end BrainLink
