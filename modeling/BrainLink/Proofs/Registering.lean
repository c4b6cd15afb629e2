import BrainLink.Proofs.Quiescence
import BrainLink.Rehearsal.Desk

/-
  What a registration needs: that the brain forgets the URL
  first, and then learns it.

  Key definitions include:
    * `Http.isGranted`
    * `Http.Recorder.grants`
    * `Desk.Registers`

  Main statements:
    * `Desk.register_eq`
    * `registers_unless_forgetting_fails`
    * `Connection.resume_unregistering`

  A brain that does not know the URL may refuse to forget it.
  It is then not asked to learn it, and the registration fails
  with the error of the clean-up. So a registration succeeds
  if and only if both requests do.
-/

namespace BrainLink

------------------------------------------------------------
-- Answers
------------------------------------------------------------

namespace Http

/- Whether an answer has status 200. -/
def isGranted : Answer → Bool
| .ok response => response.isOk
| .error _ => false

/- That is an answer which is accepted. -/
theorem isGranted_iff
    (answer : Answer) :
    isGranted answer = true ↔
      ∃ body, accept answer = .ok body := by
  unfold isGranted accept
  cases answer with
  | error failure => exact ⟨nofun, nofun⟩
  | ok response =>
      dsimp only
      cases response.isOk with
      | false => exact ⟨nofun, nofun⟩
      | true => exact ⟨fun _ => ⟨_, rfl⟩, fun _ => rfl⟩

theorem isGranted_of_error
    {answer : Answer}
    {cause : Cause}
    (hAnswer : accept answer = .error cause) :
    isGranted answer = false := by
  apply eq_false_of_ne_true
  intro hGranted
  rcases (isGranted_iff answer).mp hGranted with ⟨body, hBody⟩
  cases hAnswer.symm.trans hBody

/- Whether a brain answers a request so. -/
def Recorder.grants
    (recorder : Recorder)
    (request : Request) :
    Bool :=
  isGranted (recorder.book.answer request)

end Http

------------------------------------------------------------
-- Registrations
------------------------------------------------------------

/- What is sent for a session with a URL and a transport. -/
theorem Registrar.register_eq
    (registrar : Registrar)
    {session : Session}
    {url : String}
    {transport : TransportId}
    (hUrl : session.callbackUrl = some url)
    (hTransport : session.transport = some transport) :
    registrar.register session =
      .ok (transport, registrar.request .register url) := by
  unfold register Session.send?
  rw [hUrl, hTransport]

namespace Desk

variable {desk : Desk}
variable {url : String}
variable {transport : TransportId}

/- A request succeeds if that is its answer. -/
theorem post_eq_ok_iff (sending : Sending) :
    (desk.post sending).2 = .ok () ↔
      desk.recorder.grants sending.2 = true := by
  rw [Http.Recorder.grants, Http.isGranted_iff]
  unfold post Http.Recorder.ask
  dsimp only
  cases Http.accept
      (desk.recorder.book.answer sending.2) with
  | error cause => exact ⟨nofun, nofun⟩
  | ok body => exact ⟨fun _ => ⟨body, rfl⟩, fun _ => rfl⟩

/- A desk whose brain was asked to forget a URL. -/
def unregistered
    (desk : Desk)
    (transport : TransportId)
    (url : String) :
    Desk :=
  (desk.post
    (transport,
      desk.registrar.request .unregister url)).1.refill
    .check none

/- What is asked to register, with all that can come of it. -/
theorem register_eq
    (hUrl : desk.session.callbackUrl = some url)
    (hTransport : desk.session.transport = some transport) :
    desk.register =
      match
        (desk.post
          (transport,
            desk.registrar.request .unregister url)).2
      with
      | .error cause =>
          (desk.unregistered transport url, .error cause)
      | .ok _ =>
          (desk.unregistered transport url).post
            (transport,
              desk.registrar.request .register url) := by
  have hForgets :
      desk.deregister =
        (desk.unregistered transport url,
          (desk.post
            (transport,
              desk.registrar.request .unregister url)).2) := by
    unfold deregister deregisterUrl Registrar.unregister
      Session.send?
    rw [hUrl, hTransport]
    rfl
  have hLearns :
      (desk.unregistered transport url).registrar.register
          (desk.unregistered transport url).session =
        .ok
          (transport,
            desk.registrar.request .register url) :=
    desk.registrar.register_eq hUrl hTransport
  unfold register
  rw [hForgets]
  cases (desk.post
      (transport,
        desk.registrar.request .unregister url)).2 with
  | error cause => rfl
  | ok _ =>
      dsimp only
      rw [hLearns]

/-
  What comes of a registration. The brain is asked to learn
  the URL if it has forgotten it, and the registration
  succeeds if both were answered with status 200. Of the
  session only the health check is gone.
-/
structure Registers
    (url : String)
    (before : Desk)
    (result : Desk × Outcome Unit) : Prop where
  calls :
    result.1.recorder.calls =
      before.recorder.calls ++
        if before.recorder.grants
            (before.registrar.request .unregister url) then
          [ before.registrar.request .unregister url,
            before.registrar.request .register url ]
        else
          [before.registrar.request .unregister url]
  succeeds :
    result.2 = .ok () ↔
      before.recorder.grants
            (before.registrar.request .unregister url) =
          true ∧
        before.recorder.grants
            (before.registrar.request .register url) =
          true
  session :
    result.1.session = { before.session with check := none }

end Desk

/-
  A session with a URL and a transport is registered if the
  brain forgets the URL before it learns it. Otherwise it is
  not even asked to learn it.
-/
theorem registers_unless_forgetting_fails
    {desk : Desk}
    {url : String}
    {transport : TransportId}
    (hUrl : desk.session.callbackUrl = some url)
    (hTransport : desk.session.transport = some transport) :
    desk.Registers url desk.register := by
  have hForgets :=
    desk.post_eq_ok_iff
      (transport, desk.registrar.request .unregister url)
  have hLearns :=
    (desk.unregistered transport url).post_eq_ok_iff
      (transport, desk.registrar.request .register url)
  rw [Desk.register_eq hUrl hTransport]
  cases hGranted :
      desk.recorder.grants
        (desk.registrar.request .unregister url) with
  | false =>
      cases hResult :
          (desk.post
            (transport,
              desk.registrar.request .unregister url)).2 with
      | ok _ =>
          cases hGranted.symm.trans (hForgets.mp hResult)
      | error cause =>
          refine ⟨?_, ?_, rfl⟩
          · rw [hGranted]
            rfl
          · rw [hGranted]
            exact ⟨nofun, fun hBoth => nomatch hBoth.1⟩
  | true =>
      rw [hForgets.mpr hGranted]
      refine ⟨?_, ?_, rfl⟩
      · rw [hGranted]
        exact List.append_assoc _ _ _
      · rw [hGranted]
        exact hLearns.trans ⟨fun h => ⟨rfl, h⟩, And.right⟩

/- A desk with a URL and a transport, for a brain's answers. -/
def Sample.desk (book : Http.Playbook) : Desk :=
  let fresh := Desk.new connection.registrar book
  { fresh with
    session :=
      { fresh.session with
        callbackUrl := some url
        transport := some 1 } }

theorem registers_of_healthy :
    (Sample.desk .healthy).Registers Sample.url
        (Sample.desk .healthy).register ∧
      (Sample.desk .healthy).register.2 = .ok () := by
  have hRegisters :
      (Sample.desk .healthy).Registers Sample.url
        (Sample.desk .healthy).register :=
    registers_unless_forgetting_fails rfl rfl
  exact
    ⟨hRegisters,
      hRegisters.succeeds.mpr (by decide +kernel)⟩

/- A brain that has nothing to forget, but would learn. -/
def Sample.forgetful : Http.Playbook :=
  Http.Playbook.healthy.set
    ⟨"POST", Endpoint.unregister.path⟩
    (.respond ⟨404, "unknown adapter"⟩)

theorem not_registers_of_forgetful :
    ¬ ∀ (desk : Desk) url transport,
      desk.session.callbackUrl = some url →
        desk.session.transport = some transport →
          desk.registrar.request .register url ∈
              desk.register.1.recorder.calls ∧
            (desk.register.2 = .ok () ↔
              desk.recorder.grants
                  (desk.registrar.request .register url) =
                true) := by
  intro hAlways
  have hGranted :
      (Sample.desk Sample.forgetful).recorder.grants
          ((Sample.desk Sample.forgetful).registrar.request
            .register Sample.url) =
        true := by
    decide +kernel
  have hRegistered :=
    (hAlways (Sample.desk Sample.forgetful) Sample.url 1 rfl
      rfl).2.mpr hGranted
  exact
    absurd (congrArg Except.isOk hRegistered)
      (by decide +kernel)

------------------------------------------------------------
-- Attempts
------------------------------------------------------------

/-
  So it is in an attempt, whatever has happened until the
  brain answers: it gives up unless the URL was forgotten.
-/
theorem Connection.resume_unregistering
    {connection : Connection}
    {url : String}
    {transport : TransportId}
    (hUrl : connection.session.callbackUrl = some url)
    (hTransport :
      connection.session.transport = some transport)
    (world : World)
    (task : TaskId)
    (sender : TransportId)
    (answer : Http.Answer) :
    connection.resume world (.unregistering task sender)
        answer =
      match Http.accept answer with
      | .error _ =>
          (connection.clearCheck.giveUp world task, .over)
      | .ok _ =>
          (connection.clearCheck.record
              (.asked transport
                (connection.registrar.request .register url)),
            .asks
              (connection.registrar.request .register url)
              (.registering task sender)) := by
  have hRegister :
      connection.clearCheck.registrar.register
          connection.clearCheck.session =
        .ok
          (transport,
            connection.registrar.request .register url) :=
    connection.registrar.register_eq hUrl hTransport
  change
    connection.afterUnregister world task sender answer = _
  unfold Connection.afterUnregister
  dsimp only
  cases hAnswer : Http.accept answer with
  | error cause =>
      dsimp only
      rw [Connection.failAttempt_eq
        (Or.inl (isRetryable_of_accept hAnswer))]
  | ok body =>
      dsimp only
      unfold Connection.sendRegistration
      rw [hRegister]
      rfl

end BrainLink
