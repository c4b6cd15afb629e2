import BrainLink.Proofs.Withdrawal

/-
  A connection that is online has a transport.

  Key definitions include:
    * `Situation.TransportStep`
    * `Situation.HasTransport`
    * `Connection.Notifies`

  Main statements:
    * `Situation.Sound.transportStep_after`
    * `Situation.Sound.hasTransport_after`
    * `hasTransport_replay`
    * `notifies_once_if_online`

  The flag and the transport are set apart from each other,
  the one by an attempt at its end, the other by an attempt
  at its beginning and by a closing. What keeps them together
  is that an attempt that was not cancelled finds the
  transport that it made, or a newer one: only a closing takes
  it away, and it cancels all attempts.
-/

namespace BrainLink

namespace Connection

/- What is open after it went offline was so before. -/
theorem Fallen.open_before
    {before after : Connection}
    (h : before.Fallen after)
    (hOpen : after.isClosed = false) :
    before.isClosed = false := by
  cases hClosed : before.isClosed with
  | false => rfl
  | true => cases (h.closed hClosed).symm.trans hOpen

/- What goes offline keeps its transport unless it closes. -/
theorem Lowered.transport_ne_none
    {before after : Connection}
    (h : before.Lowered after)
    (hOpen : after.isClosed = false)
    (hTransport : before.session.transport ≠ none) :
    after.session.transport ≠ none := by
  have hBefore := h.toFallen.open_before hOpen
  rw [h.transport, if_pos (hOpen.trans hBefore.symm)]
  exact hTransport

/- However far an attempt has come, it has not lost it. -/
theorem Prepared.transport_ne_none
    {offline later : Connection}
    (h : offline.Prepared later)
    (hTransport : offline.session.transport ≠ none) :
    later.session.transport ≠ none := by
  cases h with
  | bare => exact hTransport
  | equipped => exact Option.some_ne_none _
  | named url => exact Option.some_ne_none _

theorem Prepared.isClosed
    {offline later : Connection}
    (h : offline.Prepared later) :
    later.isClosed = offline.isClosed := by
  cases h <;> rfl

theorem session_beginRun
    (task : TaskId)
    (connection : Connection) :
    (connection.beginRun task).session =
      connection.session := by
  unfold beginRun
  split
  · rfl
  · rfl

/- An answer that is noted changes neither. -/
theorem transport_noted
    (answer : Http.Answer)
    (connection : Connection)
    (errand : Errand) :
    (connection.noted answer errand).session.transport =
      connection.session.transport := by
  cases errand <;> rfl

/- Scheduling changes no more of a session than its slots. -/
theorem Rearranges.exists_session
    {before after : Connection}
    (h : before.Rearranges after) :
    ∃ connect check,
      after.session =
        { before.session with
          connect := connect
          check := check } := by
  cases h with
  | intro tasks connect check journal hTasks hRequests
      hNews => exact ⟨connect, check, rfl⟩

theorem Rearranges.isClosed
    {before after : Connection}
    (h : before.Rearranges after) :
    after.isClosed = before.isClosed := by
  cases h with
  | intro tasks connect check journal hTasks hRequests
      hNews => rfl

end Connection

namespace Situation

section Transport

variable {config : Config}
variable {before after : Situation}
variable {occurrence : Occurrence}

------------------------------------------------------------
-- Steps
------------------------------------------------------------

/-
  What an occurrence does to the flag and the transport. It
  leaves both as they are, or lowers the flag and takes the
  transport away only by closing, or makes a transport, or
  raises the flag on behalf of an attempt.
-/
inductive TransportStep (before after : Situation) : Prop where
| keeps
    (hAttempts : after.attempts ⊆ before.attempts)
    (hFlag :
      after.connection.session.isConnected =
        before.connection.session.isConnected)
    (hTransport :
      after.connection.session.transport =
        before.connection.session.transport)
| lowers
    (hAttempts : after.attempts ⊆ before.attempts)
    (hFlag : after.connection.session.isConnected = false)
    (hTransport :
      after.connection.isClosed = false →
        before.connection.session.transport ≠ none →
          after.connection.session.transport ≠ none)
| equips
    (hTransport : after.connection.session.transport ≠ none)
| raises
    (task : TaskId)
    (hMember : task ∈ before.attempts)
    (hCalm : before.connection.isCancelled task = false)
    (hTransport :
      after.connection.session.transport =
        before.connection.session.transport)

/- No attempt is under way that was not before. -/
theorem attempts_erase_subset
    (connection : Connection)
    (question : Question) :
    attempts ⟨connection, before.waiting.erase question⟩ ⊆
      before.attempts :=
  List.filterMap_subset _ List.erase_subset

/- An attempt that asks again was under way. -/
theorem attempts_askAgain_subset
    (connection : Connection)
    {request : Http.Request}
    {errand : Errand}
    {question : Question}
    {task : TaskId}
    (hMember : question ∈ before.waiting)
    (hAttempt : question.attempt? = some task)
    (hErrand : errand.attempt? = some task) :
    attempts
        ⟨connection,
          .asking request errand ::
            before.waiting.erase question⟩ ⊆
      before.attempts := by
  have hAsked := Question.attempt?_asking hErrand request
  unfold attempts
  rw [List.filterMap_cons, hAsked]
  exact (perm_erase_some hMember hAttempt).subset

/- No attempt moves. -/
theorem Sound.transportStep_of_rest
    (h : before.Sound config)
    (hMoves : before.moves? occurrence = none) :
    before.TransportStep (before.after occurrence) := by
  have hTurn := h.turn_after occurrence
  generalize before.after occurrence = after at hTurn ⊢
  cases hTurn with
  | idle _ _ hIdles hPasses hRequests =>
      have hSession := hIdles.connection.session
      exact
        .keeps hIdles.attempts.subset
          (congrArg Session.isConnected hSession)
          (congrArg Session.transport hSession)
  | starts hHeld hOpen =>
      have hScheduled :=
        before.connection.rearranges_scheduleConnect
      rcases hScheduled.exists_session with
        ⟨connect, check, hSession⟩
      exact
        .keeps (List.Subset.refl _)
          (congrArg Session.isConnected hSession :)
          (congrArg Session.transport hSession :)
  | drops => exact .keeps (List.Subset.refl _) rfl rfl
  | opens world task known hTask hJob hLive result hResult
      hOpening =>
      simp [moves?, hasTask, hTask, hLive, hJob] at hMoves
  | advances world request errand answer task hMember hAttempt
      result hResult hAdvance =>
      simp [moves?, hMember, hAttempt] at hMoves
  | fails world task isReachable later hMember hLater hLowered
      hRenewed =>
      exact
        .lowers (attempts_erase_subset _ _)
          hLowered.offline.flag hLowered.transport_ne_none
  | parts world transport request hOpen hParting =>
      exact .keeps (List.Subset.refl _) rfl rfl
  | closes world hOpen hParting =>
      have hEnded :=
        before.connection.shut.ended_endClose world
      refine
        .lowers (List.Subset.refl _) hEnded.offline.flag ?_
      intro hStillOpen
      cases (hEnded.closed rfl).symm.trans hStillOpen
  | concludes world request answer hMember =>
      have hEnded := before.connection.ended_endClose world
      refine
        .lowers (attempts_erase_subset _ _)
          hEnded.offline.flag ?_
      intro hStillOpen
      have hClosed :=
        hEnded.closed (h.parting request hMember)
      cases hClosed.symm.trans hStillOpen

/- An attempt begins. -/
theorem transportStep_run
    {world : World}
    {task : TaskId}
    (hMoves : before.moves? (.run world task) = some task) :
    before.TransportStep (before.after (.run world task)) := by
  have hBegins :=
    Connection.begins_beginAttempt world task
      (before.connection.beginRun task)
  have hSession :=
    Connection.session_beginRun task before.connection
  have hOffline :=
    Connection.lowered_goOffline world
      (before.connection.beginRun task)
  rw [after_run hMoves]
  generalize
    (before.connection.beginRun task).beginAttempt world task =
      result at hBegins ⊢
  generalize
    (before.connection.beginRun task).goOffline world = offline
      at hBegins hOffline
  cases hBegins with
  | givesUp later hPrepared =>
      have hLowered :=
        Connection.lowered_giveUp world task later
      refine
        .lowers (List.Subset.refl _) hLowered.offline.flag ?_
      intro hOpen hTransport
      have hEarlier := hLowered.toFallen.open_before hOpen
      rw [hPrepared.isClosed] at hEarlier
      rw [← hSession] at hTransport
      apply hLowered.transport_ne_none hOpen
      apply hPrepared.transport_ne_none
      exact hOffline.transport_ne_none hEarlier hTransport
  | strands hStrands =>
      have hLowered :=
        Connection.lowered_goOffline world offline.equip
      refine
        .lowers (List.Subset.refl _) hLowered.offline.flag ?_
      intro hOpen _
      exact
        hLowered.transport_ne_none hOpen
          (Option.some_ne_none _)
  | asks url hCalm => exact .equips (Option.some_ne_none _)

/- An attempt gets an answer. -/
theorem Sound.transportStep_answer
    (h : before.Sound config)
    {world : World}
    {request : Http.Request}
    {errand : Errand}
    {answer : Http.Answer}
    {task : TaskId}
    (hMoves :
      before.moves? (.answer world request errand answer) =
        some task) :
    before.TransportStep
      (before.after (.answer world request errand answer)) := by
  rcases mem_of_moves?_answer hMoves with ⟨hWaits, hErrand⟩
  have hAsked := Question.attempt?_asking hErrand request
  have hMember := mem_attempts hWaits hAsked
  have hReplies :=
    Connection.replies_resume world answer before.connection
      hErrand
  simp only [Situation.after, if_pos hWaits, hErrand]
  generalize
    before.connection.resume world errand answer = result
      at hReplies ⊢
  cases hReplies with
  | givesUp _ other hOther hStays =>
      have hLowered :=
        Connection.lowered_giveUp world other
          (before.connection.noted answer errand)
      refine
        .lowers (attempts_erase_subset _ _)
          hLowered.offline.flag ?_
      intro hOpen hTransport
      apply hLowered.transport_ne_none hOpen
      rw [Connection.transport_noted]
      exact hTransport
  | registers other transport sender url hUrl =>
      exact
        .keeps (attempts_askAgain_subset _ hWaits rfl rfl)
          rfl rfl
  | fetches other transport body hAnswer hCalm =>
      exact
        .keeps (attempts_askAgain_subset _ hWaits rfl rfl)
          rfl rfl
  | flickers other transport hCalm hLit hKeys =>
      cases hErrand
      have hRaised :
          before.connection.Raised world
            (before.connection.lit world answer) :=
        (h.engaged hMember).raised_lit hCalm
      have hFirst :=
        Connection.lowered_goOffline world
          (before.connection.lit world answer)
      have hSecond :=
        Connection.lowered_goOffline world
          ((before.connection.lit world answer).goOffline world)
      refine
        .lowers (attempts_erase_subset _ _)
          hSecond.offline.flag ?_
      intro hOpen hTransport
      have hMiddle := hSecond.toFallen.open_before hOpen
      have hLitOpen := hFirst.toFallen.open_before hMiddle
      apply hSecond.transport_ne_none hOpen
      apply hFirst.transport_ne_none hMiddle
      rw [hRaised.transport hLitOpen]
      exact hTransport
  | rises other transport hCalm hLitCalm hKeys =>
      cases hErrand
      have hEngaged := h.engaged hMember
      have hRaised :
          before.connection.Raised world
            (before.connection.lit world answer) :=
        hEngaged.raised_lit hCalm
      have hRisen :=
        hRaised.risen (h.tidy.lit world answer) hLitCalm h.tidy
          hEngaged.known (hEngaged.connect hCalm)
      have hChecks :=
        (before.connection.lit world
          answer).rearranges_scheduleCheck
      have hLitOpen := hChecks.isClosed.symm.trans hRisen.isClosed
      rcases hChecks.exists_session with
        ⟨connect, check, hSession⟩
      refine .raises task hMember hCalm ?_
      exact
        (congrArg Session.transport hSession).trans
          (hRaised.transport hLitOpen)

/- Whatever happens does one of these. -/
theorem Sound.transportStep_after
    (h : before.Sound config)
    (occurrence : Occurrence) :
    before.TransportStep (before.after occurrence) := by
  cases hMoves : before.moves? occurrence with
  | none => exact h.transportStep_of_rest hMoves
  | some task =>
      cases occurrence with
      | run world other =>
          cases (exists_of_moves?_run hMoves).1
          exact transportStep_run hMoves
      | answer world request errand answer =>
          exact h.transportStep_answer hMoves
      | _ => cases hMoves

------------------------------------------------------------
-- Keeping the Transport
------------------------------------------------------------

/-
  There is a transport while the connection is online, and
  while an attempt that was not cancelled is under way.
-/
structure HasTransport (situation : Situation) : Prop where
  online :
    situation.connection.session.isConnected = true →
      situation.connection.session.transport ≠ none
  underway :
    ∀ task ∈ situation.attempts,
      situation.connection.isCancelled task = false →
        situation.connection.session.transport ≠ none

/- An attempt that was not cancelled was not so before. -/
theorem Sound.calm_before
    (h : before.Sound config)
    (occurrence : Occurrence)
    {task : TaskId}
    (hCalm :
      (before.after occurrence).connection.isCancelled task =
        false) :
    before.connection.isCancelled task = false := by
  cases hCancelled : before.connection.isCancelled task with
  | false => rfl
  | true =>
      have hStill :=
        (h.turn_after occurrence).isCancelled hCancelled
      cases hStill.symm.trans hCalm

/- It tells that the connection is open. -/
theorem Sound.open_of_calm
    (h : before.Sound config)
    {task : TaskId}
    (hMember : task ∈ before.attempts)
    (hCalm : before.connection.isCancelled task = false) :
    before.connection.isClosed = false :=
  (h.engaged hMember).isClosed hCalm

/- Whatever happens, the transport is kept so. -/
theorem Sound.hasTransport_after
    (h : before.Sound config)
    (hTransports : before.HasTransport)
    (occurrence : Occurrence) :
    (before.after occurrence).HasTransport := by
  have hSound := h.after occurrence
  have hCalmBefore :
      ∀ task,
        (before.after occurrence).connection.isCancelled task =
            false →
          before.connection.isCancelled task = false :=
    fun _ => h.calm_before occurrence
  have hStep := h.transportStep_after occurrence
  generalize before.after occurrence = after
    at hSound hCalmBefore hStep ⊢
  cases hStep with
  | keeps hAttempts hFlag hTransport =>
      constructor
      · rw [hFlag, hTransport]
        exact hTransports.online
      · intro task hMember hCalm
        rw [hTransport]
        exact
          hTransports.underway task (hAttempts hMember)
            (hCalmBefore task hCalm)
  | lowers hAttempts hFlag hTransport =>
      constructor
      · intro hUp
        cases hFlag.symm.trans hUp
      · intro task hMember hCalm
        apply hTransport (hSound.open_of_calm hMember hCalm)
        exact
          hTransports.underway task (hAttempts hMember)
            (hCalmBefore task hCalm)
  | equips hTransport =>
      exact ⟨fun _ => hTransport, fun _ _ _ => hTransport⟩
  | raises task hMember hCalm hTransport =>
      have hBefore := hTransports.underway task hMember hCalm
      rw [← hTransport] at hBefore
      exact ⟨fun _ => hBefore, fun _ _ _ => hBefore⟩

end Transport

end Situation

------------------------------------------------------------
-- Courses
------------------------------------------------------------

/- So is every situation in the course of a connection. -/
theorem hasTransport_replay
    {config : Config}
    {drive : Drive}
    {connection : Connection}
    (hNew : Connection.new config drive = .ok connection)
    (past : List Occurrence) :
    (replay connection past).HasTransport := by
  induction past with
  | nil =>
      constructor
      · intro hUp
        have hDown : connection.session.isConnected = false := by
          unfold Connection.new at hNew
          split at hNew
          · cases hNew
          · cases hNew
            rfl
        cases hDown.symm.trans hUp
      · intro task hMember
        cases hMember
  | cons occurrence past ih =>
      exact
        (sound_replay hNew past).hasTransport_after ih occurrence

------------------------------------------------------------
-- Notifications
------------------------------------------------------------

namespace Connection

/- The request of a notification. -/
def notification
    (connection : Connection)
    (message : String) :
    Http.Request :=
  .post
    (Endpoint.notifications.url connection.config.brainUrl)
    message

/-
  What comes of a notification. While the connection is
  offline it is over, and nothing is sent. Otherwise it sends
  its request, and whatever has happened to the connection
  meanwhile, it sends no other and is over with the answer.
-/
inductive Notifies
    (message : String)
    (connection : Connection) :
    Connection × Progress → Prop where
| keepsSilent
    (hDown : connection.session.isConnected = false) :
    Notifies message connection (connection, .over)
| sends
    (transport : TransportId)
    (hUp : connection.session.isConnected = true)
    (hTransport :
      connection.session.transport = some transport)
    (hEnds :
      ∀ world answer (later : Connection),
        later.resume world .notifying answer =
          (later,
            .done
              ((Http.accept answer).map fun _ => .nothing))) :
    Notifies message connection
      (connection.record
          (.asked transport (connection.notification message)),
        .asks (connection.notification message) .notifying)

theorem notifies_beginNotify
    {connection : Connection}
    (hOnline :
      connection.session.isConnected = true →
        connection.session.transport ≠ none)
    (message : String) :
    connection.Notifies message
      (connection.beginNotify message) := by
  unfold beginNotify
  cases hUp : connection.session.isConnected with
  | false => exact .keepsSilent hUp
  | true =>
      rcases Option.ne_none_iff_exists'.mp (hOnline hUp) with
        ⟨transport, hTransport⟩
      rw [if_pos rfl]
      unfold askInSession Session.send?
      rw [hTransport]
      exact .sends transport hUp hTransport fun _ _ _ => rfl

/- So it never fails for want of a transport. -/
theorem Notifies.ne_noTransport
    {message : String}
    {connection : Connection}
    {result : Connection × Progress}
    (h : connection.Notifies message result) :
    result.2 ≠ .done (.error .noTransport) := by
  cases h with
  | keepsSilent hDown => nofun
  | sends transport hUp hTransport hEnds => nofun

end Connection

/-
  Whatever has happened, a connection that is online has a
  transport. So a notification is over in silence or sends
  exactly one request.
-/
theorem notifies_once_if_online
    {config : Config}
    {drive : Drive}
    {connection : Connection}
    (hNew : Connection.new config drive = .ok connection)
    (past : List Occurrence) :
    ((replay connection past).connection.session.isConnected =
          true →
        (replay connection past).connection.session.transport ≠
          none) ∧
      ∀ world message,
        (replay connection past).connection.Notifies message
            ((replay connection past).connection.obey world
              (.notify message)) ∧
          ((replay connection past).connection.obey world
                (.notify message)).2 ≠
            .done (.error .noTransport) := by
  have hOnline := (hasTransport_replay hNew past).online
  refine ⟨hOnline, ?_⟩
  intro world message
  have hNotifies :=
    Connection.notifies_beginNotify hOnline message
  exact ⟨hNotifies, hNotifies.ne_noTransport⟩

/- A brain that is online is notified. -/
theorem notifies_of_undisturbed :
    (replay Sample.connection
          Sample.undisturbed).connection.session.isConnected =
        true ∧
      (replay Sample.connection
            Sample.undisturbed).connection.session.transport ≠
          none ∧
        (replay Sample.connection
              Sample.undisturbed).connection.Notifies "ping"
            ((replay Sample.connection
                  Sample.undisturbed).connection.obey
              Sample.world (.notify "ping")) := by
  have hUp :
      (replay Sample.connection
            Sample.undisturbed).connection.session.isConnected =
          true := by
    decide +kernel
  rcases notifies_once_if_online Sample.new_connection
      Sample.undisturbed with
    ⟨hTransport, hNotifies⟩
  exact
    ⟨hUp, hTransport hUp, (hNotifies Sample.world "ping").1⟩

end BrainLink
