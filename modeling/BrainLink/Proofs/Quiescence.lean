import BrainLink.Proofs.Alignment
import BrainLink.Proofs.Healing

/-
  What holds of a connection while nothing is under way, if
  whatever begins comes to its end before the next begins.

  Key definitions include:
    * `Connection.Settled`
    * `Situation.SingleAttempt`
    * `Quiescent`

  Main statements:
    * `Situation.Sound.singleAttempt_after`
    * `singleAttempt_replay`
    * `quiescent_of_orderly`

  An attempt that is never overtaken finds the session as it
  has left it when it gets its next answer. So a connection
  that is online when all is quiet has the URL that the brain
  was told last, and the keys that it has told last.
-/

namespace BrainLink

------------------------------------------------------------
-- Single Attempts
------------------------------------------------------------

/-
  A connection with no attempt under way. If it is online, it
  has the URL and the keys of the last exchange with the
  brain, and a health check if one is wanted.
-/
structure Connection.Settled
    (config : Config)
    (said : List Line)
    (connection : Connection) : Prop where
  state : connection.session.state ≠ .connecting
  offline :
    connection.session.isConnected = false →
      connection.session.callbackUrl = none
  online :
    connection.session.isConnected = true →
      ∃ url,
        connection.session.callbackUrl = some url ∧
          Registered config said url ∧
            Informed config said connection.keys
  check :
    connection.session.isConnected = true →
      connection.isClosed = false →
        connection.isHeld = true →
          config.checksHealth = true →
            connection.session.check ≠ none

/- How far the attempt has come that a question belongs to. -/
def Errand.Tracks
    (config : Config)
    (said : List Line)
    (url : String)
    (request : Http.Request) :
    Errand → Prop
| .registering _ _ =>
    request =
      (Registrar.ofConfig config).request .register url
| .fetchingKeys _ _ => Registered config said url
| _ => True

/-
  One attempt at most is under way, alone, and the session
  knows its URL. Without one the connection is settled.
-/
structure Situation.SingleAttempt
    (config : Config)
    (said : List Line)
    (situation : Situation) : Prop where
  aligned : situation.connection.Aligned
  single : situation.attempts.length ≤ 1
  alone :
    situation.attempts ≠ [] →
      situation.checks = [] ∧ situation.isParting = false
  underway :
    ∀ request errand task,
      .asking request errand ∈ situation.waiting →
        errand.attempt? = some task →
          situation.connection.session.isConnected = false ∧
            ∃ url,
              situation.connection.session.callbackUrl =
                  some url ∧
                errand.Tracks config said url request
  settled :
    situation.attempts = [] →
      situation.connection.Settled config said

namespace Connection

/- A connection that is offline is settled. -/
theorem settled_of_isOffline
    {config : Config}
    {said : List Line}
    {connection : Connection}
    (hOffline : connection.session.IsOffline) :
    connection.Settled config said where
  state := by
    rw [hOffline.state]
    intro hState
    cases hState
  offline _ := hOffline.url
  online hUp := by
    rw [hOffline.flag] at hUp
    cases hUp
  check hUp := by
    rw [hOffline.flag] at hUp
    cases hUp

/- What is said of an attempt is said again as it was. -/
theorem Settled.later
    {config : Config}
    {said later : List Line}
    {before after : Connection}
    (h : before.Settled config said)
    (hFlag :
      after.session.isConnected = before.session.isConnected)
    (hState : after.session.state = before.session.state)
    (hUrl :
      after.session.callbackUrl = before.session.callbackUrl)
    (hKeys : after.keys = before.keys)
    (hSaid :
      ∀ topic,
        IsOfAttempts topic →
          lastOn topic later = lastOn topic said)
    (hCheck :
      after.isClosed = false →
        after.isHeld = true →
          before.isClosed = false ∧
            before.isHeld = true ∧
              after.session.check = before.session.check) :
    after.Settled config later where
  state := by
    rw [hState]
    exact h.state
  offline := by
    rw [hFlag, hUrl]
    exact h.offline
  online hUp := by
    rw [hFlag] at hUp
    rcases h.online hUp with
      ⟨url, hKnown, hRegistered, hInformed⟩
    refine ⟨url, hUrl.trans hKnown, ?_, ?_⟩
    · unfold Registered
      rw [hSaid _ isOfAttempts_registering]
      exact hRegistered
    · unfold Informed
      rw [hSaid _ isOfAttempts_fetching, hKeys]
      exact hInformed
  check hUp hOpen hHeld := by
    rw [hFlag] at hUp
    rcases hCheck hOpen hHeld with ⟨hBefore, hOwned, hSame⟩
    rw [hSame]
    exact h.check hUp hBefore hOwned

end Connection

namespace Situation

section SingleAttempt

variable {config : Config}
variable {said : List Line}
variable {before after : Situation}
variable {occurrence : Occurrence}

/- At rest nothing is under way. -/
theorem isAtRest_iff
    (situation : Situation) :
    situation.isAtRest = true ↔
      situation.attempts = [] ∧
        situation.checks = [] ∧
          situation.isParting = false := by
  unfold isAtRest isQuiet
  simp [and_assoc]

/- Where no attempt is under way, none asks anything. -/
theorem not_mem_waiting
    (hNone : before.attempts = [])
    {request : Http.Request}
    {errand : Errand}
    {task : TaskId}
    (hMember : .asking request errand ∈ before.waiting)
    (hAttempt : errand.attempt? = some task) :
    False := by
  have hAsked := Question.attempt?_asking hAttempt request
  have hIn := mem_attempts hMember hAsked
  rw [hNone] at hIn
  cases hIn

theorem singleAttempt_of_settled
    (hAligned : after.connection.Aligned)
    (hNone : after.attempts = [])
    (hSettled : after.connection.Settled config said) :
    after.SingleAttempt config said where
  aligned := hAligned
  single := by
    rw [hNone]
    exact Nat.zero_le 1
  alone hSome := absurd hNone hSome
  underway _ _ _ hMember hAttempt :=
    (not_mem_waiting hNone hMember hAttempt).elim
  settled _ := hSettled

/- An attempt has come to its end, or a closing. -/
theorem singleAttempt_of_isOffline
    (hOffline : after.connection.session.IsOffline)
    (hNone : after.attempts = []) :
    after.SingleAttempt config said :=
  singleAttempt_of_settled
    (Connection.aligned_of_isOffline hOffline)
    hNone
    (Connection.settled_of_isOffline hOffline)

/- An attempt asks while nothing else is under way. -/
theorem singleAttempt_of_asking
    {connection : Connection}
    {waiting : List Question}
    {request : Http.Request}
    {errand : Errand}
    {task : TaskId}
    {url : String}
    (hErrand : errand.attempt? = some task)
    (hNone : attempts ⟨connection, waiting⟩ = [])
    (hChecks : checks ⟨connection, waiting⟩ = [])
    (hParting : isParting ⟨connection, waiting⟩ = false)
    (hAligned : connection.Aligned)
    (hFlag : connection.session.isConnected = false)
    (hUrl : connection.session.callbackUrl = some url)
    (hTracks : errand.Tracks config said url request) :
    SingleAttempt config said
      ⟨connection, .asking request errand :: waiting⟩ := by
  have hNow :
      attempts ⟨connection, .asking request errand :: waiting⟩ =
        [task] := by
    have hHead := Question.attempt?_asking hErrand request
    unfold attempts at hNone ⊢
    rw [List.filterMap_cons, hHead, hNone]
  refine ⟨hAligned, ?_, ?_, ?_, ?_⟩
  · rw [hNow]
    exact Nat.le_refl 1
  · intro _
    refine ⟨hChecks, ?_⟩
    apply eq_false_of_ne_true
    intro hParts
    rcases isParting_iff.mp hParts with ⟨other, hOther⟩
    rcases List.mem_cons.mp hOther with hSame | hOld
    · cases hSame
      cases hErrand
    · have hEarlier :
          isParting ⟨connection, waiting⟩ = true :=
        isParting_iff.mpr ⟨other, hOld⟩
      cases hParting.symm.trans hEarlier
  · intro other another task hOther hAttempt
    rcases List.mem_cons.mp hOther with hSame | hOld
    · cases hSame
      exact ⟨hFlag, url, hUrl, hTracks⟩
    · exact (not_mem_waiting hNone hOld hAttempt).elim
  · intro hEmpty
    rw [hNow] at hEmpty
    cases hEmpty

/- The one attempt that got an answer leaves none behind. -/
theorem SingleAttempt.attempts_erase
    (h : before.SingleAttempt config said)
    {question : Question}
    {task : TaskId}
    (hMember : question ∈ before.waiting)
    (hAttempt : question.attempt? = some task)
    (connection : Connection) :
    attempts ⟨connection, before.waiting.erase question⟩ =
      [] := by
  have hLength :=
    (perm_erase_some hMember hAttempt).length_eq
  have hSingle := h.single
  unfold attempts at hSingle ⊢
  rw [← hLength] at hSingle
  exact
    List.eq_nil_of_length_eq_zero
      (Nat.le_zero.mp (Nat.le_of_succ_le_succ hSingle))

/- An attempt that asks again is alone as before. -/
theorem SingleAttempt.askAgain
    (h : before.SingleAttempt config said)
    {request again : Http.Request}
    {errand next : Errand}
    {task : TaskId}
    {connection : Connection}
    {later : List Line}
    {url : String}
    (hMember : .asking request errand ∈ before.waiting)
    (hErrand : errand.attempt? = some task)
    (hNext : next.attempt? = some task)
    (hSession :
      connection.session.isConnected =
          before.connection.session.isConnected ∧
        connection.session.state =
          before.connection.session.state)
    (hUrl : connection.session.callbackUrl = some url)
    (hTracks : next.Tracks config later url again) :
    SingleAttempt config later
      ⟨connection,
        .asking again next ::
          before.waiting.erase (.asking request errand)⟩ := by
  have hAsked := Question.attempt?_asking hErrand request
  have hBusy : before.attempts ≠ [] := by
    intro hNone
    exact not_mem_waiting hNone hMember hErrand
  rcases h.alone hBusy with ⟨hChecks, hParting⟩
  have hFlag := (h.underway _ _ _ hMember hErrand).1
  apply
    singleAttempt_of_asking hNext
      (h.attempts_erase hMember hAsked connection)
  · unfold checks at hChecks ⊢
    rw [List.filterMap_eq_nil_iff] at hChecks ⊢
    intro question hOld
    exact hChecks _ (List.mem_of_mem_erase hOld)
  · apply eq_false_of_ne_true
    intro hParts
    rcases isParting_iff.mp hParts with ⟨other, hOther⟩
    have hEarlier : before.isParting = true :=
      isParting_iff.mpr ⟨other, List.mem_of_mem_erase hOther⟩
    cases hParting.symm.trans hEarlier
  · unfold Connection.Aligned
    rw [hSession.1, hSession.2]
    exact h.aligned
  · exact hSession.1.trans hFlag
  · exact hUrl
  · exact hTracks

/- What an attempt tracks is tracked while nothing is said. -/
theorem tracks_later
    {later : List Line}
    {errand : Errand}
    {url : String}
    {request : Http.Request}
    (hTracks : errand.Tracks config said url request)
    (hSaid :
      ∀ topic,
        IsOfAttempts topic →
          lastOn topic later = lastOn topic said) :
    errand.Tracks config later url request := by
  cases errand with
  | fetchingKeys task transport =>
      unfold Errand.Tracks Registered
      rw [hSaid _ isOfAttempts_registering]
      exact hTracks
  | _ => exact hTracks

/- Nothing has happened to the session. -/
theorem SingleAttempt.idle
    (h : before.SingleAttempt config said)
    {later : List Line}
    (hIdles : before.Idles after)
    (hKeys : after.connection.keys = before.connection.keys)
    (hChecks :
      before.attempts ≠ [] →
        before.checks = [] → after.checks = [])
    (hSaid :
      ∀ topic,
        IsOfAttempts topic →
          lastOn topic later = lastOn topic said) :
    after.SingleAttempt config later := by
  have hSession := hIdles.connection.session
  have hParting : after.isParting = before.isParting :=
    isParting_congr fun request =>
      hIdles.marked _ (Or.inr rfl)
  have hBusy :
      after.attempts ≠ [] → before.attempts ≠ [] := by
    intro hSome hNone
    have hPerm := hIdles.attempts
    rw [hNone] at hPerm
    exact hSome hPerm.eq_nil
  refine ⟨?_, ?_, ?_, ?_, ?_⟩
  · unfold Connection.Aligned
    rw [hSession]
    exact h.aligned
  · rw [hIdles.attempts.length_eq]
    exact h.single
  · intro hSome
    rcases h.alone (hBusy hSome) with ⟨hNone, hStill⟩
    exact
      ⟨hChecks (hBusy hSome) hNone, hParting.trans hStill⟩
  · intro request errand task hMember hAttempt
    have hMarked :
        (Question.asking request errand).IsMarked := by
      refine Or.inl ?_
      rw [Question.attempt?_asking hAttempt request]
      simp
    rcases h.underway request errand task
        ((hIdles.marked _ hMarked).mp hMember) hAttempt with
      ⟨hFlag, url, hUrl, hTracks⟩
    rw [hSession]
    exact ⟨hFlag, url, hUrl, tracks_later hTracks hSaid⟩
  · intro hNone
    have hPerm := hIdles.attempts
    rw [hNone] at hPerm
    apply (h.settled hPerm.symm.eq_nil).later
    · rw [hSession]
    · rw [hSession]
    · rw [hSession]
    · exact hKeys
    · exact hSaid
    · intro hOpen hHeld
      rw [hIdles.connection.isClosed] at hOpen
      rw [hIdles.connection.isHeld] at hHeld
      exact ⟨hOpen, hHeld, by rw [hSession]⟩

/- Without an attempt there is none after an answer. -/
theorem attempts_erase_eq_nil
    (hNone : before.attempts = [])
    (connection : Connection)
    (question : Question) :
    attempts ⟨connection, before.waiting.erase question⟩ =
      [] := by
  unfold attempts at hNone ⊢
  rw [List.filterMap_eq_nil_iff] at hNone ⊢
  intro other hOld
  exact hNone _ (List.mem_of_mem_erase hOld)

/- No attempt is under way while a health check is. -/
theorem SingleAttempt.attempts_of_check
    (h : before.SingleAttempt config said)
    {task : TaskId}
    (hMember : .probing task ∈ before.waiting) :
    before.attempts = [] := by
  apply Classical.byContradiction
  intro hBusy
  have hIn := mem_checks hMember
  rw [(h.alone hBusy).1] at hIn
  cases hIn

/- Nor while the brain is told of a closing. -/
theorem SingleAttempt.attempts_of_closing
    (h : before.SingleAttempt config said)
    {request : Http.Request}
    (hMember : .asking request .closing ∈ before.waiting) :
    before.attempts = [] := by
  apply Classical.byContradiction
  intro hBusy
  have hParts : before.isParting = true :=
    isParting_iff.mpr ⟨request, hMember⟩
  cases (h.alone hBusy).2.symm.trans hParts

/-
  No attempt moves. It may wait while something idle happens,
  but all else happens at rest or ends a check or a closing.
-/
theorem Sound.singleAttempt_of_rest
    (h : before.Sound config)
    (hOne : before.SingleAttempt config said)
    (hOrderly :
      occurrence.isStep = true → before.isAtRest = true)
    (hMoves : before.moves? occurrence = none)
    {later : List Line}
    (hSaid :
      ∀ topic,
        IsOfAttempts topic →
          lastOn topic later = lastOn topic said) :
    (before.after occurrence).SingleAttempt config later := by
  have hTurn := h.turn_after occurrence
  have hKeys := keys_after hMoves
  have hChecks :
      before.attempts ≠ [] →
        before.checks = [] →
          (before.after occurrence).checks = [] := by
    intro hBusy hNone
    cases hStep : occurrence.isStep with
    | false => exact checks_eq_nil_of_after hStep hNone
    | true =>
        have hRest :=
          (isAtRest_iff before).mp (hOrderly hStep)
        exact absurd hRest.1 hBusy
  generalize before.after occurrence = after
    at hTurn hKeys hChecks ⊢
  cases hTurn with
  | idle _ _ hIdles hPasses hRequests =>
      exact hOne.idle hIdles hKeys hChecks hSaid
  | starts hHeld hOpen =>
      have hRest := (isAtRest_iff before).mp (hOrderly rfl)
      have hSettled := hOne.settled hRest.1
      have hRearranges :=
        before.connection.rearranges_scheduleConnect
      have hCheck := before.connection.check_scheduleConnect
      generalize before.connection.scheduleConnect = now
        at hRearranges hCheck hKeys ⊢
      cases hRearranges with
      | intro tasks connect check journal hTasks hRequests
          hNews =>
          refine
            singleAttempt_of_settled ?_ ?_
              (hSettled.later rfl rfl rfl rfl hSaid
                fun hStill hOwned => ⟨hStill, hOwned, hCheck⟩)
          · exact hOne.aligned
          · exact hRest.1
  | drops =>
      have hRest := (isAtRest_iff before).mp (hOrderly rfl)
      refine
        singleAttempt_of_settled ?_ ?_
          ((hOne.settled hRest.1).later rfl rfl rfl rfl hSaid
            fun _ hHeld => by cases hHeld)
      · exact hOne.aligned
      · exact hRest.1
  | opens world task known hTask hJob hLive result hResult
      hOpening =>
      simp [moves?, hasTask, hTask, hLive, hJob] at hMoves
  | advances world request errand answer task hMember hAttempt
      result hResult hAdvance =>
      simp [moves?, hMember, hAttempt] at hMoves
  | fails world task isReachable later hMember hLater hLowered
      hRenewed =>
      refine singleAttempt_of_isOffline ?_ ?_
      · exact
          ⟨hLowered.offline.flag, hLowered.offline.url,
            hLowered.offline.state⟩
      · exact
          attempts_erase_eq_nil
            (hOne.attempts_of_check hMember) _ _
  | parts world transport request hOpen hParting =>
      have hRest := (isAtRest_iff before).mp (hOrderly rfl)
      refine
        singleAttempt_of_settled ?_ ?_
          ((hOne.settled hRest.1).later rfl rfl rfl rfl hSaid
            fun hStill _ => by cases hStill)
      · exact hOne.aligned
      · exact hRest.1
  | closes world hOpen hParting =>
      have hRest := (isAtRest_iff before).mp (hOrderly rfl)
      have hEnded :=
        before.connection.shut.ended_endClose world
      refine singleAttempt_of_isOffline ?_ ?_
      · exact hEnded.offline
      · exact hRest.1
  | concludes world request answer hMember =>
      have hEnded := before.connection.ended_endClose world
      refine singleAttempt_of_isOffline ?_ ?_
      · exact hEnded.offline
      · exact
          attempts_erase_eq_nil
            (hOne.attempts_of_closing hMember) _ _

/- An attempt begins while nothing else is under way. -/
theorem singleAttempt_run
    (hRest : before.isAtRest = true)
    {world : World}
    {task : TaskId}
    (hMoves : before.moves? (.run world task) = some task)
    (later : List Line) :
    (before.after (.run world task)).SingleAttempt config
      later := by
  rcases (isAtRest_iff before).mp hRest with
    ⟨hNone, hChecks, hParting⟩
  have hBegins :=
    Connection.begins_beginAttempt world task
      (before.connection.beginRun task)
  have hLowered :=
    Connection.lowered_goOffline world
      (before.connection.beginRun task)
  rw [after_run hMoves]
  generalize
    (before.connection.beginRun task).beginAttempt world task =
      result at hBegins ⊢
  cases hBegins with
  | givesUp later hPrepared =>
      have hGone :=
        Connection.lowered_giveUp world task later
      refine singleAttempt_of_isOffline ?_ hNone
      exact
        ⟨hGone.offline.flag, hGone.offline.url,
          hGone.offline.state⟩
  | strands hStrands =>
      have hGone :=
        Connection.lowered_goOffline world
          ((before.connection.beginRun task).goOffline
            world).equip
      refine singleAttempt_of_isOffline ?_ hNone
      exact
        ⟨hGone.offline.flag, hGone.offline.url,
          hGone.offline.state⟩
  | asks url hCalm =>
      refine
        singleAttempt_of_asking rfl hNone hChecks hParting ?_
          hLowered.offline.flag rfl trivial
      have hDown := hLowered.offline.flag
      unfold Connection.Aligned
      constructor
      · intro hUp
        cases hDown.symm.trans hUp
      · intro hState
        cases hState

/- Keys that could be read are those of a project. -/
theorem exists_of_update
    {keys : DeviceKeys}
    {answer : Http.Answer}
    (hUpdate : (KeyCache.update keys answer).2 = .ok ()) :
    ∃ body,
      answer = .ok ⟨200, body⟩ ∧
        DeviceKeys.ofProject body =
          .ok (KeyCache.update keys answer).1 := by
  unfold KeyCache.update at hUpdate ⊢
  cases hKeys : DeviceKeys.ofAnswer answer with
  | error cause =>
      rw [hKeys] at hUpdate
      cases hUpdate
  | ok found => exact DeviceKeys.ofAnswer_eq_ok_iff.mp hKeys

/- The attempt that has come online leaves all settled. -/
theorem Sound.settled_of_rises
    (h : before.Sound config)
    {world : World}
    {answer : Http.Answer}
    {task : TaskId}
    {url : String}
    {later : List Line}
    (hIn : task ∈ before.attempts)
    (hCalm : before.connection.isCancelled task = false)
    (hLitCalm :
      (before.connection.lit world answer).isCancelled task =
        false)
    (hUrl : before.connection.session.callbackUrl = some url)
    (hRegistered : Registered config later url)
    (hInformed :
      Informed config later
        (KeyCache.update before.connection.keys answer).1) :
    (before.connection.lit world answer).scheduleCheck.Aligned ∧
      (before.connection.lit world
        answer).scheduleCheck.Settled config later := by
  have hEngaged := h.engaged hIn
  have hRisen :=
    (hEngaged.raised_lit hCalm).risen
      (h.tidy.lit world answer) hLitCalm h.tidy hEngaged.known
      (hEngaged.connect hCalm)
  have hAligned :=
    Connection.Aligned.lit world answer before.connection
  have hKeys :
      (before.connection.lit world answer).keys =
        (KeyCache.update before.connection.keys answer).1 :=
    (Connection.enduring_hasKeys _).goOnline world rfl
  have hRearranges :=
    (before.connection.lit world
      answer).rearranges_scheduleCheck
  generalize
    (before.connection.lit world answer).scheduleCheck = now
      at hRearranges hRisen ⊢
  have hFlag := hRisen.flag
  have hKnown := hRisen.url.trans hUrl
  have hCheck := hRisen.check
  rw [h.tidy.sameConfig] at hCheck
  cases hRearranges with
  | intro tasks connect check journal hTasks hRequests hNews =>
      refine ⟨hAligned, ?_⟩
      exact
        { state := by
            have hState := hAligned.mp hFlag
            intro hOther
            cases hState.symm.trans hOther
          offline := fun hDown => by
            cases hFlag.symm.trans hDown
          online := fun _ =>
            ⟨url, hKnown, hRegistered, by
              have hSame := hInformed
              rw [← hKeys] at hSame
              exact hSame⟩
          check := fun _ _ _ => hCheck }

/- The attempt that is under way gets an answer. -/
theorem Sound.singleAttempt_answer
    (h : before.Sound config)
    (hFits : before.Fits config)
    (hOne : before.SingleAttempt config said)
    {world : World}
    {request : Http.Request}
    {errand : Errand}
    {answer : Http.Answer}
    {task : TaskId}
    (hMoves :
      before.moves? (.answer world request errand answer) =
        some task)
    (after : Situation) :
    Situation.SingleAttempt config
      (before.lines after
          (.answer world request errand answer) ++
        said)
      (before.after (.answer world request errand answer)) := by
  rcases mem_of_moves?_answer hMoves with ⟨hWaits, hErrand⟩
  have hAsked := Question.attempt?_asking hErrand request
  have hIn := mem_attempts hWaits hAsked
  have hAbout := hFits request errand hWaits
  rcases hOne.underway request errand task hWaits hErrand
    with ⟨hFlag, url, hUrl, hTracks⟩
  have hEnds :
      ∀ (now : Connection) (later : List Line),
        now.session.IsOffline →
          SingleAttempt config later
            ⟨now.endRun task,
              before.waiting.erase (.asking request errand)⟩ := by
    intro now later hOffline
    refine
      singleAttempt_of_isOffline ?_
        (hOne.attempts_erase hWaits hAsked _)
    exact ⟨hOffline.flag, hOffline.url, hOffline.state⟩
  have hReplies :=
    Connection.replies_resume world answer before.connection
      hErrand
  simp only [Situation.after, if_pos hWaits, hErrand]
  generalize hResult :
    before.connection.resume world errand answer = result
      at hReplies ⊢
  cases hReplies with
  | givesUp _ other hOther hStays =>
      cases hErrand.symm.trans hOther
      exact
        hEnds _ _
          (Connection.lowered_giveUp world task _).offline
  | registers other transport sender known hKnown =>
      cases hErrand
      refine hOne.askAgain hWaits rfl rfl ?_ hKnown ?_
      · exact ⟨rfl, rfl⟩
      · unfold Errand.Tracks Connection.registrar
        rw [h.tidy.sameConfig]
  | fetches other transport body hAnswer hCalm =>
      cases hErrand
      refine hOne.askAgain hWaits rfl rfl ?_ hUrl ?_
      · exact ⟨rfl, rfl⟩
      · refine ⟨task, transport, body, ?_⟩
        rw [isOfAttempts_registering.lastOn_answer hWaits
          (by rw [hResult]; rfl)]
        cases hTracks
        rw [Http.accept_eq_ok_iff.mp hAnswer]
        rfl
  | flickers other transport hCalm hLit hKeys =>
      cases hErrand
      exact
        hEnds _ _
          (Connection.lowered_goOffline world _).offline
  | rises other transport hCalm hLitCalm hKeys =>
      cases hErrand
      rcases exists_of_update hKeys with
        ⟨body, hAnswer, hProject⟩
      have hRegistered :
          Registered config
            (before.lines after
                (.answer world request
                  (.fetchingKeys task transport) answer) ++
              said)
            url := by
        unfold Registered
        rw [isOfAttempts_registering.lastOn_answer hWaits
          (by rw [hResult]; rfl)]
        exact hTracks
      have hInformed :
          Informed config
            (before.lines after
                (.answer world request
                  (.fetchingKeys task transport) answer) ++
              said)
            (KeyCache.update before.connection.keys answer).1 := by
        refine ⟨task, transport, body, ?_, hProject⟩
        rw [isOfAttempts_fetching.lastOn_answer hWaits
          (by rw [hResult]; rfl)]
        cases hAbout
        rw [hAnswer]
        rfl
      rcases
          h.settled_of_rises hIn hCalm hLitCalm hUrl
            hRegistered hInformed with
        ⟨hAligned, hSettled⟩
      refine
        singleAttempt_of_settled ?_
          (hOne.attempts_erase hWaits hAsked _) ?_
      · exact hAligned
      · exact
          hSettled.later rfl rfl rfl rfl (fun _ _ => rfl)
            fun hOpen hHeld => ⟨hOpen, hHeld, rfl⟩

/- Whatever happens in order leaves one attempt at most. -/
theorem Sound.singleAttempt_after
    (h : before.Sound config)
    (hFits : before.Fits config)
    (hOne : before.SingleAttempt config said)
    (hOrderly :
      occurrence.isStep = true → before.isAtRest = true) :
    (before.after occurrence).SingleAttempt config
      (before.lines (before.after occurrence) occurrence ++
        said) := by
  cases hMoves : before.moves? occurrence with
  | none =>
      exact
        h.singleAttempt_of_rest hOne hOrderly hMoves
          fun topic hTopic => hTopic.lastOn_lines hMoves said
  | some task =>
      cases occurrence with
      | run world other =>
          cases (exists_of_moves?_run hMoves).1
          exact singleAttempt_run (hOrderly rfl) hMoves _
      | answer world request errand answer =>
          exact h.singleAttempt_answer hFits hOne hMoves _
      | _ => cases hMoves

end SingleAttempt

end Situation

------------------------------------------------------------
-- Quiet
------------------------------------------------------------

section Replay

variable {config : Config}
variable {drive : Drive}
variable {connection : Connection}

/- An orderly course goes from one step to the next at rest. -/
theorem orderly_cons
    {occurrence : Occurrence}
    {past : List Occurrence}
    (hOrderly : orderly connection (occurrence :: past) = true) :
    orderly connection past = true ∧
      (occurrence.isStep = true →
        (replay connection past).isAtRest = true) := by
  unfold orderly at hOrderly
  rw [Bool.and_eq_true] at hOrderly
  refine ⟨hOrderly.1, fun hStep => ?_⟩
  have hRest := hOrderly.2
  rw [hStep] at hRest
  exact hRest

theorem singleAttempt_replay
    (hNew : Connection.new config drive = .ok connection)
    {past : List Occurrence}
    (hOrderly : orderly connection past = true) :
    (replay connection past).SingleAttempt config
      (dialogue connection past) := by
  induction past with
  | nil =>
      have hFresh : connection.session.IsOffline := by
        unfold Connection.new at hNew
        split at hNew
        · cases hNew
        · cases hNew
          exact ⟨rfl, rfl, rfl⟩
      exact Situation.singleAttempt_of_isOffline hFresh rfl
  | cons occurrence past ih =>
      rcases orderly_cons hOrderly with ⟨hPast, hStep⟩
      exact
        (sound_replay hNew past).singleAttempt_after
          (fits_replay hNew past) (ih hPast) hStep

/- No attempt is overtaken in an orderly course. -/
theorem overlapped_of_orderly
    (hNew : Connection.new config drive = .ok connection)
    {past : List Occurrence}
    (hOrderly : orderly connection past = true) :
    overlapped connection past = false := by
  induction past with
  | nil => rfl
  | cons occurrence past ih =>
      have hOne := singleAttempt_replay hNew hOrderly
      unfold overlapped Situation.overlapsNext
      split
      · rename_i hRises
        unfold Situation.comesOnline at hRises
        rw [Bool.and_eq_true] at hRises
        have hNone :
            (replay connection
              (occurrence :: past)).attempts = [] := by
          unfold Situation.attempts
          rw [List.filterMap_eq_nil_iff]
          intro question hMember
          cases question with
          | probing task => rfl
          | asking request errand =>
              cases hAttempt : errand.attempt? with
              | none => exact hAttempt
              | some task =>
                  have hDown :=
                    (hOne.underway request errand task
                      hMember hAttempt).1
                  cases hDown.symm.trans hRises.2
        rw [hNone]
        rfl
      · exact ih (orderly_cons hOrderly).1

/- A health check is active only if one is wanted. -/
theorem checksHealth_of_hasHealthCheck
    {situation : Situation}
    (h : situation.Sound config)
    (hActive : situation.connection.hasHealthCheck = true) :
    config.checksHealth = true := by
  unfold Connection.hasHealthCheck Slot.isActive at hActive
  split at hActive
  · cases hActive
  · rename_i id hSlot
    rcases h.tidy.ledger.known .checkHealth id hSlot with
      ⟨task, hTask, hJob⟩
    have hSuits := h.tidy.ledger.suits id task hTask
    have hPositive := hSuits.positive
    rw [hSuits.period, hJob] at hPositive
    change config.checkInterval ≠ 0 at hPositive
    simpa [Config.checksHealth] using hPositive

end Replay

/-
  A connection at rest. It is online or offline, with a URL
  exactly if it is online. Then it is open, and the last
  exchanges with the brain have told the brain its name and
  URL, and it the keys of the project. If it is offline and
  open, an attempt is pending, unless it was never started or
  its last attempt found no local address.
-/
structure Quiescent
    (config : Config)
    (said : List Line)
    (past : List Occurrence)
    (strands : Bool)
    (connection : Connection) : Prop where
  state : connection.session.state ≠ .connecting
  flag :
    connection.session.state = .connected ↔
      connection.session.isConnected = true
  url :
    connection.session.isConnected = true ↔
      connection.session.callbackUrl ≠ none
  isOpen :
    connection.session.isConnected = true →
      connection.isClosed = false
  registered :
    ∀ url,
      connection.session.callbackUrl = some url →
        ∃ task transport body,
          lastOn Errand.isRegistering said =
            some
              (.answered
                (.post
                  (Endpoint.register.url config.brainUrl)
                  (Registration.toText
                    ⟨config.registrationName, url⟩))
                (.registering task transport)
                (.ok ⟨200, body⟩))
  informed :
    connection.session.isConnected = true →
      ∃ task transport body,
        lastOn Errand.isFetching said =
            some
              (.answered
                (.get (Endpoint.home.url config.brainUrl))
                (.fetchingKeys task transport)
                (.ok ⟨200, body⟩)) ∧
          DeviceKeys.ofProject body = .ok connection.keys
  check :
    connection.session.isConnected = true →
      (connection.hasHealthCheck = true ↔
        config.checksHealth = true)
  pending :
    connection.session.isConnected = false →
      connection.isClosed = false →
        connection.hasPendingConnect = true ∨
          .start ∉ past ∨
            strands = true

/-
  A connection that its owner holds is quiescent in every
  situation at rest of every orderly course.
-/
theorem quiescent_of_orderly
    {config : Config}
    {drive : Drive}
    {connection : Connection}
    (hNew : Connection.new config drive = .ok connection)
    (past : List Occurrence)
    (hOrderly : orderly connection past = true)
    (hHeld :
      (replay connection past).connection.isHeld = true)
    (hRest : (replay connection past).isAtRest = true) :
    Quiescent config (dialogue connection past) past
      (stranded connection past)
      (replay connection past).connection := by
  have hSound := sound_replay hNew past
  have hOne := singleAttempt_replay hNew hOrderly
  rcases (Situation.isAtRest_iff _).mp hRest with
    ⟨hNone, -, hParting⟩
  have hSettled := hOne.settled hNone
  have hOpen :
      (replay connection
            past).connection.session.isConnected =
          true →
        (replay connection past).connection.isClosed =
          false := by
    intro hUp
    apply eq_false_of_ne_true
    intro hClosed
    have hClosing := closingState_replay hNew past
    generalize firstClose? connection past = first?,
      farewells connection past = sent at hClosing
    cases hClosing with
    | opened hOpen => cases hOpen.symm.trans hClosed
    | closed found closing _ hAwaited hEnded =>
        cases (hEnded hParting).1.flag.symm.trans hUp
  refine ⟨hSettled.state, ?_, ?_, hOpen, ?_, ?_, ?_, ?_⟩
  · exact hOne.aligned.symm
  · constructor
    · intro hUp hGone
      rcases hSettled.online hUp with ⟨url, hUrl, -, -⟩
      cases hUrl.symm.trans hGone
    · intro hSome
      apply eq_true_of_ne_false
      intro hDown
      exact hSome (hSettled.offline hDown)
  · intro url hUrl
    have hUp :
        (replay connection
            past).connection.session.isConnected =
          true := by
      apply eq_true_of_ne_false
      intro hDown
      cases (hSettled.offline hDown).symm.trans hUrl
    rcases hSettled.online hUp with
      ⟨known, hKnown, hRegistered, -⟩
    cases hUrl.symm.trans hKnown
    exact hRegistered
  · intro hUp
    rcases hSettled.online hUp with ⟨url, -, -, hInformed⟩
    exact hInformed
  · intro hUp
    constructor
    · exact checksHealth_of_hasHealthCheck hSound
    · intro hChecks
      exact
        hSound.hasHealthCheck
          (hSettled.check hUp (hOpen hUp) hHeld hChecks)
  · intro hDown hStillOpen
    by_cases hStarted : Occurrence.start ∈ past
    · have hPends :=
        pendingOrOver_replay hNew past hStarted hStillOpen hHeld
      rw [overlapped_of_orderly hNew hOrderly] at hPends
      rcases hPends with hPending | hStrands | hOver
      · exact Or.inl hPending
      · exact Or.inr (Or.inr hStrands)
      · cases hDown.symm.trans (hOver.alone rfl).1
    · exact Or.inr (Or.inl hStarted)

/- Once the undisturbed attempt is over, the URL is known. -/
theorem registered_of_undisturbed :
    ∃ url task transport body,
      (replay Sample.connection
            Sample.undisturbed).connection.session.callbackUrl =
          some url ∧
        lastOn Errand.isRegistering
            (dialogue Sample.connection Sample.undisturbed) =
          some
            (.answered
              (.post
                (Endpoint.register.url Sample.config.brainUrl)
                (Registration.toText
                  ⟨Sample.config.registrationName, url⟩))
              (.registering task transport)
              (.ok ⟨200, body⟩)) := by
  have hCourse :
      orderly Sample.connection Sample.undisturbed = true ∧
        (replay Sample.connection
            Sample.undisturbed).connection.isHeld =
          true ∧
        (replay Sample.connection
            Sample.undisturbed).isAtRest =
          true ∧
        (replay Sample.connection
            Sample.undisturbed).connection.session.isConnected =
          true := by
    decide +kernel
  rcases hCourse with ⟨hOrderly, hHeld, hRest, hUp⟩
  have hQuiet :=
    quiescent_of_orderly Sample.new_connection
      Sample.undisturbed hOrderly hHeld hRest
  rcases Option.ne_none_iff_exists'.mp (hQuiet.url.mp hUp) with
    ⟨url, hUrl⟩
  rcases hQuiet.registered url hUrl with
    ⟨task, transport, body, hLast⟩
  exact ⟨url, task, transport, body, hUrl, hLast⟩

end BrainLink
