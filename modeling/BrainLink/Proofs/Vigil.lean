import BrainLink.Proofs.Quiescence
import BrainLink.Proofs.Withdrawal

/-
  Health checks, and whether the brain that they watch over
  is online.

  Key definitions include:
    * `stumbled`
    * `Situation.OfflineUnchecked`

  Main statements:
    * `Situation.Sound.offlineUnchecked_after`
    * `offlineUnchecked_replay`
    * `online_unless_stumbled`

  An attempt calls off the health check of the connection
  before it once the brain has answered to its first request.
  One that is over before it asks anything has gone offline
  too, but leaves the health check where it was.
-/

namespace BrainLink

------------------------------------------------------------
-- Histories
------------------------------------------------------------

/- Whether the attempt that began last was over at once. -/
def Situation.stumblesNext
    (before after : Situation)
    (occurrence : Occurrence)
    (stumbles : Bool) :
    Bool :=
  match before.begins? occurrence with
  | none => stumbles
  | some _ => after.attempts.isEmpty

/- In the course of a connection, its last attempt to begin. -/
def stumbled (connection : Connection) :
    List Occurrence → Bool
| [] => false
| occurrence :: past =>
    (replay connection past).stumblesNext
      (replay connection (occurrence :: past))
      occurrence
      (stumbled connection past)

------------------------------------------------------------
-- Probes
------------------------------------------------------------

/- A probe leaves all as it was, or the check is called off. -/
theorem Connection.check_afterProbe
    (world : World)
    (task : TaskId)
    (isReachable : Bool)
    (connection : Connection) :
    (connection.afterProbe world task isReachable).1 =
        connection ∨
      (connection.afterProbe world task
          isReachable).1.session.check =
        none := by
  unfold afterProbe
  split
  · exact Or.inl rfl
  · exact Or.inr (check_scheduleConnect _)

namespace Situation

section Watch

variable {config : Config}
variable {said : List Line}
variable {before after : Situation}
variable {occurrence : Occurrence}
variable {stumbles : Bool}

theorem check_after_probe
    (world : World)
    (task : TaskId)
    (isReachable : Bool) :
    (before.after
            (.probe world task
              isReachable)).connection.session =
        before.connection.session ∨
      (before.after
            (.probe world task
              isReachable)).connection.session.check =
        none := by
  simp only [Situation.after]
  split
  · rcases before.connection.check_afterProbe world task
        isReachable with
      hSame | hGone
    · rcases Connection.afterProbe_cases world task isReachable
          before.connection with
        hIdle | ⟨later, hLater, -⟩
      · rw [hIdle]
        exact Or.inl rfl
      · rw [hLater] at hSame ⊢
        cases hSame
        exact Or.inl rfl
    · rcases Connection.afterProbe_cases world task isReachable
          before.connection with
        hIdle | ⟨later, hLater, -⟩
      · rw [hIdle]
        exact Or.inl rfl
      · rw [hLater] at hGone ⊢
        exact Or.inr hGone
  · exact Or.inl rfl

------------------------------------------------------------
-- Unchecked Connections
------------------------------------------------------------

/-
  After a stumble the connection is offline. Without one, a
  connection that is offline has no health check, and neither
  has an attempt that the brain has answered to.
-/
structure OfflineUnchecked
    (situation : Situation)
    (stumbles : Bool) : Prop where
  fallen :
    stumbles = true →
      situation.attempts = [] ∧
        situation.connection.session.isConnected = false
  offline :
    stumbles = false →
      situation.attempts = [] →
        situation.connection.session.isConnected = false →
          situation.connection.session.check = none
  answered :
    ∀ request errand task,
      .asking request errand ∈ situation.waiting →
        errand.attempt? = some task →
          (∀ transport,
              errand ≠ .unregistering task transport) →
            situation.connection.session.check = none

/- Without a health check there is little to show. -/
theorem offlineUnchecked_of_none
    (hCheck : after.connection.session.check = none)
    (hFallen :
      stumbles = true →
        after.attempts = [] ∧
          after.connection.session.isConnected = false) :
    after.OfflineUnchecked stumbles where
  fallen := hFallen
  offline _ _ _ := hCheck
  answered _ _ _ _ _ _ := hCheck

/- What begins no attempt leaves the last one as it was. -/
theorem stumblesNext_of_begins?
    (hBegins : before.begins? occurrence = none) :
    before.stumblesNext after occurrence stumbles =
      stumbles := by
  unfold stumblesNext
  rw [hBegins]

/- What moves no attempt begins none. -/
theorem begins?_of_moves?
    (hMoves : before.moves? occurrence = none) :
    before.begins? occurrence = none := by
  cases occurrence with
  | run world task =>
      simp only [moves?] at hMoves
      split at hMoves
      · cases hMoves
      · rename_i hRests
        exact if_neg hRests
  | _ => rfl

/- Nothing has happened to the session. -/
theorem OfflineUnchecked.idle
    (h : before.OfflineUnchecked stumbles)
    (hIdles : before.Idles after) :
    after.OfflineUnchecked stumbles := by
  have hSession := hIdles.connection.session
  have hAttempts : after.attempts = [] ↔ before.attempts = [] :=
    by
      constructor
      · intro hNone
        have hPerm := hIdles.attempts
        rw [hNone] at hPerm
        exact hPerm.symm.eq_nil
      · intro hNone
        have hPerm := hIdles.attempts
        rw [hNone] at hPerm
        exact hPerm.eq_nil
  refine ⟨?_, ?_, ?_⟩
  · rw [hAttempts, hSession]
    exact h.fallen
  · rw [hAttempts, hSession]
    exact h.offline
  · intro request errand task hMember hAttempt
    have hMarked :
        (Question.asking request errand).IsMarked := by
      refine Or.inl ?_
      rw [Question.attempt?_asking hAttempt request]
      simp
    rw [hSession]
    exact
      h.answered request errand task
        ((hIdles.marked _ hMarked).mp hMember) hAttempt

/- No attempt moves. -/
theorem Sound.offlineUnchecked_of_rest
    (h : before.Sound config)
    (hOne : before.SingleAttempt config said)
    (hUnchecked : before.OfflineUnchecked stumbles)
    (hMoves : before.moves? occurrence = none) :
    (before.after occurrence).OfflineUnchecked stumbles := by
  have hTurn := h.turn_after occurrence
  have hProbe :
      ∀ world task isReachable,
        occurrence = .probe world task isReachable →
          (before.after occurrence).connection.session =
              before.connection.session ∨
            (before.after
                  occurrence).connection.session.check =
              none := by
    rintro world task isReachable rfl
    exact check_after_probe world task isReachable
  generalize before.after occurrence = after at hTurn hProbe ⊢
  cases hTurn with
  | idle _ _ hIdles hPasses hRequests =>
      exact hUnchecked.idle hIdles
  | starts hHeld hOpen =>
      have hRearranges :=
        before.connection.rearranges_scheduleConnect
      have hCheck := before.connection.check_scheduleConnect
      generalize before.connection.scheduleConnect = now
        at hRearranges hCheck ⊢
      cases hRearranges with
      | intro tasks connect check journal hTasks hRequests
          hNews =>
          cases hCheck
          exact
            ⟨hUnchecked.fallen, hUnchecked.offline,
              hUnchecked.answered⟩
  | drops => exact offlineUnchecked_of_none rfl hUnchecked.fallen
  | opens world task known hTask hJob hLive result hResult
      hOpening =>
      simp [moves?, hasTask, hTask, hLive, hJob] at hMoves
  | advances world request errand answer task hMember hAttempt
      result hResult hAdvance =>
      simp [moves?, hMember, hAttempt] at hMoves
  | fails world task isReachable later hMember hLater hLowered
      hRenewed =>
      have hNone := hOne.attempts_of_check hMember
      have hDown : later.session.isConnected = false :=
        hLowered.offline.flag
      have hStill :=
        attempts_erase_eq_nil hNone (later.endRun task)
          (.probing task)
      cases hStumbles : stumbles with
      | true =>
          refine ⟨fun _ => ⟨hStill, hDown⟩, ?_, ?_⟩
          · intro hFalse
            cases hFalse
          · intro request errand other hOther hAttempt
            exact (not_mem_waiting hStill hOther hAttempt).elim
      | false =>
          apply offlineUnchecked_of_none
          · rcases hProbe world task isReachable rfl with
              hSame | hGone
            · change later.session = _ at hSame
              change later.session.check = none
              rw [hSame] at hDown ⊢
              exact hUnchecked.offline hStumbles hNone hDown
            · exact hGone
          · intro hTrue
            cases hTrue
  | parts world transport request hOpen hParting =>
      exact offlineUnchecked_of_none rfl hUnchecked.fallen
  | closes world hOpen hParting =>
      have hEnded :=
        before.connection.shut.ended_endClose world
      apply offlineUnchecked_of_none
      · have hBare :
            HasCheck none before.connection.shut.bare :=
          Or.inl rfl
        have hLow :=
          (enduring_hasCheck none).goOffline world hBare
        exact hLow.elim id id
      · intro hStumbles
        exact
          ⟨(hUnchecked.fallen hStumbles).1, hEnded.offline.flag⟩
  | concludes world request answer hMember =>
      have hEnded := before.connection.ended_endClose world
      apply offlineUnchecked_of_none
      · have hBare : HasCheck none before.connection.bare :=
          Or.inl rfl
        have hLow :=
          (enduring_hasCheck none).goOffline world hBare
        exact hLow.elim id id
      · intro _
        exact
          ⟨attempts_erase_eq_nil
              (hOne.attempts_of_closing hMember) _ _,
            hEnded.offline.flag⟩

/- An attempt begins. -/
theorem offlineUnchecked_run
    (hRest : before.isAtRest = true)
    {world : World}
    {task : TaskId}
    (hMoves : before.moves? (.run world task) = some task) :
    (before.after (.run world task)).OfflineUnchecked
      (before.stumblesNext (before.after (.run world task))
        (.run world task) stumbles) := by
  have hNone := ((isAtRest_iff before).mp hRest).1
  rcases exists_of_moves?_run hMoves with
    ⟨-, known, hKnown, hLive, hJob⟩
  have hBegins :=
    Connection.begins_beginAttempt world task
      (before.connection.beginRun task)
  unfold stumblesNext
  rw [begins?_of_isLive hKnown hJob hLive]
  rw [after_run hMoves]
  generalize
    (before.connection.beginRun task).beginAttempt world task =
      result at hBegins ⊢
  have hOver :
      ∀ later : Connection,
        later.session.isConnected = false →
          OfflineUnchecked ⟨later.endRun task, before.waiting⟩
            (attempts
              ⟨later.endRun task, before.waiting⟩).isEmpty := by
    intro later hDown
    have hStill :
        attempts ⟨later.endRun task, before.waiting⟩ = [] :=
      hNone
    rw [hStill]
    refine ⟨fun _ => ⟨hStill, hDown⟩, nofun, ?_⟩
    intro request errand other hOther hAttempt
    exact (not_mem_waiting hStill hOther hAttempt).elim
  cases hBegins with
  | givesUp later hPrepared =>
      exact
        hOver _
          (Connection.lowered_giveUp world task
            later).offline.flag
  | strands hStrands =>
      exact
        hOver _
          (Connection.lowered_goOffline world _).offline.flag
  | asks url hCalm =>
      refine ⟨nofun, nofun, ?_⟩
      intro request errand other hOther hAttempt hLater
      rcases List.mem_cons.mp hOther with hSame | hOld
      · cases hSame
        cases hAttempt
        exact absurd rfl (hLater _)
      · exact (not_mem_waiting hNone hOld hAttempt).elim

/- The attempt that is under way gets an answer. -/
theorem Sound.offlineUnchecked_answer
    (h : before.Sound config)
    (hOne : before.SingleAttempt config said)
    (hUnchecked : before.OfflineUnchecked stumbles)
    {world : World}
    {request : Http.Request}
    {errand : Errand}
    {answer : Http.Answer}
    {task : TaskId}
    (hMoves :
      before.moves? (.answer world request errand answer) =
        some task) :
    (before.after
        (.answer world request errand answer)).OfflineUnchecked
      stumbles := by
  rcases mem_of_moves?_answer hMoves with ⟨hWaits, hErrand⟩
  have hAsked := Question.attempt?_asking hErrand request
  have hReplies :=
    Connection.replies_resume world answer before.connection
      hErrand
  have hSteady : stumbles = true → False := by
    intro hStumbles
    have hNone := (hUnchecked.fallen hStumbles).1
    exact not_mem_waiting hNone hWaits hErrand
  have hStands :
      ∀ later : Situation,
        later.connection.session.check = none →
          later.OfflineUnchecked stumbles := by
    intro later hCheck
    exact
      offlineUnchecked_of_none hCheck
        fun hStumbles => (hSteady hStumbles).elim
  have hEndures := enduring_hasCheck none
  have hNoted :
      HasCheck none (before.connection.noted answer errand) := by
    cases errand with
    | unregistering other transport => exact Or.inl rfl
    | registering other transport =>
        exact
          Or.inl
            (hUnchecked.answered _ _ _ hWaits hErrand nofun)
    | fetchingKeys other transport =>
        exact
          Or.inl
            (hUnchecked.answered _ _ _ hWaits hErrand nofun)
    | _ => cases hErrand
  simp only [Situation.after, if_pos hWaits, hErrand]
  generalize
    before.connection.resume world errand answer = result
      at hReplies ⊢
  cases hReplies with
  | givesUp _ other hOther hStays =>
      apply hStands
      have hOffline := hEndures.goOffline world hNoted
      change
        ((before.connection.noted answer errand).giveUp world
          other).session.check = none
      unfold Connection.giveUp
      split
      · exact hOffline.elim id id
      · rw [Connection.check_scheduleConnect]
        exact hOffline.elim id id
  | registers other transport sender url hUrl =>
      exact hStands _ rfl
  | fetches other transport body hAnswer hCalm =>
      exact hStands _ (hNoted.elim id id)
  | flickers other transport hCalm hLit hKeys =>
      apply hStands
      have hLow :=
        hEndures.goOffline world
          (hEndures.goOffline world
            (hEndures.goOnline world hNoted))
      exact hLow.elim id id
  | rises other transport hCalm hLitCalm hKeys =>
      cases hErrand
      have hNone :=
        hOne.attempts_erase hWaits hAsked
          (((before.connection.lit world
            answer).scheduleCheck).endRun task)
      have hEngaged := h.engaged (mem_attempts hWaits hAsked)
      have hRisen :=
        (hEngaged.raised_lit hCalm).risen
          (h.tidy.lit world answer) hLitCalm h.tidy
          hEngaged.known (hEngaged.connect hCalm)
      refine
        ⟨fun hStumbles => (hSteady hStumbles).elim, ?_, ?_⟩
      · intro _ _ hDown
        cases hRisen.flag.symm.trans hDown
      · intro other another mover hOther hAttempt
        exact (not_mem_waiting hNone hOther hAttempt).elim

/- Whatever happens in order keeps the watch. -/
theorem Sound.offlineUnchecked_after
    (h : before.Sound config)
    (hOne : before.SingleAttempt config said)
    (hUnchecked : before.OfflineUnchecked stumbles)
    (hOrderly :
      occurrence.isStep = true → before.isAtRest = true) :
    (before.after occurrence).OfflineUnchecked
      (before.stumblesNext (before.after occurrence) occurrence
        stumbles) := by
  cases hMoves : before.moves? occurrence with
  | none =>
      rw [stumblesNext_of_begins? (begins?_of_moves? hMoves)]
      exact h.offlineUnchecked_of_rest hOne hUnchecked hMoves
  | some task =>
      cases occurrence with
      | run world other =>
          cases (exists_of_moves?_run hMoves).1
          exact offlineUnchecked_run (hOrderly rfl) hMoves
      | answer world request errand answer =>
          rw [stumblesNext_of_begins? rfl]
          exact h.offlineUnchecked_answer hOne hUnchecked hMoves
      | _ => cases hMoves

end Watch

end Situation

------------------------------------------------------------
-- Courses
------------------------------------------------------------

section Replay

variable {config : Config}
variable {drive : Drive}
variable {connection : Connection}

theorem offlineUnchecked_replay
    (hNew : Connection.new config drive = .ok connection)
    {past : List Occurrence}
    (hOrderly : orderly connection past = true) :
    (replay connection past).OfflineUnchecked
      (stumbled connection past) := by
  induction past with
  | nil =>
      have hFresh : connection.session.check = none := by
        unfold Connection.new at hNew
        split at hNew
        · cases hNew
        · cases hNew
          rfl
      exact Situation.offlineUnchecked_of_none hFresh nofun
  | cons occurrence past ih =>
      rcases orderly_cons hOrderly with ⟨hPast, hStep⟩
      exact
        (sound_replay hNew past).offlineUnchecked_after
          (singleAttempt_replay hNew hPast) (ih hPast) hStep

/-
  At rest, a connection whose health is checked is online,
  unless its last attempt was over at once.
-/
theorem online_unless_stumbled
    (hNew : Connection.new config drive = .ok connection)
    (past : List Occurrence)
    (hOrderly : orderly connection past = true)
    (hRest : (replay connection past).isAtRest = true)
    (hCheck :
      (replay connection past).connection.hasHealthCheck =
        true) :
    (replay connection past).connection.session.isConnected =
        true ↔
      stumbled connection past = false := by
  have hUnchecked := offlineUnchecked_replay hNew hOrderly
  have hNone := ((Situation.isAtRest_iff _).mp hRest).1
  constructor
  · intro hUp
    apply eq_false_of_ne_true
    intro hStumbles
    cases (hUnchecked.fallen hStumbles).2.symm.trans hUp
  · intro hSteady
    apply eq_true_of_ne_false
    intro hDown
    have hGone := hUnchecked.offline hSteady hNone hDown
    unfold Connection.hasHealthCheck at hCheck
    rw [hGone] at hCheck
    cases hCheck

end Replay

/- The health of a brain is checked that has not stumbled. -/
theorem online_of_undisturbed :
    (replay Sample.connection
          Sample.undisturbed).connection.hasHealthCheck =
        true ∧
      (replay Sample.connection
          Sample.undisturbed).connection.session.isConnected =
        true := by
  have hCourse :
      orderly Sample.connection Sample.undisturbed = true ∧
        (replay Sample.connection
            Sample.undisturbed).isAtRest =
          true ∧
        (replay Sample.connection
            Sample.undisturbed).connection.hasHealthCheck =
          true ∧
        stumbled Sample.connection Sample.undisturbed =
          false := by
    decide +kernel
  rcases hCourse with ⟨hOrderly, hRest, hCheck, hSteady⟩
  have hOnline :=
    online_unless_stumbled Sample.new_connection
      Sample.undisturbed hOrderly hRest hCheck
  exact ⟨hCheck, hOnline.mpr hSteady⟩

/-
  A connection that is online starts again, but no transport
  can be made for it.
-/
def Sample.stumbling : List Occurrence :=
  .run { world with creates := false } 2 ::
    .start :: undisturbed

/- It is offline then, and its health is still checked. -/
theorem unwatched_of_stumbling :
    ¬ ∀ past,
        orderly Sample.connection past = true →
          (replay Sample.connection past).isAtRest = true →
            (replay Sample.connection
                  past).connection.hasHealthCheck =
                true →
              (replay Sample.connection
                    past).connection.session.isConnected =
                  true := by
  intro hAlways
  have hCourse :
      orderly Sample.connection Sample.stumbling = true ∧
        (replay Sample.connection
            Sample.stumbling).isAtRest =
          true ∧
        (replay Sample.connection
            Sample.stumbling).connection.hasHealthCheck =
          true ∧
        (replay Sample.connection
            Sample.stumbling).connection.session.isConnected =
          false := by
    decide +kernel
  rcases hCourse with ⟨hOrderly, hRest, hCheck, hDown⟩
  cases hDown.symm.trans (hAlways _ hOrderly hRest hCheck)

end BrainLink
