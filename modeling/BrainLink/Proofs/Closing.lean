import BrainLink.Proofs.Soundness

/-
  What is left of a connection once a closing has returned.

  Key definitions include:
    * `Occurrence.leavesTransport`
    * `Situation.atClose`
    * `Situation.isCutShort`
    * `firstClose?`
    * `farewells`
    * `Situation.ClosedOffline`
    * `Situation.ClosingState`
    * `Situation.Over`

  Main statements:
    * `Situation.Sound.keepsSilent_of_turn`
    * `Situation.Sound.firstClosing_of_turn`
    * `closingState_replay`
    * `closed_for_good`

  The first closing takes back the URL that the session has
  when it is called, and all later ones do nothing. Once it
  has returned, the connection is offline, and it stays so
  without a sound. Only its transport may be left: a listener
  that closes the connection just when an attempt begins is
  done before the attempt makes its transport.
-/

namespace BrainLink

------------------------------------------------------------
-- Closings
------------------------------------------------------------

/- Whether an occurrence is a closing by the owner. -/
def Occurrence.isClose : Occurrence → Bool
| .command _ order => order == .close
| _ => false

/-
  Whether a closing in the course of an occurrence comes
  before a transport is made.
-/
def Occurrence.leavesTransport : Occurrence → Bool
| .run world _ => world.creates
| _ => false

namespace Situation

/-
  The connection as a first closing in the course of an
  occurrence finds it. A listener that is told that the brain
  is offline finds a session that knows no URL. One that is
  told that it is online finds the URL of the attempt.
-/
def atClose (situation : Situation) : Occurrence → Connection
| .command _ _ => situation.connection
| .answer world _ (.fetchingKeys task _) answer =>
    if !situation.connection.isCancelled task &&
        (situation.connection.lit world answer).isClosed then
      situation.connection
    else
      situation.connection.stayOffline
| _ => situation.connection.stayOffline

/-
  Whether a first closing by a listener was given up, as the
  answer to its farewell was not there at once.
-/
def isCutShort (situation : Situation) : Occurrence → Bool
| .answer world request errand answer =>
    (situation.atClose
        (.answer world request errand
          answer)).partingRequests.any
      fun parting => (world.immediate parting).isNone
| _ => false

/- What closings send in the course of an occurrence. -/
def bids
    (before after : Situation)
    (occurrence : Occurrence) :
    List Http.Request :=
  if occurrence.isClose ||
      !before.connection.isClosed &&
        after.connection.isClosed then
    after.connection.requests.drop
      before.connection.requests.length
  else
    []

end Situation

/-
  The situation in which a connection was first closed, and
  the occurrence that closed it.
-/
def firstClose? (connection : Connection) :
    List Occurrence → Option (Situation × Occurrence)
| [] => none
| occurrence :: past =>
    (firstClose? connection past).or
      (if (replay connection
          (occurrence :: past)).connection.isClosed then
        some (replay connection past, occurrence)
      else
        none)

/- What all closings of a connection have sent. -/
def farewells (connection : Connection) :
    List Occurrence → List Http.Request
| [] => []
| occurrence :: past =>
    farewells connection past ++
      (replay connection past).bids
        (replay connection (occurrence :: past))
        occurrence

------------------------------------------------------------
-- Farewells
------------------------------------------------------------

namespace Situation

section Closed

variable {config : Config}
variable {before after : Situation}
variable {occurrence : Occurrence}

theorem isParting_iff :
    before.isParting = true ↔
      ∃ request,
        .asking request .closing ∈ before.waiting := by
  unfold isParting
  rw [List.any_eq_true]
  constructor
  · rintro ⟨question, hMember, hIs⟩
    cases question with
    | probing task => cases hIs
    | asking request errand =>
        cases errand with
        | closing => exact ⟨request, hMember⟩
        | _ => cases hIs
  · rintro ⟨request, hMember⟩
    exact ⟨_, hMember, rfl⟩

/- Whether one is awaited depends on the farewells alone. -/
theorem isParting_congr
    (hWaiting :
      ∀ request,
        .asking request .closing ∈ after.waiting ↔
          .asking request .closing ∈ before.waiting) :
    after.isParting = before.isParting := by
  rw [Bool.eq_iff_iff, isParting_iff, isParting_iff]
  simp only [hWaiting]

/- A farewell goes on waiting while others are answered. -/
theorem isParting_erase
    {question : Question}
    (hOther : question.isFarewell = false)
    (connection : Connection) :
    isParting ⟨connection, before.waiting.erase question⟩ =
      before.isParting := by
  apply isParting_congr
  intro request
  apply List.mem_erase_of_ne
  rintro rfl
  cases hOther

/- Attempts of a closed connection were cancelled. -/
theorem Sound.cancelled_of_isClosed
    (h : before.Sound config)
    (hClosed : before.connection.isClosed = true)
    {task : TaskId}
    (hMember : task ∈ before.attempts) :
    before.connection.isCancelled task = true := by
  rcases h.crew.known task hMember with ⟨known, hKnown, -⟩
  rw [Connection.isCancelled,
    Scheduler.isCancelled_of_task? hKnown]
  exact h.tidy.cancelled_of_isClosed hClosed hKnown

/-
  A closed connection stays closed, and says no farewell. It
  has lost all once the answer to its farewell is there.
-/
structure StaysClosed (before after : Situation) : Prop where
  closed : after.connection.isClosed = true
  parting :
    after.isParting = before.isParting ∨
      before.isParting = true ∧
        after.connection.session.IsOffline ∧
        after.connection.session.transport = none

theorem Sound.staysClosed_of_turn
    (h : before.Sound config)
    (hTurn : before.Turn config occurrence after)
    (hClosed : before.connection.isClosed = true) :
    before.StaysClosed after := by
  cases hTurn with
  | idle _ _ hIdles hPasses hRequests =>
      exact
        { closed := hIdles.connection.isClosed.trans hClosed
          parting :=
            Or.inl
              (isParting_congr fun request =>
                hIdles.marked _ (Or.inr rfl)) }
  | starts hHeld hOpen =>
      cases hOpen.symm.trans hClosed
  | drops => exact ⟨hClosed, Or.inl rfl⟩
  | opens world task known hTask hJob hLive result hResult
      hOpening =>
      cases (h.open_of_isLive hTask hLive).symm.trans hClosed
  | advances world request errand answer task hMember hAttempt
      result hResult hAdvance =>
      have hAsked := Question.attempt?_asking hAttempt request
      have hCancelled :=
        h.cancelled_of_isClosed hClosed
          (mem_attempts hMember hAsked)
      have hOther :
          (Question.asking request errand).isFarewell =
            false := by
        cases errand with
        | closing => cases hAttempt
        | _ => rfl
      cases hAdvance with
      | registers other transport later again hKeeps hUrl =>
          exact
            ⟨hKeeps.isClosed.trans hClosed,
              Or.inl (isParting_erase hOther later)⟩
      | fetches other transport later again hKeeps hCalm =>
          exact
            ⟨hKeeps.isClosed.trans hClosed,
              Or.inl (isParting_erase hOther later)⟩
      | falls _ other later _ hLowered hRenewed =>
          exact
            ⟨hLowered.closed hClosed,
              Or.inl (isParting_erase hOther _)⟩
      | flickers other transport hCalm hRaised hFallen
          hRenewed =>
          exact
            ⟨hFallen.closed hClosed,
              Or.inl (isParting_erase hOther _)⟩
      | rises other transport later hCalm hRisen =>
          cases hAttempt
          cases hCalm.symm.trans hCancelled
  | fails world task isReachable later hMember hLater hLowered
      hRenewed =>
      exact
        ⟨hLowered.closed hClosed,
          Or.inl (isParting_erase rfl _)⟩
  | parts world transport request hOpen hParting =>
      cases hOpen.symm.trans hClosed
  | closes world hOpen hParting =>
      cases hOpen.symm.trans hClosed
  | concludes world request answer hMember =>
      have hEnded := before.connection.ended_endClose world
      exact
        { closed := hEnded.closed hClosed
          parting :=
            Or.inr
              ⟨List.any_eq_true.mpr ⟨_, hMember, rfl⟩,
                hEnded.offline, hEnded.transport⟩ }

------------------------------------------------------------
-- Stillness
------------------------------------------------------------

/- A closed connection is offline and awaits no farewell. -/
structure ClosedOffline (situation : Situation) : Prop where
  closed : situation.connection.isClosed = true
  offline : situation.connection.session.IsOffline
  parting : situation.isParting = false

/-
  Nothing is told any more, and nothing is requested that the
  owner has not ordered.
-/
structure KeepsSilent
    (occurrence : Occurrence)
    (before after : Situation) : Prop where
  offline : after.connection.session.IsOffline
  transport :
    after.connection.session.transport =
      before.connection.session.transport
  news : after.connection.news = before.connection.news
  requests :
    occurrence.isOrder = false →
      after.connection.requests = before.connection.requests

/- A connection that is offline and closed falls in silence. -/
theorem ClosedOffline.lowered
    (hDone : before.ClosedOffline)
    {later : Connection}
    (hLowered : before.connection.Lowered later)
    (waiting : List Question)
    (task : TaskId) :
    KeepsSilent occurrence before
      ⟨later.endRun task, waiting⟩ where
  offline :=
    ⟨hLowered.offline.flag, hLowered.offline.url,
      hLowered.offline.state⟩
  transport := by
    have hTransport := hLowered.transport
    rw [hLowered.closed hDone.closed, hDone.closed,
      if_pos rfl] at hTransport
    exact hTransport
  news := (hLowered.silent hDone.offline.flag).2
  requests _ := hLowered.requests

/- Nothing disturbs a connection that is still. -/
theorem Sound.keepsSilent_of_turn
    (h : before.Sound config)
    (hTurn : before.Turn config occurrence after)
    (hDone : before.ClosedOffline) :
    KeepsSilent occurrence before after := by
  have hClosed := hDone.closed
  cases hTurn with
  | idle _ _ hIdles hPasses hRequests =>
      have hSession := hIdles.connection.session
      exact
        { offline := by
            rw [hSession]
            exact hDone.offline
          transport := by
            rw [hSession]
          news := hIdles.connection.news
          requests := hRequests }
  | starts hHeld hOpen =>
      cases hOpen.symm.trans hClosed
  | drops =>
      exact
        { offline :=
            ⟨hDone.offline.flag, hDone.offline.url,
              hDone.offline.state⟩
          transport := rfl
          news := rfl
          requests := fun _ => rfl }
  | opens world task known hTask hJob hLive result hResult
      hOpening =>
      cases (h.open_of_isLive hTask hLive).symm.trans hClosed
  | advances world request errand answer task hMember hAttempt
      result hResult hAdvance =>
      have hAsked := Question.attempt?_asking hAttempt request
      have hCancelled :=
        h.cancelled_of_isClosed hClosed
          (mem_attempts hMember hAsked)
      cases hAdvance with
      | registers other transport later again hKeeps hUrl =>
          exact absurd hDone.offline.url hUrl
      | fetches other transport later again hKeeps hCalm =>
          cases hAttempt
          cases hCalm.symm.trans hCancelled
      | falls _ other later hOther hLowered hRenewed =>
          exact hDone.lowered hLowered _ task
      | flickers other transport hCalm hRaised hFallen
          hRenewed =>
          cases hAttempt
          cases hCalm.symm.trans hCancelled
      | rises other transport later hCalm hRisen =>
          cases hAttempt
          cases hCalm.symm.trans hCancelled
  | fails world task isReachable later hMember hLater hLowered
      hRenewed =>
      exact hDone.lowered hLowered _ task
  | parts world transport request hOpen hParting =>
      cases hOpen.symm.trans hClosed
  | closes world hOpen hParting =>
      cases hOpen.symm.trans hClosed
  | concludes world request answer hMember =>
      have hParting : before.isParting = true :=
        List.any_eq_true.mpr ⟨_, hMember, rfl⟩
      cases hDone.parting.symm.trans hParting

/- So it is still for good. -/
theorem Sound.closedOffline_of_turn
    (h : before.Sound config)
    (hTurn : before.Turn config occurrence after)
    (hDone : before.ClosedOffline) :
    after.ClosedOffline := by
  have hStaysClosed := h.staysClosed_of_turn hTurn hDone.closed
  refine
    ⟨hStaysClosed.closed,
      (h.keepsSilent_of_turn hTurn hDone).offline, ?_⟩
  rcases hStaysClosed.parting with hSame | ⟨hParting, -, -⟩
  · exact hSame.trans hDone.parting
  · cases hDone.parting.symm.trans hParting

------------------------------------------------------------
-- The First Closing
------------------------------------------------------------

/- What the first closing of a connection comes to. -/
structure FirstClosing
    (occurrence : Occurrence)
    (before after : Situation) : Prop where
  requests :
    after.connection.requests =
      before.connection.requests ++
        (before.atClose occurrence).partingRequests
  awaited :
    after.isParting = true →
      before.isCutShort occurrence = false ∧
        occurrence.leavesTransport = false
  ended :
    after.isParting = false →
      after.connection.session.IsOffline ∧
        (before.isCutShort occurrence = false →
          (after.connection.session.transport = none ↔
            occurrence.leavesTransport = false))

/- Where no URL was known, nothing is sent. -/
theorem partingRequests_stayOffline (connection : Connection) :
    connection.stayOffline.partingRequests = [] := by
  unfold Connection.partingRequests
  rw [Connection.parting_of_isOffline
    (Connection.isOffline_stayOffline connection)]
  rfl

/- A closing that is not awaited has taken the URL away. -/
theorem Sound.firstClosing_of_offline
    (h : before.Sound config)
    (hOpen : before.connection.isClosed = false)
    {waiting : List Question}
    (hWaiting :
      ∀ question ∈ waiting, question ∈ before.waiting)
    {later : Connection}
    (hRequests :
      later.requests =
        before.connection.requests ++
          (before.atClose occurrence).partingRequests)
    (hOffline : later.session.IsOffline)
    (hTransport :
      before.isCutShort occurrence = false →
        (later.session.transport = none ↔
          occurrence.leavesTransport = false))
    (task : TaskId) :
    FirstClosing occurrence before
      ⟨later.endRun task, waiting⟩ where
  requests := hRequests
  awaited hParting := by
    rcases isParting_iff.mp hParting with ⟨request, hMember⟩
    have hClosed := h.parting request (hWaiting _ hMember)
    cases hOpen.symm.trans hClosed
  ended _ :=
    ⟨⟨hOffline.flag, hOffline.url, hOffline.state⟩,
      hTransport⟩

/- A closing by a listener that was told the bad news. -/
theorem Sound.firstClosing_of_lowered
    (h : before.Sound config)
    (hOpen : before.connection.isClosed = false)
    {waiting : List Question}
    (hWaiting :
      ∀ question ∈ waiting, question ∈ before.waiting)
    {later : Connection}
    (hLowered : before.connection.Lowered later)
    (hClosed : later.isClosed = true)
    (hAtClose :
      before.atClose occurrence =
        before.connection.stayOffline)
    (hLeaves : occurrence.leavesTransport = false)
    (task : TaskId) :
    FirstClosing occurrence before
      ⟨later.endRun task, waiting⟩ := by
  apply h.firstClosing_of_offline hOpen hWaiting
  · rw [hAtClose, partingRequests_stayOffline, List.append_nil]
    exact hLowered.requests
  · exact hLowered.offline
  · intro _
    have hTransport := hLowered.transport
    rw [hClosed, hOpen, if_neg (by simp)] at hTransport
    exact ⟨fun _ => hLeaves, fun _ => hTransport⟩

/-
  A closing by a listener when an attempt came online that
  was cancelled on the way. Either the listener was told the
  good news, or the bad news that followed it.
-/
theorem Sound.firstClosing_of_raised
    (h : before.Sound config)
    (hOpen : before.connection.isClosed = false)
    {waiting : List Question}
    (hWaiting :
      ∀ question ∈ waiting, question ∈ before.waiting)
    {world : World}
    {answer : Http.Answer}
    {task : TaskId}
    (hCalm : before.connection.isCancelled task = false)
    (hRaised :
      before.connection.Raised world
        (before.connection.lit world answer))
    (hClosed :
      (((before.connection.lit world answer).goOffline
        world).goOffline world).isClosed = true)
    (request : Http.Request)
    (transport : TransportId) :
    FirstClosing
      (.answer world request (.fetchingKeys task transport)
        answer)
      before
      ⟨(((before.connection.lit world answer).goOffline
          world).goOffline world).endRun task,
        waiting⟩ := by
  have hLowered :=
    Connection.lowered_goOffline world
      (before.connection.lit world answer)
  -- Going offline twice is going offline.
  rw [Connection.goOffline_of_down hLowered.offline.flag]
    at hClosed ⊢
  generalize hLower :
    (before.connection.lit world answer).goOffline world = later
    at hLowered hClosed ⊢
  have hShut : later.isClosed = true := hClosed
  have hRequests := hLowered.requests.trans hRaised.requests
  have hTransport := hLowered.transport
  cases hState :
      (before.connection.lit world answer).isClosed with
  | true =>
      have hAtClose :
          before.atClose
              (.answer world request
                (.fetchingKeys task transport) answer) =
            before.connection := by
        simp [atClose, hCalm, hState]
      rw [hState, if_pos rfl] at hRequests
      rw [hShut, hState, if_pos rfl] at hTransport
      apply h.firstClosing_of_offline hOpen hWaiting
      · rw [hAtClose]
        exact hRequests
      · exact Connection.isOffline_stayOffline later
      · intro hWhole
        have hBare :=
          hRaised.bare hState fun parting hMember hNone => by
            simp only [isCutShort, hAtClose] at hWhole
            apply List.any_eq_false.mp hWhole parting hMember
            rw [hNone]
            rfl
        exact ⟨fun _ => rfl, fun _ => hTransport.trans hBare⟩
  | false =>
      have hAtClose :
          before.atClose
              (.answer world request
                (.fetchingKeys task transport) answer) =
            before.connection.stayOffline := by
        simp [atClose, hState]
      rw [hState, if_neg (by simp)] at hRequests
      rw [hShut, hState, if_neg (by simp)] at hTransport
      apply h.firstClosing_of_offline hOpen hWaiting
      · rw [hAtClose, partingRequests_stayOffline]
        exact hRequests
      · exact Connection.isOffline_stayOffline later
      · exact fun _ => ⟨fun _ => rfl, fun _ => hTransport⟩

/- How an open connection is closed. -/
theorem Sound.firstClosing_of_turn
    (h : before.Sound config)
    (hTurn : before.Turn config occurrence after)
    (hOpen : before.connection.isClosed = false)
    (hClosed : after.connection.isClosed = true) :
    FirstClosing occurrence before after := by
  cases hTurn with
  | idle _ _ hIdles hPasses hRequests =>
      rw [hIdles.connection.isClosed, hOpen] at hClosed
      cases hClosed
  | starts hHeld _ =>
      rw [Connection.isClosed_scheduleConnect, hOpen] at hClosed
      cases hClosed
  | drops =>
      cases hOpen.symm.trans hClosed
  | opens world task known hTask hJob hLive result hResult
      hOpening =>
      cases hOpening with
      | asks later request transport hHeld hDone hTasks hCalm
          hFlag hUrl =>
          cases hDone.symm.trans hClosed
      | falls later hFallen hRenewed hRequests hTransport =>
          apply h.firstClosing_of_offline hOpen fun _ => id
          · change _ =
              _ ++ before.connection.stayOffline.partingRequests
            rw [partingRequests_stayOffline, List.append_nil]
            exact hRequests
          · exact hFallen.offline
          · exact fun _ => hTransport hClosed
  | advances world request errand answer task hMember hAttempt
      result hResult hAdvance =>
      have hAsked := Question.attempt?_asking hAttempt request
      have hIn := mem_attempts hMember hAsked
      cases hAdvance with
      | registers other transport later again hKeeps hUrl =>
          cases hOpen.symm.trans
            (hKeeps.isClosed.symm.trans hClosed)
      | fetches other transport later again hKeeps hCalm =>
          cases hOpen.symm.trans
            (hKeeps.isClosed.symm.trans hClosed)
      | falls _ other later hOther hLowered hRenewed =>
          -- The flag was up, so the attempt was cancelled.
          have hCancelled :
              before.connection.isCancelled task = true := by
            apply eq_true_of_ne_false
            intro hCalm
            have hSilent :=
              (hLowered.silent (h.down task hIn hCalm)).1
            cases hOpen.symm.trans (hSilent.symm.trans hClosed)
          refine
            h.firstClosing_of_lowered hOpen
              (fun _ => List.mem_of_mem_erase) hLowered hClosed
              ?_ rfl task
          cases errand with
          | fetchingKeys same transport =>
              cases hAttempt
              simp [atClose, hCancelled]
          | _ => rfl
      | flickers other transport hCalm hRaised hFallen
          hRenewed =>
          cases hAttempt
          exact
            h.firstClosing_of_raised hOpen
              (fun _ => List.mem_of_mem_erase) hCalm hRaised
              hClosed request transport
      | rises other transport later hCalm hRisen =>
          cases hRisen.isClosed.symm.trans hClosed
  | fails world task isReachable later hMember hLater hLowered
      hRenewed =>
      exact
        h.firstClosing_of_lowered hOpen
          (fun _ => List.mem_of_mem_erase) hLowered hClosed rfl
          rfl task
  | parts world transport request _ hParting =>
      exact
        { requests := by
            rw [Connection.requests_record]
            change _ =
              _ ++ before.connection.partingRequests
            unfold Connection.partingRequests
            rw [hParting]
            rfl
          awaited := fun _ => ⟨rfl, rfl⟩
          ended := fun hEnded => by
            cases hEnded }
  | closes world _ hParting =>
      have hEnded :=
        before.connection.shut.ended_endClose world
      exact
        { requests := by
            change _ =
              _ ++ before.connection.partingRequests
            unfold Connection.partingRequests
            rw [hParting]
            exact
              hEnded.requests.trans (List.append_nil _).symm
          awaited := fun _ => ⟨rfl, rfl⟩
          ended := fun _ =>
            ⟨hEnded.offline,
              fun _ =>
                ⟨fun _ => rfl, fun _ => hEnded.transport⟩⟩ }
  | concludes world request answer hMember =>
      cases hOpen.symm.trans (h.parting request hMember)

/- A command to close is not an order. -/
theorem isOrder_of_isClose
    (hClose : occurrence.isClose = true) :
    occurrence.isOrder = false := by
  unfold Occurrence.isClose at hClose
  split at hClose
  · rw [eq_of_beq hClose]
    rfl
  · cases hClose

/- Where it closes nothing, a command to close sends nothing. -/
theorem requests_of_isClose
    (hTurn : before.Turn config occurrence after)
    (hClose : occurrence.isClose = true)
    (hSame :
      after.connection.isClosed = before.connection.isClosed) :
    after.connection.requests = before.connection.requests := by
  cases hTurn with
  | idle _ _ hIdles hPasses hRequests =>
      exact hRequests (isOrder_of_isClose hClose)
  | parts world transport request hOpen hParting =>
      cases hOpen.symm.trans hSame.symm
  | closes world hOpen hParting =>
      have hEnded :=
        before.connection.shut.ended_endClose world
      cases hOpen.symm.trans
        (hSame.symm.trans (hEnded.closed rfl))
  | _ => cases hClose

/- So nothing is sent on behalf of a closing that is none. -/
theorem bids_of_isClosed_eq
    (hTurn : before.Turn config occurrence after)
    (hSame :
      after.connection.isClosed = before.connection.isClosed) :
    before.bids after occurrence = [] := by
  unfold bids
  split
  · rename_i hClosing
    cases hClose : occurrence.isClose with
    | true =>
        rw [requests_of_isClose hTurn hClose hSame]
        exact List.drop_length
    | false =>
        rw [hClose, hSame] at hClosing
        simp at hClosing
  · rfl

/-
  Where a connection stands with its closing: it is open, or
  it has sent what its first closing had to send, and has
  lost all or waits for the answer.
-/
inductive ClosingState (situation : Situation) :
    Option (Situation × Occurrence) →
      List Http.Request → Prop where
| opened
    (hOpen : situation.connection.isClosed = false) :
    ClosingState situation none []
| closed
    (found : Situation)
    (closing : Occurrence)
    (hClosed : situation.connection.isClosed = true)
    (hAwaited :
      situation.isParting = true →
        found.isCutShort closing = false ∧
          closing.leavesTransport = false)
    (hEnded :
      situation.isParting = false →
        situation.connection.session.IsOffline ∧
          (found.isCutShort closing = false →
            (situation.connection.session.transport = none ↔
              closing.leavesTransport = false))) :
    ClosingState situation (some (found, closing))
      (found.atClose closing).partingRequests

theorem Sound.closingState_of_turn
    (h : before.Sound config)
    (hTurn : before.Turn config occurrence after)
    {first? : Option (Situation × Occurrence)}
    {sent : List Http.Request}
    (hClosing : before.ClosingState first? sent) :
    after.ClosingState
      (first?.or
        (if after.connection.isClosed then
          some (before, occurrence)
        else
          none))
      (sent ++ before.bids after occurrence) := by
  cases hClosing with
  | opened hOpen =>
      cases hState : after.connection.isClosed with
      | false =>
          rw [bids_of_isClosed_eq hTurn
            (hState.trans hOpen.symm)]
          exact .opened hState
      | true =>
          have hFirst := h.firstClosing_of_turn hTurn hOpen hState
          have hBids :
              before.bids after occurrence =
                (before.atClose
                  occurrence).partingRequests := by
            unfold bids
            rw [hOpen, hState, hFirst.requests]
            simp
          rw [hBids]
          exact
            .closed before occurrence hState hFirst.awaited
              hFirst.ended
  | closed found closing hClosed hAwaited hEnded =>
      have hStaysClosed := h.staysClosed_of_turn hTurn hClosed
      rw [bids_of_isClosed_eq hTurn
          (hStaysClosed.closed.trans hClosed.symm),
        List.append_nil]
      apply ClosingState.closed found closing hStaysClosed.closed
      · intro hAfter
        rcases hStaysClosed.parting with
          hSame | ⟨hBefore, -, -⟩
        · exact hAwaited (hSame.symm.trans hAfter)
        · exact hAwaited hBefore
      · intro hAfter
        rcases hStaysClosed.parting with
          hSame | ⟨hBefore, hOffline, hTransport⟩
        · have hBefore := hSame.symm.trans hAfter
          rcases hEnded hBefore with ⟨hOffline, hTransport⟩
          have hSilent :=
            h.keepsSilent_of_turn hTurn
              ⟨hClosed, hOffline, hBefore⟩
          rw [hSilent.transport]
          exact ⟨hSilent.offline, hTransport⟩
        · exact
            ⟨hOffline,
              fun _ =>
                ⟨fun _ => (hAwaited hBefore).2,
                  fun _ => hTransport⟩⟩

end Closed

end Situation

------------------------------------------------------------
-- Courses
------------------------------------------------------------

section Replay

variable {config : Config}
variable {drive : Drive}
variable {connection : Connection}

/- Where any connection stands with its closing. -/
theorem closingState_replay
    (hNew : Connection.new config drive = .ok connection)
    (past : List Occurrence) :
    (replay connection past).ClosingState
      (firstClose? connection past)
      (farewells connection past) := by
  induction past with
  | nil =>
      apply Situation.ClosingState.opened
      unfold Connection.new at hNew
      split at hNew
      · cases hNew
      · cases hNew
        rfl
  | cons occurrence past ih =>
      exact
        (sound_replay hNew past).closingState_of_turn
          (turn_replay hNew occurrence past) ih

/- Once a connection is still, nothing is told any more. -/
theorem closedOffline_replay
    (hNew : Connection.new config drive = .ok connection)
    {past : List Occurrence}
    (hDone : (replay connection past).ClosedOffline)
    (later : List Occurrence) :
    let before := replay connection past
    let after := replay connection (later ++ past)
    after.ClosedOffline ∧
      after.connection.session.transport =
        before.connection.session.transport ∧
      after.connection.news = before.connection.news := by
  induction later with
  | nil => exact ⟨hDone, rfl, rfl⟩
  | cons occurrence later ih =>
      rcases ih with ⟨hDone, hTransport, hNews⟩
      have hSound := sound_replay hNew (later ++ past)
      have hTurn := turn_replay hNew occurrence (later ++ past)
      have hSilent := hSound.keepsSilent_of_turn hTurn hDone
      exact
        ⟨hSound.closedOffline_of_turn hTurn hDone,
          hSilent.transport.trans hTransport,
          hSilent.news.trans hNews⟩

/- Both slots of a closed connection are inactive. -/
theorem Connection.Tidy.inactive_of_isClosed
    {connection : Connection}
    (h : connection.Tidy config)
    (hClosed : connection.isClosed = true) :
    connection.hasPendingConnect = false ∧
      connection.hasHealthCheck = false := by
  have hConnect : connection.session.connect = none :=
    h.hushed hClosed .connect
  have hCheck : connection.session.check = none :=
    h.hushed hClosed .checkHealth
  unfold hasPendingConnect hasHealthCheck
  rw [hConnect, hCheck]
  exact ⟨rfl, rfl⟩

/-
  What is left once the first closing has returned. Only the
  transport may be there: exactly if the closing came before
  an attempt made one.
-/
structure Situation.Over
    (returned : Situation)
    (closing : Occurrence)
    (situation : Situation) : Prop where
  offline : situation.connection.session.IsOffline
  transport :
    situation.connection.session.transport = none ↔
      closing.leavesTransport = false
  connect : situation.connection.hasPendingConnect = false
  check : situation.connection.hasHealthCheck = false
  news : situation.connection.news = returned.connection.news
  requests :
    ∀ occurrence,
      occurrence.isOrder = false →
        (situation.after occurrence).connection.requests =
          situation.connection.requests

/-
  All closings together send one request, for the URL that
  was known when the connection was first closed, or none if
  there was no URL or no transport. If the first closing has
  returned, all is over, whatever comes later.
-/
theorem closed_for_good
    (hNew : Connection.new config drive = .ok connection)
    (past : List Occurrence) :
    (farewells connection past =
      match firstClose? connection past with
      | none => []
      | some (found, closing) =>
          (found.atClose closing).partingRequests) ∧
    ∀ found closing,
      firstClose? connection past = some (found, closing) →
        found.isCutShort closing = false →
          (replay connection past).isParting = false →
            ∀ later,
              (replay connection past).Over closing
                (replay connection (later ++ past)) := by
  have hClosing := closingState_replay hNew past
  constructor
  · generalize firstClose? connection past = first?,
      farewells connection past = sent at hClosing
    cases hClosing with
    | opened hOpen => rfl
    | closed found closing hClosed hAwaited hEnded => rfl
  · intro found closing hFirst hWhole hReturned later
    rw [hFirst] at hClosing
    generalize farewells connection past = sent at hClosing
    cases hClosing with
    | closed _ _ hClosed hAwaited hEnded =>
        rcases hEnded hReturned with ⟨hOffline, hTransport⟩
        rcases closedOffline_replay hNew
            ⟨hClosed, hOffline, hReturned⟩ later with
          ⟨hDone, hSame, hNews⟩
        have hSound := sound_replay hNew (later ++ past)
        have hInactive :=
          hSound.tidy.inactive_of_isClosed hDone.closed
        exact
          { offline := hDone.offline
            transport := by
              rw [hSame]
              exact hTransport hWhole
            connect := hInactive.1
            check := hInactive.2
            news := hNews
            requests := fun occurrence =>
              (hSound.keepsSilent_of_turn
                (hSound.turn_after occurrence) hDone).requests }

end Replay

/- A closing that is told that the brain forgot the URL. -/
def Sample.takenBack : List Occurrence :=
  .answer world
    (connection.registrar.request .unregister url)
    .closing
    (.ok ⟨200, ""⟩) ::
  .command world .close ::
  undisturbed

/- A later start does nothing, and the transport is gone. -/
theorem over_of_takenBack :
    let after :=
      replay Sample.connection ([.start] ++ Sample.takenBack)
    after.connection.session.IsOffline ∧
      after.connection.session.transport = none ∧
      farewells Sample.connection Sample.takenBack =
        [Sample.connection.registrar.request .unregister
          Sample.url] := by
  have hParts :
      (firstClose? Sample.connection Sample.takenBack).map
          (fun first =>
            (first.1.isCutShort first.2,
              first.2.leavesTransport,
              (first.1.atClose first.2).partingRequests)) =
          some
            (false, false,
              [Sample.connection.registrar.request .unregister
                Sample.url]) := by
    decide +kernel
  have hReturned :
      (replay Sample.connection
        Sample.takenBack).isParting = false := by
    decide +kernel
  rcases Option.map_eq_some_iff.mp hParts with
    ⟨⟨found, closing⟩, hFirst, hSame⟩
  obtain ⟨hWhole, hLeaves, hParting⟩ :
      found.isCutShort closing = false ∧
        closing.leavesTransport = false ∧
        (found.atClose closing).partingRequests =
          [Sample.connection.registrar.request .unregister
            Sample.url] := by
    simpa only [Prod.mk.injEq] using hSame
  rcases closed_for_good Sample.new_connection
      Sample.takenBack with
    ⟨hSent, hOver⟩
  have hLater :=
    hOver found closing hFirst hWhole hReturned [.start]
  rw [hFirst] at hSent
  exact
    ⟨hLater.offline, hLater.transport.mpr hLeaves,
      hSent.trans hParting⟩
/-
  A listener closes the connection when an attempt begins and
  takes it offline.
-/
def Sample.slammed : List Occurrence :=
  .command world .close ::
  .run world 2 ::
  .start ::
  .listen (.add ⟨"door", [(false, .closeNow)]⟩) ::
  undisturbed

/- Its transport is left, though all closings have returned. -/
theorem transport_of_slammed :
    let after := replay Sample.connection Sample.slammed
    after.connection.isClosed = true ∧
      after.isParting = false ∧
      (firstClose? Sample.connection Sample.slammed).all
          (fun first => !first.1.isCutShort first.2) =
        true ∧
      after.connection.session.transport.isSome = true := by
  decide +kernel

end BrainLink
