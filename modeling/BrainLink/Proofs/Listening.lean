import BrainLink.Connection.Events
import BrainLink.Proofs.Tasks

/-
  What becomes of a connection while its listeners are told
  of an event, whatever they do.

  Key definitions include:
    * `Job.slot`
    * `Connection.schedule`
    * `Connection.Notes`
    * `Connection.Rearranges`
    * `Connection.Steadfast`
    * `Connection.parting`
    * `Connection.Fallen`
    * `Connection.Lowered`
    * `Connection.Raised`
    * `Connection.Enduring`

  Main statements:
    * `Connection.Steadfast.announce`
    * `Connection.closeNow_cases`
    * `Connection.lowered_goOffline`
    * `Connection.raised_goOnline`
    * `Connection.Enduring.goOnline`

  A property that survives what is written down, a start and
  a closing survives the telling of any event. `Lowered` and
  `Raised` sum up what going offline and online come to.
-/

namespace BrainLink

------------------------------------------------------------
-- Effects
------------------------------------------------------------

/- Whether an effect hands an event to a listener. -/
def Effect.isNews : Effect → Bool
| .told _ _ _ _ => true
| .queued _ _ => true
| _ => false

/- The request that an effect sends, if it sends one. -/
def Effect.request? : Effect → Option Http.Request
| .asked _ request => some request
| _ => none

/- A session that is offline knows no URL. -/
structure Session.IsOffline (session : Session) : Prop where
  flag : session.isConnected = false
  url : session.callbackUrl = none
  state : session.state = .disconnected

namespace Connection

/- All requests so far, oldest first. -/
def requests (connection : Connection) : List Http.Request :=
  connection.journal.filterMap fun entry => entry.2.request?

/- All deliveries of events so far, oldest first. -/
def news (connection : Connection) : List Effect :=
  (connection.journal.map Prod.snd).filter Effect.isNews

/- What is written down is the last of what was requested. -/
theorem requests_record
    (connection : Connection)
    (effect : Effect) :
    (connection.record effect).requests =
      connection.requests ++ effect.request?.toList := by
  unfold requests record
  rw [List.filterMap_append]
  cases hRequest : effect.request? with
  | none => simp [hRequest]
  | some request => simp [hRequest]

/- What is written down is the last of the news, if it is. -/
theorem news_record
    (connection : Connection)
    (effect : Effect) :
    (connection.record effect).news =
      connection.news ++
        if effect.isNews then [effect] else [] := by
  unfold news record
  rw [List.map_append, List.filter_append]
  cases hNews : effect.isNews with
  | true => simp [hNews]
  | false => simp [hNews]

end Connection

------------------------------------------------------------
-- Jobs
------------------------------------------------------------

namespace Job

/- The slot that holds the task of a job. -/
def slot (job : Job) (session : Session) : Slot :=
  match job with
  | .connect => session.connect
  | .checkHealth => session.check

/- The session with something else in the slot of a job. -/
def fill (job : Job) (session : Session) (slot : Slot) : Session :=
  match job with
  | .connect => { session with connect := slot }
  | .checkHealth => { session with check := slot }

/- How often a job runs. -/
def repetition : Job → Repetition
| .connect => .once
| .checkHealth => .recurring

/- The delay of a job, or the pause between its runs. -/
def period (job : Job) (config : Config) : Millis :=
  match job with
  | .connect => config.connectDelay
  | .checkHealth => config.checkInterval

theorem slot_fill
    (job other : Job)
    (session : Session)
    (slot : Slot) :
    other.slot (job.fill session slot) =
      if other = job then slot else other.slot session := by
  cases job with
  | connect => cases other <;> rfl
  | checkHealth => cases other <;> rfl

end Job

namespace Connection

/- The slot of each job. -/
def slots (connection : Connection) (job : Job) : Slot :=
  job.slot connection.session

/- Cancel what a connection has in the slot of a job. -/
def clear (connection : Connection) (job : Job) : Connection :=
  { connection with
    tasks := (connection.slots job).release connection.tasks
    session := job.fill connection.session none }

/- Put a new task of a job into its slot, and tell of it. -/
def install (connection : Connection) (job : Job) : Connection :=
  let period := job.period connection.config
  let id := connection.tasks.nextId
  let tasks := connection.tasks.add job.repetition period job
  { connection with
    tasks := (connection.slots job).release tasks
    session := job.fill connection.session (some id) }.record
    (.scheduled job.repetition period)

/- Schedule a job. A closed connection drops it again. -/
def schedule (connection : Connection) (job : Job) : Connection :=
  let installed := connection.install job
  if installed.isClosed then installed.clear job else installed

theorem scheduleCheck_eq (connection : Connection) :
    connection.scheduleCheck =
      if connection.config.checksHealth then
        connection.schedule .checkHealth
      else
        connection :=
  rfl

theorem slots_clear (connection : Connection) (job : Job) :
    (connection.clear job).slots =
      fun other =>
        if other = job then none else connection.slots other :=
  funext fun other => Job.slot_fill job other _ _

theorem slots_install (connection : Connection) (job : Job) :
    (connection.install job).slots =
      fun other =>
        if other = job then
          some connection.tasks.nextId
        else
          connection.slots other :=
  funext fun other => Job.slot_fill job other _ _

------------------------------------------------------------
-- Small Changes
------------------------------------------------------------

/-
  Only who listens, what listeners asked for, and what was
  written down have changed; nothing was requested.
-/
inductive Notes (before : Connection) : Connection → Prop where
| intro
    (registry : Registry Watcher)
    (names : List (String × ListenerId))
    (closings : Nat)
    (journal : List (Millis × Effect))
    (hRequests :
      (journal.filterMap fun entry => entry.2.request?) =
        before.requests) :
    Notes before
      { before with
        registry := registry
        names := names
        closings := closings
        journal := journal }

/-
  Only what is scheduled and what was written down have
  changed; nothing was requested or told.
-/
inductive Rearranges (before : Connection) :
    Connection → Prop where
| intro
    (tasks : Scheduler Job)
    (connect check : Slot)
    (journal : List (Millis × Effect))
    (hTasks : before.tasks.Grows tasks)
    (hRequests :
      (journal.filterMap fun entry => entry.2.request?) =
        before.requests)
    (hNews :
      ((journal.map Prod.snd).filter Effect.isNews) =
        before.news) :
    Rearranges before
      { before with
        tasks := tasks
        session :=
          { before.session with
            connect := connect
            check := check }
        journal := journal }

section Rearranges

variable {connection before after later : Connection}

theorem Rearranges.trans
    (hFirst : before.Rearranges after)
    (hLast : after.Rearranges later) :
    before.Rearranges later := by
  cases hFirst with
  | intro tasks connect check journal hTasks hRequests hNews =>
      cases hLast with
      | intro _ _ _ _ hGrows hSame hOld =>
          exact
            .intro _ _ _ _ (hTasks.trans hGrows)
              (hSame.trans hRequests) (hOld.trans hNews)

/- A slot is filled, and what is told of that is no news. -/
theorem rearranges_fill
    {tasks : Scheduler Job}
    {journal : List (Millis × Effect)}
    (job : Job)
    (slot : Slot)
    (hTasks : connection.tasks.Grows tasks)
    (hRequests :
      (journal.filterMap fun entry => entry.2.request?) =
        connection.requests)
    (hNews :
      ((journal.map Prod.snd).filter Effect.isNews) =
        connection.news) :
    connection.Rearranges
      { connection with
        tasks := tasks
        session := job.fill connection.session slot
        journal := journal } := by
  cases job with
  | connect => exact .intro _ _ _ _ hTasks hRequests hNews
  | checkHealth => exact .intro _ _ _ _ hTasks hRequests hNews

theorem rearranges_clear (connection : Connection) (job : Job) :
    connection.Rearranges (connection.clear job) :=
  rearranges_fill job none (Slot.grows_release _ _) rfl rfl

theorem rearranges_install (connection : Connection) (job : Job) :
    connection.Rearranges (connection.install job) := by
  have hTasks :
      connection.tasks.Grows (connection.install job).tasks :=
    (Scheduler.grows_add _ _ _ _).trans
      (Slot.grows_release _ _)
  have hRequests :
      (connection.install job).requests = connection.requests :=
    (requests_record _ _).trans (List.append_nil _)
  have hNews : (connection.install job).news = connection.news :=
    (news_record _ _).trans (List.append_nil _)
  exact rearranges_fill job _ hTasks hRequests hNews

theorem rearranges_schedule (connection : Connection) (job : Job) :
    connection.Rearranges (connection.schedule job) := by
  have hInstalled := connection.rearranges_install job
  unfold schedule
  dsimp only
  split
  · exact hInstalled.trans (rearranges_clear _ job)
  · exact hInstalled

theorem rearranges_scheduleConnect (connection : Connection) :
    connection.Rearranges connection.scheduleConnect :=
  connection.rearranges_schedule .connect

theorem rearranges_scheduleCheck (connection : Connection) :
    connection.Rearranges connection.scheduleCheck := by
  rw [scheduleCheck_eq]
  split
  · exact connection.rearranges_schedule .checkHealth
  · exact .intro _ _ _ _ (.refl _) rfl rfl

end Rearranges

/- Scheduling an attempt only adds and cancels. -/
theorem grows_scheduleConnect (connection : Connection) :
    connection.tasks.Grows
      connection.scheduleConnect.tasks := by
  have hRearranges := connection.rearranges_scheduleConnect
  generalize connection.scheduleConnect = later at hRearranges
  cases hRearranges with
  | intro _ _ _ _ hTasks _ _ => exact hTasks

/- Clearing the slots only cancels. -/
theorem grows_clearSlots (connection : Connection) :
    connection.tasks.Grows connection.clearSlots.tasks :=
  (Slot.grows_release _ _).trans (Slot.grows_release _ _)

/- An open connection holds the attempt it has scheduled. -/
theorem connect_scheduleConnect
    {connection : Connection}
    (hOpen : connection.isClosed = false) :
    connection.scheduleConnect.session.connect =
      some connection.tasks.nextId := by
  simp [scheduleConnect, record, hOpen]

/- A health check goes on while an attempt is scheduled. -/
theorem check_scheduleConnect (connection : Connection) :
    connection.scheduleConnect.session.check =
      connection.session.check := by
  unfold scheduleConnect
  dsimp only
  split
  · rfl
  · rfl

------------------------------------------------------------
-- Telling
------------------------------------------------------------

/-
  A property of connections that listeners cannot touch
  except by closing: neither what is written down nor a start
  makes it false.
-/
structure Steadfast (P : Connection → Prop) : Prop where
  note :
    ∀ {before after : Connection},
      before.Notes after → P before → P after
  start :
    ∀ {connection : Connection},
      connection.isClosed = false →
        P connection →
          P connection.scheduleConnect

/- Being told an event is written down. -/
theorem notes_record_news
    (connection : Connection)
    (effect : Effect)
    (hNews : effect.isNews = true) :
    connection.Notes (connection.record effect) := by
  have hNone : effect.request? = none := by
    cases effect with
    | told _ _ _ _ => rfl
    | queued _ _ => rfl
    | asked _ _ => cases hNews
    | probed _ _ _ => cases hNews
    | resolved _ _ => cases hNews
    | scheduled _ _ => cases hNews
  have hRequests :
      (connection.record effect).requests =
        connection.requests := by
    rw [requests_record, hNone]
    simp
  exact .intro _ _ _ _ hRequests

section Steadfast

variable {P : Connection → Prop}
variable {closeNow : Connection → Connection}

/- What one listener does. -/
theorem Steadfast.makeMove
    (hP : Steadfast P)
    (hClose :
      ∀ connection, P connection → P (closeNow connection))
    (connection : Connection)
    (move : Move)
    (h : P connection) :
    P (connection.makeMove closeNow move) := by
  unfold Connection.makeMove
  split
  · cases move with
    | start =>
        change P connection.start
        unfold Connection.start
        split
        · exact h
        · rename_i hOpen
          exact hP.start (by simpa using hOpen) h
    | close => exact hP.note (.intro _ _ _ _ rfl) h
    | closeNow => exact hClose connection h
    | addListener name moves =>
        exact hP.note (.intro _ _ _ _ rfl) h
    | removeListener name =>
        change P (connection.removeListener name).1
        unfold Connection.removeListener
        split
        · exact h
        · exact hP.note (.intro _ _ _ _ rfl) h
    | subscribe => exact hP.note (.intro _ _ _ _ rfl) h
  · exact h

/- Telling one listener. -/
theorem Steadfast.tell
    (hP : Steadfast P)
    (hClose :
      ∀ connection, P connection → P (closeNow connection))
    (event : Event)
    (entry : Entry Watcher)
    (connection : Connection)
    (h : P connection) :
    P (connection.tell closeNow event entry) := by
  unfold Connection.tell
  split
  · apply hP.note (notes_record_news _ _ rfl)
    exact hP.note (.intro _ _ _ _ rfl) h
  · apply List.foldlRecOn
    · exact hP.note (notes_record_news _ _ rfl) h
    · intro current hCurrent move _
      exact hP.makeMove hClose current move hCurrent

/- What each visit keeps, all visits keep. -/
theorem visitEach_keeps
    {κ σ : Type}
    {Q : σ → Prop}
    {isClosed : Entry κ → σ → Bool}
    {visit : Entry κ → σ → σ}
    (hVisit : ∀ entry state, Q state → Q (visit entry state))
    (entries : List (Entry κ))
    (state : σ)
    (h : Q state) :
    Q (visitEach isClosed visit entries state).1 := by
  induction entries generalizing state with
  | nil => exact h
  | cons entry rest ih =>
      unfold visitEach
      split
      · exact ih state h
      · exact ih _ (hVisit entry state h)

/- Telling everyone. -/
theorem Steadfast.announce
    (hP : Steadfast P)
    (hClose :
      ∀ connection, P connection → P (closeNow connection))
    (event : Event)
    (connection : Connection)
    (h : P connection) :
    P (connection.announce closeNow event) := by
  have hVisited :
      P
        (visitEach
          (fun entry (connection : Connection) =>
            connection.registry.isClosed entry)
          (Connection.tell closeNow event)
          connection.registry.entries
          connection).1 := by
    apply visitEach_keeps
    · intro entry state hState
      exact hP.tell hClose event entry state hState
    · exact h
  unfold Connection.announce
  dsimp only
  split
  · exact hP.note (.intro _ _ _ _ rfl) hVisited
  · exact hVisited

end Steadfast

------------------------------------------------------------
-- Closing
------------------------------------------------------------

/-
  What a closing sends: a request to take back the URL of the
  session, if it has one and a transport to send it on.
-/
def parting (connection : Connection) : Option Sending :=
  match connection.session.callbackUrl,
      connection.session.transport with
  | some url, some transport =>
      some
        (transport,
          connection.registrar.request .unregister url)
  | _, _ => none

/- The connection that is left when a closing goes offline. -/
def bare (connection : Connection) : Connection :=
  { connection.clearCheck with
    session :=
      { connection.clearCheck.session with
        transport := none
        callbackUrl := none } }

/- The end of a closing lowers the flag of what is left. -/
theorem endClose_eq
    (offline : Connection → Connection)
    (connection : Connection) :
    connection.endClose offline = offline connection.bare :=
  rfl

/- A farewell is sent exactly if there is a parting. -/
theorem farewell_of_parting_eq_none
    {connection : Connection}
    (hParting : connection.parting = none) :
    ∀ sending, connection.farewell ≠ .ok (some sending) := by
  intro sending
  unfold parting at hParting
  unfold farewell Registrar.unregister Session.send?
  cases hUrl : connection.session.callbackUrl with
  | none => simp
  | some url =>
      cases hTransport : connection.session.transport with
      | none => simp [Except.map]
      | some transport => simp [hUrl, hTransport] at hParting

theorem farewell_of_parting_eq_some
    {connection : Connection}
    {sending : Sending}
    (hParting : connection.parting = some sending) :
    connection.farewell = .ok (some sending) := by
  unfold parting at hParting
  unfold farewell Registrar.unregister Session.send?
  cases hUrl : connection.session.callbackUrl with
  | none => simp [hUrl] at hParting
  | some url =>
      cases hTransport : connection.session.transport with
      | none => simp [hUrl, hTransport] at hParting
      | some transport =>
          simp only [hUrl, hTransport, Option.some.injEq]
            at hParting
          subst hParting
          rfl

/-
  A closing on the spot does nothing to a closed connection.
  Else it ends at once if nothing was sent or the answer is
  there, and is left unfinished if not.
-/
theorem closeNow_cases
    {P : Connection → Prop}
    (world : World)
    (offline : Connection → Connection)
    (connection : Connection)
    (hClosed : connection.isClosed = true → P connection)
    (hSilent :
      connection.isClosed = false →
        connection.parting = none →
          P (offline connection.shut.bare))
    (hAnswered :
      ∀ transport request answer,
        connection.isClosed = false →
          connection.parting = some (transport, request) →
            world.immediate request = some answer →
              P
                (offline
                  (connection.shut.record
                    (.asked transport request)).bare))
    (hLeft :
      ∀ transport request,
        connection.isClosed = false →
          connection.parting = some (transport, request) →
            world.immediate request = none →
              P
                (connection.shut.record
                  (.asked transport request))) :
    P (connection.closeNow world offline) := by
  unfold closeNow
  cases hState : connection.isClosed with
  | true =>
      rw [if_pos rfl]
      exact hClosed hState
  | false =>
      rw [if_neg (by simp)]
      cases hParting : connection.parting with
      | none =>
          have hFarewell :=
            farewell_of_parting_eq_none hParting
          dsimp only
          split
          · rename_i transport request hSent
            exact absurd hSent (hFarewell _)
          · exact hSilent hState hParting
      | some sending =>
          rcases sending with ⟨transport, request⟩
          rw [farewell_of_parting_eq_some hParting]
          dsimp only
          cases hAnswer : world.immediate request with
          | none =>
              exact hLeft transport request hState hParting
                hAnswer
          | some answer =>
              exact hAnswered transport request answer hState
                hParting hAnswer

------------------------------------------------------------
-- Going Offline
------------------------------------------------------------

/- A connection that stays offline is offline. -/
theorem isOffline_stayOffline (connection : Connection) :
    connection.stayOffline.session.IsOffline :=
  ⟨rfl, rfl, rfl⟩

/- Nobody is told when the flag is down already. -/
theorem goOffline_of_down
    {world : World}
    {connection : Connection}
    (hDown : connection.session.isConnected = false) :
    connection.goOffline world = connection.stayOffline := by
  simp [goOffline, setConnected, Session.change?, hDown,
    stayOffline]

/- Everyone is told when the flag was up. -/
theorem goOffline_of_up
    {world : World}
    {connection : Connection}
    (hUp : connection.session.isConnected = true) :
    connection.goOffline world =
      connection.stayOffline.announce
        (closeNow world stayOffline) ⟨true, false⟩ := by
  simp [goOffline, setConnected, Session.change?, hUp,
    stayOffline]

/-
  A connection has come to be offline. Listeners may have
  scheduled an attempt, or closed the connection.
-/
structure Fallen (before after : Connection) : Prop where
  isHeld : after.isHeld = before.isHeld
  tasks : before.tasks.Grows after.tasks
  offline : after.session.IsOffline
  closed : before.isClosed = true → after.isClosed = true
  connect :
    after.isClosed = false →
      after.session.connect = before.session.connect ∨
        ∃ id,
          after.session.connect = some id ∧
            before.tasks.task? id = none

/-
  What going offline comes to: nothing is requested, and the
  transport is gone exactly if the connection was closed on
  the way.
-/
structure Lowered (before after : Connection) : Prop
    extends before.Fallen after where
  transport :
    after.session.transport =
      if after.isClosed = before.isClosed then
        before.session.transport
      else
        none
  requests : after.requests = before.requests
  silent :
    before.session.isConnected = false →
      after.isClosed = before.isClosed ∧
        after.news = before.news

theorem lowered_stayOffline (connection : Connection) :
    connection.Lowered connection.stayOffline where
  isHeld := rfl
  tasks := .refl _
  offline := connection.isOffline_stayOffline
  closed := id
  connect _ := Or.inl rfl
  transport := (if_pos rfl).symm
  requests := rfl
  silent _ := ⟨rfl, rfl⟩

/- Scheduling an attempt leaves a connection offline. -/
theorem Fallen.scheduleConnect
    {before after : Connection}
    (h : before.Fallen after) :
    before.Fallen after.scheduleConnect := by
  have hConnect :
      after.isClosed = false →
        after.scheduleConnect.session.connect =
          some after.tasks.nextId := fun hOpen =>
    connect_scheduleConnect hOpen
  have hRearranges := after.rearranges_scheduleConnect
  generalize after.scheduleConnect = later
    at hConnect hRearranges
  cases hRearranges with
  | intro tasks connect check journal hTasks hRequests hNews =>
      exact
        { isHeld := h.isHeld
          tasks := h.tasks.trans hTasks
          offline :=
            ⟨h.offline.flag, h.offline.url, h.offline.state⟩
          closed := h.closed
          connect := fun hOpen =>
            Or.inr
              ⟨after.tasks.nextId, hConnect hOpen,
                h.tasks.task?_eq_none
                  (Scheduler.task?_nextId _)⟩ }

theorem Lowered.scheduleConnect
    {before after : Connection}
    (h : before.Lowered after) :
    before.Lowered after.scheduleConnect := by
  have hFallen := h.toFallen.scheduleConnect
  have hRearranges := after.rearranges_scheduleConnect
  generalize after.scheduleConnect = later
    at hFallen hRearranges
  cases hRearranges with
  | intro tasks connect check journal hTasks hRequests hNews =>
      exact
        { hFallen with
          transport := h.transport
          requests := hRequests.trans h.requests
          silent := fun hDown =>
            ⟨(h.silent hDown).1,
              hNews.trans (h.silent hDown).2⟩ }

/- A connection that is offline has nothing to take back. -/
theorem parting_of_isOffline
    {connection : Connection}
    (hOffline : connection.session.IsOffline) :
    connection.parting = none := by
  simp [parting, hOffline.url]

/- So a closing ends at once, and the transport is gone. -/
theorem Lowered.shut
    {before after : Connection}
    (h : before.Lowered after)
    (hUp : before.session.isConnected = true)
    (hOpen : after.isClosed = false) :
    before.Lowered after.shut.bare.stayOffline where
  isHeld := h.isHeld
  tasks :=
    h.tasks.trans (grows_clearSlots after)
  offline := isOffline_stayOffline _
  closed _ := rfl
  transport := by
    have hBefore : before.isClosed = false := by
      cases hState : before.isClosed with
      | false => rfl
      | true =>
          rw [h.closed hState] at hOpen
          cases hOpen
    change none = _
    rw [hBefore]
    rfl
  connect hState := by cases hState
  requests := h.requests
  silent hDown := by
    rw [hUp] at hDown
    cases hDown

/- Whatever listeners do, the connection has gone offline. -/
theorem steadfast_lowered
    {before : Connection}
    (hUp : before.session.isConnected = true) :
    Steadfast before.Lowered where
  note hNotes h := by
    cases hNotes with
    | intro registry names closings journal hRequests =>
        exact
          { isHeld := h.isHeld
            tasks := h.tasks
            offline := h.offline
            closed := h.closed
            connect := h.connect
            transport := h.transport
            requests := hRequests.trans h.requests
            silent := fun hDown => by
              rw [hUp] at hDown
              cases hDown }
  start _ h := h.scheduleConnect

theorem lowered_goOffline
    (world : World)
    (connection : Connection) :
    connection.Lowered (connection.goOffline world) := by
  cases hFlag : connection.session.isConnected with
  | false =>
      rw [goOffline_of_down hFlag]
      exact connection.lowered_stayOffline
  | true =>
      rw [goOffline_of_up hFlag]
      apply (steadfast_lowered hFlag).announce
      · intro current hCurrent
        apply closeNow_cases
        · exact fun _ => hCurrent
        · exact fun hOpen _ => hCurrent.shut hFlag hOpen
        · intro transport request answer _ hParting
          rw [parting_of_isOffline hCurrent.offline]
            at hParting
          cases hParting
        · intro transport request _ hParting
          rw [parting_of_isOffline hCurrent.offline]
            at hParting
          cases hParting
      · exact connection.lowered_stayOffline

/- What the end of a closing comes to. -/
structure Ended (before after : Connection) : Prop where
  isHeld : after.isHeld = before.isHeld
  tasks : before.tasks.Grows after.tasks
  offline : after.session.IsOffline
  closed : before.isClosed = true → after.isClosed = true
  transport : after.session.transport = none
  requests : after.requests = before.requests

theorem ended_endClose
    (world : World)
    (connection : Connection) :
    connection.Ended
      (connection.endClose (goOffline world)) := by
  have hLowered := lowered_goOffline world connection.bare
  rw [endClose_eq]
  exact
    { isHeld := hLowered.isHeld
      tasks := (Slot.grows_release _ _).trans hLowered.tasks
      offline := hLowered.offline
      closed := hLowered.closed
      transport := by
        rw [hLowered.transport]
        split
        · rfl
        · rfl
      requests := hLowered.requests }

------------------------------------------------------------
-- Going Online
------------------------------------------------------------

/- The requests of a parting. -/
def partingRequests (connection : Connection) :
    List Http.Request :=
  connection.parting.toList.map Prod.snd

/-
  What going online comes to for an open connection. If it is
  still open, it is online as it was offline; listeners may
  have scheduled an attempt. If a listener has closed it, the
  closing has sent its farewell and, if that was answered,
  has taken the transport away.
-/
structure Raised
    (world : World)
    (before after : Connection) : Prop where
  config :
    after.isClosed = false → after.config = before.config
  isHeld : after.isHeld = before.isHeld
  tasks : before.tasks.Grows after.tasks
  flag :
    after.isClosed = false →
      after.session.isConnected = true
  url :
    after.isClosed = false →
      after.session.callbackUrl = before.session.callbackUrl
  transport :
    after.isClosed = false →
      after.session.transport = before.session.transport
  connect :
    after.isClosed = false →
      after.session.connect = before.session.connect ∨
        ∃ id,
          after.session.connect = some id ∧
            before.tasks.task? id = none
  requests :
    after.requests =
      before.requests ++
        if after.isClosed then
          before.partingRequests
        else
          []
  bare :
    after.isClosed = true →
      (∀ request ∈ before.partingRequests,
        world.immediate request ≠ none) →
          after.session.transport = none

/- A parting depends on three things alone. -/
theorem parting_congr
    {before after : Connection}
    (hConfig : after.config = before.config)
    (hUrl :
      after.session.callbackUrl = before.session.callbackUrl)
    (hTransport :
      after.session.transport = before.session.transport) :
    after.parting = before.parting := by
  unfold parting registrar
  rw [hConfig, hUrl, hTransport]

/- Raising the flag, before anyone is told. -/
theorem raised_setConnected
    {world : World}
    {connection : Connection}
    (hOpen : connection.isClosed = false) :
    connection.Raised world
      { connection with
        session := connection.session.setConnected true } where
  config _ := rfl
  isHeld := rfl
  tasks := .refl _
  flag _ := rfl
  url _ := rfl
  transport _ := rfl
  connect _ := Or.inl rfl
  requests := by
    change connection.requests = _
    simp [hOpen]
  bare hClosed := by
    rw [hOpen] at hClosed
    cases hClosed

/- Scheduling an attempt changes nothing else. -/
theorem Raised.scheduleConnect
    {world : World}
    {before after : Connection}
    (h : before.Raised world after)
    (hOpen : after.isClosed = false) :
    before.Raised world after.scheduleConnect := by
  have hConnect := connect_scheduleConnect hOpen
  have hRearranges := after.rearranges_scheduleConnect
  generalize after.scheduleConnect = later
    at hConnect hRearranges
  cases hRearranges with
  | intro tasks connect check journal hTasks hRequests hNews =>
      exact
        { config := h.config
          isHeld := h.isHeld
          tasks := h.tasks.trans hTasks
          flag := h.flag
          url := h.url
          transport := h.transport
          connect := fun _ =>
            Or.inr
              ⟨after.tasks.nextId, hConnect,
                h.tasks.task?_eq_none
                  (Scheduler.task?_nextId _)⟩
          requests := hRequests.trans h.requests
          bare := h.bare }

/-
  A closing that ends at once: it has sent its farewell, and
  going offline finds no transport and no URL.
-/
theorem Raised.endClose
    {world : World}
    {before after : Connection}
    (h : before.Raised world after)
    (journal : List (Millis × Effect))
    (hRequests :
      (journal.filterMap fun entry => entry.2.request?) =
        before.requests ++ before.partingRequests) :
    before.Raised world
      (Connection.endClose (goOffline world)
        { after.shut with journal := journal }) := by
  have hEnded :=
    ended_endClose world { after.shut with journal := journal }
  have hClosed := hEnded.closed rfl
  have hNever :
      (Connection.endClose (goOffline world)
        { after.shut with journal := journal }).isClosed ≠
          false := by
    rw [hClosed]
    simp
  exact
    { config := fun hState => absurd hState hNever
      isHeld := hEnded.isHeld.trans h.isHeld
      tasks :=
        (h.tasks.trans (grows_clearSlots after)).trans
          hEnded.tasks
      flag := fun hState => absurd hState hNever
      url := fun hState => absurd hState hNever
      transport := fun hState => absurd hState hNever
      connect := fun hState => absurd hState hNever
      requests := by
        rw [hClosed, if_pos rfl]
        exact hEnded.requests.trans hRequests
      bare := fun _ _ => hEnded.transport }

/- A closing on the spot, whatever the brain answers. -/
theorem Raised.closeNow
    {world : World}
    {before after : Connection}
    (h : before.Raised world after) :
    before.Raised world
      (after.closeNow world (goOffline world)) := by
  have hSame :
      after.isClosed = false →
        after.parting = before.parting := fun hOpen =>
    parting_congr
      (h.config hOpen) (h.url hOpen) (h.transport hOpen)
  have hSent :
      after.isClosed = false →
        after.requests = before.requests := by
    intro hOpen
    have hRequests := h.requests
    rw [hOpen] at hRequests
    simpa using hRequests
  apply closeNow_cases
  · exact fun _ => h
  · intro hOpen hParting
    rw [hSame hOpen] at hParting
    apply h.endClose after.journal
    rw [partingRequests, hParting]
    exact (hSent hOpen).trans (List.append_nil _).symm
  · intro transport request answer hOpen hParting _
    rw [hSame hOpen] at hParting
    apply h.endClose
    rw [partingRequests, hParting, ← hSent hOpen]
    exact after.shut.requests_record
      (.asked transport request)
  · intro transport request hOpen hParting hNone
    rw [hSame hOpen] at hParting
    exact
      { config := fun hState => by cases hState
        isHeld := h.isHeld
        tasks :=
          h.tasks.trans (grows_clearSlots after)
        flag := fun hState => by cases hState
        url := fun hState => by cases hState
        transport := fun hState => by cases hState
        connect := fun hState => by cases hState
        requests := by
          rw [partingRequests, hParting, ← hSent hOpen]
          exact after.shut.requests_record
            (.asked transport request)
        bare := fun _ hAnswered => by
          rw [partingRequests, hParting] at hAnswered
          exact absurd hNone (hAnswered request (by simp)) }

theorem steadfast_raised
    (world : World)
    (before : Connection) :
    Steadfast (before.Raised world) where
  note hNotes h := by
    cases hNotes with
    | intro registry names closings journal hRequests =>
        exact
          { config := h.config
            isHeld := h.isHeld
            tasks := h.tasks
            flag := h.flag
            url := h.url
            transport := h.transport
            connect := h.connect
            requests := hRequests.trans h.requests
            bare := h.bare }
  start hOpen h := h.scheduleConnect hOpen

theorem raised_goOnline
    {world : World}
    {connection : Connection}
    (hDown : connection.session.isConnected = false)
    (hOpen : connection.isClosed = false) :
    connection.Raised world (connection.goOnline world) := by
  have hOnline :
      connection.goOnline world =
        announce (closeNow world (goOffline world))
          ⟨false, true⟩
          { connection with
            session :=
              connection.session.setConnected true } := by
    simp [goOnline, setConnected, Session.change?, hDown]
  rw [hOnline]
  apply (steadfast_raised world connection).announce
  · exact fun current hCurrent => hCurrent.closeNow
  · exact raised_setConnected hOpen

------------------------------------------------------------
-- Enduring Properties
------------------------------------------------------------

/-
  A property that outlasts a closing too, so that it survives
  all that listeners can do.
-/
structure Enduring (P : Connection → Prop) : Prop
    extends Steadfast P where
  shut : ∀ {connection}, P connection → P connection.shut
  asked :
    ∀ {connection} transport request,
      P connection →
        P (connection.record (.asked transport request))
  bare : ∀ {connection}, P connection → P connection.bare
  stays :
    ∀ {connection}, P connection → P connection.stayOffline

section Enduring

variable {P : Connection → Prop}
variable {connection : Connection}

theorem Enduring.closeNow
    (hP : Enduring P)
    {offline : Connection → Connection}
    (hOffline : ∀ other, P other → P (offline other))
    (world : World)
    (h : P connection) :
    P (connection.closeNow world offline) := by
  apply closeNow_cases
  · exact fun _ => h
  · exact fun _ _ => hOffline _ (hP.bare (hP.shut h))
  · intro transport request _ _ _ _
    apply hOffline
    exact hP.bare (hP.asked transport request (hP.shut h))
  · intro transport request _ _ _
    exact hP.asked transport request (hP.shut h)

theorem Enduring.goOffline
    (hP : Enduring P)
    (world : World)
    (h : P connection) :
    P (connection.goOffline world) := by
  cases hFlag : connection.session.isConnected with
  | false =>
      rw [goOffline_of_down hFlag]
      exact hP.stays h
  | true =>
      rw [goOffline_of_up hFlag]
      apply hP.announce
      · intro current hCurrent
        exact
          hP.closeNow (fun _ hOther => hP.stays hOther) world
            hCurrent
      · exact hP.stays h

/- To go online, it must bear that the flag is raised. -/
theorem Enduring.goOnline
    (hP : Enduring P)
    (world : World)
    (h :
      P
        { connection with
          session := connection.session.setConnected true }) :
    P (connection.goOnline world) := by
  unfold Connection.goOnline Connection.setConnected
  dsimp only
  split
  · exact h
  · apply hP.announce
    · intro current hCurrent
      exact
        hP.closeNow (fun _ hOther => hP.goOffline world hOther)
          world hCurrent
    · exact h

end Enduring

end Connection

end BrainLink
