import BrainLink.Proofs.Soundness

/-
  How a connection that is online knows the URL under which
  it is registered, and when it does not.

  Key definitions include:
    * `Situation.registrants`
    * `robbed`
    * `undermined`
    * `Situation.UrlGoneIff`
    * `Situation.KeepsUrlGoneIff`

  Main statements:
    * `Situation.Sound.keepsUrlGoneIff_of_turn`
    * `urlGoneIff_replay`
    * `url_known_unless_undermined`

  An attempt names its URL, has it registered, and comes
  online with the URL that the session knows by then. Another
  attempt that ends between the registration and that moment
  takes the URL away. The first one does not look again.
-/

namespace BrainLink

------------------------------------------------------------
-- Histories
------------------------------------------------------------

/- An attempt that has asked to be registered. -/
def Question.registrant? : Question → Option TaskId
| .asking _ (.registering task _) => some task
| .asking _ (.fetchingKeys task _) => some task
| _ => none

/- The attempt that is answered. -/
def Occurrence.attempt? : Occurrence → Option TaskId
| .answer _ _ errand _ => errand.attempt?
| _ => none

namespace Situation

/- The attempts that have asked to be registered. -/
def registrants (situation : Situation) : List TaskId :=
  situation.waiting.filterMap Question.registrant?

/- Whether an attempt other than a given one has ended. -/
def losesOther
    (before after : Situation)
    (task : TaskId) :
    Bool :=
  before.attempts.any fun other =>
    other != task && !after.attempts.contains other

/-
  Whether another attempt has ended since one has asked to be
  registered.
-/
def robsNext
    (before after : Situation)
    (robs : TaskId → Bool)
    (task : TaskId) :
    Bool :=
  before.registrants.contains task &&
    (before.losesOther after task || robs task)

/- Whether this was so when the connection came online last. -/
def underminesNext
    (before after : Situation)
    (occurrence : Occurrence)
    (robs : TaskId → Bool)
    (undermines : Bool) :
    Bool :=
  if before.comesOnline after then
    occurrence.attempt?.any robs
  else
    undermines

end Situation

/- In the course of a connection, the attempts that lost. -/
def robbed (connection : Connection) :
    List Occurrence → TaskId → Bool
| [], _ => false
| occurrence :: past, task =>
    (replay connection past).robsNext
      (replay connection (occurrence :: past))
      (robbed connection past)
      task

/- And the one that came online last. -/
def undermined (connection : Connection) :
    List Occurrence → Bool
| [] => false
| occurrence :: past =>
    (replay connection past).underminesNext
      (replay connection (occurrence :: past))
      occurrence
      (robbed connection past)
      (undermined connection past)

------------------------------------------------------------
-- Retention
------------------------------------------------------------

namespace Situation

/-
  An attempt that has asked to be registered, and was not
  cancelled, finds the URL gone exactly if it was robbed. So
  does a connection that is online exactly if its attempt was.
-/
structure UrlGoneIff
    (situation : Situation)
    (robs : TaskId → Bool)
    (undermines : Bool) : Prop where
  registrant :
    ∀ task ∈ situation.registrants,
      situation.connection.isCancelled task = false →
        (situation.connection.session.callbackUrl = none ↔
          robs task = true)
  online :
    situation.connection.session.isConnected = true →
      (situation.connection.session.callbackUrl = none ↔
        undermines = true)

theorem attempt?_of_registrant?
    {question : Question}
    {task : TaskId}
    (hRegistrant : question.registrant? = some task) :
    question.attempt? = some task := by
  cases question with
  | probing other => cases hRegistrant
  | asking request errand =>
      cases errand with
      | registering other transport => exact hRegistrant
      | fetchingKeys other transport => exact hRegistrant
      | _ => cases hRegistrant

/- Who has asked to be registered awaits an answer. -/
theorem mem_attempts_of_registrants
    {situation : Situation}
    {task : TaskId}
    (hMember : task ∈ situation.registrants) :
    task ∈ situation.attempts := by
  rcases List.mem_filterMap.mp hMember with
    ⟨question, hQuestion, hRegistrant⟩
  exact
    mem_attempts hQuestion (attempt?_of_registrant? hRegistrant)

section Turns

variable {config : Config}
variable {before after : Situation}
variable {occurrence : Occurrence}
variable {robs : TaskId → Bool}
variable {undermines : Bool}

/- Where no attempt ends, nobody is robbed. -/
theorem losesOther_of_perm
    (hAttempts : after.attempts.Perm before.attempts)
    (task : TaskId) :
    before.losesOther after task = false := by
  unfold losesOther
  rw [List.any_eq_false]
  intro other hMember
  have hStill : other ∈ after.attempts :=
    hAttempts.mem_iff.mpr hMember
  simp [hStill]

/- Where one ends, all the others are. -/
theorem losesOther_of_mem
    {task other : TaskId}
    (hMember : other ∈ before.attempts)
    (hGone : other ∉ after.attempts)
    (hOther : other ≠ task) :
    before.losesOther after task = true := by
  unfold losesOther
  rw [List.any_eq_true]
  exact ⟨other, hMember, by simp [hGone, hOther]⟩

/- Who is registered already stays robbed or not. -/
theorem robsNext_of_perm
    {task : TaskId}
    (hAttempts : after.attempts.Perm before.attempts)
    (hMember : task ∈ before.registrants) :
    before.robsNext after robs task = robs task := by
  unfold robsNext
  rw [losesOther_of_perm hAttempts]
  simp [hMember]

/- Whose registration is new was not robbed. -/
theorem robsNext_of_not_mem
    {task : TaskId}
    (hMember : task ∉ before.registrants) :
    before.robsNext after robs task = false := by
  unfold robsNext
  simp [hMember]

/- A flag that is not raised leaves the last rise as it was. -/
theorem underminesNext_of_flag
    (hFlag :
      before.connection.session.isConnected = false →
        after.connection.session.isConnected = false) :
    before.underminesNext after occurrence robs undermines =
      undermines := by
  unfold underminesNext comesOnline
  cases hBefore : before.connection.session.isConnected with
  | true => rfl
  | false =>
      rw [hFlag hBefore]
      rfl

/- A session that has its flag and URL still accounts for it. -/
theorem UrlGoneIff.online_of_same
    (hGoneIff : before.UrlGoneIff robs undermines)
    (hFlag :
      after.connection.session.isConnected =
        before.connection.session.isConnected)
    (hUrl :
      after.connection.session.callbackUrl =
        before.connection.session.callbackUrl) :
    after.connection.session.isConnected = true →
      (after.connection.session.callbackUrl = none ↔
        before.underminesNext after occurrence robs
            undermines =
          true) := by
  rw [underminesNext_of_flag hFlag.trans, hFlag, hUrl]
  exact hGoneIff.online

/- One that is offline has nothing to account for. -/
theorem online_of_isOffline
    {session : Session}
    {property : Prop}
    (hOffline : session.IsOffline) :
    session.isConnected = true → property := by
  intro hUp
  rw [hOffline.flag] at hUp
  cases hUp

/- A slot with a fresh attempt, or none, holds no known one. -/
theorem vacant_of_fresh
    {tasks : Scheduler Job}
    {later : Connection}
    {task : TaskId}
    (hTidy : later.Tidy config)
    (hKnown : tasks.task? task ≠ none)
    (hFresh :
      later.isClosed = false →
        ∃ id,
          later.session.connect = some id ∧
            tasks.task? id = none) :
    later.session.connect ≠ some task := by
  intro hSlot
  cases hClosed : later.isClosed with
  | true =>
      have hNone := hTidy.hushed hClosed .connect
      change later.session.connect = none at hNone
      rw [hSlot] at hNone
      cases hNone
  | false =>
      rcases hFresh hClosed with ⟨id, hOther, hNone⟩
      rw [hSlot] at hOther
      cases hOther
      exact hKnown hNone

/- What asked before is known. -/
theorem Sound.known_of_registrants
    (h : before.Sound config)
    {task : TaskId}
    (hMember : task ∈ before.registrants) :
    before.connection.tasks.task? task ≠ none := by
  rcases h.crew.known task
      (mem_attempts_of_registrants hMember) with
    ⟨known, hKnown, -⟩
  simp [hKnown]

/-
  Nobody who asked to be registered is left uncancelled, as
  the slot holds none of them.
-/
theorem Sound.urlGoneIff_of_vacant
    (hAfter : after.Sound config)
    (hVacant :
      ∀ task ∈ after.registrants,
        after.connection.session.connect ≠ some task)
    (hOnline :
      after.connection.session.isConnected = true →
        (after.connection.session.callbackUrl = none ↔
          undermines = true)) :
    after.UrlGoneIff robs undermines where
  registrant task hMember hCalm := by
    have hEngaged :=
      hAfter.engaged (mem_attempts_of_registrants hMember)
    exact absurd (hEngaged.connect hCalm) (hVacant task hMember)
  online := hOnline

/- Nothing has happened. -/
theorem Sound.urlGoneIff_of_idles
    (hIdles : before.Idles after)
    (hGoneIff : before.UrlGoneIff robs undermines) :
    after.UrlGoneIff (before.robsNext after robs) undermines := by
  have hSession := hIdles.connection.session
  refine ⟨?_, ?_⟩
  · intro task hMember hCalm
    have hBefore : task ∈ before.registrants := by
      rcases List.mem_filterMap.mp hMember with
        ⟨question, hQuestion, hRegistrant⟩
      have hMarked : question.IsMarked :=
        Or.inl
          (by simp [attempt?_of_registrant? hRegistrant])
      exact
        List.mem_filterMap.mpr
          ⟨question,
            (hIdles.marked question hMarked).mp hQuestion,
            hRegistrant⟩
    rw [hSession, robsNext_of_perm hIdles.attempts hBefore]
    apply hGoneIff.registrant task hBefore
    exact
      (hIdles.connection.tasks.isCancelled task).symm.trans
        hCalm
  · rw [hSession]
    exact hGoneIff.online

/-
  An attempt has ended and left the connection offline. All
  that still wait for it are robbed.
-/
theorem Sound.urlGoneIff_of_fallen
    (h : before.Sound config)
    {question : Question}
    {task : TaskId}
    {later : Connection}
    (hMember : question ∈ before.waiting)
    (hAttempt : question.attempt? = some task)
    (hOffline : later.session.IsOffline) :
    UrlGoneIff ⟨later, before.waiting.erase question⟩
      (before.robsNext
        ⟨later, before.waiting.erase question⟩ robs)
      undermines where
  registrant other hOther _ := by
    have hPerm := perm_erase_some hMember hAttempt
    have hSingle := hPerm.nodup_iff.mpr h.crew.single
    have hGone := (List.nodup_cons.mp hSingle).1
    have hNot : task ≠ other := by
      intro hSame
      rw [hSame] at hGone
      exact hGone (mem_attempts_of_registrants hOther)
    have hBefore : other ∈ before.registrants := by
      rcases List.mem_filterMap.mp hOther with
        ⟨asked, hAsked, hRegistrant⟩
      exact
        List.mem_filterMap.mpr
          ⟨asked, List.mem_of_mem_erase hAsked, hRegistrant⟩
    have hLoses :
        before.losesOther
            ⟨later, before.waiting.erase question⟩ other =
          true :=
      losesOther_of_mem (mem_attempts hMember hAttempt) hGone
        hNot
    have hRobbed :
        before.robsNext
            ⟨later, before.waiting.erase question⟩ robs other =
          true := by
      unfold robsNext
      rw [hLoses]
      simp [hBefore]
    rw [hRobbed]
    exact ⟨fun _ => rfl, fun _ => hOffline.url⟩
  online := online_of_isOffline hOffline

/-
  An attempt asks again. It had asked to be registered before,
  or does so now and knows its URL.
-/
theorem Sound.urlGoneIff_of_keeps
    {question : Question}
    {task : TaskId}
    {later : Connection}
    {request : Http.Request}
    {errand : Errand}
    (hMember : question ∈ before.waiting)
    (hAttempt : question.attempt? = some task)
    (hErrand : errand.attempt? = some task)
    (hKeeps : before.connection.Keeps later)
    (hAsker :
      task ∈ before.registrants ∨
        task ∉ before.registrants ∧
          before.connection.session.callbackUrl ≠ none)
    (hGoneIff : before.UrlGoneIff robs undermines) :
    UrlGoneIff
      ⟨later,
        .asking request errand ::
          before.waiting.erase question⟩
      (before.robsNext
        ⟨later,
          .asking request errand ::
            before.waiting.erase question⟩
        robs)
      undermines := by
  have hAsked := Question.attempt?_asking hErrand request
  have hPerm :
      (attempts
          ⟨later,
            .asking request errand ::
              before.waiting.erase question⟩).Perm
        before.attempts := by
    unfold attempts
    rw [List.filterMap_cons, hAsked]
    exact perm_erase_some hMember hAttempt
  have hUrl := hKeeps.url
  refine ⟨?_, ?_⟩
  · intro other hOther hCalm
    have hBeforeCalm :
        before.connection.isCancelled other = false := by
      apply eq_false_of_ne_true
      intro hCancelled
      have hLater := hKeeps.tasks.isCancelled hCancelled
      change later.isCancelled other = true at hLater
      rw [show later.isCancelled other = false from hCalm]
        at hLater
      cases hLater
    change later.session.callbackUrl = none ↔ _
    rw [hUrl]
    by_cases hBefore : other ∈ before.registrants
    · rw [robsNext_of_perm hPerm hBefore]
      exact hGoneIff.registrant other hBefore hBeforeCalm
    · rw [robsNext_of_not_mem hBefore]
      have hSame : other = task := by
        rcases List.mem_filterMap.mp hOther with
          ⟨asked, hIn, hRegistrant⟩
        rcases List.mem_cons.mp hIn with rfl | hOld
        · have hEq := attempt?_of_registrant? hRegistrant
          rw [hAsked] at hEq
          cases hEq
          rfl
        · have hStill : other ∈ before.registrants :=
            List.mem_filterMap.mpr
              ⟨asked, List.mem_of_mem_erase hOld, hRegistrant⟩
          exact absurd hStill hBefore
      rcases hAsker with hAsker | ⟨-, hNamed⟩
      · rw [hSame] at hBefore
        exact absurd hAsker hBefore
      · simp [hNamed]
  · intro hUp
    change later.session.callbackUrl = none ↔ _
    rw [hUrl]
    apply hGoneIff.online
    rw [← hKeeps.flag]
    exact hUp

/- An attempt that awaits something else has not asked yet. -/
theorem Sound.not_mem_registrants
    (h : before.Sound config)
    {question : Question}
    {task : TaskId}
    (hMember : question ∈ before.waiting)
    (hAttempt : question.attempt? = some task)
    (hRegistrant : question.registrant? = none) :
    task ∉ before.registrants := by
  intro hAsker
  have hRest := perm_erase_none hMember hRegistrant
  have hPerm := perm_erase_some hMember hAttempt
  have hSingle := hPerm.nodup_iff.mpr h.crew.single
  have hGone := (List.nodup_cons.mp hSingle).1
  have hStill := hRest.mem_iff.mpr hAsker
  rcases List.mem_filterMap.mp hStill with
    ⟨asked, hAsked, hOther⟩
  exact
    hGone
      (List.mem_filterMap.mpr
        ⟨asked, hAsked, attempt?_of_registrant? hOther⟩)

/- The slot of a closed connection holds none of them. -/
theorem Sound.urlGoneIff_of_isClosed
    (hAfter : after.Sound config)
    (hClosed : after.connection.isClosed = true)
    (hOnline :
      after.connection.session.isConnected = true →
        (after.connection.session.callbackUrl = none ↔
          undermines = true)) :
    after.UrlGoneIff robs undermines := by
  apply hAfter.urlGoneIff_of_vacant _ hOnline
  intro task _ hSlot
  have hNone := hAfter.tidy.hushed hClosed .connect
  cases hSlot.symm.trans hNone

/-
  What is asked of a turn: what is known of the URL before is
  known afterwards, with those who have lost it meanwhile.
-/
def KeepsUrlGoneIff
    (before : Situation)
    (occurrence : Occurrence)
    (after : Situation) : Prop :=
  ∀ robs undermines,
    before.UrlGoneIff robs undermines →
      after.UrlGoneIff
        (before.robsNext after robs)
        (before.underminesNext after occurrence robs undermines)

/- A new attempt takes the slot. -/
theorem Sound.keepsUrlGoneIff_scheduleConnect
    (h : before.Sound config)
    (hAfter :
      Sound config
        ⟨before.connection.scheduleConnect, before.waiting⟩)
    (hOpen : before.connection.isClosed = false) :
    before.KeepsUrlGoneIff .start
      ⟨before.connection.scheduleConnect, before.waiting⟩ := by
  intro robs undermines hGoneIff
  have hRearranges :=
    before.connection.rearranges_scheduleConnect
  have hSlot := Connection.connect_scheduleConnect hOpen
  generalize before.connection.scheduleConnect = later
    at hAfter hRearranges hSlot ⊢
  cases hRearranges with
  | intro tasks connect check journal hTasks hRequests hNews =>
      apply hAfter.urlGoneIff_of_vacant
      · intro task hMember
        apply
          vacant_of_fresh hAfter.tidy
            (h.known_of_registrants hMember)
        exact fun _ => ⟨_, hSlot, Scheduler.task?_nextId _⟩
      · exact hGoneIff.online_of_same rfl rfl

/- An attempt begins that holds the slot, or has left it. -/
theorem Sound.keepsUrlGoneIff_of_opening
    (h : before.Sound config)
    {world : World}
    {task : TaskId}
    {known : Task Job}
    {result : Connection × Progress}
    (hAfter :
      Sound config (proceed before.waiting (some task) result))
    (hTask : before.connection.tasks.task? task = some known)
    (hJob : known.job = .connect)
    (hLive : known.isLive = true)
    (hResult : result.1.Tidy config)
    (hOpening :
      { before.connection with
        tasks :=
          before.connection.tasks.beginRun task }.Opening
        world task result) :
    before.KeepsUrlGoneIff (.run world task)
      (proceed before.waiting (some task) result) := by
  intro robs undermines _
  have hSuits := h.tidy.ledger.suits task known hTask
  rcases h.crew.not_mem_of_isLive hTask hSuits hJob hLive with
    ⟨hFlag, hFree⟩
  have hHeld : before.connection.session.connect = some task :=
    h.tidy.connect_of_calm hTask hJob
      ((Scheduler.isCancelled_of_task? hTask).trans hFlag)
  have hOther : ∀ other ∈ before.registrants, task ≠ other := by
    intro other hOther hSame
    rw [hSame] at hFree
    exact hFree (mem_attempts_of_registrants hOther)
  cases hOpening with
  | asks later request transport hHolds hOpen hTasks hCalm hDown
      hUrl =>
      have hSlot : later.session.connect = some task :=
        (hAfter.engaged
          (mem_attempts (List.mem_cons_self ..) rfl)).connect
          hCalm
      apply hAfter.urlGoneIff_of_vacant
      · intro other hMember hSame
        have hEq : task = other := by
          cases hSlot.symm.trans hSame
          rfl
        exact hOther other hMember hEq
      · intro hUp
        cases hDown.symm.trans hUp
  | falls later hFallen hRenewed hRequests hTransport =>
      apply hAfter.urlGoneIff_of_vacant
      · intro other hMember hSame
        have hBefore : other ∈ before.registrants := hMember
        have hKnown := h.known_of_registrants hBefore
        rcases Option.ne_none_iff_exists'.mp hKnown with
          ⟨there, hThere⟩
        rcases Scheduler.exists_task?_update
            Scheduler.restages_beginRun task hThere with
          ⟨stage, hBegun⟩
        cases hClosed : later.isClosed with
        | true =>
            have hNone := hResult.hushed hClosed .connect
            cases hSame.symm.trans hNone
        | false =>
            rcases hFallen.connect hClosed with
              hStill | ⟨id, hSlot, hNone⟩
            · have hEq : task = other := by
                cases (hStill.trans hHeld).symm.trans hSame
                rfl
              exact hOther other hBefore hEq
            · cases hSlot.symm.trans hSame
              cases hBegun.symm.trans hNone
      · exact online_of_isOffline hFallen.offline

/- An attempt comes online with what it finds of the URL. -/
theorem Sound.keepsUrlGoneIff_of_risen
    (h : before.Sound config)
    {world : World}
    {request : Http.Request}
    {answer : Http.Answer}
    {task : TaskId}
    {transport : TransportId}
    {later : Connection}
    (hAfter :
      Sound config
        (proceed
          (before.waiting.erase
            (.asking request (.fetchingKeys task transport)))
          (some task)
          (later, .over)))
    (hMember :
      .asking request (.fetchingKeys task transport) ∈
        before.waiting)
    (hCalm : before.connection.isCancelled task = false)
    (hRisen : before.connection.Risen later) :
    before.KeepsUrlGoneIff
      (.answer world request (.fetchingKeys task transport)
        answer)
      (proceed
        (before.waiting.erase
          (.asking request (.fetchingKeys task transport)))
        (some task)
        (later, .over)) := by
  intro robs undermines hGoneIff
  have hAsked :
      (Question.asking request
            (.fetchingKeys task transport)).attempt? =
        some task :=
    rfl
  have hIn := mem_attempts hMember hAsked
  have hHeld := (h.engaged hIn).connect hCalm
  have hDown := h.down task hIn hCalm
  have hPerm := perm_erase_some hMember hAsked
  have hSingle := hPerm.nodup_iff.mpr h.crew.single
  have hGone := (List.nodup_cons.mp hSingle).1
  apply hAfter.urlGoneIff_of_vacant
  · intro another hOther hSame
    have hSlot := hRisen.connect.trans hHeld
    have hEq : task = another := by
      cases hSlot.symm.trans hSame
      rfl
    have hThere := mem_attempts_of_registrants hOther
    rw [← hEq] at hThere
    exact hGone hThere
  · intro _
    have hRises :
        before.comesOnline
            (proceed
              (before.waiting.erase
                (.asking request
                  (.fetchingKeys task transport)))
              (some task) (later, .over)) =
          true := by
      unfold comesOnline
      rw [hDown]
      exact hRisen.flag
    have hOld : task ∈ before.registrants :=
      List.mem_filterMap.mpr ⟨_, hMember, rfl⟩
    unfold underminesNext
    rw [if_pos hRises]
    change later.session.callbackUrl = none ↔ _
    rw [hRisen.url]
    exact hGoneIff.registrant task hOld hCalm

/- An attempt is answered. -/
theorem Sound.keepsUrlGoneIff_of_advance
    (h : before.Sound config)
    {world : World}
    {request : Http.Request}
    {errand : Errand}
    {answer : Http.Answer}
    {task : TaskId}
    {result : Connection × Progress}
    (hAfter :
      Sound config
        (proceed
          (before.waiting.erase (.asking request errand))
          (some task)
          result))
    (hMember : .asking request errand ∈ before.waiting)
    (hAttempt : errand.attempt? = some task)
    (hAdvance :
      before.connection.Advance world answer errand result) :
    before.KeepsUrlGoneIff
      (.answer world request errand answer)
      (proceed
        (before.waiting.erase (.asking request errand))
        (some task)
        result) := by
  intro robs undermines hGoneIff
  have hAsked := Question.attempt?_asking hAttempt request
  cases hAdvance with
  | registers other transport later again hKeeps hUrl =>
      have hNew := h.not_mem_registrants hMember hAsked rfl
      rw [underminesNext_of_flag hKeeps.flag.trans]
      exact
        urlGoneIff_of_keeps hMember hAsked hAttempt hKeeps
          (Or.inr ⟨hNew, hUrl⟩) hGoneIff
  | fetches other transport later again hKeeps hCalm =>
      have hOld : task ∈ before.registrants :=
        List.mem_filterMap.mpr ⟨_, hMember, hAttempt⟩
      rw [underminesNext_of_flag hKeeps.flag.trans]
      exact
        urlGoneIff_of_keeps hMember hAsked hAttempt hKeeps
          (Or.inl hOld) hGoneIff
  | falls _ other later hOther hLowered hRenewed =>
      rw [underminesNext_of_flag fun _ => hLowered.offline.flag]
      exact
        h.urlGoneIff_of_fallen hMember hAsked
          ⟨hLowered.offline.flag, hLowered.offline.url,
            hLowered.offline.state⟩
  | flickers other transport hCalm hRaised hFallen hRenewed =>
      rw [underminesNext_of_flag fun _ => hFallen.offline.flag]
      exact
        h.urlGoneIff_of_fallen hMember hAsked
          ⟨hFallen.offline.flag, hFallen.offline.url,
            hFallen.offline.state⟩
  | rises other transport later hCalm hRisen =>
      cases hAttempt
      exact
        h.keepsUrlGoneIff_of_risen hAfter hMember hCalm hRisen
          robs undermines hGoneIff

/- A health check fails, and a new attempt takes the slot. -/
theorem Sound.keepsUrlGoneIff_of_lowered
    (h : before.Sound config)
    {world : World}
    {task : TaskId}
    {isReachable : Bool}
    {later : Connection}
    (hAfter :
      Sound config
        ⟨later.endRun task,
          before.waiting.erase (.probing task)⟩)
    (hLater : later.Tidy config)
    (hLowered : before.connection.Lowered later)
    (hRenewed : before.connection.Renewed later) :
    before.KeepsUrlGoneIff (.probe world task isReachable)
      ⟨later.endRun task,
        before.waiting.erase (.probing task)⟩ := by
  intro robs undermines _
  apply hAfter.urlGoneIff_of_vacant
  · intro other hOther hSame
    have hBefore : other ∈ before.registrants := by
      rcases List.mem_filterMap.mp hOther with
        ⟨asked, hAsked, hRegistrant⟩
      exact
        List.mem_filterMap.mpr
          ⟨asked, List.mem_of_mem_erase hAsked, hRegistrant⟩
    exact
      vacant_of_fresh hLater (h.known_of_registrants hBefore)
        hRenewed hSame
  · exact online_of_isOffline hLowered.offline

/- Whatever happens, it is known whether the URL is gone. -/
theorem Sound.keepsUrlGoneIff_of_turn
    (h : before.Sound config)
    (hAfter : after.Sound config)
    (hTurn : before.Turn config occurrence after) :
    before.KeepsUrlGoneIff occurrence after := by
  cases hTurn with
  | idle _ _ hIdles hPasses hRequests =>
      intro robs undermines hGoneIff
      have hFlag :
          before.connection.session.isConnected = false →
            after.connection.session.isConnected = false := by
        rw [hIdles.connection.session]
        exact id
      rw [underminesNext_of_flag hFlag]
      exact urlGoneIff_of_idles hIdles hGoneIff
  | starts hHeld hOpen =>
      exact h.keepsUrlGoneIff_scheduleConnect hAfter hOpen
  | drops =>
      intro robs undermines hGoneIff
      apply hAfter.urlGoneIff_of_vacant
      · intro task _ hSlot
        cases hSlot
      · exact hGoneIff.online_of_same rfl rfl
  | opens world task known hTask hJob hLive result hResult
      hOpening =>
      exact
        h.keepsUrlGoneIff_of_opening hAfter hTask hJob hLive
          hResult hOpening
  | advances world request errand answer task hMember hAttempt
      result hResult hAdvance =>
      exact
        h.keepsUrlGoneIff_of_advance hAfter hMember hAttempt
          hAdvance
  | fails world task isReachable later hMember hLater hLowered
      hRenewed =>
      exact
        h.keepsUrlGoneIff_of_lowered hAfter hLater hLowered
          hRenewed
  | parts world transport request hOpen hParting =>
      intro robs undermines hGoneIff
      exact
        hAfter.urlGoneIff_of_isClosed rfl
          (hGoneIff.online_of_same rfl rfl)
  | closes world hOpen hParting =>
      intro robs undermines _
      have hEnded :=
        before.connection.shut.ended_endClose world
      exact
        hAfter.urlGoneIff_of_isClosed (hEnded.closed rfl)
          (online_of_isOffline hEnded.offline)
  | concludes world request answer hMember =>
      intro robs undermines _
      have hEnded := before.connection.ended_endClose world
      exact
        hAfter.urlGoneIff_of_isClosed
          (hEnded.closed (h.parting request hMember))
          (online_of_isOffline hEnded.offline)

end Turns

end Situation

------------------------------------------------------------
-- Courses
------------------------------------------------------------

section Replay

variable {config : Config}
variable {drive : Drive}
variable {connection : Connection}

/- The URL is accounted for in the whole course. -/
theorem urlGoneIff_replay
    (hNew : Connection.new config drive = .ok connection)
    (past : List Occurrence) :
    (replay connection past).UrlGoneIff
      (robbed connection past)
      (undermined connection past) := by
  induction past with
  | nil =>
      refine ⟨?_, ?_⟩
      · intro task hMember
        cases hMember
      · intro hUp
        unfold Connection.new at hNew
        split at hNew
        · cases hNew
        · cases hNew
          cases hUp
  | cons occurrence past ih =>
      have hBefore := sound_replay hNew past
      have hAfter := sound_replay hNew (occurrence :: past)
      have hTurn := turn_replay hNew occurrence past
      exact
        hBefore.keepsUrlGoneIff_of_turn hAfter hTurn _ _ ih

/-
  A connection that is online knows its URL, with one
  exception: another attempt has ended after the one that
  came online last had asked to be registered, and before it
  came online.
-/
theorem url_known_unless_undermined
    (hNew : Connection.new config drive = .ok connection)
    (past : List Occurrence)
    (hUp :
      (replay connection past).connection.session.isConnected =
        true) :
    (replay connection past).connection.session.callbackUrl ≠
        none ↔
      undermined connection past = false := by
  have hGoneIff := urlGoneIff_replay hNew past
  rw [Ne, hGoneIff.online hUp]
  simp

end Replay

/- An attempt that nothing disturbs comes online. -/
theorem url_known_of_undisturbed :
    (replay Sample.connection
        Sample.undisturbed).connection.session.callbackUrl ≠
      none := by
  have hCourse :
      (replay Sample.connection
            Sample.undisturbed).connection.session.isConnected =
          true ∧
        undermined Sample.connection Sample.undisturbed =
          false := by
    decide +kernel
  rcases hCourse with ⟨hUp, hKept⟩
  exact
    (url_known_unless_undermined Sample.new_connection
      Sample.undisturbed hUp).mpr hKept

/-
  An attempt that was replaced ends while the one that has
  replaced it awaits the keys of the brain.
-/
def Sample.robbing : List Occurrence :=
  [ tellsKeys 1 2,
    registers 0 1,
    registers 1 2,
    unregisters 1 2,
    .run world 1,
    .start,
    unregisters 0 1,
    .run world 0,
    .start ]

/- The latter comes online, and does not know its URL. -/
theorem url_lost_of_robbing :
    let now := replay Sample.connection Sample.robbing
    now.connection.isClosed = false ∧
      now.connection.session.isConnected = true ∧
      now.connection.session.callbackUrl = none := by
  decide +kernel

end BrainLink
