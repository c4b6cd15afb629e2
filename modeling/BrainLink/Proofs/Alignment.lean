import BrainLink.Proofs.Dialogue

/-
  The keys and the flag of a connection, and what was said
  last about its registration and its project.

  Key definitions include:
    * `orderly`
    * `Registered`
    * `Informed`
    * `Connection.Aligned`

  Main statements:
    * `IsOfAttempts.lastOn_answer`
    * `Connection.enduring_aligned`
    * `Situation.keys_after`
    * `Situation.checks_eq_nil_of_after`

  Only the answer with the project changes the keys, and what
  is no attempt's own answer leaves the last word about its
  registration as it was.
-/

namespace BrainLink

------------------------------------------------------------
-- Orderly Courses
------------------------------------------------------------

/- Whether an occurrence begins something of its own. -/
def Occurrence.isStep : Occurrence → Bool
| .start => true
| .command _ order => order == .close
| .drop => true
| .run _ _ => true
| _ => false

/- No attempt, no health check and no closing is under way. -/
def Situation.isAtRest (situation : Situation) : Bool :=
  situation.isQuiet && !situation.isParting

/- Nothing began in a course while something was under way. -/
def orderly (connection : Connection) : List Occurrence → Bool
| [] => true
| occurrence :: past =>
    orderly connection past &&
      (!occurrence.isStep || (replay connection past).isAtRest)

------------------------------------------------------------
-- What Was Said Last
------------------------------------------------------------

def Errand.isRegistering : Errand → Bool
| .registering _ _ => true
| _ => false

def Errand.isFetching : Errand → Bool
| .fetchingKeys _ _ => true
| _ => false

/- The last line about something. -/
def lastOn
    (topic : Errand → Bool)
    (said : List Line) :
    Option Line :=
  said.find? fun line => topic line.errand

/- The last register request was for a URL, and accepted. -/
def Registered
    (config : Config)
    (said : List Line)
    (url : String) : Prop :=
  ∃ task transport body,
    lastOn Errand.isRegistering said =
      some
        (.answered
          ((Registrar.ofConfig config).request .register url)
          (.registering task transport)
          (.ok ⟨200, body⟩))

/- The keys are those of the last project that was told. -/
def Informed
    (config : Config)
    (said : List Line)
    (keys : DeviceKeys) : Prop :=
  ∃ task transport body,
    lastOn Errand.isFetching said =
        some
          (.answered
            (KeyCache.request config.brainUrl)
            (.fetchingKeys task transport)
            (.ok ⟨200, body⟩)) ∧
      DeviceKeys.ofProject body = .ok keys

/- A topic of connect attempts. -/
def IsOfAttempts (topic : Errand → Bool) : Prop :=
  ∀ errand, topic errand = true → errand.attempt? ≠ none

theorem isOfAttempts_registering :
    IsOfAttempts Errand.isRegistering := by
  intro errand hTopic
  cases errand with
  | registering task transport => simp [Errand.attempt?]
  | _ => cases hTopic

theorem isOfAttempts_fetching :
    IsOfAttempts Errand.isFetching := by
  intro errand hTopic
  cases errand with
  | fetchingKeys task transport => simp [Errand.attempt?]
  | _ => cases hTopic

section Lines

variable {topic : Errand → Bool}
variable {before after : Situation}
variable {occurrence : Occurrence}

theorem IsOfAttempts.closing
    (hTopic : IsOfAttempts topic) :
    topic .closing = false := by
  apply eq_false_of_ne_true
  intro hClosing
  exact hTopic .closing hClosing rfl

/- What listeners say is no topic of attempts. -/
theorem IsOfAttempts.lastOn_asides
    (hTopic : IsOfAttempts topic) :
    lastOn topic (before.asides after occurrence) = none := by
  unfold lastOn
  rw [List.find?_eq_none]
  intro line hMember
  rw [(Situation.exists_of_mem_asides hMember).1, hTopic.closing]
  simp

/- Where no attempt moves, nothing is said about it. -/
theorem IsOfAttempts.lastOn_lines
    (hTopic : IsOfAttempts topic)
    (hMoves : before.moves? occurrence = none)
    (said : List Line) :
    lastOn topic (before.lines after occurrence ++ said) =
      lastOn topic said := by
  have hNone :
      (before.lines after occurrence).find?
          (fun line => topic line.errand) =
        none := by
    rw [List.find?_eq_none]
    intro line hMember hAbout
    rcases Situation.eq_closing_or_moves?_of_mem_lines hMember
      with hClosing | hMover
    · rw [hClosing, hTopic.closing] at hAbout
      cases hAbout
    · exact hTopic _ hAbout (hMover.trans hMoves)
  unfold lastOn
  rw [List.find?_append, hNone, Option.none_or]

/- An answer is the last word on it unless more is asked. -/
theorem IsOfAttempts.lastOn_answer
    (hTopic : IsOfAttempts topic)
    {world : World}
    {request : Http.Request}
    {errand : Errand}
    {answer : Http.Answer}
    (hWaits : .asking request errand ∈ before.waiting)
    (hAsks :
      lastOn topic
          (before.connection.resume world errand
            answer).2.question =
        none)
    (said : List Line) :
    lastOn topic
        (before.lines after
            (.answer world request errand answer) ++
          said) =
      if topic errand then
        some (.answered request errand answer)
      else
        lastOn topic said := by
  have hAsides :
      (before.asides after
            (.answer world request errand answer)).find?
          (fun line => topic line.errand) =
        none :=
    hTopic.lastOn_asides
  unfold lastOn at hAsks ⊢
  unfold Situation.lines Situation.asks
  simp only [Situation.step?, if_pos hWaits, Option.elim]
  simp only [Situation.hears, if_pos hWaits]
  rw [List.find?_append, List.find?_append, List.find?_append,
    hAsks, hAsides, Option.none_or, Option.none_or,
    List.find?_cons]
  simp only [Line.errand]
  cases topic errand with
  | true => rfl
  | false => rfl

end Lines

------------------------------------------------------------
-- Keys, Flag and State
------------------------------------------------------------

namespace Connection

/- Listeners leave the keys as they are. -/
def HasKeys
    (keys : DeviceKeys)
    (connection : Connection) : Prop :=
  connection.keys = keys

theorem enduring_hasKeys (keys : DeviceKeys) :
    Enduring (HasKeys keys) where
  note hNotes h := by
    cases hNotes with
    | intro registry names closings journal hRequests => exact h
  start {connection} hOpen h := by
    have hRearranges := connection.rearranges_scheduleConnect
    generalize connection.scheduleConnect = later
      at hRearranges
    cases hRearranges with
    | intro tasks connect check journal hTasks hRequests
        hNews => exact h
  shut h := h
  asked _ _ h := h
  bare h := h
  stays h := h

/- The flag is up exactly if the state says so. -/
def Aligned (connection : Connection) : Prop :=
  connection.session.isConnected = true ↔
    connection.session.state = .connected

theorem enduring_aligned : Enduring Aligned where
  note hNotes h := by
    cases hNotes with
    | intro registry names closings journal hRequests => exact h
  start {connection} hOpen h := by
    have hRearranges := connection.rearranges_scheduleConnect
    generalize connection.scheduleConnect = later
      at hRearranges
    cases hRearranges with
    | intro tasks connect check journal hTasks hRequests
        hNews => exact h
  shut h := h
  asked _ _ h := h
  bare h := h
  stays _ := by simp [Aligned, stayOffline, Session.setConnected]

theorem aligned_of_isOffline
    {connection : Connection}
    (hOffline : connection.session.IsOffline) :
    connection.Aligned := by
  unfold Aligned
  rw [hOffline.flag, hOffline.state]
  simp

theorem Aligned.lit
    (world : World)
    (answer : Http.Answer)
    (connection : Connection) :
    (connection.lit world answer).Aligned := by
  apply enduring_aligned.goOnline
  simp [Aligned, Session.setConnected]

/- A command never touches the keys. -/
theorem keys_obey
    (world : World)
    (command : Command)
    (connection : Connection) :
    (connection.obey world command).1.keys =
      connection.keys := by
  cases command with
  | close =>
      change (connection.beginClose world).1.keys = _
      have hEnds :
          (connection.shut.endClose (goOffline world)).keys =
            connection.keys := by
        rw [endClose_eq]
        apply (enduring_hasKeys connection.keys).goOffline
        rfl
      unfold beginClose
      split
      · rfl
      · dsimp only
        split
        · rfl
        · exact hEnds
  | notify message =>
      change (connection.beginNotify message).1.keys = _
      unfold beginNotify askInSession
      split
      · split
        · rfl
        · rfl
      · rfl
  | executeRecipe key on =>
      change (connection.beginRecipe key on).1.keys = _
      unfold beginRecipe askInSession
      split
      · rfl
      · split
        · rfl
        · rfl
  | _ =>
      change (askAnew world connection _ _).1.keys = _
      unfold askAnew createTransport
      cases hCreates : world.creates with
      | false => rfl
      | true => rfl

/- Nor does the answer to one. -/
theorem keys_resume
    (world : World)
    {errand : Errand}
    (answer : Http.Answer)
    (connection : Connection)
    (hAttempt : errand.attempt? = none) :
    (connection.resume world errand answer).1.keys =
      connection.keys := by
  cases errand with
  | unregistering task transport => cases hAttempt
  | registering task transport => cases hAttempt
  | fetchingKeys task transport => cases hAttempt
  | closing =>
      change (connection.endClose (goOffline world)).keys = _
      rw [endClose_eq]
      apply (enduring_hasKeys connection.keys).goOffline
      rfl
  | listingRecipes transport key on =>
      change
        (connection.afterListing transport key on
          answer).1.keys = _
      unfold afterListing
      split
      · rfl
      · split
        · rfl
        · split
          · rfl
          · rfl
  | _ => rfl

/- Nor does a start. -/
theorem keys_start
    (connection : Connection) :
    connection.start.keys = connection.keys := by
  unfold start
  split
  · rfl
  · have hRearranges := connection.rearranges_scheduleConnect
    generalize connection.scheduleConnect = later
      at hRearranges
    cases hRearranges with
    | intro tasks connect check journal hTasks hRequests hNews =>
        rfl

/- Nor does a health check that begins. -/
theorem keys_beginCheck
    (task : TaskId)
    (connection : Connection) :
    ((connection.beginRun task).beginCheck task).1.keys =
      connection.keys := by
  have hBegun :
      (connection.beginRun task).keys = connection.keys := by
    unfold beginRun
    split
    · rfl
    · rfl
  unfold beginCheck
  split
  · exact hBegun
  · exact hBegun

/- Nor does a probe. -/
theorem keys_afterProbe
    (world : World)
    (task : TaskId)
    (isReachable : Bool)
    (connection : Connection) :
    (connection.afterProbe world task isReachable).1.keys =
      connection.keys := by
  have hEndures := enduring_hasKeys connection.keys
  unfold afterProbe
  split
  · rfl
  · have hOffline : HasKeys connection.keys
        (connection.goOffline world) :=
      hEndures.goOffline world rfl
    have hRearranges :=
      (connection.goOffline
        world).clearCheck.rearranges_scheduleConnect
    generalize
      (connection.goOffline world).clearCheck.scheduleConnect =
        later at hRearranges
    cases hRearranges with
    | intro tasks connect check journal hTasks hRequests
        hNews => exact hOffline

end Connection

namespace Situation

section Rest

variable {config : Config}
variable {before : Situation}
variable {occurrence : Occurrence}

/- What asks or is over leaves the keys that it has made. -/
theorem keys_proceed
    (waiting : List Question)
    (task? : Option TaskId)
    (step : Connection × Progress) :
    (proceed waiting task? step).connection.keys =
      step.1.keys := by
  rcases step with ⟨connection, progress⟩
  cases progress with
  | done result => cases task? <;> rfl
  | _ => rfl

/- Only attempts bring new keys. -/
theorem keys_after
    (hMoves : before.moves? occurrence = none) :
    (before.after occurrence).connection.keys =
      before.connection.keys := by
  cases occurrence with
  | start =>
      simp only [Situation.after]
      split
      · exact before.connection.keys_start
      · rfl
  | command world command =>
      simp only [Situation.after]
      split
      · rw [keys_proceed, Connection.keys_obey]
      · rfl
  | drop =>
      simp only [Situation.after]
      split
      · rfl
      · rfl
  | run world task =>
      simp only [Situation.after]
      split
      · rename_i hRuns
        unfold hasTask at hRuns
        rcases (Option.any_eq_true _ _).mp hRuns with
          ⟨known, hKnown, hLive⟩
        rcases Connection.exists_task?_beginRun hKnown with
          ⟨stage, hBegun⟩
        cases hJob : known.job with
        | connect =>
            simp [moves?, hasTask, hKnown, hLive, hJob]
              at hMoves
        | checkHealth =>
            rw [keys_proceed,
              Connection.runJob_of_checkHealth world hBegun
                hJob]
            exact
              Connection.keys_beginCheck task before.connection
      · rfl
  | answer world request errand answer =>
      simp only [Situation.after]
      simp only [moves?] at hMoves
      split at hMoves
      · rename_i hWaits
        rw [if_pos hWaits, keys_proceed,
          Connection.keys_resume world answer _ hMoves]
      · rename_i hGone
        rw [if_neg hGone]
  | probe world task isReachable =>
      simp only [Situation.after]
      split
      · rw [keys_proceed, Connection.keys_afterProbe]
      · rfl
  | listen change =>
      cases change with
      | remove name =>
          change
            (before.connection.removeListener name).1.keys = _
          unfold Connection.removeListener
          split
          · rfl
          · rfl
      | _ => rfl
  | _ => rfl

/- A probe goes out only when a task is run. -/
theorem probes_of_proceed
    {waiting : List Question}
    {task? : Option TaskId}
    {step : Connection × Progress}
    {task : TaskId}
    (hOther : ∀ other, step.2 ≠ .probes other)
    (hMember :
      .probing task ∈ (proceed waiting task? step).waiting) :
    .probing task ∈ waiting := by
  rcases step with ⟨connection, progress⟩
  cases progress with
  | asks request errand =>
      rcases List.mem_cons.mp hMember with hSame | hOld
      · cases hSame
      · exact hOld
  | probes other => exact absurd rfl (hOther other)
  | done result =>
      cases task? with
      | none => exact hMember
      | some other => exact hMember

theorem probes_of_ordinary
    {progress : Progress}
    (hOrdinary : progress.IsOrdinary)
    (other : TaskId) :
    progress ≠ .probes other := by
  intro hSame
  rw [hSame] at hOrdinary
  exact hOrdinary

theorem probing_of_after
    (hStep : occurrence.isStep = false)
    {task : TaskId}
    (hMember :
      .probing task ∈ (before.after occurrence).waiting) :
    .probing task ∈ before.waiting := by
  cases occurrence with
  | start => cases hStep
  | drop => cases hStep
  | run world other => cases hStep
  | command world command =>
      have hCommand : command ≠ .close := by
        rintro rfl
        cases hStep
      simp only [Situation.after] at hMember
      split at hMember
      · exact
          probes_of_proceed
            (probes_of_ordinary
              (Connection.idles_obey world before.connection
                hCommand).2)
            hMember
      · exact hMember
  | answer world request errand answer =>
      simp only [Situation.after] at hMember
      split at hMember
      · apply List.mem_of_mem_erase
        apply probes_of_proceed _ hMember
        intro other hProbes
        cases hAttempt : errand.attempt? with
        | some mover =>
            have hReplies :=
              Connection.replies_resume world answer
                before.connection hAttempt
            generalize
              before.connection.resume world errand answer =
                result at hReplies hProbes
            cases hReplies <;> cases hProbes
        | none =>
            by_cases hClosing : errand = .closing
            · subst hClosing
              cases hProbes
            · have hOrdinary :=
                (Connection.idles_resume world answer
                  before.connection ⟨hAttempt, hClosing⟩).2
              exact probes_of_ordinary hOrdinary other hProbes
      · exact hMember
  | probe world other isReachable =>
      simp only [Situation.after] at hMember
      split at hMember
      · apply List.mem_of_mem_erase
        apply probes_of_proceed _ hMember
        intro another hProbes
        rcases Connection.afterProbe_cases world other
            isReachable before.connection with
          hSame | ⟨later, hAfter, -⟩
        · rw [hSame] at hProbes
          cases hProbes
        · rw [hAfter] at hProbes
          cases hProbes
      · exact hMember
  | _ => exact hMember

theorem checks_eq_nil_of_after
    (hStep : occurrence.isStep = false)
    (hNone : before.checks = []) :
    (before.after occurrence).checks = [] := by
  unfold checks at hNone ⊢
  rw [List.filterMap_eq_nil_iff] at hNone ⊢
  intro question hMember
  cases question with
  | asking request errand => rfl
  | probing task =>
      exact hNone _ (probing_of_after hStep hMember)

end Rest

end Situation

end BrainLink
