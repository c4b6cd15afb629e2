import BrainLink.Proofs.Dues
import BrainLink.Rehearsal.Play

/-
  Two rehearsals that are alike but for the time, where every
  answer is there at once.

  Key definitions include:
    * `Rehearsal.Prompt`
    * `Rehearsal.Agrees`
    * `Step.isTimeless`

  Main statements:
    * `Rehearsal.Agrees.follow`
    * `Rehearsal.Agrees.settle`
    * `Rehearsal.Agrees.step`

  Where no answer is late or held back, whatever begins comes
  to its end before anything else begins, whoever began it.
-/

namespace BrainLink

open Http (Target)

namespace Rehearsal

------------------------------------------------------------
-- Promptness
------------------------------------------------------------

/- No answer is late, held back or on its way. -/
structure Prompt (rehearsal : Rehearsal) : Prop where
  gates : rehearsal.gates = []
  latency : ∀ target, rehearsal.latency target = 0
  flights : rehearsal.flights = []

theorem Prompt.mustWait
    {rehearsal : Rehearsal}
    (h : rehearsal.Prompt)
    (target : Target) :
    rehearsal.mustWait target = false := by
  unfold Rehearsal.mustWait isGated
  rw [h.latency, h.gates]
  rfl

/-
  Two prompt rehearsals agree if their connections do, and
  they differ in nothing else but what was reported.
-/
inductive Agrees
    (config : Config)
    (left : Rehearsal) :
    Rehearsal → Prop where
| intro
    (connection : Connection)
    (reports : List (StepId × StepResult))
    (hTidy : left.connection.Tidy config)
    (hPrompt : left.Prompt)
    (hAgrees : left.connection.Agrees connection) :
    Agrees config left
      { left with
        connection := connection
        reports := reports }

/- They have come to the same. -/
def Tallies
    {α : Type}
    (config : Config)
    (left right : Rehearsal × α) : Prop :=
  left.1.Agrees config right.1 ∧ right.2 = left.2

/- Whoever is prompt goes on at once. -/
theorem Prompt.follow_asks
    {rehearsal : Rehearsal}
    (h : rehearsal.Prompt)
    (ticket : Ticket)
    (count : Nat)
    (request : Http.Request)
    (errand : Errand) :
    follow ticket (count + 1)
        (rehearsal, .asks request errand) =
      follow ticket count
        (rehearsal.takeAnswer (.asking request errand)) :=
  if_neg (by simp [h.mustWait])

theorem Prompt.follow_probes
    {rehearsal : Rehearsal}
    (h : rehearsal.Prompt)
    (ticket : Ticket)
    (count : Nat)
    (task : TaskId) :
    follow ticket (count + 1) (rehearsal, .probes task) =
      follow ticket count
        (rehearsal.takeAnswer (.probing task)) :=
  if_neg (by simp [h.mustWait])

/- A gate that was never closed holds nobody back. -/
theorem Prompt.openGate
    {rehearsal : Rehearsal}
    (h : rehearsal.Prompt)
    (target : Target) :
    rehearsal.openGate target = rehearsal.settle := by
  have hSame :
      { rehearsal with gates := [], flights := [] } =
        rehearsal := by
    rcases h with ⟨hGates, -, hFlights⟩
    cases rehearsal with
    | mk => simp_all
  unfold Rehearsal.openGate
  rw [h.flights, h.gates]
  exact congrArg Rehearsal.settle hSame

/- A new receiver takes the name of the one before. -/
theorem subscribe_eq
    (rehearsal : Rehearsal)
    (name : String) :
    rehearsal.subscribe name =
      let dropped :=
        ((rehearsal.withConnection
          rehearsal.connection.subscribe).dropReceiver name).1
      { dropped with
        receivers :=
          (name, rehearsal.connection.registry.nextId)
            :: dropped.receivers } :=
  rfl

namespace Agrees

variable {config : Config}
variable {left right : Rehearsal}

theorem tidy (h : left.Agrees config right) :
    left.connection.Tidy config := by
  cases h with
  | intro connection reports hTidy hPrompt hAgrees =>
      exact hTidy

theorem prompt (h : left.Agrees config right) :
    left.Prompt := by
  cases h with
  | intro connection reports hTidy hPrompt hAgrees =>
      exact hPrompt

theorem prompt_right (h : left.Agrees config right) :
    right.Prompt := by
  cases h with
  | intro connection reports hTidy hPrompt hAgrees =>
      exact ⟨hPrompt.gates, hPrompt.latency, hPrompt.flights⟩

theorem connection (h : left.Agrees config right) :
    left.connection.Agrees right.connection := by
  cases h with
  | intro connection reports hTidy hPrompt hAgrees =>
      exact hAgrees

/- They find the same world. -/
theorem world (h : left.Agrees config right) :
    right.world = left.world := by
  cases h
  rfl

/- What was reported does not matter. -/
theorem withReports
    (h : left.Agrees config right)
    (one other : List (StepId × StepResult)) :
    Agrees config { left with reports := one }
      { right with reports := other } := by
  cases h with
  | intro connection reports hTidy hPrompt hAgrees =>
      exact
        .intro connection other hTidy
          ⟨hPrompt.gates, hPrompt.latency, hPrompt.flights⟩
          hAgrees

/- Their connections change. -/
theorem withConnection
    (h : left.Agrees config right)
    {one other : Connection}
    (hTidy : one.Tidy config)
    (hAgrees : one.Agrees other) :
    (left.withConnection one).Agrees config
      (right.withConnection other) := by
  cases h with
  | intro connection reports _ hPrompt _ =>
      exact
        .intro other reports hTidy
          ⟨hPrompt.gates, hPrompt.latency, hPrompt.flights⟩
          hAgrees

/- They report what they will. -/
theorem report
    (h : left.Agrees config right)
    (one other : StepId)
    (result result' : StepResult) :
    (left.report one result).Agrees config
      (right.report other result') :=
  h.withReports _ _

------------------------------------------------------------
-- Answers
------------------------------------------------------------

/- They take the same answer. -/
theorem takeAnswer
    (h : left.Agrees config right)
    (question : Question) :
    Tallies config (left.takeAnswer question)
      (right.takeAnswer question) := by
  have hTidy := h.tidy
  have hConnection := h.connection
  have hWorld := h.world
  unfold Rehearsal.takeAnswer
  dsimp only
  rw [hWorld]
  cases question with
  | asking request errand =>
      have hBook : right.book = left.book := by
        cases h
        rfl
      dsimp only
      rw [hBook]
      have hResumed :=
        hConnection.resume left.world errand
          (left.book.answer request)
      exact
        ⟨h.withConnection (hTidy.resume _ _ _) hResumed.1,
          hResumed.2⟩
  | probing task =>
      have hReachable : right.isReachable = left.isReachable := by
        cases h
        rfl
      dsimp only
      rw [hReachable]
      have hProbed :=
        hConnection.afterProbe left.world task left.isReachable
      have hLater :=
        h.withConnection (hTidy.afterProbe left.world task _)
          hProbed.1
      refine ⟨?_, hProbed.2⟩
      cases h with
      | intro connection reports _ hPrompt _ =>
          exact
            .intro _ reports hLater.tidy
              ⟨hPrompt.gates, hPrompt.latency, hPrompt.flights⟩
              hProbed.1

/- They go on to the same end, on whatever tickets. -/
theorem follow
    {left right : Rehearsal × Progress}
    (h : Tallies config left right)
    (one other : Ticket)
    (count : Nat) :
    Tallies config (Rehearsal.follow one count left)
      (Rehearsal.follow other count right) := by
  induction count generalizing left right with
  | zero =>
      rcases left with ⟨left, progress⟩
      rcases right with ⟨right, same⟩
      rcases h with ⟨hAgrees, hSame⟩
      cases hSame
      cases progress with
      | _ => exact ⟨hAgrees, rfl⟩
  | succ count ih =>
      rcases left with ⟨left, progress⟩
      rcases right with ⟨right, same⟩
      rcases h with ⟨hAgrees, hSame⟩
      cases hSame
      have hPrompt := hAgrees.prompt
      have hRight := hAgrees.prompt_right
      cases progress with
      | done result => exact ⟨hAgrees, rfl⟩
      | asks request errand =>
          rw [hPrompt.follow_asks, hRight.follow_asks]
          exact ih (hAgrees.takeAnswer _)
      | probes task =>
          rw [hPrompt.follow_probes, hRight.follow_probes]
          exact ih (hAgrees.takeAnswer _)

/- They do the same with their connections. -/
theorem pursue
    (h : left.Agrees config right)
    (one other : Ticket)
    {act : World → Connection → Connection × Progress}
    (hTidy :
      (act left.world left.connection).1.Tidy config)
    (hAct :
      Connection.Tallies (act left.world left.connection)
        (act left.world right.connection)) :
    Tallies config (left.pursue one act)
      (right.pursue other act) := by
  unfold Rehearsal.pursue
  rw [h.world]
  exact
    follow ⟨h.withConnection hTidy hAct.1, hAct.2⟩ one other _

------------------------------------------------------------
-- Ends
------------------------------------------------------------

theorem endRun
    (h : left.Agrees config right)
    (task : TaskId) :
    (left.endRun task).Agrees config (right.endRun task) :=
  h.withConnection (h.tidy.endRun task)
    (h.connection.withTasks (h.connection.tasks.endRun task))

/- The connection is dropped in both or in neither. -/
theorem releaseIfFree (h : left.Agrees config right) :
    left.releaseIfFree.Agrees config right.releaseIfFree := by
  have hDropped :=
    h.withConnection h.tidy.drop h.connection.drop
  cases h with
  | intro connection reports hTidy hPrompt hAgrees =>
      unfold Rehearsal.releaseIfFree
      dsimp only
      rw [hAgrees.isHeld, hAgrees.closings]
      split
      · exact hDropped
      · exact .intro connection reports hTidy hPrompt hAgrees

/- Where these tickets are taken in, the same goes on. -/
def Alike (config : Config) (one other : Ticket) : Prop :=
  ∀ (left right : Rehearsal) (result : StepResult),
    left.Agrees config right →
      (left.conclude one result).Agrees config
        (right.conclude other result)

/- Whatever they undertake comes to the same end. -/
theorem undertake
    (h : left.Agrees config right)
    {one other : Ticket}
    (hAlike : Alike config one other)
    {act : World → Connection → Connection × Progress}
    (hTidy :
      (act left.world left.connection).1.Tidy config)
    (hAct :
      Connection.Tallies (act left.world left.connection)
        (act left.world right.connection)) :
    (left.undertake one act).Agrees config
      (right.undertake other act) := by
  have hPursued := h.pursue one other hTidy hAct
  unfold Rehearsal.undertake
  rcases hLeft : left.pursue one act with ⟨gone, result⟩
  rcases hRight : right.pursue other act with ⟨went, same⟩
  rw [hLeft, hRight] at hPursued
  rcases hPursued with ⟨hAgrees, hSame⟩
  cases hSame
  cases result with
  | none => exact hAgrees
  | some result => exact hAlike _ _ result hAgrees

/- They obey a command. -/
theorem obey
    (h : left.Agrees config right)
    {one other : Ticket}
    (hAlike : Alike config one other)
    (command : Command) :
    (left.undertake one fun world c =>
        c.obey world command).Agrees config
      (right.undertake other fun world c =>
        c.obey world command) :=
  h.undertake hAlike (h.tidy.obey left.world command)
    (h.connection.obey left.world command)

/- They run a task. -/
theorem runJob
    (h : left.Agrees config right)
    {one other : Ticket}
    (hAlike : Alike config one other)
    (task : TaskId) :
    (left.undertake one fun world c =>
        c.runJob world task).Agrees config
      (right.undertake other fun world c =>
        c.runJob world task) :=
  h.undertake hAlike (h.tidy.runJob left.world task)
    (h.connection.runJob left.world task)

/- What listeners have asked for is done. -/
theorem settle (h : left.Agrees config right) :
    left.settle.Agrees config right.settle := by
  have hAlike :
      Alike config (.closing none) (.closing none) :=
    fun _ _ _ hAgrees => hAgrees.releaseIfFree
  have hClosed := h.obey hAlike .close
  unfold Rehearsal.settle
  rw [h.connection.closings]
  split
  · exact h
  · exact
      (hClosed.withConnection
        (hClosed.tidy.attend .closingsMade)
        hClosed.connection.endClosings).releaseIfFree

/- A command is given at some step of each. -/
theorem give
    (h : left.Agrees config right)
    (one other : StepId)
    (command : Command) :
    (left.give one command).Agrees config
      (right.give other command) := by
  have hCommand :
      Alike config (.command one) (.command other) :=
    fun _ _ result hAgrees =>
      (hAgrees.report one other result result).releaseIfFree
  have hClosing :
      Alike config (.closing (some one))
        (.closing (some other)) :=
    fun _ _ _ hAgrees =>
      (hAgrees.report one other .nothing
        .nothing).releaseIfFree
  unfold Rehearsal.give
  cases command with
  | close => exact (h.obey hClosing _).settle
  | _ => exact (h.obey hCommand _).settle

theorem letGo (h : left.Agrees config right) :
    left.letGo.Agrees config right.letGo := by
  have hLoose :
      Agrees config { left with isDropped := true }
        { right with isDropped := true } := by
    cases h with
    | intro connection reports hTidy hPrompt hAgrees =>
        exact
          .intro connection reports hTidy
            ⟨hPrompt.gates, hPrompt.latency, hPrompt.flights⟩
            hAgrees
  exact hLoose.releaseIfFree

/- A gate that was never closed holds nobody back. -/
theorem openGate
    (h : left.Agrees config right)
    (target : Target) :
    (left.openGate target).Agrees config
      (right.openGate target) := by
  have hLeft := h.prompt.openGate target
  have hRight := h.prompt_right.openGate target
  rw [hLeft, hRight]
  exact h.settle

------------------------------------------------------------
-- Receivers
------------------------------------------------------------

/- Those who receive change. -/
theorem withReceivers
    (h : left.Agrees config right)
    (receivers : List (String × ListenerId)) :
    Agrees config { left with receivers := receivers }
      { right with receivers := receivers } := by
  cases h with
  | intro connection reports hTidy hPrompt hAgrees =>
      exact
        .intro connection reports hTidy
          ⟨hPrompt.gates, hPrompt.latency, hPrompt.flights⟩
          hAgrees

theorem receivers (h : left.Agrees config right) :
    right.receivers = left.receivers := by
  cases h
  rfl

theorem dropReceiver
    (h : left.Agrees config right)
    (name : String) :
    Tallies config (left.dropReceiver name)
      (right.dropReceiver name) := by
  unfold Rehearsal.dropReceiver
  rw [h.receivers]
  split
  · exact ⟨h, rfl⟩
  · rename_i id _
    have hClosed :=
      h.withConnection (h.tidy.attend (.closeChannel id))
        (h.connection.withRegistry fun registry =>
          registry.closeChannel id)
    refine ⟨?_, rfl⟩
    exact hClosed.withReceivers _

theorem subscribe
    (h : left.Agrees config right)
    (name : String) :
    (left.subscribe name).Agrees config
      (right.subscribe name) := by
  have hListens :=
    h.withConnection (h.tidy.attend .subscribe)
      h.connection.subscribe
  have hDropped := (hListens.dropReceiver name).1
  rw [subscribe_eq, subscribe_eq, h.connection.registry]
  dsimp only
  rw [hDropped.receivers]
  exact hDropped.withReceivers _

theorem receive
    (h : left.Agrees config right)
    (name : String) :
    Tallies config (left.receive name)
      (right.receive name) := by
  unfold Rehearsal.receive
  rw [h.receivers]
  split
  · exact ⟨h, rfl⟩
  · rename_i id _
    have hDrained :=
      h.withConnection (h.tidy.attend (.drain id))
        (h.connection.withRegistry fun registry =>
          (registry.drain id).1)
    refine ⟨hDrained, ?_⟩
    dsimp only
    rw [h.connection.registry]

end Agrees

end Rehearsal

------------------------------------------------------------
-- Steps
------------------------------------------------------------

/-
  A step that neither lets time pass nor runs a task, and that
  makes no answer late.
-/
def Step.isTimeless : Step → Bool
| .runNextOnce => false
| .tickRecurring => false
| .advance _ => false
| .gate _ => false
| .latency _ span => span == 0
| _ => true

namespace Rehearsal

namespace Agrees

variable {config : Config}
variable {left right : Rehearsal}

/- Such a step comes to the same in both. -/
theorem perform
    (h : left.Agrees config right)
    (one other : StepId)
    {next : Step}
    (hTimeless : next.isTimeless = true) :
    (left.perform one next).Agrees config
      (right.perform other next) := by
  cases next with
  | start =>
      exact
        (h.withConnection h.tidy.start
          h.connection.start).report ..
  | order command => exact h.give one other command
  | runNextOnce => cases hTimeless
  | tickRecurring => cases hTimeless
  | advance span => cases hTimeless
  | gate target => cases hTimeless
  | release target => exact (h.openGate target).report ..
  | latency target span =>
      have hNow : span = 0 := by
        simpa [Step.isTimeless] using hTimeless
      subst hNow
      cases h with
      | intro connection reports hTidy hPrompt hAgrees =>
          refine
            .intro connection _ hTidy
              ⟨hPrompt.gates, ?_, hPrompt.flights⟩ hAgrees
          intro aim
          have hBefore := hPrompt.latency aim
          change
            (((target, 0) :: left.latencies).lookup aim).getD 0 =
              0
          rw [List.lookup_cons]
          split
          · rfl
          · exact hBefore
  | addListener watcher =>
      exact
        (h.withConnection (h.tidy.attend (.add watcher))
          (h.connection.addListener watcher)).report ..
  | removeListener name =>
      exact
        (h.withConnection (h.tidy.attend (.remove name))
          (h.connection.removeListener name)).report ..
  | subscribe name => exact (h.subscribe name).report ..
  | receive name => exact (h.receive name).1.report ..
  | dropReceiver name =>
      exact (h.dropReceiver name).1.report ..
  | keys => exact h.report ..
  | heldKeys => exact h.report ..
  | info => exact h.report ..
  | drop => exact h.letGo.report ..
  | holdKeys =>
      have hKeys := h.connection.keys
      cases h with
      | intro connection reports hTidy hPrompt hAgrees =>
          unfold Rehearsal.perform
          dsimp only at hKeys ⊢
          rw [hKeys]
          exact
            .intro connection _ hTidy
              ⟨hPrompt.gates, hPrompt.latency, hPrompt.flights⟩
              hAgrees
  | _ =>
      cases h with
      | intro connection reports hTidy hPrompt hAgrees =>
          exact
            .intro connection _ hTidy
              ⟨hPrompt.gates, hPrompt.latency, hPrompt.flights⟩
              hAgrees

/- Where there is no connection any more, both say so. -/
theorem step
    (h : left.Agrees config right)
    (one other : StepId)
    {next : Step}
    (hTimeless : next.isTimeless = true) :
    (left.step one next).Agrees config
      (right.step other next) := by
  have hDropped : right.isDropped = left.isDropped := by
    cases h
    rfl
  unfold Rehearsal.step
  rw [hDropped]
  split
  · exact h.report ..
  · exact h.perform one other hTimeless

end Agrees

end Rehearsal

end BrainLink
