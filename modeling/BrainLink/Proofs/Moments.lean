import BrainLink.Proofs.Delivery
import BrainLink.Proofs.Replies
import BrainLink.Proofs.Turns
import Mathlib.Data.List.TakeWhile

/-
  The moments of a course at which nobody is being told of
  anything, and how its flag changes from each to the next.

  Key definitions include:
    * `Situation.lit?`
    * `moments`
    * `swings`
    * `sinceNamed`
    * `Traces`
    * `Connection.RestsOrFalls`

  Main statements:
    * `traces_swings`
    * `swings_sinceNamed_append`
    * `Situation.restsOrFalls_after`
    * `Situation.restsOrFalls_of_lit`

  An occurrence lets the flag change once, when it begins to
  go offline or online. Only an attempt that finds itself
  cancelled as it comes online lets it change twice, and then
  the connection is lit for a moment in between.
-/

namespace BrainLink

------------------------------------------------------------
-- Moments
------------------------------------------------------------

/-
  The connection that an occurrence has brought online, before
  it is known whether it can stay so.
-/
def Situation.lit?
    (situation : Situation) :
    Occurrence → Option Connection
| .answer world request errand answer =>
    if .asking request errand ∈ situation.waiting ∧
        situation.connection.bringsOnline answer errand then
      some (situation.connection.lit world answer)
    else
      none
| _ => none

/- The moments of an occurrence. -/
def Situation.moments
    (situation : Situation)
    (occurrence : Occurrence) :
    List Connection :=
  (situation.lit? occurrence).toList ++
    [(situation.after occurrence).connection]

/- The moments of a course so far, the earliest first. -/
def moments (connection : Connection) :
    List Occurrence → List Connection
| [] => [connection]
| occurrence :: past =>
    moments connection past ++
      (replay connection past).moments occurrence

/- The change of the flag from a moment to a later one. -/
def Connection.swing?
    (before after : Connection) : Option Event :=
  before.session.change? after.session.isConnected

/- All changes of the flag, the earliest first. -/
def swings : List Connection → List Event
| before :: after :: rest =>
    (before.swing? after).toList ++ swings (after :: rest)
| _ => []

/- The moments from which on a name is given to a listener. -/
def sinceNamed
    (id : ListenerId)
    (moments : List Connection) :
    List Connection :=
  moments.dropWhile fun moment => moment.registry.nextId ≤ id

/-
  Events that tell how a flag went from one value to another:
  each is a change, and each begins where the one before ends.
-/
inductive Traces : Bool → List Event → Bool → Prop where
| still (flag : Bool) : Traces flag [] flag
| swing
    (event : Event)
    (later : List Event)
    (last : Bool)
    (hChange : event.old ≠ event.new)
    (hLater : Traces event.new later last) :
    Traces event.old (event :: later) last

/- The changes of the flag trace it. -/
theorem traces_swings
    (first : Connection)
    (rest : List Connection) :
    Traces first.session.isConnected
      (swings (first :: rest))
      (rest.getLastD first).session.isConnected := by
  induction rest generalizing first with
  | nil => exact .still _
  | cons next rest ih =>
      have hRest := ih next
      rw [List.getLastD_cons]
      unfold swings Connection.swing? Session.change?
      split
      · rename_i hSame
        rw [hSame]
        exact hRest
      · rename_i hOther
        exact
          .swing
            ⟨first.session.isConnected,
              next.session.isConnected⟩
            _ _ hOther hRest

/- The first events of a trace are a trace. -/
theorem Traces.of_initial
    {first last : Bool}
    {events early : List Event}
    (h : Traces first events last)
    (hEarly : early <+: events) :
    ∃ middle, Traces first early middle := by
  induction h generalizing early with
  | still flag =>
      rw [List.prefix_nil.mp hEarly]
      exact ⟨flag, .still flag⟩
  | swing event later last hChange hLater ih =>
      cases early with
      | nil => exact ⟨event.old, .still _⟩
      | cons other rest =>
          rcases List.cons_prefix_cons.mp hEarly with
            ⟨rfl, hRest⟩
          rcases ih hRest with ⟨middle, hTraces⟩
          exact ⟨middle, .swing _ _ _ hChange hTraces⟩

/- A further moment adds its change. -/
theorem swings_append
    (earlier : List Connection)
    (before after : Connection) :
    swings (earlier ++ [before] ++ [after]) =
      swings (earlier ++ [before]) ++
        (before.swing? after).toList := by
  induction earlier with
  | nil => simp [swings]
  | cons first earlier ih =>
      cases earlier with
      | nil => simp [swings]
      | cons next earlier =>
          simp only [List.cons_append, swings] at ih ⊢
          rw [ih, List.append_assoc]

section Named

variable {id : ListenerId}
variable {earlier : List Connection}
variable {before after : Connection}

/- A name that was given stays given. -/
theorem sinceNamed_append
    (hNamed : id < before.registry.nextId)
    (earlier : List Connection) :
    sinceNamed id (earlier ++ [before]) =
      sinceNamed id earlier ++ [before] := by
  have hStops :
      sinceNamed id [before] = [before] := by
    simp [sinceNamed, Nat.not_le_of_lt hNamed]
  unfold sinceNamed at hStops ⊢
  rw [List.dropWhile_append, hStops]
  split
  · rename_i hNone
    rw [List.isEmpty_iff.mp hNone]
    rfl
  · rfl

/- Before a name is given, there is nothing to hear under it. -/
theorem swings_of_unnamed
    (hGrown :
      ∀ moment ∈ earlier,
        moment.registry.nextId ≤ id)
    (last : Connection) :
    swings (sinceNamed id (earlier ++ [last])) = [] := by
  have hNone :
      earlier.dropWhile
          (fun moment => moment.registry.nextId ≤ id) =
        [] := by
    rw [List.dropWhile_eq_nil_iff]
    intro moment hMember
    exact decide_eq_true (hGrown moment hMember)
  unfold sinceNamed
  rw [List.dropWhile_append, hNone, List.isEmpty_nil,
    if_pos rfl, List.dropWhile_cons]
  split
  · rfl
  · rfl

/- Once it is given, all that follows can be heard. -/
theorem swings_sinceNamed_append
    (hNamed : id < before.registry.nextId)
    (hGrown :
      before.registry.nextId ≤ after.registry.nextId)
    (earlier : List Connection) :
    swings (sinceNamed id (earlier ++ [before] ++ [after])) =
      swings (sinceNamed id (earlier ++ [before])) ++
        (before.swing? after).toList := by
  rw [sinceNamed_append (Nat.lt_of_lt_of_le hNamed hGrown),
    sinceNamed_append hNamed, swings_append]

/- From a name on, the changes trace the flag up to now. -/
theorem traces_sinceNamed
    {earlier : List Connection}
    {first now : Connection}
    (hFirst :
      (sinceNamed id (earlier ++ [now])).head? = some first) :
    Traces first.session.isConnected
      (swings (sinceNamed id (earlier ++ [now])))
      now.session.isConnected := by
  have hSuffix : sinceNamed id (earlier ++ [now]) <:+ _ :=
    List.dropWhile_suffix _
  cases hSince : sinceNamed id (earlier ++ [now]) with
  | nil =>
      rw [hSince] at hFirst
      cases hFirst
  | cons head rest =>
      rw [hSince] at hFirst hSuffix
      cases hFirst
      rcases hSuffix with ⟨before, hWhole⟩
      have hLast := congrArg List.getLast? hWhole
      have hNow : rest.getLastD first = now := by
        simpa [List.getLast?_append, List.getLast?_cons]
          using hLast
      rw [← hNow]
      exact traces_swings first rest

end Named

------------------------------------------------------------
-- Passages
------------------------------------------------------------

namespace Connection

/-
  A connection stays as it is for those who listen, or goes
  offline.
-/
inductive RestsOrFalls (before : Connection) :
    Connection → Prop where
| rests
    (after : Connection)
    (hNothing : before.TellsNothing after)
    (hFlag :
      after.session.isConnected = before.session.isConnected) :
    RestsOrFalls before after
| falls
    (world : World)
    (middle after : Connection)
    (hBefore : before.TellsNothing middle)
    (hFlag :
      middle.session.isConnected = before.session.isConnected)
    (hAfter : (middle.goOffline world).TellsNothing after)
    (hDown : after.session.isConnected = false) :
    RestsOrFalls before after

theorem RestsOrFalls.refl (connection : Connection) :
    connection.RestsOrFalls connection :=
  .rests _ (.refl _) rfl

/- What follows in silence changes nothing. -/
theorem RestsOrFalls.trans_tellsNothing
    {before middle after : Connection}
    (h : before.RestsOrFalls middle)
    (hNothing : middle.TellsNothing after)
    (hFlag :
      after.session.isConnected = middle.session.isConnected) :
    before.RestsOrFalls after := by
  cases h with
  | rests _ hBefore hSame =>
      exact
        .rests _ (hBefore.trans hNothing) (hFlag.trans hSame)
  | falls world early _ hBefore hSame hAfter hDown =>
      exact
        .falls world early _ hBefore hSame
          (hAfter.trans hNothing) (hFlag.trans hDown)

/- Going offline, and what is scheduled for it. -/
theorem restsOrFalls_goOffline
    (world : World)
    (connection : Connection) :
    connection.RestsOrFalls (connection.goOffline world) :=
  .falls world connection _ (.refl _) rfl (.refl _)
    (lowered_goOffline world connection).offline.flag

theorem tellsNothing_scheduleConnect (connection : Connection) :
    connection.TellsNothing connection.scheduleConnect ∧
      connection.scheduleConnect.session.isConnected =
        connection.session.isConnected := by
  have hRearranges := connection.rearranges_scheduleConnect
  generalize connection.scheduleConnect = later at hRearranges
  cases hRearranges with
  | intro tasks connect check journal hTasks hRequests hNews =>
      exact ⟨⟨hNews, rfl⟩, rfl⟩

theorem tellsNothing_scheduleCheck (connection : Connection) :
    connection.TellsNothing connection.scheduleCheck ∧
      connection.scheduleCheck.session.isConnected =
        connection.session.isConnected := by
  have hRearranges := connection.rearranges_scheduleCheck
  generalize connection.scheduleCheck = later at hRearranges
  cases hRearranges with
  | intro tasks connect check journal hTasks hRequests hNews =>
      exact ⟨⟨hNews, rfl⟩, rfl⟩

theorem restsOrFalls_giveUp
    (world : World)
    (task : TaskId)
    (connection : Connection) :
    connection.RestsOrFalls (connection.giveUp world task) := by
  have hFalls := restsOrFalls_goOffline world connection
  unfold giveUp
  split
  · exact hFalls
  · have hScheduled :=
      tellsNothing_scheduleConnect (connection.goOffline world)
    exact hFalls.trans_tellsNothing hScheduled.1 hScheduled.2

/- A first step in silence. -/
theorem RestsOrFalls.of_tellsNothing
    {before middle after : Connection}
    (hNothing : before.TellsNothing middle)
    (hFlag :
      middle.session.isConnected = before.session.isConnected)
    (h : middle.RestsOrFalls after) :
    before.RestsOrFalls after := by
  cases h with
  | rests _ hAfter hSame =>
      exact .rests _ (hNothing.trans hAfter) (hSame.trans hFlag)
  | falls world early _ hBefore hSame hAfter hDown =>
      exact
        .falls world early _ (hNothing.trans hBefore)
          (hSame.trans hFlag) hAfter hDown

/- Where the flag is down, nobody is told any more. -/
theorem RestsOrFalls.tellsNothing
    {before after : Connection}
    (h : before.RestsOrFalls after)
    (hDown : before.session.isConnected = false) :
    before.TellsNothing after ∧
      after.session.isConnected =
        before.session.isConnected := by
  cases h with
  | rests _ hNothing hFlag => exact ⟨hNothing, hFlag⟩
  | falls world middle _ hBefore hFlag hAfter hLast =>
      rw [goOffline_of_down (hFlag.trans hDown)] at hAfter
      have hSilent : middle.TellsNothing middle.stayOffline :=
        ⟨rfl, rfl⟩
      exact
        ⟨(hBefore.trans hSilent).trans hAfter,
          hLast.trans hDown.symm⟩

/- An attempt that has made itself ready has told nobody. -/
theorem Prepared.tellsNothing
    {offline later : Connection}
    (h : offline.Prepared later) :
    offline.TellsNothing later ∧
      later.session.isConnected =
        offline.session.isConnected := by
  have hEquip : offline.equip.news = offline.news := by
    unfold equip
    rw [news_record]
    exact List.append_nil _
  cases h with
  | bare => exact ⟨⟨rfl, rfl⟩, rfl⟩
  | equipped => exact ⟨⟨hEquip, rfl⟩, rfl⟩
  | named url => exact ⟨⟨hEquip, rfl⟩, rfl⟩

/- An attempt begins. -/
theorem restsOrFalls_beginAttempt
    (world : World)
    (task : TaskId)
    (connection : Connection) :
    connection.RestsOrFalls
      (connection.beginAttempt world task).1 := by
  have hFalls := restsOrFalls_goOffline world connection
  have hDown :=
    (lowered_goOffline world connection).offline.flag
  have hBegins := begins_beginAttempt world task connection
  generalize connection.goOffline world = offline
    at hFalls hDown hBegins
  generalize connection.beginAttempt world task = result
    at hBegins
  have hGoesOn :
      ∀ later after : Connection,
        offline.Prepared later →
          later.RestsOrFalls after →
            connection.RestsOrFalls after := by
    intro later after hPrepared hAfter
    have hLater :=
      RestsOrFalls.of_tellsNothing hPrepared.tellsNothing.1
        hPrepared.tellsNothing.2
        hAfter
    have hSilent := hLater.tellsNothing hDown
    exact hFalls.trans_tellsNothing hSilent.1 hSilent.2
  cases hBegins with
  | givesUp later hPrepared =>
      exact
        hGoesOn _ _ hPrepared
          (restsOrFalls_giveUp world task later)
  | strands hStrands =>
      exact hGoesOn _ _ .equipped (restsOrFalls_goOffline world _)
  | asks url hCalm =>
      exact
        hGoesOn _ _ (.named url)
          (.rests _ (tellsNothing_record _ rfl) rfl)

/- An attempt goes on that does not come online. -/
theorem restsOrFalls_resume
    (world : World)
    {errand : Errand}
    {task : TaskId}
    (answer : Http.Answer)
    {connection : Connection}
    (hAttempt : errand.attempt? = some task)
    (hStays : connection.bringsOnline answer errand = false) :
    connection.RestsOrFalls
      (connection.resume world errand answer).1 := by
  have hReplies :=
    replies_resume world answer connection hAttempt
  generalize connection.resume world errand answer = result
    at hReplies
  cases hReplies with
  | givesUp _ other hOther hSame =>
      apply (restsOrFalls_giveUp world other _).of_tellsNothing
      · cases errand <;> exact ⟨rfl, rfl⟩
      · cases errand <;> rfl
  | registers other transport sender url hUrl =>
      have hAsked :
          connection.clearCheck.TellsNothing
            (connection.clearCheck.record
              (.asked sender
                (connection.registrar.request .register
                  url))) :=
        tellsNothing_record _ rfl
      exact .rests _ ⟨hAsked.news, hAsked.registry⟩ rfl
  | fetches other transport body hAnswer hCalm =>
      exact .rests _ (tellsNothing_record _ rfl) rfl
  | flickers other transport hCalm hCancelled hKeys =>
      cases hStays.symm.trans
        (bringsOnline_of_update transport hCalm hKeys)
  | rises other transport hCalm hLitCalm hKeys =>
      cases hStays.symm.trans
        (bringsOnline_of_update transport hCalm hKeys)

/- The end of a closing. -/
theorem restsOrFalls_endClose
    (world : World)
    (connection : Connection) :
    connection.RestsOrFalls
      (connection.endClose (goOffline world)) := by
  have hBare : connection.TellsNothing connection.bare :=
    ⟨rfl, rfl⟩
  rw [endClose_eq]
  exact
    .of_tellsNothing hBare rfl
      (restsOrFalls_goOffline world connection.bare)

/- Its beginning. -/
theorem restsOrFalls_beginClose
    (world : World)
    (connection : Connection) :
    connection.RestsOrFalls (connection.beginClose world).1 := by
  have hShut : connection.TellsNothing connection.shut :=
    ⟨rfl, rfl⟩
  have hEnds :
      connection.RestsOrFalls
        (connection.shut.endClose (goOffline world)) :=
    .of_tellsNothing hShut rfl
      (restsOrFalls_endClose world connection.shut)
  unfold beginClose
  split
  · exact .refl _
  · dsimp only
    split
    · rename_i sending hSent
      have hAsked :
          connection.shut.TellsNothing
            (connection.shut.record
              (.asked sending.1 sending.2)) :=
        tellsNothing_record _ rfl
      exact .rests _ (hShut.trans hAsked) rfl
    · exact hEnds

/- A health check ends. -/
theorem restsOrFalls_afterProbe
    (world : World)
    (task : TaskId)
    (isReachable : Bool)
    (connection : Connection) :
    connection.RestsOrFalls
      (connection.afterProbe world task isReachable).1 := by
  have hFalls := restsOrFalls_goOffline world connection
  unfold afterProbe
  split
  · exact .refl _
  · have hCleared :
        connection.RestsOrFalls
          (connection.goOffline world).clearCheck :=
      hFalls.trans_tellsNothing ⟨rfl, rfl⟩ rfl
    have hScheduled :=
      tellsNothing_scheduleConnect
        (connection.goOffline world).clearCheck
    exact hCleared.trans_tellsNothing hScheduled.1 hScheduled.2

/- A question that is asked anew changes no registry. -/
theorem registry_askAnew
    (world : World)
    (connection : Connection)
    (endpoint : Endpoint)
    (errand : Errand) :
    (connection.askAnew world endpoint errand).1.registry =
      connection.registry := by
  unfold askAnew createTransport
  cases hCreates : world.creates with
  | false => rfl
  | true => rfl

/- Nor does one that is asked in a session. -/
theorem registry_askInSession
    (connection : Connection)
    (request : Http.Request)
    (errand : TransportId → Errand) :
    (connection.askInSession request errand).1.registry =
      connection.registry := by
  unfold askInSession
  split
  · rfl
  · rfl

/- A command that is no closing tells nobody. -/
theorem restsOrFalls_obey
    (world : World)
    (command : Command)
    (connection : Connection) :
    connection.RestsOrFalls (connection.obey world command).1 := by
  by_cases hClose : command = .close
  · subst hClose
    exact restsOrFalls_beginClose world connection
  · have hIdles := (idles_obey world connection hClose).1
    have hRegistry :
        (connection.obey world command).1.registry =
          connection.registry := by
      cases command with
      | close => exact absurd rfl hClose
      | notify message =>
          change (connection.beginNotify message).1.registry = _
          unfold beginNotify
          split
          · exact registry_askInSession _ _ _
          · rfl
      | executeRecipe key on =>
          change (connection.beginRecipe key on).1.registry = _
          unfold beginRecipe
          split
          · rfl
          · exact registry_askInSession _ _ _
      | _ => exact registry_askAnew _ _ _ _
    exact
      .rests _ ⟨hIdles.news, hRegistry⟩
        (congrArg Session.isConnected hIdles.session)

/- So does the answer to one. -/
theorem restsOrFalls_answer
    (world : World)
    (errand : Errand)
    (answer : Http.Answer)
    (connection : Connection)
    (hStays : connection.bringsOnline answer errand = false) :
    connection.RestsOrFalls
      (connection.resume world errand answer).1 := by
  cases hAttempt : errand.attempt? with
  | some task =>
      exact restsOrFalls_resume world answer hAttempt hStays
  | none =>
      by_cases hClosing : errand = .closing
      · subst hClosing
        exact restsOrFalls_endClose world connection
      · have hIdles :=
          (idles_resume world answer connection
            ⟨hAttempt, hClosing⟩).1
        have hRegistry :
            (connection.resume world errand
                answer).1.registry =
              connection.registry := by
          cases errand with
          | listingRecipes transport key on =>
              change
                (connection.afterListing transport key on
                  answer).1.registry = _
              unfold afterListing
              split
              · rfl
              · split
                · rfl
                · split
                  · rfl
                  · rfl
          | unregistering task transport => cases hAttempt
          | registering task transport => cases hAttempt
          | fetchingKeys task transport => cases hAttempt
          | closing => exact absurd rfl hClosing
          | _ => rfl
        exact
          .rests _ ⟨hIdles.news, hRegistry⟩
            (congrArg Session.isConnected hIdles.session)

/- An attempt that has come online stays so, or goes offline. -/
theorem restsOrFalls_lit
    (world : World)
    {errand : Errand}
    {answer : Http.Answer}
    {connection : Connection}
    (hBrings : connection.bringsOnline answer errand = true) :
    (connection.lit world answer).RestsOrFalls
      (connection.resume world errand answer).1 := by
  have hAttempt : ∃ task, errand.attempt? = some task := by
    cases errand with
    | fetchingKeys task transport => exact ⟨task, rfl⟩
    | _ => cases hBrings
  rcases hAttempt with ⟨task, hAttempt⟩
  have hReplies :=
    replies_resume world answer connection hAttempt
  generalize connection.resume world errand answer = result
    at hReplies
  cases hReplies with
  | givesUp _ other hOther hStays =>
      cases hStays.symm.trans hBrings
  | registers other transport sender url hUrl => cases hBrings
  | fetches other transport body hAnswer hCalm => cases hBrings
  | flickers other transport hCalm hCancelled hKeys =>
      have hFalls :=
        restsOrFalls_goOffline world (connection.lit world answer)
      have hDown :=
        (lowered_goOffline world
          (connection.lit world answer)).offline.flag
      have hSilent :=
        (restsOrFalls_goOffline world
          ((connection.lit world answer).goOffline
            world)).tellsNothing hDown
      exact hFalls.trans_tellsNothing hSilent.1 hSilent.2
  | rises other transport hCalm hLitCalm hKeys =>
      have hScheduled :=
        tellsNothing_scheduleCheck (connection.lit world answer)
      exact .rests _ hScheduled.1 hScheduled.2

/- The run of a task. -/
theorem restsOrFalls_runJob
    (world : World)
    (task : TaskId)
    (connection : Connection) :
    connection.RestsOrFalls (connection.runJob world task).1 := by
  unfold runJob
  split
  · exact .refl _
  · exact restsOrFalls_beginAttempt world task connection
  · unfold beginCheck
    split
    · exact .refl _
    · exact .rests _ (tellsNothing_record _ rfl) rfl

/- That a run begins is seen by no listener. -/
theorem tellsNothing_beginRun
    (task : TaskId)
    (connection : Connection) :
    connection.TellsNothing (connection.beginRun task) ∧
      (connection.beginRun task).session.isConnected =
        connection.session.isConnected := by
  unfold beginRun
  split
  · exact ⟨⟨rfl, rfl⟩, rfl⟩
  · exact ⟨⟨rfl, rfl⟩, rfl⟩

end Connection

------------------------------------------------------------
-- Occurrences
------------------------------------------------------------

namespace Situation

open Connection

/- Nor is it that it ends. -/
theorem tellsNothing_proceed
    (waiting : List Question)
    (task? : Option TaskId)
    (step : Connection × Progress) :
    step.1.TellsNothing (proceed waiting task? step).connection ∧
      (proceed waiting task?
          step).connection.session.isConnected =
        step.1.session.isConnected := by
  rcases step with ⟨connection, progress⟩
  cases progress with
  | asks request errand => exact ⟨⟨rfl, rfl⟩, rfl⟩
  | probes task => exact ⟨⟨rfl, rfl⟩, rfl⟩
  | done result =>
      cases task? with
      | none => exact ⟨⟨rfl, rfl⟩, rfl⟩
      | some task => exact ⟨⟨rfl, rfl⟩, rfl⟩

theorem restsOrFalls_proceed
    {before : Connection}
    {step : Connection × Progress}
    (h : before.RestsOrFalls step.1)
    (waiting : List Question)
    (task? : Option TaskId) :
    before.RestsOrFalls
      (proceed waiting task? step).connection := by
  have hEnds := tellsNothing_proceed waiting task? step
  exact h.trans_tellsNothing hEnds.1 hEnds.2

/- An occurrence that brings nobody online. -/
theorem restsOrFalls_after
    {situation : Situation}
    {occurrence : Occurrence}
    (hUnlit : situation.lit? occurrence = none)
    (hOther : ∀ change, occurrence ≠ .listen change) :
    situation.connection.RestsOrFalls
      (situation.after occurrence).connection := by
  cases occurrence with
  | start =>
      have hScheduled :=
        tellsNothing_scheduleConnect situation.connection
      simp only [Situation.after]
      split
      · unfold Connection.start
        split
        · exact .refl _
        · exact .rests _ hScheduled.1 hScheduled.2
      · exact .refl _
  | command world command =>
      simp only [Situation.after]
      split
      · exact
          restsOrFalls_proceed
            (restsOrFalls_obey world command _) _ _
      · exact .refl _
  | drop =>
      simp only [Situation.after]
      split
      · exact .refl _
      · exact .rests _ ⟨rfl, rfl⟩ rfl
  | run world task =>
      have hBegun :=
        tellsNothing_beginRun task situation.connection
      simp only [Situation.after]
      split
      · apply restsOrFalls_proceed
        exact
          (restsOrFalls_runJob world task _).of_tellsNothing
            hBegun.1 hBegun.2
      · exact .refl _
  | answer world request errand answer =>
      simp only [Situation.after]
      split
      · rename_i hWaits
        apply restsOrFalls_proceed
        apply restsOrFalls_answer
        apply eq_false_of_ne_true
        intro hBrings
        simp [lit?, hWaits, hBrings] at hUnlit
      · exact .refl _
  | probe world task isReachable =>
      simp only [Situation.after]
      split
      · exact
          restsOrFalls_proceed
            (restsOrFalls_afterProbe world task isReachable _) _ _
      · exact .refl _
  | notice task => exact .rests _ ⟨rfl, rfl⟩ rfl
  | setTime time => exact .rests _ ⟨rfl, rfl⟩ rfl
  | listen change => exact absurd rfl (hOther change)

/- Only an answer to an attempt brings a connection online. -/
theorem exists_of_lit?
    {situation : Situation}
    {occurrence : Occurrence}
    {lit : Connection}
    (hLit : situation.lit? occurrence = some lit) :
    ∃ world request errand answer,
      occurrence = .answer world request errand answer ∧
        .asking request errand ∈ situation.waiting ∧
          situation.connection.bringsOnline answer errand =
              true ∧
            lit = situation.connection.lit world answer := by
  cases occurrence with
  | answer world request errand answer =>
      simp only [lit?] at hLit
      split at hLit
      · rename_i hBrings
        cases hLit
        exact
          ⟨world, request, errand, answer, rfl, hBrings.1,
            hBrings.2, rfl⟩
      · cases hLit
  | _ => cases hLit

/- It stays so, or goes offline. -/
theorem restsOrFalls_of_lit
    {situation : Situation}
    (world : World)
    {request : Http.Request}
    {errand : Errand}
    {answer : Http.Answer}
    (hWaits : .asking request errand ∈ situation.waiting)
    (hBrings :
      situation.connection.bringsOnline answer errand = true) :
    (situation.connection.lit world answer).RestsOrFalls
      (situation.after
        (.answer world request errand answer)).connection := by
  simp only [Situation.after, if_pos hWaits]
  exact restsOrFalls_proceed (restsOrFalls_lit world hBrings) _ _

end Situation

end BrainLink
