import BrainLink.Proofs.Closing
import BrainLink.Proofs.Moments

/-
  What listeners hear of a connection is how its flag changes.

  Key definitions include:
    * `Peaceful`
    * `Connection.AllPeaceful`
    * `drained`
    * `Connection.AllHeard`
    * `Hears`

  Main statements:
    * `Connection.AllPeaceful.announce`
    * `Connection.AllHeard.silent`
    * `Connection.AllHeard.told`
    * `events_mirror_flag`

  Everyone who listens is told of a change before the next can
  come, except where a listener that is told that the brain is
  online closes the connection on the spot: then the others
  are told of the end before they are told of the beginning.
  Listeners may do all else in the meantime.
-/

namespace BrainLink

------------------------------------------------------------
-- Peace
------------------------------------------------------------

/-
  The moves of a listener that never closes the connection on
  the spot when it is told that the brain is online. Nor do
  those whom it adds.
-/
inductive Peaceful : List (Bool × Move) → Prop where
| intro
    (moves : List (Bool × Move))
    (hStays : (true, .closeNow) ∉ moves)
    (hAdded :
      ∀ value name others,
        (value, .addListener name others) ∈ moves →
          Peaceful others) :
    Peaceful moves

namespace Connection

/- Everyone who listens is peaceful. -/
def AllPeaceful (connection : Connection) : Prop :=
  ∀ entry ∈ connection.registry.entries,
    ∀ watcher,
      entry.2 = .callback watcher → Peaceful watcher.moves

section AllPeaceful

variable {closeNow : Connection → Connection}
variable {connection : Connection}
variable {moves : List (Bool × Move)}

/- It depends on the registry alone. -/
theorem AllPeaceful.of_registry
    {after : Connection}
    (h : connection.AllPeaceful)
    (hRegistry : after.registry = connection.registry) :
    after.AllPeaceful := by
  unfold AllPeaceful
  rw [hRegistry]
  exact h

theorem AllPeaceful.of_filter
    (h : connection.AllPeaceful)
    (stays : Entry Watcher → Bool) :
    AllPeaceful
      { connection with
        registry :=
          { connection.registry with
            entries :=
              connection.registry.entries.filter stays } } :=
  fun entry hMember => h entry (List.mem_filter.mp hMember).1

theorem AllPeaceful.addListener
    (h : connection.AllPeaceful)
    {watcher : Watcher}
    (hPeaceful : Peaceful watcher.moves) :
    (connection.addListener watcher).AllPeaceful := by
  intro entry hMember other hEntry
  rcases List.mem_append.mp hMember with hOld | hNew
  · exact h entry hOld other hEntry
  · rw [List.mem_singleton.mp hNew] at hEntry
    cases hEntry
    exact hPeaceful

theorem AllPeaceful.removeListener
    (h : connection.AllPeaceful)
    (name : String) :
    (connection.removeListener name).1.AllPeaceful := by
  unfold Connection.removeListener
  split
  · exact h
  · exact h.of_filter _

theorem AllPeaceful.subscribe
    (h : connection.AllPeaceful) :
    connection.subscribe.AllPeaceful := by
  intro entry hMember watcher hEntry
  rcases List.mem_append.mp hMember with hOld | hNew
  · exact h entry (List.mem_filter.mp hOld).1 watcher hEntry
  · rw [List.mem_singleton.mp hNew] at hEntry
    cases hEntry

/- A peaceful listener does something. -/
theorem AllPeaceful.makeMove
    (h : connection.AllPeaceful)
    (hClose :
      ∀ other : Connection,
        other.AllPeaceful → (closeNow other).AllPeaceful)
    (hPeaceful : Peaceful moves)
    {value : Bool}
    {move : Move}
    (hMember : (value, move) ∈ moves) :
    (connection.makeMove closeNow move).AllPeaceful ∧
      (value = true →
        (connection.makeMove closeNow move).isClosed =
          connection.isClosed) := by
  rcases hPeaceful with ⟨_, hStays, hAdded⟩
  have hScheduled := tellsNothing_scheduleConnect connection
  unfold Connection.makeMove
  split
  · cases move with
    | start =>
        change
          connection.start.AllPeaceful ∧
            (value = true →
              connection.start.isClosed = connection.isClosed)
        unfold Connection.start
        split
        · exact ⟨h, fun _ => rfl⟩
        · exact
            ⟨h.of_registry hScheduled.1.registry,
              fun _ => connection.isClosed_scheduleConnect⟩
    | close => exact ⟨h, fun _ => rfl⟩
    | closeNow =>
        refine ⟨hClose connection h, ?_⟩
        rintro rfl
        exact absurd hMember hStays
    | addListener name others =>
        exact
          ⟨h.addListener (hAdded value name others hMember),
            fun _ => rfl⟩
    | removeListener name =>
        refine ⟨h.removeListener name, fun _ => ?_⟩
        change (connection.removeListener name).1.isClosed = _
        unfold Connection.removeListener
        split
        · rfl
        · rfl
    | subscribe => exact ⟨h.subscribe, fun _ => rfl⟩
  · exact ⟨h, fun _ => rfl⟩

/- It does all that it does. -/
theorem AllPeaceful.makeMoves
    (h : connection.AllPeaceful)
    (hClose :
      ∀ other : Connection,
        other.AllPeaceful → (closeNow other).AllPeaceful)
    (hPeaceful : Peaceful moves)
    {value : Bool}
    (chosen : List Move)
    (hChosen : ∀ move ∈ chosen, (value, move) ∈ moves) :
    (chosen.foldl (Connection.makeMove closeNow)
        connection).AllPeaceful ∧
      (value = true →
        (chosen.foldl (Connection.makeMove closeNow)
            connection).isClosed =
          connection.isClosed) := by
  induction chosen generalizing connection with
  | nil => exact ⟨h, fun _ => rfl⟩
  | cons move chosen ih =>
      have hMoved :=
        h.makeMove hClose hPeaceful
          (hChosen move List.mem_cons_self)
      have hRest :=
        ih hMoved.1 fun other hMember =>
          hChosen other (List.mem_cons_of_mem move hMember)
      exact
        ⟨hRest.1,
          fun hValue =>
            (hRest.2 hValue).trans (hMoved.2 hValue)⟩

/- It is told of an event. -/
theorem AllPeaceful.tell
    (h : connection.AllPeaceful)
    (hClose :
      ∀ other : Connection,
        other.AllPeaceful → (closeNow other).AllPeaceful)
    (event : Event)
    {entry : Entry Watcher}
    (hPeaceful :
      ∀ watcher,
        entry.2 = .callback watcher → Peaceful watcher.moves) :
    (connection.tell closeNow event entry).AllPeaceful ∧
      (event.new = true →
        (connection.tell closeNow event entry).isClosed =
          connection.isClosed) := by
  rcases entry with ⟨id, listener⟩
  cases listener with
  | channel => exact ⟨h, fun _ => rfl⟩
  | callback watcher =>
      have hTold :
          ∀ effect, (connection.record effect).AllPeaceful :=
        fun _ => h
      apply
        (hTold _).makeMoves hClose (hPeaceful watcher rfl)
      intro move hMember
      rcases List.mem_map.mp hMember with
        ⟨choice, hChoice, rfl⟩
      rcases List.mem_filter.mp hChoice with ⟨hIn, hIs⟩
      rw [← eq_of_beq hIs]
      exact hIn

/- All are told, one after the other. -/
theorem AllPeaceful.visitEach
    (hClose :
      ∀ other : Connection,
        other.AllPeaceful → (closeNow other).AllPeaceful)
    (event : Event)
    {entries : List (Entry Watcher)}
    (hPeaceful :
      ∀ entry ∈ entries,
        ∀ watcher,
          entry.2 = .callback watcher →
            Peaceful watcher.moves)
    (h : connection.AllPeaceful) :
    let visited :=
      (BrainLink.visitEach
        (fun entry (connection : Connection) =>
          connection.registry.isClosed entry)
        (Connection.tell closeNow event)
        entries
        connection).1
    visited.AllPeaceful ∧
      (event.new = true →
        visited.isClosed = connection.isClosed) := by
  induction entries generalizing connection with
  | nil => exact ⟨h, fun _ => rfl⟩
  | cons entry entries ih =>
      have hRest :
          ∀ other ∈ entries,
            ∀ watcher,
              other.2 = .callback watcher →
                Peaceful watcher.moves :=
        fun other hMember =>
          hPeaceful other (List.mem_cons_of_mem entry hMember)
      intro visited
      unfold visited BrainLink.visitEach
      split
      · exact ih hRest h
      · have hTold :=
          h.tell hClose event (hPeaceful entry List.mem_cons_self)
        have hLater := ih hRest hTold.1
        exact
          ⟨hLater.1,
            fun hNew => (hLater.2 hNew).trans (hTold.2 hNew)⟩

/-
  After an announcement all are as peaceful as before. Nobody
  closes the connection who is told that it is online.
-/
theorem AllPeaceful.announce
    (h : connection.AllPeaceful)
    (hClose :
      ∀ other : Connection,
        other.AllPeaceful → (closeNow other).AllPeaceful)
    (event : Event) :
    (connection.announce closeNow event).AllPeaceful ∧
      (event.new = true →
        (connection.announce closeNow event).isClosed =
          connection.isClosed) := by
  have hVisited := AllPeaceful.visitEach hClose event h h
  unfold Connection.announce
  dsimp only
  split
  · exact ⟨hVisited.1.of_filter _, hVisited.2⟩
  · exact hVisited

theorem AllPeaceful.goOffline
    (world : World)
    (h : connection.AllPeaceful) :
    (connection.goOffline world).AllPeaceful := by
  cases hFlag : connection.session.isConnected with
  | false =>
      rw [goOffline_of_down hFlag]
      exact h
  | true =>
      have hLowered : connection.stayOffline.AllPeaceful := h
      rw [goOffline_of_up hFlag]
      exact
        (hLowered.announce
          (fun other hOther =>
            hOther.of_registry
              (tellsNothing_closeNow world other).registry)
          _).1

theorem AllPeaceful.closeAtOnce
    (world : World)
    (h : connection.AllPeaceful) :
    (connection.closeNow world
      (Connection.goOffline world)).AllPeaceful := by
  apply closeNow_cases
  · exact fun _ => h
  · exact fun _ _ => AllPeaceful.goOffline world h
  · exact fun _ _ _ _ _ _ => AllPeaceful.goOffline world h
  · exact fun _ _ _ _ _ => h

theorem AllPeaceful.goOnline
    (world : World)
    (h : connection.AllPeaceful) :
    (connection.goOnline world).AllPeaceful ∧
      (connection.goOnline world).isClosed =
        connection.isClosed := by
  unfold Connection.goOnline Connection.setConnected
  dsimp only
  split
  · exact ⟨h, rfl⟩
  · rename_i event hChange
    have hNew : event.new = true := by
      unfold Session.change? at hChange
      split at hChange
      · cases hChange
      · cases hChange
        rfl
    have hRaised :
        AllPeaceful
          { connection with
            session :=
              connection.session.setConnected true } :=
      h
    have hAnnounced :=
      hRaised.announce
        (fun _ hOther => hOther.closeAtOnce world) event
    exact ⟨hAnnounced.1, hAnnounced.2 hNew⟩

end AllPeaceful

------------------------------------------------------------
-- Attention
------------------------------------------------------------

/-
  Everyone has heard of the changes since the moment at which
  a name was given to them, in order and from the first on.
  Whoever still listens has heard of all of them.
-/
structure AllHeard
    (taken : ListenerId → List Event)
    (earlier : List Connection)
    (now : Connection) : Prop where
  keeps : now.registry.Keeps now.heard taken
  grown :
    ∀ moment ∈ earlier,
      moment.registry.nextId ≤ now.registry.nextId
  early :
    ∀ id,
      now.heard id <+:
        swings (sinceNamed id (earlier ++ [now]))
  whole :
    ∀ entry ∈ now.registry.entries,
      now.registry.isClosed entry = false →
        now.heard entry.1 =
          swings (sinceNamed entry.1 (earlier ++ [now]))

section AllHeard

variable {taken : ListenerId → List Event}
variable {earlier : List Connection}
variable {before after : Connection}

/- No moment has given more names than the next. -/
theorem AllHeard.grows
    (h : before.AllHeard taken earlier)
    (hGrown :
      before.registry.nextId ≤ after.registry.nextId) :
    ∀ moment ∈ earlier ++ [before],
      moment.registry.nextId ≤ after.registry.nextId := by
  intro moment hMember
  rcases List.mem_append.mp hMember with hOld | hLast
  · exact Nat.le_trans (h.grown moment hOld) hGrown
  · rw [List.mem_singleton.mp hLast]
    exact hGrown

/- Whoever has no name yet has nothing to hear. -/
theorem AllHeard.unnamed
    (h : before.AllHeard taken earlier)
    {id : ListenerId}
    (hUnnamed : before.registry.nextId ≤ id)
    (last : Connection) :
    swings (sinceNamed id (earlier ++ [before] ++ [last])) =
      [] := by
  apply swings_of_unnamed
  intro moment hMember
  exact
    Nat.le_trans (h.grows (Nat.le_refl _) moment hMember)
      hUnnamed

/- Someone who still listens had listened before, or is new. -/
theorem AllHeard.still
    (h : before.AllHeard taken earlier)
    (hEvolves : before.registry.Evolves after.registry)
    {entry : Entry Watcher}
    (hMember : entry ∈ after.registry.entries)
    (hOpen : after.registry.isClosed entry = false) :
    entry ∈ before.registry.entries ∧
        before.registry.isClosed entry = false ∧
          entry.1 < before.registry.nextId ∨
      before.registry.nextId ≤ entry.1 := by
  rcases hEvolves.entries entry hMember with hOld | hNew
  · have hNamed := h.keeps.named entry hOld
    refine Or.inl ⟨hOld, ?_, hNamed⟩
    apply eq_false_of_ne_true
    intro hClosed
    cases hOpen.symm.trans
      (hEvolves.closed entry hNamed hClosed)
  · exact Or.inr hNew

/- Nothing is told, and the flag stays as it is. -/
theorem AllHeard.silent
    {taken' : ListenerId → List Event}
    (h : before.AllHeard taken earlier)
    (hHeard : ∀ id, after.heard id = before.heard id)
    (hEvolves : before.registry.Evolves after.registry)
    (hKeeps : after.registry.Keeps after.heard taken')
    (hFlag :
      after.session.isConnected = before.session.isConnected) :
    after.AllHeard taken' (earlier ++ [before]) := by
  have hSwing : before.swing? after = none := by
    unfold swing? Session.change?
    rw [hFlag, if_pos rfl]
  have hSame :
      ∀ id < before.registry.nextId,
        swings
            (sinceNamed id (earlier ++ [before] ++ [after])) =
          swings (sinceNamed id (earlier ++ [before])) := by
    intro id hNamed
    rw [swings_sinceNamed_append hNamed hEvolves.nextId,
      hSwing]
    exact List.append_nil _
  refine ⟨hKeeps, h.grows hEvolves.nextId, ?_, ?_⟩
  · intro id
    rw [hHeard]
    by_cases hNamed : id < before.registry.nextId
    · rw [hSame id hNamed]
      exact h.early id
    · rw [h.keeps.unheard id (Nat.le_of_not_lt hNamed)]
      exact List.nil_prefix
  · intro entry hMember hOpen
    rw [hHeard]
    rcases h.still hEvolves hMember hOpen with
      ⟨hOld, hWasOpen, hNamed⟩ | hNew
    · rw [hSame entry.1 hNamed]
      exact h.whole entry hOld hWasOpen
    · rw [h.unnamed hNew, h.keeps.unheard entry.1 hNew]

/- A change is told to all who listen. -/
theorem AllHeard.told
    {event : Event}
    {told : List (Entry Watcher)}
    (h : before.AllHeard taken earlier)
    (hReaches :
      before.Reaches event before.registry.entries told after)
    (hSwing : before.swing? after = some event) :
    after.AllHeard taken (earlier ++ [before]) := by
  have hEvolves := hReaches.carries.evolves
  have hMore :
      ∀ id < before.registry.nextId,
        swings
            (sinceNamed id (earlier ++ [before] ++ [after])) =
          swings (sinceNamed id (earlier ++ [before])) ++
            [event] := by
    intro id hNamed
    rw [swings_sinceNamed_append hNamed hEvolves.nextId,
      hSwing]
    rfl
  have hSingle : (told.map Prod.fst).Nodup :=
    h.keeps.single.sublist (hReaches.sublist.map Prod.fst)
  have hHeard :
      ∀ entry ∈ told,
        after.heard entry.1 =
          swings
            (sinceNamed entry.1
              (earlier ++ [before] ++ [after])) := by
    intro entry hTold
    have hOld := hReaches.sublist.subset hTold
    rw [hMore entry.1 (h.keeps.named entry hOld),
      ← h.whole entry hOld (hReaches.opened entry hTold),
      hReaches.carries.heard, mailTo_told hSingle hTold]
  have hUntold :
      ∀ id,
        (∀ entry ∈ told, entry.1 ≠ id) →
          after.heard id = before.heard id := by
    intro id hNobody
    rw [hReaches.carries.heard, mailTo_untold hNobody,
      List.append_nil]
  refine
    ⟨hReaches.carries.keeps taken h.keeps,
      h.grows hEvolves.nextId, ?_, ?_⟩
  · intro id
    by_cases hTold : ∃ entry ∈ told, entry.1 = id
    · rcases hTold with ⟨entry, hTold, rfl⟩
      exact hHeard entry hTold ▸ List.prefix_rfl
    · have hNobody : ∀ entry ∈ told, entry.1 ≠ id :=
        fun entry hMember hSame =>
          hTold ⟨entry, hMember, hSame⟩
      rw [hUntold id hNobody]
      by_cases hNamed : id < before.registry.nextId
      · rw [hMore id hNamed]
        exact (h.early id).trans (List.prefix_append _ _)
      · rw [h.keeps.unheard id (Nat.le_of_not_lt hNamed)]
        exact List.nil_prefix
  · intro entry hMember hOpen
    rcases h.still hEvolves hMember hOpen with
      ⟨hOld, -, -⟩ | hNew
    · apply hHeard
      by_cases hTold : entry ∈ told
      · exact hTold
      · cases hOpen.symm.trans
          (hReaches.missed entry hOld hTold)
    · have hNobody : ∀ other ∈ told, other.1 ≠ entry.1 := by
        intro other hTold hSame
        have hOther :=
          h.keeps.named other (hReaches.sublist.subset hTold)
        rw [hSame] at hOther
        exact absurd hNew (Nat.not_le_of_lt hOther)
      rw [hUntold entry.1 hNobody, h.unnamed hNew,
        h.keeps.unheard entry.1 hNew]

/- Nobody notices anything. -/
theorem AllHeard.tellsNothing
    (h : before.AllHeard taken earlier)
    (hNothing : before.TellsNothing after)
    (hFlag :
      after.session.isConnected = before.session.isConnected) :
    after.AllHeard taken (earlier ++ [before]) :=
  h.silent
    (heard_of_news hNothing.news)
    hNothing.carries.evolves
    (hNothing.carries.keeps taken h.keeps)
    hFlag

/- A connection goes offline, or stays as it is. -/
theorem AllHeard.restsOrFalls
    (h : before.AllHeard taken earlier)
    (hFalls : before.RestsOrFalls after) :
    after.AllHeard taken (earlier ++ [before]) := by
  cases hFlag : before.session.isConnected with
  | false =>
      have hNothing := hFalls.tellsNothing hFlag
      exact h.tellsNothing hNothing.1 hNothing.2
  | true =>
      cases hFalls with
      | rests _ hNothing hSame =>
          exact h.tellsNothing hNothing hSame
      | falls world middle _ hBefore hSame hAfter hDown =>
          rcases reaches_goOffline world (hSame.trans hFlag)
              (hBefore.carries.keeps taken h.keeps) with
            ⟨told, hTold⟩
          rw [hBefore.registry] at hTold
          apply h.told (hTold.hush hBefore hAfter)
          unfold swing? Session.change?
          rw [hFlag, hDown]
          rfl

/- It goes online, and no listener closes it. -/
theorem AllHeard.rises
    {world : World}
    {middle : Connection}
    (h : before.AllHeard taken earlier)
    (hBefore : before.TellsNothing middle)
    (hSame :
      middle.session.isConnected = before.session.isConnected)
    (hOpen : middle.isClosed = false)
    (hStays : (middle.goOnline world).isClosed = false) :
    (middle.goOnline world).AllHeard taken
      (earlier ++ [before]) := by
  cases hFlag : before.session.isConnected with
  | true =>
      have hUp := hSame.trans hFlag
      have hOnline :
          middle.goOnline world =
            { middle with
              session := middle.session.setConnected true } := by
        simp [goOnline, setConnected, Session.change?, hUp]
      rw [hOnline]
      exact
        h.tellsNothing ⟨hBefore.news, hBefore.registry⟩
          hFlag.symm
  | false =>
      have hDown := hSame.trans hFlag
      have hRaised :
          (middle.goOnline world).session.isConnected = true :=
        (raised_goOnline hDown hOpen).flag hStays
      rcases reaches_goOnline world hDown
          (hBefore.carries.keeps taken h.keeps) with
        hClosed | ⟨told, hTold⟩
      · cases hStays.symm.trans hClosed
      · rw [hBefore.registry] at hTold
        apply h.told (hTold.hush hBefore (.refl _))
        unfold swing? Session.change?
        rw [hFlag, hRaised]
        rfl

end AllHeard

end Connection

------------------------------------------------------------
-- Receivers
------------------------------------------------------------

/- What an occurrence takes out of a channel. -/
def Occurrence.draws
    (registry : Registry Watcher)
    (id : ListenerId) :
    Occurrence → List Event
| .listen (.drain other) =>
    if other = id then (registry.drain other).2 else []
| _ => []

/- All that was taken out of a channel, the earliest first. -/
def drained (connection : Connection) :
    List Occurrence → ListenerId → List Event
| [], _ => []
| occurrence :: past, id =>
    drained connection past id ++
      occurrence.draws
        (replay connection past).connection.registry id

/- Whoever only listens takes nothing out. -/
theorem drained_of_draws
    {connection : Connection}
    {occurrence : Occurrence}
    (hNone :
      ∀ registry id, occurrence.draws registry id = [])
    (past : List Occurrence) :
    drained connection (occurrence :: past) =
      drained connection past := by
  funext id
  rw [drained, hNone, List.append_nil]

namespace Connection

variable {before : Connection}
variable {taken : ListenerId → List Event}
variable {earlier : List Connection}

/- Whoever comes or goes has missed nothing. -/
theorem AllHeard.evolves
    {after : Connection}
    {taken' : ListenerId → List Event}
    (h : before.AllHeard taken earlier)
    (hNews : after.news = before.news)
    (hSession : after.session = before.session)
    (hEvolves : before.registry.Evolves after.registry)
    (hKeeps : after.registry.Keeps before.heard taken') :
    after.AllHeard taken' (earlier ++ [before]) := by
  have hHeard := heard_of_news hNews
  have hSame : after.heard = before.heard := funext hHeard
  apply h.silent hHeard hEvolves
  · rw [hSame]
    exact hKeeps
  · exact congrArg Session.isConnected hSession

/- The owner changes who listens, or takes out what waits. -/
theorem AllHeard.attends
    (h : before.AllHeard taken earlier)
    (change : Audience) :
    (before.attend change).AllHeard
      (fun id =>
        taken id ++
          (Occurrence.listen change).draws before.registry id)
      (earlier ++ [before]) := by
  have hTaken : (fun id => taken id ++ []) = taken :=
    funext fun _ => List.append_nil _
  cases change with
  | drain id =>
      exact
        h.evolves rfl rfl (before.registry.evolves_drain id)
          (h.keeps.drain id)
  | add watcher =>
      change AllHeard (fun id => taken id ++ []) _ _
      rw [hTaken]
      exact
        h.evolves rfl rfl (before.registry.evolves_add watcher)
          (h.keeps.add watcher)
  | remove name =>
      change
        (before.removeListener name).1.AllHeard
          (fun id => taken id ++ []) _
      rw [hTaken]
      unfold removeListener
      split
      · exact h.tellsNothing (.refl _) rfl
      · exact
          h.evolves rfl rfl (before.registry.evolves_filter _)
            (h.keeps.filter _)
  | subscribe =>
      change AllHeard (fun id => taken id ++ []) _ _
      rw [hTaken]
      exact
        h.evolves rfl rfl before.registry.evolves_subscribe
          h.keeps.subscribe
  | closeChannel id =>
      change AllHeard (fun id => taken id ++ []) _ _
      rw [hTaken]
      exact
        h.evolves rfl rfl
          (before.registry.evolves_closeChannel id)
          (h.keeps.closeChannel id)
  | closingsMade =>
      change AllHeard (fun id => taken id ++ []) _ _
      rw [hTaken]
      exact h.tellsNothing ⟨rfl, rfl⟩ rfl

/- A new connection has told nobody anything. -/
theorem allHeard_new
    {config : Config}
    {drive : Drive}
    {connection : Connection}
    (hNew : Connection.new config drive = .ok connection) :
    connection.AllHeard (fun _ => []) [] := by
  unfold Connection.new at hNew
  split at hNew
  · cases hNew
  · cases hNew
    constructor
    · constructor
      · exact fun _ hMember => (nomatch hMember)
      · exact List.nodup_nil
      · exact fun _ _ => rfl
      · exact fun _ hMember => (nomatch hMember)
      · exact fun _ _ => rfl
      · exact fun _ _ => rfl
      · intro id channel hChannel
        cases hChannel
    · exact fun _ hMember => (nomatch hMember)
    · exact fun _ => List.nil_prefix
    · exact fun _ hMember => (nomatch hMember)

------------------------------------------------------------
-- Courses
------------------------------------------------------------

/- Peace lasts while nobody comes. -/
theorem AllPeaceful.restsOrFalls
    {after : Connection}
    (h : before.AllPeaceful)
    (hFalls : before.RestsOrFalls after) :
    after.AllPeaceful := by
  cases hFalls with
  | rests _ hNothing hFlag =>
      exact h.of_registry hNothing.registry
  | falls world middle _ hBefore hFlag hAfter hDown =>
      have hMiddle := h.of_registry hBefore.registry
      exact
        (hMiddle.goOffline world).of_registry hAfter.registry

/- And when someone comes who is peaceful. -/
theorem AllPeaceful.attend
    (h : before.AllPeaceful)
    {change : Audience}
    (hPeaceful :
      ∀ watcher,
        change = .add watcher → Peaceful watcher.moves) :
    (before.attend change).AllPeaceful := by
  cases change with
  | add watcher => exact h.addListener (hPeaceful watcher rfl)
  | remove name => exact h.removeListener name
  | subscribe => exact h.subscribe
  | _ => exact h

end Connection

section Replay

variable {config : Config}
variable {drive : Drive}
variable {connection : Connection}

/- Only an open connection comes online. -/
theorem Situation.Sound.isClosed_of_brings
    {situation : Situation}
    (h : situation.Sound config)
    {request : Http.Request}
    {errand : Errand}
    {answer : Http.Answer}
    (hWaits : .asking request errand ∈ situation.waiting)
    (hBrings :
      situation.connection.bringsOnline answer errand = true) :
    situation.connection.isClosed = false := by
  cases errand with
  | fetchingKeys task transport =>
      apply eq_false_of_ne_true
      intro hClosed
      have hCancelled :=
        h.cancelled_of_isClosed hClosed
          (Situation.mem_attempts hWaits rfl)
      simp [Connection.bringsOnline, hCancelled] at hBrings
  | _ => cases hBrings

/- Nobody listens to a new connection. -/
theorem Connection.allPeaceful_new
    (hNew : Connection.new config drive = .ok connection) :
    connection.AllPeaceful := by
  unfold Connection.new at hNew
  split at hNew
  · cases hNew
  · cases hNew
    exact fun _ hMember => (nomatch hMember)

/-
  A situation in which everyone is peaceful and has heard all,
  and the moments that have led to it.
-/
structure Situation.Attends
    (taken : ListenerId → List Event)
    (moments : List Connection)
    (situation : Situation) : Prop where
  allHeard :
    ∃ earlier,
      moments = earlier ++ [situation.connection] ∧
        situation.connection.AllHeard taken earlier
  peaceful : situation.connection.AllPeaceful

section Step

variable {before : Situation}
variable {occurrence : Occurrence}
variable {taken : ListenerId → List Event}
variable {past : List Connection}

/- An attempt comes online, and may sink again. -/
theorem Situation.Attends.brings
    (h : before.Attends taken past)
    (hSound : before.Sound config)
    {lit : Connection}
    (hLit : before.lit? occurrence = some lit) :
    (before.after occurrence).Attends taken
      (past ++ before.moments occurrence) := by
  rcases h with ⟨⟨earlier, rfl, hAllHeard⟩, hAllPeaceful⟩
  rcases Situation.exists_of_lit? hLit with
    ⟨world, request, errand, answer, rfl, hWaits, hBrings, rfl⟩
  have hOpen := hSound.isClosed_of_brings hWaits hBrings
  have hKeyed :
      Connection.AllPeaceful
        { before.connection with
          keys :=
            (KeyCache.update before.connection.keys
              answer).1 } :=
    hAllPeaceful
  have hOnline := hKeyed.goOnline world
  have hLitHeard :
      (before.connection.lit world answer).AllHeard taken
        (earlier ++ [before.connection]) :=
    hAllHeard.rises ⟨rfl, rfl⟩ rfl hOpen
      (hOnline.2.trans hOpen)
  have hFalls :=
    Situation.restsOrFalls_of_lit world hWaits hBrings
  refine ⟨⟨_, ?_, hLitHeard.restsOrFalls hFalls⟩, ?_⟩
  · rw [moments, hLit]
    simp
  · exact Connection.AllPeaceful.restsOrFalls hOnline.1 hFalls

/- All else leaves it as it is, or takes it offline. -/
theorem Situation.Attends.restsOrFalls
    (h : before.Attends taken past)
    (hUnlit : before.lit? occurrence = none)
    (hOther : ∀ change, occurrence ≠ .listen change) :
    (before.after occurrence).Attends taken
      (past ++ before.moments occurrence) := by
  rcases h with ⟨⟨earlier, rfl, hAllHeard⟩, hAllPeaceful⟩
  have hFalls := Situation.restsOrFalls_after hUnlit hOther
  refine
    ⟨⟨_, ?_, hAllHeard.restsOrFalls hFalls⟩,
      hAllPeaceful.restsOrFalls hFalls⟩
  rw [moments, hUnlit]
  rfl

/- Those who listen change. -/
theorem Situation.Attends.attends
    (h : before.Attends taken past)
    {change : Audience}
    (hPeaceful :
      ∀ watcher,
        change = .add watcher → Peaceful watcher.moves) :
    (before.after (.listen change)).Attends
      (fun id =>
        taken id ++
          (Occurrence.listen change).draws
            before.connection.registry id)
      (past ++ before.moments (.listen change)) := by
  rcases h with ⟨⟨earlier, rfl, hAllHeard⟩, hAllPeaceful⟩
  exact
    ⟨⟨_, rfl, hAllHeard.attends change⟩,
      hAllPeaceful.attend hPeaceful⟩

end Step

/- In a peaceful course everyone has heard all at any time. -/
theorem attends_replay
    (hNew : Connection.new config drive = .ok connection)
    {past : List Occurrence}
    (hPeaceful :
      ∀ watcher,
        .listen (.add watcher) ∈ past →
          Peaceful watcher.moves) :
    (replay connection past).Attends (drained connection past)
      (moments connection past) := by
  induction past with
  | nil =>
      exact
        ⟨⟨[], rfl, Connection.allHeard_new hNew⟩,
          Connection.allPeaceful_new hNew⟩
  | cons occurrence past ih =>
      have hBefore :=
        ih fun watcher hMember =>
          hPeaceful watcher (List.mem_cons_of_mem _ hMember)
      by_cases hListens : ∃ change, occurrence = .listen change
      · rcases hListens with ⟨change, rfl⟩
        apply hBefore.attends
        rintro watcher rfl
        exact hPeaceful watcher List.mem_cons_self
      · have hOther : ∀ change, occurrence ≠ .listen change :=
          fun change hSame => hListens ⟨change, hSame⟩
        have hDrained :
            drained connection (occurrence :: past) =
              drained connection past := by
          apply drained_of_draws
          intro registry id
          cases occurrence with
          | listen change => exact absurd rfl (hOther change)
          | _ => rfl
        rw [hDrained]
        cases hLit :
            (replay connection past).lit? occurrence with
        | none => exact hBefore.restsOrFalls hLit hOther
        | some lit =>
            exact hBefore.brings (sound_replay hNew past) hLit

/-
  What a listener has heard by now: the first changes of the
  flag since the moment at which it got its name, one event
  for each, all of them if it still listens. What a receiver
  was handed it has taken out, or it waits in its channel.
-/
structure Hears
    (connection : Connection)
    (past : List Occurrence)
    (id : ListenerId) : Prop where
  early :
    (replay connection past).connection.heard id <+:
      swings (sinceNamed id (moments connection past))
  traces :
    ∀ first,
      (sinceNamed id (moments connection past)).head? =
          some first →
        ∃ last,
          Traces first.session.isConnected
            ((replay connection past).connection.heard id) last
  whole :
    ∀ listener,
      (id, listener) ∈
          (replay connection past).connection.registry.entries →
        (replay connection past).connection.registry.isClosed
            (id, listener) =
          false →
            (replay connection past).connection.heard id =
                swings
                  (sinceNamed id (moments connection past)) ∧
              ∃ first,
                (sinceNamed id
                    (moments connection past)).head? =
                    some first ∧
                  Traces first.session.isConnected
                    ((replay connection past).connection.heard
                      id)
                    (replay connection
                      past).connection.session.isConnected
  received :
    ∀ channel,
      (replay connection past).connection.registry.channel? id =
          some channel →
        drained connection past id ++ channel.queue =
          (replay connection past).connection.heard id

/-
  In the course of any connection whose listeners never close
  it while they are told that it is online, everyone hears
  exactly how the flag changes.
-/
theorem events_mirror_flag
    (hNew : Connection.new config drive = .ok connection)
    (past : List Occurrence)
    (hPeaceful :
      ∀ watcher,
        .listen (.add watcher) ∈ past →
          Peaceful watcher.moves)
    (id : ListenerId) :
    Hears connection past id := by
  rcases (attends_replay hNew hPeaceful).allHeard with
    ⟨earlier, hMoments, hAllHeard⟩
  have hEarly := hAllHeard.early id
  have hWhole := hAllHeard.whole
  rw [← hMoments] at hEarly hWhole
  have hTraces :
      ∀ first,
        (sinceNamed id (moments connection past)).head? =
            some first →
          Traces first.session.isConnected
            (swings (sinceNamed id (moments connection past)))
            (replay connection
              past).connection.session.isConnected := by
    rw [hMoments]
    exact fun first => traces_sinceNamed
  refine ⟨hEarly, ?_, ?_, hAllHeard.keeps.queues id⟩
  · intro first hFirst
    exact (hTraces first hFirst).of_initial hEarly
  · intro listener hMember hOpen
    have hAll := hWhole (id, listener) hMember hOpen
    have hNamed := hAllHeard.keeps.named (id, listener) hMember
    have hSome :
        ∃ first,
          (sinceNamed id (moments connection past)).head? =
            some first := by
      rw [hMoments, sinceNamed_append hNamed,
        List.head?_append]
      cases (sinceNamed id earlier).head? with
      | none => exact ⟨_, rfl⟩
      | some first => exact ⟨first, rfl⟩
    rcases hSome with ⟨first, hFirst⟩
    refine ⟨hAll, first, hFirst, ?_⟩
    rw [hAll]
    exact hTraces first hFirst

end Replay

/-
  An attempt comes online, and a listener starts another one
  as it is told. So the first finds itself cancelled.
-/
def Sample.eager : List Occurrence :=
  undisturbed ++
    [.listen (.add ⟨"eager", [(true, .start)]⟩)]

/- The listener hears that it came online, and sank again. -/
theorem heard_of_eager :
    (replay Sample.connection Sample.eager).connection.heard 0 =
      [⟨false, true⟩, ⟨true, false⟩] := by
  have hPeaceful :
      ∀ watcher,
        .listen (.add watcher) ∈ Sample.eager →
          Peaceful watcher.moves := by
    intro watcher hMember
    have hWatcher : watcher = ⟨"eager", [(true, .start)]⟩ := by
      simpa [Sample.eager, Sample.undisturbed,
        Sample.tellsKeys, Sample.registers,
        Sample.unregisters] using hMember
    rw [hWatcher]
    exact .intro _ (by simp) (by simp)
  obtain ⟨hListens, hSwings⟩ :
      (replay Sample.connection
            Sample.eager).connection.registry.entries.map
            (fun entry =>
              (entry.1,
                (replay Sample.connection
                    Sample.eager).connection.registry.isClosed
                  entry)) =
          [(0, false)] ∧
        swings
            (sinceNamed 0
              (moments Sample.connection Sample.eager)) =
          [⟨false, true⟩, ⟨true, false⟩] := by
    decide +kernel
  have hHears :=
    events_mirror_flag Sample.new_connection Sample.eager
      hPeaceful 0
  rcases List.mem_map.mp (hListens ▸ List.mem_cons_self) with
    ⟨⟨id, listener⟩, hMember, hIs⟩
  obtain ⟨rfl, hOpen⟩ := Prod.mk.inj hIs
  exact
    (hHears.whole listener hMember hOpen).1.trans hSwings

end BrainLink
