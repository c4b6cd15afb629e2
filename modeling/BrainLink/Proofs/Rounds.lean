import BrainLink.Proofs.Stands

/-
  Each event reaches everyone once who listens when it is
  fired, however rounds are nested.

  Key definitions include:
    * `Notes`
    * `Tells`
    * `Does`
    * `Fires`
    * `outerLetters`

  Main statements:
    * `outerLetters_of_tells`
    * `fires_fireWithin`
    * `Stand.event_reaches_everyone_once`

  What a round adds to the journal follows a grammar: one turn
  for each listener that is there when the round begins, in
  which a callback does its deeds, and a deed that fires is a
  whole round. That the journal of a stand does so is shown by
  induction on how deep events are nested.
-/

namespace BrainLink

------------------------------------------------------------
-- Rounds
------------------------------------------------------------

/- Those who listen still though they have closed. -/
def shutIn (journal : List Moment) : List ListenerId :=
  ((rosterIn journal).map Prod.fst).filter fun id =>
    (closingsIn journal).contains id

/- What is noted of a deed that fires nothing. -/
inductive Notes (early : List Moment) :
    Deed → List Moment → Prop where
| added
    (name : String)
    (reactions : List (Bool × Deed)) :
    Notes early (.add name reactions)
      [.added (givenIn early).length ⟨name, reactions⟩]
| subscribed
    (name : String)
    (replaced : Option ListenerId) :
    Notes early (.subscribe name)
      ((shutIn early).map .dropped ++
        .subscribed (givenIn early).length ::
          replaced.toList.map .closed)
| unknown
    (name : String) :
    Notes early (.remove name) [.reported name false]
| removed
    (name : String)
    (id : ListenerId)
    (found : Bool) :
    Notes early (.remove name)
      [.removed id found, .reported name found]
| closed
    (name : String)
    (id? : Option ListenerId) :
    Notes early (.closeReceiver name) (id?.toList.map .closed)

mutual

/-
  What is noted while some listeners are told of an event.
  Whoever has closed is passed over, and nobody else is. The
  deeds of a callback are done before the next one is told.
-/
inductive Tells (conduct : Conduct) :
    Event → List (Entry Callback) →
      List Moment → List Moment → Prop where
| done
    (event : Event)
    (early : List Moment) :
    Tells conduct event [] early []
| passed
    (event : Event)
    (entry : Entry Callback)
    (entries : List (Entry Callback))
    (early late : List Moment)
    (hClosed : entry.1 ∈ closingsIn early)
    (hRest : Tells conduct event entries early late) :
    Tells conduct event (entry :: entries) early late
| queued
    (event : Event)
    (id : ListenerId)
    (entries : List (Entry Callback))
    (early late : List Moment)
    (hOpen : id ∉ closingsIn early)
    (hRest :
      Tells conduct event entries
        (early ++ [.queued id event])
        late) :
    Tells conduct event ((id, .channel) :: entries) early
      (.queued id event :: late)
| called
    (event : Event)
    (id : ListenerId)
    (callback : Callback)
    (entries : List (Entry Callback))
    (early moments late : List Moment)
    (hOpen : id ∉ closingsIn early)
    (hDeeds :
      Does conduct
        (conduct callback event
          (early ++ [.called id callback.name event]))
        (early ++ [.called id callback.name event])
        moments)
    (hRest :
      Tells conduct event entries
        (early ++ [.called id callback.name event] ++ moments)
        late) :
    Tells conduct event ((id, .callback callback) :: entries)
      early
      (.called id callback.name event :: (moments ++ late))

/- What is noted while deeds are done, one after the other. -/
inductive Does (conduct : Conduct) :
    List Deed → List Moment → List Moment → Prop where
| done
    (early : List Moment) :
    Does conduct [] early []
| noted
    (deed : Deed)
    (deeds : List Deed)
    (early moments late : List Moment)
    (hNotes : Notes early deed moments)
    (hRest : Does conduct deeds (early ++ moments) late) :
    Does conduct (deed :: deeds) early (moments ++ late)
| fired
    (event : Event)
    (deeds : List Deed)
    (early round late : List Moment)
    (hFires : Fires conduct event early round)
    (hRest : Does conduct deeds (early ++ round) late) :
    Does conduct (.fire event :: deeds) early (round ++ late)

/-
  What is noted while an event is fired: everyone is told who
  is there when the round begins, and those who have closed
  may be dropped before it ends.
-/
inductive Fires (conduct : Conduct) :
    Event → List Moment → List Moment → Prop where
| round
    (event : Event)
    (early told : List Moment)
    (dropped : List ListenerId)
    (hTold :
      Tells conduct event (rosterIn early)
        (early ++ [.began early.length event])
        told) :
    Fires conduct event early
      (.began early.length event ::
        (told ++
          (dropped.map .dropped ++ [.ended early.length])))

end

------------------------------------------------------------
-- Letters of a round
------------------------------------------------------------

/- How many rounds are under way after a moment. -/
def Moment.depthAfter (depth : Nat) : Moment → Nat
| .began _ _ => depth + 1
| .ended _ => depth - 1
| _ => depth

/-
  The events that are handed over, and to whom, in rounds that
  are not nested in others.
-/
def outerLetters : Nat → List Moment → List Letter
| _, [] => []
| depth, moment :: rest =>
    let later := outerLetters (moment.depthAfter depth) rest
    if depth = 1 then moment.letter?.toList ++ later else later

/- A moment at which no round goes on. -/
def Moment.isAside : Moment → Bool
| .began _ _ => false
| .ended _ => false
| moment => moment.letter?.isNone

variable {conduct : Conduct}

section Letters

variable (depth : Nat) (rest : List Moment)

theorem outerLetters_began (round : Nat) (event : Event) :
    outerLetters depth (.began round event :: rest) =
      outerLetters (depth + 1) rest :=
  ite_self _

theorem outerLetters_ended (round : Nat) :
    outerLetters (depth + 1) (.ended round :: rest) =
      outerLetters depth rest :=
  ite_self _

theorem outerLetters_aside
    {moment : Moment}
    (hAside : moment.isAside) :
    outerLetters depth (moment :: rest) =
      outerLetters depth rest := by
  cases moment with
  | began round event => cases hAside
  | ended round => cases hAside
  | called id name event => cases hAside
  | queued id event => cases hAside
  | _ => exact ite_self _

theorem outerLetters_asides
    {moments : List Moment}
    (hAsides : ∀ moment ∈ moments, moment.isAside) :
    outerLetters depth (moments ++ rest) =
      outerLetters depth rest := by
  induction moments with
  | nil => rfl
  | cons moment moments ih =>
      rcases List.forall_mem_cons.mp hAsides with
        ⟨hFirst, hRest⟩
      rw [List.cons_append, outerLetters_aside _ _ hFirst]
      exact ih hRest

end Letters

/- Moments of one kind for some listeners. -/
theorem asides_map
    {moment : ListenerId → Moment}
    (hAside : ∀ id, (moment id).isAside)
    (ids : List ListenerId) :
    ∀ other ∈ ids.map moment, other.isAside := by
  intro other hMember
  rcases List.mem_map.mp hMember with ⟨id, -, rfl⟩
  exact hAside id

theorem Notes.asides
    {early moments : List Moment}
    {deed : Deed}
    (h : Notes early deed moments) :
    ∀ moment ∈ moments, moment.isAside := by
  cases h with
  | added name reactions =>
      simp [Moment.isAside, Moment.letter?]
  | subscribed name replaced =>
      refine List.forall_mem_append.mpr ⟨?_, ?_⟩
      · exact asides_map (fun _ => rfl) _
      · refine List.forall_mem_cons.mpr ⟨rfl, ?_⟩
        exact asides_map (fun _ => rfl) _
  | unknown name => simp [Moment.isAside, Moment.letter?]
  | removed name id found =>
      simp [Moment.isAside, Moment.letter?]
  | closed name id? => exact asides_map (fun _ => rfl) _

mutual

/- Nothing that is handed over in a nested round counts. -/
theorem Tells.skips :
    ∀ {event entries early late},
      Tells conduct event entries early late →
        ∀ depth rest,
          outerLetters (depth + 2) (late ++ rest) =
            outerLetters (depth + 2) rest
| _, _, _, _, .done _ _, _, _ => rfl
| _, _, _, _, .passed _ _ _ _ _ _ hRest, depth, rest =>
    hRest.skips depth rest
| _, _, _, _, .queued _ _ _ _ _ _ hRest, depth, rest =>
    hRest.skips depth rest
| _, _, _, _, .called _ _ _ _ _ moments late _ hDeeds hRest,
    depth, rest => by
  rw [List.cons_append, List.append_assoc]
  change
    outerLetters (depth + 2) (moments ++ (late ++ rest)) = _
  rw [hDeeds.skips]
  exact hRest.skips depth rest

theorem Does.skips :
    ∀ {deeds early late},
      Does conduct deeds early late →
        ∀ depth rest,
          outerLetters (depth + 1) (late ++ rest) =
            outerLetters (depth + 1) rest
| _, _, _, .done _, _, _ => rfl
| _, _, _, .noted _ _ _ _ _ hNotes hRest, depth, rest => by
  rw [List.append_assoc, outerLetters_asides _ _ hNotes.asides]
  exact hRest.skips depth rest
| _, _, _, .fired _ _ _ _ _ hFires hRest, depth, rest => by
  rw [List.append_assoc, hFires.skips]
  exact hRest.skips depth rest

theorem Fires.skips :
    ∀ {event early late},
      Fires conduct event early late →
        ∀ depth rest,
          outerLetters (depth + 1) (late ++ rest) =
            outerLetters (depth + 1) rest
| _, _, _, .round _ _ told dropped hTold, depth, rest => by
  have hDropped :
      ∀ moment ∈ dropped.map Moment.dropped,
        moment.isAside :=
    asides_map (fun _ => rfl) dropped
  rw [List.cons_append, List.append_assoc, List.append_assoc,
    outerLetters_began, hTold.skips,
    outerLetters_asides _ _ hDropped]
  exact outerLetters_ended _ _ _

end

/-
  Who of some listeners is told, in their order and each once:
  none who had closed before, and all who have not closed at
  the end.
-/
structure AreTold
    (told entries : List (Entry Callback))
    (early late : List Moment) :
    Prop where
  inOrder : told.Sublist entries
  areOpen : ∀ entry ∈ told, entry.1 ∉ closingsIn early
  others :
    ∀ entry ∈ entries,
      entry ∉ told → entry.1 ∈ closingsIn (early ++ late)

section Told

variable {entry : Entry Callback}
variable {told entries : List (Entry Callback)}
variable {early first late : List Moment}

/- One who has closed is passed over. -/
theorem AreTold.pass
    (h : AreTold told entries early late)
    (hClosed : entry.1 ∈ closingsIn early) :
    AreTold told (entry :: entries) early late where
  inOrder := h.inOrder.cons entry
  areOpen := h.areOpen
  others := by
    intro other hMember hNot
    rcases List.mem_cons.mp hMember with rfl | hOther
    · rw [closingsIn_append]
      exact List.mem_append_left _ hClosed
    · exact h.others other hOther hNot

/- One who is open is told. -/
theorem AreTold.tell
    (h : AreTold told entries (early ++ first) late)
    (hOpen : entry.1 ∉ closingsIn early) :
    AreTold (entry :: told) (entry :: entries) early
      (first ++ late) where
  inOrder := h.inOrder.cons_cons entry
  areOpen := by
    refine List.forall_mem_cons.mpr ⟨hOpen, ?_⟩
    intro other hMember hClosed
    apply h.areOpen other hMember
    rw [closingsIn_append]
    exact List.mem_append_left _ hClosed
  others := by
    intro other hMember hNot
    rcases List.mem_cons.mp hMember with rfl | hOther
    · exact absurd List.mem_cons_self hNot
    · rw [← List.append_assoc]
      refine h.others other hOther fun hTold => ?_
      exact hNot (List.mem_cons_of_mem _ hTold)

end Told

/- A round hands its event to everyone once. -/
theorem Tells.exists_told :
    ∀ {event entries early late},
      Tells conduct event entries early late →
        ∃ told,
          AreTold told entries early late ∧
            ∀ rest,
              outerLetters 1 (late ++ rest) =
                (told.map fun entry => (entry.1, event)) ++
                  outerLetters 1 rest
| _, _, _, _, .done _ _ =>
    ⟨[], ⟨.slnil, nofun, nofun⟩, fun _ => rfl⟩
| _, _, _, _, .passed _ _ _ _ _ hClosed hRest => by
  rcases hRest.exists_told with ⟨told, hTold, hLetters⟩
  exact ⟨told, hTold.pass hClosed, hLetters⟩
| _, _, _, _, .queued event id _ _ _ hOpen hRest => by
  rcases hRest.exists_told with ⟨told, hTold, hLetters⟩
  refine ⟨(id, .channel) :: told, hTold.tell hOpen, ?_⟩
  intro rest
  exact congrArg ((id, event) :: ·) (hLetters rest)
| _, _, _, _, .called event id callback _ _ moments late hOpen
    hDeeds hRest => by
  rcases hRest.exists_told with ⟨told, hTold, hLetters⟩
  rw [List.append_assoc] at hTold
  refine
    ⟨(id, .callback callback) :: told, hTold.tell hOpen, ?_⟩
  intro rest
  rw [List.cons_append, List.append_assoc]
  change
    (id, event) :: outerLetters 1 (moments ++ (late ++ rest)) =
      _
  rw [hDeeds.skips, hLetters]
  rfl

/- A round hands its event to everyone once who is there. -/
theorem Fires.exists_told
    {event : Event}
    {early late : List Moment}
    (h : Fires conduct event early late) :
    ∃ told,
      AreTold told (rosterIn early) early late ∧
        outerLetters 0 late =
          told.map fun entry => (entry.1, event) := by
  cases h with
  | round _ _ moments dropped hTells =>
      rcases hTells.exists_told with ⟨told, hTold, hLetters⟩
      have hBegan :
          closingsIn (early ++ [.began early.length event]) =
            closingsIn early :=
        filterMap_snoc_of_none rfl early
      refine ⟨told, ⟨hTold.inOrder, ?_, ?_⟩, ?_⟩
      · exact hBegan ▸ hTold.areOpen
      · intro entry hMember hNot
        have hClosed := hTold.others entry hMember hNot
        rw [List.append_assoc, List.singleton_append] at hClosed
        rw [← List.cons_append, ← List.append_assoc,
          closingsIn_append]
        exact List.mem_append_left _ hClosed
      · have hDropped :
            ∀ moment ∈ dropped.map Moment.dropped,
              moment.isAside :=
          asides_map (fun _ => rfl) dropped
        rw [outerLetters_began, hLetters,
          outerLetters_asides _ _ hDropped, outerLetters_ended]
        exact List.append_nil _

------------------------------------------------------------
-- The program
------------------------------------------------------------

namespace Stand

/-
  What firing does to a stand: it stays sound, remembers what
  was left out, and if nothing was left out, notes a round.
-/
structure FiresRounds
    (conduct : Conduct)
    (fire : Event → Stand → Stand) :
    Prop where
  leads : LeadsAlways fire
  staysCut : ∀ event, StaysCut (fire event)
  rounds :
    ∀ event (stand : Stand),
      stand.Sound →
        (fire event stand).isCut = false →
          ∃ round,
            (fire event stand).journal =
                stand.journal ++ round ∧
              Fires conduct event stand.journal round

variable {fire : Event → Stand → Stand}
variable {stand : Stand}

theorem Sound.isClosed_eq
    (h : stand.Sound)
    {entry : Entry Callback}
    (hMember : entry ∈ stand.registry.entries) :
    stand.registry.isClosed entry =
      (closingsIn stand.journal).contains entry.1 := by
  have hClosed := h.isClosed_iff (h.mem_givenIn hMember)
  rw [Bool.eq_iff_iff, hClosed]
  exact List.contains_iff_mem.symm

/- Whoever is dropped is here and has closed. -/
theorem Sound.shutIn_eq (h : stand.Sound) :
    (stand.registry.entries.filter stand.registry.isClosed).map
        Prod.fst =
      shutIn stand.journal := by
  unfold shutIn
  rw [List.filter_map, ← h.entries]
  refine congrArg (List.map Prod.fst) ?_
  exact List.filter_congr fun entry => h.isClosed_eq

/- A receiver that closes is noted once at most. -/
theorem exists_closed (stand : Stand) (name : String) :
    ∃ id? : Option ListenerId,
      (stand.closeReceiver name).journal =
        stand.journal ++ id?.toList.map .closed := by
  unfold Stand.closeReceiver
  split
  · exact ⟨none, (List.append_nil _).symm⟩
  · rename_i id hFound
    dsimp only
    split
    · exact ⟨some id, rfl⟩
    · exact ⟨none, (List.append_nil _).symm⟩

/- What is noted of a deed: a round if it fires. -/
theorem FiresRounds.exists_notes
    (hFire : FiresRounds conduct fire)
    (h : stand.Sound)
    (deed : Deed)
    (hUncut : (Stand.act fire deed stand).isCut = false) :
    ∃ moments,
      (Stand.act fire deed stand).journal =
          stand.journal ++ moments ∧
        (Notes stand.journal deed moments ∨
          ∃ event,
            deed = .fire event ∧
              Fires conduct event stand.journal moments) := by
  cases deed with
  | add name reactions =>
      refine ⟨_, ?_, .inl (.added name reactions)⟩
      rw [← h.nextId]
      rfl
  | subscribe name =>
      rcases exists_closed
          ({ stand.noteDropped with
              registry := stand.registry.subscribe }.note
            (.subscribed stand.registry.nextId))
          name with
        ⟨replaced, hClosed⟩
      refine ⟨_, ?_, .inl (.subscribed name replaced)⟩
      rw [← h.nextId, ← h.shutIn_eq, List.map_map]
      refine hClosed.trans ?_
      simp [Stand.note, noteDropped, Function.comp_def]
  | remove name =>
      change
        ∃ moments,
          ((stand.remove name).1.note
                (.reported name
                  (stand.remove name).2)).journal =
              _ ∧
            _
      unfold Stand.remove
      split
      · exact ⟨_, rfl, .inl (.unknown name)⟩
      · rename_i id hFound
        let found := stand.registry.has id
        refine ⟨_, ?_, .inl (.removed name id found)⟩
        exact List.append_assoc ..
  | closeReceiver name =>
      rcases exists_closed stand name with ⟨id?, hClosed⟩
      exact ⟨_, hClosed, .inl (.closed name id?)⟩
  | fire event =>
      rcases hFire.rounds event stand h hUncut with
        ⟨round, hRound, hFires⟩
      exact ⟨round, hRound, .inr ⟨event, rfl, hFires⟩⟩

/- Deeds are done in turn, and rounds among them are whole. -/
theorem FiresRounds.exists_does
    (hFire : FiresRounds conduct fire)
    (deeds : List Deed)
    (h : stand.Sound)
    (hUncut :
      (deeds.foldl
            (fun stand deed => Stand.act fire deed stand)
            stand).isCut =
        false) :
    ∃ moments,
      (deeds.foldl
            (fun stand deed => Stand.act fire deed stand)
            stand).journal =
          stand.journal ++ moments ∧
        Does conduct deeds stand.journal moments := by
  induction deeds generalizing stand with
  | nil => exact ⟨[], (List.append_nil _).symm, .done _⟩
  | cons deed deeds ih =>
      have hActed := h.act hFire.leads deed
      have hStand : (Stand.act fire deed stand).isCut = false :=
        (staysCut_foldl hFire.staysCut deeds).before hUncut
      rcases hFire.exists_notes h deed hStand with
        ⟨moments, hMoments, hDeed⟩
      rcases ih hActed.sound hUncut with
        ⟨late, hLate, hDoes⟩
      rw [hMoments] at hLate hDoes
      refine ⟨moments ++ late, ?_, ?_⟩
      · rw [← List.append_assoc]
        exact hLate
      · rcases hDeed with hNotes | ⟨event, rfl, hFires⟩
        · exact .noted _ _ _ _ _ hNotes hDoes
        · exact .fired _ _ _ _ _ hFires hDoes

/- Whoever is told in turn is told as a round does it. -/
theorem FiresRounds.exists_tells
    (hFire : FiresRounds conduct fire)
    (event : Event)
    (entries : List (Entry Callback))
    (h : stand.Sound)
    (hGiven :
      ∀ entry ∈ entries, entry ∈ givenIn stand.journal)
    (hUncut :
      (visitEach
            (fun entry stand => stand.registry.isClosed entry)
            (Stand.deliver conduct fire event)
            entries
            stand).1.isCut =
        false) :
    ∃ moments,
      (visitEach
            (fun entry stand => stand.registry.isClosed entry)
            (Stand.deliver conduct fire event)
            entries
            stand).1.journal =
          stand.journal ++ moments ∧
        Tells conduct event entries stand.journal moments := by
  induction entries generalizing stand with
  | nil => exact ⟨[], (List.append_nil _).symm, .done _ _⟩
  | cons entry entries ih =>
      rcases List.forall_mem_cons.mp hGiven with
        ⟨hFirst, hRest⟩
      have hState := h.isClosed_iff hFirst
      unfold BrainLink.visitEach at hUncut ⊢
      split
      · rename_i hClosed
        rw [if_pos hClosed] at hUncut
        rcases ih h hRest hUncut with ⟨late, hLate, hTells⟩
        refine ⟨late, hLate, .passed _ _ _ _ _ ?_ hTells⟩
        exact hState.mp hClosed
      · rename_i hNot
        rw [if_neg hNot] at hUncut
        have hOpen : entry.1 ∉ closingsIn stand.journal :=
          fun hClosed => hNot (hState.mpr hClosed)
        have hTold :
            stand.Leads
              (Stand.deliver conduct fire event entry stand) :=
          h.deliver conduct hFire.leads event hFirst hOpen
        have hStand :
            (Stand.deliver conduct fire event entry
                  stand).isCut =
              false :=
          (staysCut_visitEach hFire.staysCut event
            entries).before hUncut
        rcases ih hTold.sound
            (fun other hMember =>
              hTold.mem_givenIn (hRest other hMember))
            hUncut with
          ⟨late, hLate, hTells⟩
        rcases entry with ⟨id, listener⟩
        cases listener with
        | channel =>
            refine
              ⟨.queued id event :: late, ?_,
                .queued _ _ _ _ _ hOpen hTells⟩
            exact hLate.trans (List.append_assoc ..)
        | callback callback =>
            have hCalled :
                stand.Leads
                  (stand.note
                    (.called id callback.name event)) :=
              h.called hFirst event
            rcases hFire.exists_does _ hCalled.sound hStand with
              ⟨moments, hMoments, hDoes⟩
            change
              (Stand.deliver conduct fire event
                    (id, .callback callback) stand).journal =
                _ at hMoments
            rw [hMoments] at hLate hTells
            refine
              ⟨.called id callback.name event ::
                  (moments ++ late),
                ?_, .called _ _ _ _ _ _ _ hOpen hDoes hTells⟩
            refine hLate.trans ?_
            simp [Stand.note]

/- Those who have closed are noted if they are dropped. -/
theorem exists_dropped (stand : Stand) (anyClosed : Bool) :
    ∃ dropped : List ListenerId,
      (if anyClosed then stand.prune else stand).journal =
        stand.journal ++ dropped.map .dropped := by
  cases anyClosed with
  | false => exact ⟨[], (List.append_nil _).symm⟩
  | true =>
      let closed :=
        stand.registry.entries.filter stand.registry.isClosed
      refine ⟨closed.map Prod.fst, ?_⟩
      rw [List.map_map]
      rfl

/- Whatever the bound is, events are fired in whole rounds. -/
theorem firesRounds_fireWithin (depth : Nat) :
    FiresRounds conduct (fireWithin conduct depth) := by
  induction depth with
  | zero =>
      exact
        ⟨leads_fireWithin 0, staysCut_fireWithin 0,
          fun _ _ _ hUncut => nomatch hUncut⟩
  | succ depth ih =>
      refine
        ⟨leads_fireWithin _, staysCut_fireWithin _,
          fun event stand h hUncut => ?_⟩
      rw [isCut_fireWithin_succ] at hUncut
      have hBegan := h.began event
      rcases ih.exists_tells event stand.registry.entries
          hBegan.sound
          (fun entry hMember =>
            hBegan.mem_givenIn (h.mem_givenIn hMember))
          hUncut with
        ⟨told, hMoments, hTells⟩
      rw [h.entries] at hMoments hTells
      rcases exists_dropped
          (visitEach
            (fun entry stand => stand.registry.isClosed entry)
            (Stand.deliver conduct (fireWithin conduct depth)
              event)
            (rosterIn stand.journal)
            (stand.note
              (.began stand.journal.length event))).1
          (visitEach
            (fun entry stand => stand.registry.isClosed entry)
            (Stand.deliver conduct (fireWithin conduct depth)
              event)
            (rosterIn stand.journal)
            (stand.note
              (.began stand.journal.length event))).2 with
        ⟨dropped, hDropped⟩
      refine ⟨_, ?_, .round event _ told dropped hTells⟩
      unfold fireWithin
      dsimp only
      rw [h.entries]
      change _ ++ [_] = _
      rw [hDropped, hMoments]
      simp [Stand.note]

/-
  How an event reaches those who listen when it is fired. What
  is noted is one round, in which it is handed to each of them
  once, in the order of their names, unless the receiver has
  closed. What was taken of a channel and what waits in it is
  what it was handed, in this order.
-/
structure ReachesOnce
    (conduct : Conduct)
    (event : Event)
    (before later : Stand) :
    Prop where
  listening : before.registry.entries = rosterIn before.journal
  rising :
    (before.registry.entries.map Prod.fst).Pairwise (· < ·)
  once :
    ∃ round told,
      later.journal = before.journal ++ round ∧
        Fires conduct event before.journal round ∧
          AreTold told before.registry.entries before.journal
              round ∧
            outerLetters 0 round =
              told.map fun entry => (entry.1, event)
  queues :
    ∀ id ∈ opensIn later.journal,
      ∃ channel,
        later.registry.channel? id = some channel ∧
          takenIn later.journal id ++ channel.queue =
            heardIn later.journal id

theorem Sound.queues
    (h : stand.Sound)
    {id : ListenerId}
    (hOpens : id ∈ opensIn stand.journal) :
    ∃ channel,
      stand.registry.channel? id = some channel ∧
        takenIn stand.journal id ++ channel.queue =
          heardIn stand.journal id := by
  refine ⟨channelIn stand.journal id, ?_, ?_⟩
  · rw [h.registry, channel?_registryIn, if_pos hOpens]
  · have hPrefix := takenIn_initial h.right id
    exact List.prefix_iff_eq_append.mp hPrefix

/-
  An event reaches everyone once who listens when it is fired,
  whatever the callbacks do, if they do not fire without end.
-/
theorem event_reaches_everyone_once
    (conduct : Conduct)
    (orders : List Order)
    (event : Event)
    (depth : Nat)
    (hDepth :
      (fireWithin conduct depth event
            (after conduct orders)).isCut =
        false) :
    ReachesOnce conduct event
      (after conduct orders)
      ((after conduct orders).fire event conduct) := by
  have hSound := sound_after conduct orders
  have hFire : FiresRounds conduct (fireWithin conduct depth) :=
    firesRounds_fireWithin depth
  have hLater := (hFire.leads event _ hSound).sound
  rcases hFire.rounds event _ hSound hDepth with
    ⟨round, hRound, hFires⟩
  rcases hFires.exists_told with ⟨told, hTold, hLetters⟩
  rw [fire_eq_of_uncut hDepth]
  rw [← hSound.entries] at hTold
  refine
    { listening := hSound.entries
      rising := ?_
      once :=
        ⟨round, told, hRound, hFires, hTold, hLetters⟩
      queues := fun _ => hLater.queues }
  rw [hSound.entries]
  exact pairwise_roster hSound.right

/-
  A callback fires another event, drops itself and adds a new
  one: each event reaches those once who listen at its time.
-/
theorem event_reaches_everyone_once_nested :
    let event : Event := ⟨false, true⟩
    let other : Event := ⟨true, false⟩
    let first : Callback :=
      ⟨"first",
        [(true, .fire other), (true, .remove "first"),
          (true, .add "new" [])]⟩
    let before :=
      after Callback.react [.subscribe "last", .add first]
    (fireWithin Callback.react 2 event before).isCut = false ∧
      ReachesOnce Callback.react event before
          (before.fire event) ∧
        (before.fire event).history =
          [.called 0 "first" event, .called 0 "first" other,
            .queued 1 other, .removed "first" true,
            .queued 1 event] := by
  intro event other first before
  have hDepth :
      (fireWithin Callback.react 2 event before).isCut =
        false := by
    decide +kernel
  have hReaches := event_reaches_everyone_once _ _ _ _ hDepth
  refine ⟨hDepth, hReaches, ?_⟩
  rw [fire_eq_of_uncut hDepth]
  decide +kernel

end Stand

end BrainLink
