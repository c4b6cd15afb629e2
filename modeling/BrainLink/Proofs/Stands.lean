import BrainLink.Proofs.Rosters

/-
  Each stand is what its journal says, whatever listeners do.

  Key definitions include:
    * `Stand.Order`
    * `Stand.after`
    * `Stand.Sound`
    * `Stand.Leads`

  Main statements:
    * `Stand.leads_visitEach`
    * `Stand.leads_fireWithin`
    * `Stand.fire_eq_of_uncut`
    * `Stand.sound_after`

  A step of a stand leads to a sound stand with a longer
  journal. This is shown of each deed, then of what a listener
  does who is told, then of all who are told in turn, and by
  induction on the bound of an event that is fired.
-/

namespace BrainLink

namespace Stand

------------------------------------------------------------
-- Programs
------------------------------------------------------------

/- What can be done with a stand from outside. -/
inductive Order where
| add (callback : Callback)
| subscribe (name : String)
| closeReceiver (name : String)
| dropReceiver (name : String)
| remove (name : String)
| receive (name : String)
| fire (event : Event)

/- Do what is ordered. -/
def obey (conduct : Conduct) (stand : Stand) : Order → Stand
| .add callback => stand.add callback
| .subscribe name => stand.subscribe name
| .closeReceiver name => stand.closeReceiver name
| .dropReceiver name => (stand.dropReceiver name).1
| .remove name => (stand.remove name).1
| .receive name => (stand.receive name).1
| .fire event => stand.fire event conduct

/- What becomes of an empty stand, the latest order first. -/
def after (conduct : Conduct) : List Order → Stand
| [] => empty
| order :: orders => (after conduct orders).obey conduct order

------------------------------------------------------------
-- Soundness
------------------------------------------------------------

/-
  A stand is sound if what was noted is right, the registry is
  what was noted, and each receiver has a channel.
-/
structure Sound (stand : Stand) : Prop where
  right : Throughout IsRight stand.journal
  registry : stand.registry = registryIn stand.journal
  receivers :
    ∀ entry ∈ stand.receivers, entry.2 ∈ opensIn stand.journal

/- A sound stand with a longer journal. -/
structure Leads (before after : Stand) : Prop where
  sound : after.Sound
  grows : before.journal <+: after.journal

variable {stand : Stand}

theorem Sound.leads (h : stand.Sound) : stand.Leads stand :=
  ⟨h, List.prefix_refl _⟩

theorem Leads.trans
    {before middle after : Stand}
    (hFirst : before.Leads middle)
    (hLast : middle.Leads after) :
    before.Leads after :=
  ⟨hLast.sound, hFirst.grows.trans hLast.grows⟩

theorem Sound.entries (h : stand.Sound) :
    stand.registry.entries = rosterIn stand.journal :=
  congrArg Registry.entries h.registry

theorem Sound.nextId (h : stand.Sound) :
    stand.registry.nextId = (givenIn stand.journal).length :=
  congrArg Registry.nextId h.registry

/- Whoever is here has closed if that was noted. -/
theorem Sound.isClosed_iff
    (h : stand.Sound)
    {entry : Entry Callback}
    (hGiven : entry ∈ givenIn stand.journal) :
    stand.registry.isClosed entry = true ↔
      entry.1 ∈ closingsIn stand.journal := by
  rw [h.registry]
  exact isClosed_registryIn h.right hGiven

theorem sound_empty : empty.Sound where
  right := throughout_nil _
  registry := rfl
  receivers _ hMember := nomatch hMember

/- One more moment that is right, and the registry after it. -/
theorem Sound.snoc
    (h : stand.Sound)
    (moment : Moment)
    (hRight : IsRight stand.journal moment)
    {registry : Registry Callback}
    (hRegistry :
      registry = registryIn (stand.journal ++ [moment])) :
    stand.Leads
      ({ stand with registry := registry }.note moment) where
  sound :=
    { right := h.right.snoc hRight
      registry := hRegistry
      receivers := fun entry hMember => by
        refine (opensIn_append _ _).symm ▸ ?_
        exact List.mem_append_left _ (h.receivers entry hMember) }
  grows := List.prefix_append _ _

/- One more moment that leaves the registry as it is. -/
theorem Sound.note
    (h : stand.Sound)
    (moment : Moment)
    (hRight : IsRight stand.journal moment)
    (hSame :
      registryIn (stand.journal ++ [moment]) =
        registryIn stand.journal) :
    stand.Leads (stand.note moment) :=
  h.snoc moment hRight (h.registry.trans hSame.symm)

/- Names stand for listeners in another way. -/
theorem Leads.rename
    {before after : Stand}
    (h : before.Leads after)
    (listeners : List (String × ListenerId))
    {receivers : List (String × ListenerId)}
    (hReceivers :
      ∀ entry ∈ receivers, entry.2 ∈ opensIn after.journal) :
    before.Leads
      { after with
        listeners := listeners
        receivers := receivers } :=
  ⟨⟨h.sound.right, h.sound.registry, hReceivers⟩, h.grows⟩

------------------------------------------------------------
-- Deeds
------------------------------------------------------------

theorem Sound.add (h : stand.Sound) (callback : Callback) :
    stand.Leads (stand.add callback) := by
  have hAdded :
      stand.registry.add callback =
        registryIn
          (stand.journal ++
            [.added stand.registry.nextId callback]) := by
    rw [h.nextId, h.registry]
    exact add_registryIn h.right callback
  have hLeads :=
    h.snoc (.added stand.registry.nextId callback) h.nextId hAdded
  exact hLeads.rename _ hLeads.sound.receivers

theorem mem_of_lookup
    {α β : Type}
    [BEq α]
    [LawfulBEq α]
    {entries : List (α × β)}
    {name : α}
    {value : β}
    (hFound : entries.lookup name = some value) :
    (name, value) ∈ entries := by
  rcases List.lookup_eq_some_iff.mp hFound with
    ⟨before, after, hCut, -⟩
  rw [hCut]
  exact List.mem_append_right _ List.mem_cons_self

/- A receiver closes once. -/
theorem Sound.closeReceiver (h : stand.Sound) (name : String) :
    stand.Leads (stand.closeReceiver name) := by
  unfold Stand.closeReceiver
  split
  · exact h.leads
  · rename_i id hFound
    have hOpens := h.receivers _ (mem_of_lookup hFound)
    have hChannel :
        stand.registry.channel? id =
          some (channelIn stand.journal id) := by
      rw [h.registry, channel?_registryIn, if_pos hOpens]
    dsimp only
    rw [hChannel]
    split
    · rename_i hOpen
      have hFirst : id ∉ closingsIn stand.journal := by
        simpa [channelIn] using hOpen
      refine h.snoc (.closed id) ⟨hOpens, hFirst⟩ ?_
      rw [h.registry]
      exact closeChannel_registryIn _ id
    · rename_i hShut
      have hClosed : id ∈ closingsIn stand.journal := by
        simpa [channelIn] using hShut
      refine ⟨⟨h.right, ?_, h.receivers⟩, List.prefix_refl _⟩
      dsimp only
      rw [h.registry]
      exact closeChannel_eq_self hClosed

theorem Sound.dropReceiver (h : stand.Sound) (name : String) :
    stand.Leads (stand.dropReceiver name).1 := by
  have hClosed := h.closeReceiver name
  refine hClosed.rename _ fun entry hMember => ?_
  exact
    hClosed.sound.receivers entry (List.mem_filter.mp hMember).1

/- Whoever has closed can be dropped, one by one. -/
theorem right_dropped
    {journal : List Moment}
    (h : Throughout IsRight journal)
    {ids : List ListenerId}
    (hClosed : ∀ id ∈ ids, id ∈ closingsIn journal) :
    Throughout IsRight (journal ++ ids.map Moment.dropped) := by
  induction ids generalizing journal with
  | nil =>
      rw [List.map_nil, List.append_nil]
      exact h
  | cons id ids ih =>
      rcases List.forall_mem_cons.mp hClosed with ⟨hFirst, hRest⟩
      rw [List.map_cons, List.append_cons]
      refine ih (h.snoc hFirst) fun other hMember => ?_
      rw [closingsIn_append]
      exact List.mem_append_left _ (hRest other hMember)

theorem Sound.prune (h : stand.Sound) :
    stand.Leads stand.prune := by
  have hDropped :
      ((stand.registry.entries.filter
              stand.registry.isClosed).map
            fun entry => Moment.dropped entry.1) =
        ((stand.registry.entries.filter
              stand.registry.isClosed).map Prod.fst).map
          Moment.dropped := by
    rw [List.map_map]
    rfl
  refine ⟨⟨?_, ?_, ?_⟩, List.prefix_append _ _⟩
  · unfold Stand.prune noteDropped
    dsimp only
    rw [hDropped]
    refine right_dropped h.right fun id hMember => ?_
    rcases List.mem_map.mp hMember with ⟨entry, hEntry, rfl⟩
    rcases List.mem_filter.mp hEntry with ⟨hHere, hClosed⟩
    rw [h.entries] at hHere
    exact (h.isClosed_iff (mem_rosterIn.mp hHere).1).mp hClosed
  · unfold Stand.prune noteDropped
    rw [h.registry]
    exact prune_registryIn h.right
  · intro entry hMember
    refine (opensIn_append _ _).symm ▸ ?_
    exact List.mem_append_left _ (h.receivers entry hMember)

/- Nobody is left who has closed. -/
theorem Sound.not_closed_prune
    (h : stand.Sound)
    {entry : Entry Callback}
    (hMember : entry ∈ rosterIn stand.prune.journal) :
    entry.1 ∉ closingsIn stand.prune.journal := by
  have hSound := h.prune.sound
  have hGiven := (mem_rosterIn.mp hMember).1
  rw [← hSound.isClosed_iff hGiven]
  rw [← hSound.entries] at hMember
  have hOpen : (!stand.registry.isClosed entry) = true :=
    (List.mem_filter.mp hMember).2
  change ¬ stand.registry.isClosed entry = true
  simpa using hOpen

theorem subscribe_prune (registry : Registry Callback) :
    registry.prune.subscribe = registry.subscribe := by
  have hTwice : registry.prune.prune = registry.prune := by
    refine congrArg (fun entries => Registry.mk _ entries _) ?_
    refine List.filter_eq_self.mpr fun entry hMember => ?_
    exact (List.mem_filter.mp hMember).2
  unfold Registry.subscribe
  rw [hTwice]

/- A new channel comes once all who have closed are dropped. -/
theorem Sound.subscribed (h : stand.Sound) :
    stand.Leads
      ({ stand.noteDropped with
          registry := stand.registry.subscribe }.note
        (.subscribed stand.registry.nextId)) := by
  have hPruned := h.prune
  have hNext := hPruned.sound.nextId
  change stand.registry.nextId = _ at hNext
  have hSwept :
      ∀ entry ∈ rosterIn stand.prune.journal,
        entry.1 ∉ closingsIn stand.prune.journal :=
    fun _ => h.not_closed_prune
  have hRegistry :
      stand.registry.subscribe =
        registryIn
          (stand.prune.journal ++
            [.subscribed stand.registry.nextId]) := by
    rw [← subscribe_prune, hNext]
    change stand.prune.registry.subscribe = _
    rw [hPruned.sound.registry]
    exact subscribe_registryIn hPruned.sound.right hSwept
  exact
    hPruned.trans
      (hPruned.sound.snoc (.subscribed stand.registry.nextId)
        ⟨hNext, hSwept⟩ hRegistry)

/- The receiver that had the name before is dropped. -/
theorem Sound.subscribe (h : stand.Sound) (name : String) :
    stand.Leads (stand.subscribe name) := by
  have hSubscribed := h.subscribed
  have hReplaced := hSubscribed.sound.dropReceiver name
  have hDropped := hSubscribed.trans hReplaced
  refine hDropped.rename _ fun entry hMember => ?_
  rcases List.mem_cons.mp hMember with rfl | hOld
  · rcases hReplaced.grows with ⟨rest, hRest⟩
    rw [← hRest, opensIn_append]
    refine List.mem_append_left _ ?_
    refine (opensIn_append _ _).symm ▸ ?_
    exact List.mem_append_right _ (List.mem_singleton_self _)
  · exact hDropped.sound.receivers entry hOld

theorem has_iff (registry : Registry Callback) (id : ListenerId) :
    registry.has id = true ↔
      id ∈ registry.entries.map Prod.fst := by
  unfold Registry.has
  simp

theorem Sound.remove (h : stand.Sound) (name : String) :
    stand.Leads (stand.remove name).1 := by
  unfold Stand.remove
  split
  · exact h.leads
  · rename_i id _
    have hFound := has_iff stand.registry id
    have hRight :
        IsRight stand.journal
          (.removed id (stand.registry.has id)) := by
      refine hFound.trans ?_
      rw [h.entries]
    refine h.snoc (.removed id _) hRight ?_
    cases hHas : stand.registry.has id with
    | true =>
        rw [h.registry]
        exact remove_registryIn rfl
    | false =>
        have hAbsent :
            stand.registry.remove id = stand.registry := by
          rw [hHas] at hFound
          refine
            congrArg (fun entries => Registry.mk _ entries _) ?_
          refine List.filter_eq_self.mpr fun entry hMember => ?_
          rw [bne_iff_ne]
          rintro rfl
          cases hFound.mpr (List.mem_map_of_mem hMember)
        rw [hAbsent, h.registry]
        exact
          (registryIn_snoc rfl rfl rfl rfl (fun _ _ => rfl)
            fun _ => rfl).symm

theorem Sound.receive (h : stand.Sound) (name : String) :
    stand.Leads (stand.receive name).1 := by
  unfold Stand.receive
  split
  · exact h.leads
  · rename_i id hFound
    have hOpens := h.receivers _ (mem_of_lookup hFound)
    rcases drain_registryIn h.right hOpens with ⟨hDrained, hAll⟩
    rw [← h.registry] at hDrained hAll
    exact h.snoc (.received id _) hAll hDrained

------------------------------------------------------------
-- Events
------------------------------------------------------------

/- Whatever is fired leads to a sound stand. -/
def LeadsAlways (fire : Event → Stand → Stand) : Prop :=
  ∀ event (stand : Stand),
    stand.Sound → stand.Leads (fire event stand)

variable {conduct : Conduct}
variable {fire : Event → Stand → Stand}

theorem Sound.act
    (hFire : LeadsAlways fire)
    (h : stand.Sound)
    (deed : Deed) :
    stand.Leads (Stand.act fire deed stand) := by
  cases deed with
  | add name reactions => exact h.add _
  | subscribe name => exact h.subscribe name
  | remove name =>
      have hRemoved := h.remove name
      refine
        hRemoved.trans
          (hRemoved.sound.note (.reported ..) trivial ?_)
      exact
        registryIn_snoc rfl rfl rfl rfl (fun _ _ => rfl)
          fun _ => rfl
  | closeReceiver name => exact h.closeReceiver name
  | fire event => exact hFire event stand h

theorem Sound.acts
    (hFire : LeadsAlways fire)
    (deeds : List Deed)
    (h : stand.Sound) :
    stand.Leads
      (deeds.foldl
        (fun stand deed => Stand.act fire deed stand)
        stand) := by
  induction deeds generalizing stand with
  | nil => exact h.leads
  | cons deed deeds ih =>
      have hActed := h.act hFire deed
      exact hActed.trans (ih hActed.sound)

/- A callback is called that has come. -/
theorem Sound.called
    (h : stand.Sound)
    {id : ListenerId}
    {callback : Callback}
    (hGiven :
      (id, .callback callback) ∈ givenIn stand.journal)
    (event : Event) :
    stand.Leads (stand.note (.called id callback.name event)) := by
  refine h.note (.called ..) ⟨callback, hGiven, rfl⟩ ?_
  refine registryIn_snoc rfl rfl rfl rfl ?_ fun _ => rfl
  intro other hOpens
  have hOther : id ≠ other := by
    rintro rfl
    have hSame :=
      eq_of_mem_givenIn h.right hGiven (mem_opensIn.mp hOpens) rfl
    cases hSame
  simp [heardIn, mailTo, Moment.letter?, hOther]

/- A listener is told that has come and is not closed. -/
theorem Sound.deliver
    (conduct : Conduct)
    (hFire : LeadsAlways fire)
    (h : stand.Sound)
    (event : Event)
    {entry : Entry Callback}
    (hGiven : entry ∈ givenIn stand.journal)
    (hOpen : entry.1 ∉ closingsIn stand.journal) :
    stand.Leads
      (Stand.deliver conduct fire event entry stand) := by
  rcases entry with ⟨id, listener⟩
  cases listener with
  | channel =>
      refine
        h.snoc (.queued id event)
          ⟨mem_opensIn.mpr hGiven, hOpen⟩ ?_
      rw [h.registry]
      exact push_registryIn h.right id event
  | callback callback =>
      have hCalled := h.called hGiven event
      exact hCalled.trans (hCalled.sound.acts hFire _)

theorem Leads.mem_givenIn
    {before after : Stand}
    (h : before.Leads after)
    {entry : Entry Callback}
    (hGiven : entry ∈ givenIn before.journal) :
    entry ∈ givenIn after.journal := by
  rcases h.grows with ⟨rest, hRest⟩
  rw [← hRest, givenIn_append]
  exact List.mem_append_left _ hGiven

theorem Leads.mem_closingsIn
    {before after : Stand}
    (h : before.Leads after)
    {id : ListenerId}
    (hClosed : id ∈ closingsIn before.journal) :
    id ∈ closingsIn after.journal := by
  rcases h.grows with ⟨rest, hRest⟩
  rw [← hRest, closingsIn_append]
  exact List.mem_append_left _ hClosed

/- Whoever had closed before is met as closed. -/
theorem Sound.visitEach
    (conduct : Conduct)
    (hFire : LeadsAlways fire)
    (event : Event)
    (entries : List (Entry Callback))
    (h : stand.Sound)
    (hGiven :
      ∀ entry ∈ entries, entry ∈ givenIn stand.journal) :
    let visited :=
      BrainLink.visitEach
        (fun entry stand => stand.registry.isClosed entry)
        (Stand.deliver conduct fire event)
        entries
        stand
    stand.Leads visited.1 ∧
      ∀ entry ∈ entries,
        entry.1 ∈ closingsIn stand.journal →
          visited.2 = true := by
  induction entries generalizing stand with
  | nil => exact ⟨h.leads, fun _ hMember => nomatch hMember⟩
  | cons entry entries ih =>
      rcases List.forall_mem_cons.mp hGiven with ⟨hFirst, hRest⟩
      have hState := h.isClosed_iff hFirst
      unfold BrainLink.visitEach
      split
      · exact ⟨(ih h hRest).1, fun _ _ _ => rfl⟩
      · rename_i hNot
        have hOpen : entry.1 ∉ closingsIn stand.journal :=
          fun hClosed => hNot (hState.mpr hClosed)
        have hTold := h.deliver conduct hFire event hFirst hOpen
        rcases ih hTold.sound fun other hMember =>
            hTold.mem_givenIn (hRest other hMember) with
          ⟨hLater, hMet⟩
        refine ⟨hTold.trans hLater, ?_⟩
        intro other hMember hClosed
        rcases List.mem_cons.mp hMember with rfl | hOther
        · exact absurd hClosed hOpen
        · exact hMet other hOther (hTold.mem_closingsIn hClosed)

/- A round begins that is numbered by all that has happened. -/
theorem Sound.began (h : stand.Sound) (event : Event) :
    stand.Leads
      (stand.note (.began stand.journal.length event)) :=
  h.note (.began ..) rfl
    (registryIn_snoc rfl rfl rfl rfl (fun _ _ => rfl)
      fun _ => rfl)

theorem Sound.mem_givenIn
    (h : stand.Sound)
    {entry : Entry Callback}
    (hMember : entry ∈ stand.registry.entries) :
    entry ∈ givenIn stand.journal :=
  (mem_rosterIn.mp (h.entries ▸ hMember)).1

/-
  A round ends, once the closed were dropped if any was met:
  nobody is left who had closed when it began.
-/
theorem Sound.ends
    (hFire : LeadsAlways fire)
    (h : stand.Sound)
    (event : Event) :
    let round := stand.journal.length
    let visited :=
      BrainLink.visitEach
        (fun entry stand => stand.registry.isClosed entry)
        (Stand.deliver conduct fire event)
        stand.registry.entries
        (stand.note (.began round event))
    let told :=
      if visited.2 then visited.1.prune else visited.1
    stand.Leads (told.note (.ended round)) := by
  intro round visited told
  have hBegan := h.began event
  rcases hBegan.sound.visitEach conduct hFire event
      stand.registry.entries
      fun entry hMember =>
        hBegan.mem_givenIn (h.mem_givenIn hMember) with
    ⟨hVisited, hMet⟩
  have hTold :
      (stand.note (.began round event)).Leads told := by
    unfold told
    split
    · exact hVisited.trans hVisited.sound.prune
    · exact hVisited
  have hAll := hBegan.trans hTold
  have hSwept :
      ∀ entry ∈ rosterIn told.journal,
        entry.1 ∉ closingsIn stand.journal := by
    intro entry hMember hClosed
    have hHere : entry ∈ stand.registry.entries := by
      have hRight := hTold.sound.right
      rcases hAll.grows with ⟨rest, hRest⟩
      rw [← hRest] at hMember hRight
      rw [h.entries]
      exact
        mem_roster_of_append hRight hMember
          (lt_of_closing h.right hClosed)
    have hShut := hMet entry hHere (hBegan.mem_closingsIn hClosed)
    have hPruned : told = visited.1.prune := if_pos hShut
    rw [hPruned] at hMember hAll
    exact
      hVisited.sound.not_closed_prune hMember
        (hAll.mem_closingsIn hClosed)
  refine hAll.trans (hTold.sound.note (.ended round) ⟨?_, ?_⟩ ?_)
  · rcases hTold.grows with ⟨rest, hRest⟩
    refine ⟨event, ?_⟩
    rw [← hRest]
    change
      (stand.journal ++ [.began round event] ++ rest)[round]? =
        _
    simp [round]
  · have hTake : told.journal.take round = stand.journal := by
      rcases hAll.grows with ⟨rest, hRest⟩
      rw [← hRest]
      exact List.take_left
    rw [hTake]
    exact hSwept
  · exact
      registryIn_snoc rfl rfl rfl rfl (fun _ _ => rfl)
        fun _ => rfl

/- Whatever the bound is, those who had closed before are gone. -/
theorem leads_fireWithin (depth : Nat) :
    LeadsAlways (fireWithin conduct depth) := by
  induction depth with
  | zero =>
      exact fun event stand h =>
        ⟨⟨h.right, h.registry, h.receivers⟩, List.prefix_refl _⟩
  | succ depth ih =>
      exact fun event stand h => h.ends ih event

------------------------------------------------------------
-- The Bound
------------------------------------------------------------

variable {wider : Event → Stand → Stand}

/- A stand on which an event was left out remembers that. -/
def StaysCut (step : Stand → Stand) : Prop :=
  ∀ stand, stand.isCut = true → (step stand).isCut = true

/- Where nothing was left out, a wider bound changes nothing. -/
def Agrees (step wide : Stand → Stand) : Prop :=
  ∀ stand,
    (step stand).isCut = false → wide stand = step stand

theorem StaysCut.before
    {step : Stand → Stand}
    (h : StaysCut step)
    {stand : Stand}
    (hUncut : (step stand).isCut = false) :
    stand.isCut = false := by
  rw [← Bool.not_eq_true] at hUncut ⊢
  exact fun hCut => hUncut (h stand hCut)

theorem StaysCut.comp
    {first last : Stand → Stand}
    (hFirst : StaysCut first)
    (hLast : StaysCut last) :
    StaysCut fun stand => last (first stand) :=
  fun stand hCut => hLast _ (hFirst stand hCut)

theorem Agrees.comp
    {first last wideFirst wideLast : Stand → Stand}
    (hCut : StaysCut last)
    (hFirst : Agrees first wideFirst)
    (hLast : Agrees last wideLast) :
    Agrees
      (fun stand => last (first stand))
      (fun stand => wideLast (wideFirst stand)) := by
  intro stand hUncut
  dsimp only at hUncut ⊢
  rw [hFirst stand (hCut.before hUncut)]
  exact hLast _ hUncut

theorem isCut_closeReceiver (stand : Stand) (name : String) :
    (stand.closeReceiver name).isCut = stand.isCut := by
  unfold Stand.closeReceiver
  split
  · rfl
  · dsimp only
    split
    · rfl
    · rfl

theorem isCut_remove (stand : Stand) (name : String) :
    (stand.remove name).1.isCut = stand.isCut := by
  unfold Stand.remove
  split
  · rfl
  · rfl

theorem staysCut_act
    (hFire : ∀ event, StaysCut (fire event))
    (deed : Deed) :
    StaysCut (act fire deed) := by
  intro stand hCut
  cases deed with
  | add name reactions => exact hCut
  | subscribe name =>
      exact (isCut_closeReceiver _ name).trans hCut
  | remove name => exact (isCut_remove stand name).trans hCut
  | closeReceiver name =>
      exact (isCut_closeReceiver _ name).trans hCut
  | fire event => exact hFire event stand hCut

theorem agrees_act
    (hFire : ∀ event, Agrees (fire event) (wider event))
    (deed : Deed) :
    Agrees (act fire deed) (act wider deed) := by
  cases deed with
  | fire event => exact hFire event
  | _ => exact fun _ _ => rfl

theorem staysCut_foldl
    (hFire : ∀ event, StaysCut (fire event))
    (deeds : List Deed) :
    StaysCut fun stand =>
      deeds.foldl (fun stand deed => act fire deed stand)
        stand := by
  induction deeds with
  | nil => exact fun _ hCut => hCut
  | cons deed deeds ih => exact (staysCut_act hFire deed).comp ih

theorem agrees_foldl
    (hCut : ∀ event, StaysCut (fire event))
    (hFire : ∀ event, Agrees (fire event) (wider event))
    (deeds : List Deed) :
    Agrees
      (fun stand =>
        deeds.foldl (fun stand deed => act fire deed stand)
          stand)
      (fun stand =>
        deeds.foldl (fun stand deed => act wider deed stand)
          stand) := by
  induction deeds with
  | nil => exact fun _ _ => rfl
  | cons deed deeds ih =>
      exact
        .comp (staysCut_foldl hCut deeds)
          (agrees_act hFire deed) ih

theorem staysCut_deliver
    (hFire : ∀ event, StaysCut (fire event))
    (event : Event)
    (entry : Entry Callback) :
    StaysCut (deliver conduct fire event entry) := by
  intro stand hCut
  unfold Stand.deliver
  split
  · exact hCut
  · exact staysCut_foldl hFire _ _ hCut

theorem agrees_deliver
    (hCut : ∀ event, StaysCut (fire event))
    (hFire : ∀ event, Agrees (fire event) (wider event))
    (event : Event)
    (entry : Entry Callback) :
    Agrees
      (deliver conduct fire event entry)
      (deliver conduct wider event entry) := by
  intro stand hUncut
  unfold Stand.deliver at hUncut ⊢
  split
  · rfl
  · rename_i callback hEntry
    rw [hEntry] at hUncut
    exact agrees_foldl hCut hFire _ _ hUncut

/- The stand after some listeners, and if one was closed. -/
theorem staysCut_visitEach
    (hFire : ∀ event, StaysCut (fire event))
    (event : Event)
    (entries : List (Entry Callback)) :
    StaysCut fun stand =>
      (visitEach
          (fun entry stand => stand.registry.isClosed entry)
          (deliver conduct fire event)
          entries
          stand).1 := by
  induction entries with
  | nil => exact fun _ hCut => hCut
  | cons entry entries ih =>
      intro stand hCut
      unfold BrainLink.visitEach
      dsimp only
      split
      · exact ih stand hCut
      · exact ih _ (staysCut_deliver hFire event entry stand hCut)

theorem visitEach_eq_of_uncut
    (hCut : ∀ event, StaysCut (fire event))
    (hFire : ∀ event, Agrees (fire event) (wider event))
    (event : Event)
    (entries : List (Entry Callback))
    {stand : Stand}
    (hUncut :
      (visitEach
            (fun entry stand => stand.registry.isClosed entry)
            (deliver conduct fire event)
            entries
            stand).1.isCut =
        false) :
    visitEach
        (fun entry stand => stand.registry.isClosed entry)
        (deliver conduct wider event)
        entries
        stand =
      visitEach
        (fun entry stand => stand.registry.isClosed entry)
        (deliver conduct fire event)
        entries
        stand := by
  induction entries generalizing stand with
  | nil => rfl
  | cons entry entries ih =>
      unfold BrainLink.visitEach at hUncut ⊢
      split
      · rename_i hClosed
        rw [if_pos hClosed] at hUncut
        rw [ih hUncut]
      · rename_i hOpen
        rw [if_neg hOpen] at hUncut
        have hStand :
            (deliver conduct fire event entry stand).isCut =
              false :=
          (staysCut_visitEach hCut event entries).before hUncut
        rw [agrees_deliver hCut hFire event entry stand hStand]
        exact ih hUncut

theorem isCut_fireWithin_succ
    (depth : Nat)
    (event : Event)
    (stand : Stand) :
    (fireWithin conduct (depth + 1) event stand).isCut =
      (visitEach
            (fun entry stand => stand.registry.isClosed entry)
            (deliver conduct (fireWithin conduct depth) event)
            stand.registry.entries
            (stand.note
              (.began stand.journal.length event))).1.isCut := by
  unfold fireWithin
  dsimp only
  split
  · rfl
  · rfl

theorem staysCut_fireWithin (depth : Nat) (event : Event) :
    StaysCut (fireWithin conduct depth event) := by
  induction depth generalizing event with
  | zero => exact fun _ _ => rfl
  | succ depth ih =>
      intro stand hCut
      rw [isCut_fireWithin_succ]
      exact staysCut_visitEach ih event _ _ hCut

/-
  If no event was left out, the bound was large enough: any
  larger one leads to the same stand.
-/
theorem fireWithin_eq_of_uncut
    (depth more : Nat)
    (event : Event)
    (stand : Stand)
    (hUncut :
      (fireWithin conduct depth event stand).isCut = false) :
    fireWithin conduct (depth + more) event stand =
      fireWithin conduct depth event stand := by
  induction depth generalizing event stand with
  | zero => cases hUncut
  | succ depth ih =>
      rw [isCut_fireWithin_succ] at hUncut
      rw [Nat.succ_add]
      unfold fireWithin
      dsimp only
      rw [visitEach_eq_of_uncut (staysCut_fireWithin depth)
        (fun event stand hStand => ih event stand hStand) event _
        hUncut]

/- Two bounds that are large enough lead to the same stand. -/
theorem fireWithin_eq_fireWithin
    {depth other : Nat}
    {event : Event}
    (hUncut :
      (fireWithin conduct depth event stand).isCut = false)
    (hOther :
      (fireWithin conduct other event stand).isCut = false) :
    fireWithin conduct depth event stand =
      fireWithin conduct other event stand := by
  rcases Nat.le_total depth other with hLess | hLess
  · rcases Nat.exists_eq_add_of_le hLess with ⟨more, rfl⟩
    exact
      (fireWithin_eq_of_uncut depth more event stand hUncut).symm
  · rcases Nat.exists_eq_add_of_le hLess with ⟨more, rfl⟩
    exact fireWithin_eq_of_uncut other more event stand hOther

/- A bound is found, if there is one. -/
theorem fireFrom?_eq_some
    {depth : Nat}
    {event : Event}
    (hUncut :
      (fireWithin conduct depth event stand).isCut = false)
    (start : Nat) :
    fireFrom? conduct event stand start =
      some (fireWithin conduct depth event stand) := by
  induction hFar : depth - start using Nat.strongRecOn
      generalizing start with
  | ind far ih =>
      unfold fireFrom?
      dsimp only
      split
      · rename_i hCut
        have hStart : start < depth := by
          rw [← Nat.not_le]
          intro hEnough
          rcases Nat.exists_eq_add_of_le hEnough with ⟨more, rfl⟩
          rw [fireWithin_eq_of_uncut depth more event stand
            hUncut] at hCut
          cases hCut.symm.trans hUncut
        exact ih (depth - (2 * start + 1)) (by omega) _ rfl
      · rename_i hCut
        rw [fireWithin_eq_fireWithin (by simpa using hCut) hUncut]

/- An event is fired to its end, however deep it nests others. -/
theorem fire_eq_of_uncut
    {depth : Nat}
    {event : Event}
    (hUncut :
      (fireWithin conduct depth event stand).isCut = false) :
    stand.fire event conduct =
      fireWithin conduct depth event stand := by
  unfold Stand.fire
  rw [fireFrom?_eq_some hUncut]
  rfl

theorem exists_of_fireFrom?
    {event : Event}
    {start : Nat}
    {later : Stand}
    (hFound :
      fireFrom? conduct event stand start = some later) :
    ∃ depth,
      fireWithin conduct depth event stand = later ∧
        later.isCut = false := by
  revert hFound
  apply fireFrom?.partial_correctness
  intro search ih depth later hFound
  dsimp only at hFound
  split at hFound
  · exact ih _ later hFound
  · rename_i hUncut
    cases hFound
    exact ⟨depth, rfl, by simpa using hUncut⟩

/- An event is fired to its end, or nests others without end. -/
theorem fire_cases
    (conduct : Conduct)
    (event : Event)
    (stand : Stand) :
    (∃ depth,
        stand.fire event conduct =
            fireWithin conduct depth event stand ∧
          (fireWithin conduct depth event stand).isCut =
            false) ∨
      stand.fire event conduct = { stand with isCut := true } := by
  cases hSearch : fireFrom? conduct event stand 1 with
  | some later =>
      rcases exists_of_fireFrom? hSearch with
        ⟨depth, rfl, hUncut⟩
      exact .inl ⟨depth, fire_eq_of_uncut hUncut, hUncut⟩
  | none =>
      right
      unfold Stand.fire
      rw [hSearch]
      rfl

------------------------------------------------------------
-- Stands
------------------------------------------------------------

theorem Sound.obey
    (conduct : Conduct)
    (h : stand.Sound)
    (order : Order) :
    stand.Leads (stand.obey conduct order) := by
  cases order with
  | add callback => exact h.add callback
  | subscribe name => exact h.subscribe name
  | closeReceiver name => exact h.closeReceiver name
  | dropReceiver name => exact h.dropReceiver name
  | remove name => exact h.remove name
  | receive name => exact h.receive name
  | fire event =>
      change stand.Leads (stand.fire event conduct)
      rcases fire_cases conduct event stand with
        ⟨depth, hFired, -⟩ | hCut
      · rw [hFired]
        exact leads_fireWithin depth event stand h
      · rw [hCut]
        exact
          ⟨⟨h.right, h.registry, h.receivers⟩,
            List.prefix_refl _⟩

theorem sound_after (conduct : Conduct) (orders : List Order) :
    (after conduct orders).Sound := by
  induction orders with
  | nil => exact sound_empty
  | cons order orders ih => exact (ih.obey conduct order).sound

end Stand

end BrainLink
