import BrainLink.Proofs.Listening

/-
  Who hears of an event, whatever those do who are told.

  Key definitions include:
    * `Connection.heard`
    * `Registry.Evolves`
    * `Registry.Keeps`
    * `Connection.Carries`
    * `Connection.Reaches`

  Main statements:
    * `Connection.carries_tell`
    * `Connection.reaches_visitEach`
    * `Connection.reaches_announce`

  Listeners that are told of an event may let others come and
  go, so the registry changes on the way. A name is never
  given twice and a closed channel is never opened again. So
  an event reaches everyone once who listens when it is
  announced and still does in the end.
-/

namespace BrainLink

------------------------------------------------------------
-- Letters
------------------------------------------------------------

/- The event that an effect hands to a listener. -/
def Effect.heardBy? (id : ListenerId) : Effect → Option Event
| .told other _ event _ =>
    if other = id then some event else none
| .queued other event =>
    if other = id then some event else none
| _ => none

/- All events that a listener was handed, oldest first. -/
def Connection.heard
    (connection : Connection)
    (id : ListenerId) :
    List Event :=
  connection.news.filterMap (Effect.heardBy? id)

/- An event on its way to a listener. -/
abbrev Letter :=
  ListenerId × Event

/- What is in the mail for a listener. -/
def mailTo
    (mail : List Letter)
    (id : ListenerId) :
    List Event :=
  mail.filterMap fun letter =>
    if letter.1 = id then some letter.2 else none

@[simp] theorem mailTo_nil (id : ListenerId) :
    mailTo [] id = [] :=
  rfl

@[simp] theorem mailTo_append
    (mail more : List Letter)
    (id : ListenerId) :
    mailTo (mail ++ more) id = mailTo mail id ++ mailTo more id :=
  List.filterMap_append

theorem mailTo_self (id : ListenerId) (event : Event) :
    mailTo [(id, event)] id = [event] := by
  simp [mailTo]

/- A letter is for one listener alone. -/
theorem mailTo_other
    {id other : ListenerId}
    (hOther : other ≠ id)
    (event : Event) :
    mailTo [(other, event)] id = [] := by
  simp [mailTo, hOther]

/- Whoever gets no letter has no mail. -/
theorem mailTo_untold
    {κ : Type}
    {event : Event}
    {told : List (Entry κ)}
    {id : ListenerId}
    (hNobody : ∀ entry ∈ told, entry.1 ≠ id) :
    mailTo (told.map fun entry => (entry.1, event)) id = [] := by
  unfold mailTo
  rw [List.filterMap_eq_nil_iff]
  intro letter hLetter
  rcases List.mem_map.mp hLetter with ⟨entry, hMember, rfl⟩
  exact if_neg (hNobody entry hMember)

/- Whoever is told once has one letter. -/
theorem mailTo_told
    {κ : Type}
    {event : Event}
    {told : List (Entry κ)}
    (hSingle : (told.map Prod.fst).Nodup)
    {entry : Entry κ}
    (hTold : entry ∈ told) :
    mailTo (told.map fun other => (other.1, event)) entry.1 =
      [event] := by
  induction told with
  | nil => cases hTold
  | cons first told ih =>
      rcases List.nodup_cons.mp hSingle with ⟨hFirst, hRest⟩
      have hSplit :
          mailTo
              ((first :: told).map fun other =>
                (other.1, event))
              entry.1 =
            mailTo [(first.1, event)] entry.1 ++
              mailTo
                (told.map fun other => (other.1, event))
                entry.1 :=
        mailTo_append [(first.1, event)] _ _
      rw [hSplit]
      rcases List.mem_cons.mp hTold with rfl | hLater
      · have hNobody : ∀ other ∈ told, other.1 ≠ entry.1 :=
          fun other hMember hSame =>
            hFirst (List.mem_map.mpr ⟨other, hMember, hSame⟩)
        rw [mailTo_self, mailTo_untold hNobody]
        rfl
      · have hOther : first.1 ≠ entry.1 := fun hSame =>
          hFirst
            (List.mem_map.mpr ⟨entry, hLater, hSame.symm⟩)
        rw [mailTo_other hOther, ih hRest hLater]
        rfl

/- What is written down is heard, if it is news. -/
theorem Connection.heard_record
    (connection : Connection)
    (effect : Effect)
    (id : ListenerId) :
    (connection.record effect).heard id =
      connection.heard id ++ (effect.heardBy? id).toList := by
  unfold heard
  rw [news_record, List.filterMap_append]
  cases effect with
  | told other name event view =>
      by_cases hSame : other = id
      · simp [Effect.isNews, Effect.heardBy?, hSame]
      · simp [Effect.isNews, Effect.heardBy?, hSame]
  | queued other event =>
      by_cases hSame : other = id
      · simp [Effect.isNews, Effect.heardBy?, hSame]
      · simp [Effect.isNews, Effect.heardBy?, hSame]
  | _ => simp [Effect.isNews, Effect.heardBy?]

/- Where there is no news, nobody has heard any. -/
theorem Connection.heard_of_news
    {before after : Connection}
    (hNews : after.news = before.news)
    (id : ListenerId) :
    after.heard id = before.heard id := by
  unfold heard
  rw [hNews]

------------------------------------------------------------
-- Registries
------------------------------------------------------------

namespace Registry

variable {κ : Type}

/- A change of one channel is seen under its name alone. -/
theorem channel?_updateChannel
    (registry : Registry κ)
    (id : ListenerId)
    (change : Channel → Channel)
    (other : ListenerId) :
    (registry.updateChannel id change).channel? other =
      if other = id then
        (registry.channel? id).map change
      else
        registry.channel? other := by
  unfold channel? updateChannel
  induction registry.channels with
  | nil => simp
  | cons entry rest ih =>
      rcases entry with ⟨name, channel⟩
      by_cases hHere : other = name
      · subst hHere
        by_cases hSame : other = id
        · simp [hSame]
        · simp [hSame]
      · have hMissed : (other == name) = false := by
          simpa using hHere
        by_cases hSame : other = id
        · subst hSame
          have hOther : name ≠ other := Ne.symm hHere
          simpa [List.lookup_cons, hMissed, hOther] using ih
        · by_cases hChanged : name = id
          · subst hChanged
            simpa [List.lookup_cons, hMissed, hSame] using ih
          · simpa [List.lookup_cons, hMissed, hSame, hChanged]
              using ih

/- A new channel is found under the next name. -/
theorem channel?_subscribe
    (registry : Registry κ)
    (id : ListenerId) :
    registry.subscribe.channel? id =
      (registry.channel? id).or
        (if id = registry.nextId then
          some ⟨[], true⟩
        else
          none) := by
  unfold channel? subscribe prune
  rw [List.lookup_append]
  by_cases hNew : id = registry.nextId
  · simp [hNew]
  · have hMissed : (id == registry.nextId) = false := by
      simpa using hNew
    simp [hNew, List.lookup_cons, hMissed]

/-
  How a registry can change: listeners go, others come under
  new names, channels are closed but never opened again, and
  no callback becomes a channel.
-/
structure Evolves (before after : Registry κ) : Prop where
  nextId : before.nextId ≤ after.nextId
  entries :
    ∀ entry ∈ after.entries,
      entry ∈ before.entries ∨ before.nextId ≤ entry.1
  closed :
    ∀ entry,
      entry.1 < before.nextId →
        before.isClosed entry = true →
          after.isClosed entry = true
  bare :
    ∀ id < before.nextId,
      before.channel? id = none → after.channel? id = none

theorem Evolves.refl (registry : Registry κ) :
    registry.Evolves registry where
  nextId := Nat.le_refl _
  entries _ hMember := Or.inl hMember
  closed _ _ hClosed := hClosed
  bare _ _ hNone := hNone

theorem Evolves.trans
    {before middle after : Registry κ}
    (hFirst : before.Evolves middle)
    (hLast : middle.Evolves after) :
    before.Evolves after where
  nextId := Nat.le_trans hFirst.nextId hLast.nextId
  entries entry hMember := by
    rcases hLast.entries entry hMember with hOld | hNew
    · exact hFirst.entries entry hOld
    · exact Or.inr (Nat.le_trans hFirst.nextId hNew)
  closed entry hNamed hClosed :=
    hLast.closed entry (Nat.lt_of_lt_of_le hNamed hFirst.nextId)
      (hFirst.closed entry hNamed hClosed)
  bare id hNamed hNone :=
    hLast.bare id (Nat.lt_of_lt_of_le hNamed hFirst.nextId)
      (hFirst.bare id hNamed hNone)

/- Listeners go. -/
theorem evolves_filter
    (registry : Registry κ)
    (stays : Entry κ → Bool) :
    registry.Evolves
      { registry with
        entries := registry.entries.filter stays } where
  nextId := Nat.le_refl _
  entries _ hMember := Or.inl (List.mem_filter.mp hMember).1
  closed _ _ hClosed := hClosed
  bare _ _ hNone := hNone

/- A callback comes. -/
theorem evolves_add (registry : Registry κ) (label : κ) :
    registry.Evolves (registry.add label) where
  nextId := Nat.le_succ _
  entries entry hMember := by
    rcases List.mem_append.mp hMember with hOld | hNew
    · exact Or.inl hOld
    · rw [List.mem_singleton.mp hNew]
      exact Or.inr (Nat.le_refl _)
  closed _ _ hClosed := hClosed
  bare _ _ hNone := hNone

/- A channel comes. -/
theorem evolves_subscribe (registry : Registry κ) :
    registry.Evolves registry.subscribe := by
  have hBare :
      ∀ id < registry.nextId,
        registry.subscribe.channel? id =
          registry.channel? id := by
    intro id hNamed
    rw [channel?_subscribe, if_neg (Nat.ne_of_lt hNamed),
      Option.or_none]
  constructor
  · exact Nat.le_succ _
  · intro entry hMember
    rcases List.mem_append.mp hMember with hOld | hNew
    · exact Or.inl (List.mem_filter.mp hOld).1
    · rw [List.mem_singleton.mp hNew]
      exact Or.inr (Nat.le_refl _)
  · intro entry hNamed hClosed
    unfold isClosed at hClosed ⊢
    rw [hBare entry.1 hNamed]
    exact hClosed
  · intro id hNamed hNone
    exact (hBare id hNamed).trans hNone

/- A channel changes that is not opened again. -/
theorem evolves_updateChannel
    (registry : Registry κ)
    (id : ListenerId)
    {change : Channel → Channel}
    (hChange :
      ∀ channel : Channel,
        channel.isOpen = false →
          (change channel).isOpen = false) :
    registry.Evolves (registry.updateChannel id change) := by
  constructor
  · exact Nat.le_refl _
  · exact fun _ hMember => Or.inl hMember
  · intro entry _ hClosed
    unfold isClosed at hClosed ⊢
    rw [channel?_updateChannel]
    split at hClosed
    · cases hClosed
    · rename_i hEntry
      by_cases hSame : entry.1 = id
      · rw [if_pos hSame]
        rw [hSame] at hClosed
        cases hChannel : registry.channel? id with
        | none => rfl
        | some channel =>
            rw [hChannel] at hClosed
            have hShut : channel.isOpen = false := by
              simpa using hClosed
            simp [hChange channel hShut]
      · rw [if_neg hSame]
        exact hClosed
  · intro other _ hNone
    rw [channel?_updateChannel]
    by_cases hSame : other = id
    · rw [if_pos hSame, ← hSame, hNone]
      rfl
    · rw [if_neg hSame, hNone]

theorem evolves_closeChannel
    (registry : Registry κ)
    (id : ListenerId) :
    registry.Evolves (registry.closeChannel id) :=
  registry.evolves_updateChannel id fun _ _ => rfl

theorem evolves_drain
    (registry : Registry κ)
    (id : ListenerId) :
    registry.Evolves (registry.drain id).1 := by
  change
    registry.Evolves
      (registry.updateChannel id fun channel =>
        { channel with queue := [] })
  exact registry.evolves_updateChannel id fun _ hShut => hShut

------------------------------------------------------------
-- Order
------------------------------------------------------------

/-
  A registry in order: names are given once and count up, a
  callback has no channel, and what was put into a channel is
  in its queue unless it was taken out.
-/
structure Keeps
    (heard taken : ListenerId → List Event)
    (registry : Registry κ) : Prop where
  named : ∀ entry ∈ registry.entries, entry.1 < registry.nextId
  single : (registry.entries.map Prod.fst).Nodup
  unused :
    ∀ id, registry.nextId ≤ id → registry.channel? id = none
  bare :
    ∀ entry ∈ registry.entries,
      ∀ label,
        entry.2 = .callback label →
          registry.channel? entry.1 = none
  unheard : ∀ id, registry.nextId ≤ id → heard id = []
  untaken : ∀ id, registry.nextId ≤ id → taken id = []
  queues :
    ∀ id channel,
      registry.channel? id = some channel →
        taken id ++ channel.queue = heard id

section Keeps

variable {heard taken : ListenerId → List Event}
variable {registry : Registry κ}

theorem Keeps.filter
    (h : registry.Keeps heard taken)
    (stays : Entry κ → Bool) :
    Keeps heard taken
      { registry with
        entries := registry.entries.filter stays } where
  named entry hMember :=
    h.named entry (List.mem_filter.mp hMember).1
  single :=
    h.single.sublist (List.filter_sublist.map Prod.fst)
  unused := h.unused
  bare entry hMember :=
    h.bare entry (List.mem_filter.mp hMember).1
  unheard := h.unheard
  untaken := h.untaken
  queues := h.queues

/- The next name is not one that was given. -/
theorem Keeps.nodup_append
    (h : registry.Keeps heard taken)
    (listener : Listener κ) :
    ((registry.entries ++
        [(registry.nextId, listener)]).map Prod.fst).Nodup := by
  rw [List.map_append, List.nodup_append]
  refine ⟨h.single, by simp, ?_⟩
  intro id hOld other hNew
  rcases List.mem_map.mp hOld with ⟨entry, hMember, rfl⟩
  rw [List.mem_singleton.mp hNew]
  exact Nat.ne_of_lt (h.named entry hMember)

theorem Keeps.named_append
    (h : registry.Keeps heard taken)
    {listener : Listener κ}
    {entry : Entry κ}
    (hMember :
      entry ∈
        registry.entries ++ [(registry.nextId, listener)]) :
    entry.1 < registry.nextId + 1 := by
  rcases List.mem_append.mp hMember with hOld | hNew
  · exact Nat.lt_succ_of_lt (h.named entry hOld)
  · rw [List.mem_singleton.mp hNew]
    exact Nat.lt_succ_self _

theorem Keeps.add
    (h : registry.Keeps heard taken)
    (label : κ) :
    (registry.add label).Keeps heard taken where
  named _ hMember := h.named_append hMember
  single := h.nodup_append (.callback label)
  unused id hBeyond := h.unused id (Nat.le_of_succ_le hBeyond)
  bare entry hMember other hEntry := by
    rcases List.mem_append.mp hMember with hOld | hNew
    · exact h.bare entry hOld other hEntry
    · rw [List.mem_singleton.mp hNew]
      exact h.unused _ (Nat.le_refl _)
  unheard id hBeyond := h.unheard id (Nat.le_of_succ_le hBeyond)
  untaken id hBeyond := h.untaken id (Nat.le_of_succ_le hBeyond)
  queues := h.queues

theorem Keeps.subscribe
    (h : registry.Keeps heard taken) :
    registry.subscribe.Keeps heard taken := by
  have hPruned :=
    h.filter fun entry => !registry.isClosed entry
  constructor
  · exact fun _ hMember => hPruned.named_append hMember
  · exact hPruned.nodup_append .channel
  · intro id hBeyond
    have hOther : id ≠ registry.nextId :=
      (Nat.ne_of_lt (Nat.lt_of_succ_le hBeyond)).symm
    rw [channel?_subscribe, if_neg hOther, Option.or_none]
    exact h.unused id (Nat.le_of_succ_le hBeyond)
  · intro entry hMember label hEntry
    rcases List.mem_append.mp hMember with hOld | hNew
    · have hNamed := hPruned.named entry hOld
      rw [channel?_subscribe, if_neg (Nat.ne_of_lt hNamed),
        Option.or_none]
      exact hPruned.bare entry hOld label hEntry
    · rw [List.mem_singleton.mp hNew] at hEntry
      cases hEntry
  · exact fun id hBeyond =>
      h.unheard id (Nat.le_of_succ_le hBeyond)
  · exact fun id hBeyond =>
      h.untaken id (Nat.le_of_succ_le hBeyond)
  · intro id channel hChannel
    rw [channel?_subscribe] at hChannel
    by_cases hNew : id = registry.nextId
    · have hBeyond : registry.nextId ≤ id :=
        Nat.le_of_eq hNew.symm
      rw [h.unused id hBeyond, if_pos hNew] at hChannel
      cases hChannel
      rw [h.untaken id hBeyond, h.unheard id hBeyond]
      rfl
    · rw [if_neg hNew, Option.or_none] at hChannel
      exact h.queues id channel hChannel

/-
  A channel changes. Whatever was put in or taken out has
  been heard, or is known to be taken.
-/
theorem Keeps.updateChannel
    (h : registry.Keeps heard taken)
    {id : ListenerId}
    {change : Channel → Channel}
    {heard' taken' : ListenerId → List Event}
    (hOther :
      ∀ other,
        other ≠ id ∨ registry.channel? id = none →
          heard' other = heard other ∧
            taken' other = taken other)
    (hChange :
      ∀ channel,
        registry.channel? id = some channel →
          taken' id ++ (change channel).queue = heard' id) :
    (registry.updateChannel id change).Keeps heard' taken' := by
  have hUnused :
      ∀ other,
        registry.nextId ≤ other →
          other ≠ id ∨ registry.channel? id = none := by
    intro other hBeyond
    by_cases hSame : other = id
    · exact Or.inr (h.unused id (hSame ▸ hBeyond))
    · exact Or.inl hSame
  have hNone :
      ∀ other,
        registry.channel? other = none →
          (registry.updateChannel id change).channel? other =
            none := by
    intro other hBare
    rw [channel?_updateChannel]
    by_cases hSame : other = id
    · rw [if_pos hSame, ← hSame, hBare]
      rfl
    · rw [if_neg hSame, hBare]
  constructor
  · exact h.named
  · exact h.single
  · exact fun other hBeyond =>
      hNone other (h.unused other hBeyond)
  · exact fun entry hMember label hEntry =>
      hNone entry.1 (h.bare entry hMember label hEntry)
  · intro other hBeyond
    rw [(hOther other (hUnused other hBeyond)).1]
    exact h.unheard other hBeyond
  · intro other hBeyond
    rw [(hOther other (hUnused other hBeyond)).2]
    exact h.untaken other hBeyond
  · intro other channel hChannel
    rw [channel?_updateChannel] at hChannel
    by_cases hSame : other = id
    · subst hSame
      rw [if_pos rfl] at hChannel
      rcases Option.map_eq_some_iff.mp hChannel with
        ⟨early, hEarly, rfl⟩
      exact hChange early hEarly
    · rw [if_neg hSame] at hChannel
      rw [(hOther other (Or.inl hSame)).1,
        (hOther other (Or.inl hSame)).2]
      exact h.queues other channel hChannel

theorem Keeps.closeChannel
    (h : registry.Keeps heard taken)
    (id : ListenerId) :
    (registry.closeChannel id).Keeps heard taken :=
  h.updateChannel (fun _ _ => ⟨rfl, rfl⟩) (h.queues id)

/- What waits in a channel is taken out. -/
theorem Keeps.drain
    (h : registry.Keeps heard taken)
    (id : ListenerId) :
    (registry.drain id).1.Keeps heard
      (fun other =>
        taken other ++
          if id = other then (registry.drain id).2 else []) := by
  change
    (registry.updateChannel id fun channel =>
      { channel with queue := [] }).Keeps _ _
  apply h.updateChannel
  · rintro other (hOther | hNone)
    · simp [Ne.symm hOther]
    · simp [Registry.drain, hNone]
  · intro channel hChannel
    rw [← h.queues id channel hChannel]
    simp [Registry.drain, hChannel]

end Keeps

end Registry

------------------------------------------------------------
-- Deliveries
------------------------------------------------------------

namespace Connection

/-
  Some mail was delivered, and the registry has evolved. If
  it was in order before, it still is.
-/
structure Carries
    (mail : List Letter)
    (before after : Connection) : Prop where
  heard :
    ∀ id, after.heard id = before.heard id ++ mailTo mail id
  evolves : before.registry.Evolves after.registry
  keeps :
    ∀ taken,
      before.registry.Keeps before.heard taken →
        after.registry.Keeps after.heard taken

theorem Carries.trans
    {mail more : List Letter}
    {before middle after : Connection}
    (hFirst : before.Carries mail middle)
    (hLast : middle.Carries more after) :
    before.Carries (mail ++ more) after where
  heard id := by
    rw [hLast.heard, hFirst.heard, mailTo_append,
      List.append_assoc]
  evolves := hFirst.evolves.trans hLast.evolves
  keeps taken hKeeps :=
    hLast.keeps taken (hFirst.keeps taken hKeeps)

/- Nobody is told while the registry changes. -/
theorem carries_of_news
    {before after : Connection}
    (hNews : after.news = before.news)
    (hEvolves : before.registry.Evolves after.registry)
    (hKeeps :
      ∀ heard taken,
        before.registry.Keeps heard taken →
          after.registry.Keeps heard taken) :
    before.Carries [] after where
  heard id := by
    rw [heard_of_news hNews, mailTo_nil, List.append_nil]
  evolves := hEvolves
  keeps taken h := by
    have hHeard : after.heard = before.heard :=
      funext (heard_of_news hNews)
    rw [hHeard]
    exact hKeeps _ _ h

/- Nothing has come of it for those who listen. -/
theorem carries_of_registry
    {before after : Connection}
    (hNews : after.news = before.news)
    (hRegistry : after.registry = before.registry) :
    before.Carries [] after := by
  apply carries_of_news hNews
  · rw [hRegistry]
    exact .refl _
  · intro heard taken hKeeps
    rw [hRegistry]
    exact hKeeps

/- A start is no news. -/
theorem carries_scheduleConnect (connection : Connection) :
    connection.Carries [] connection.scheduleConnect := by
  have hRearranges := connection.rearranges_scheduleConnect
  generalize connection.scheduleConnect = later at hRearranges
  cases hRearranges with
  | intro tasks connect check journal hTasks hRequests hNews =>
      exact carries_of_registry hNews rfl

/- Those whose channels are closed are forgotten in silence. -/
theorem carries_prune (connection : Connection) :
    connection.Carries []
      { connection with registry := connection.registry.prune } :=
  carries_of_news rfl (connection.registry.evolves_filter _)
    fun _ _ hKeeps => hKeeps.filter _

/- A callback is told. -/
theorem carries_told
    (connection : Connection)
    {id : ListenerId}
    (hNamed : id < connection.registry.nextId)
    (hBare : connection.registry.channel? id = none)
    (name : String)
    (event : Event)
    (view : Option View) :
    connection.Carries [(id, event)]
      (connection.record (.told id name event view)) where
  heard other := by
    rw [heard_record]
    by_cases hSame : id = other
    · simp [Effect.heardBy?, hSame, mailTo]
    · simp [Effect.heardBy?, hSame, mailTo]
  evolves := .refl _
  keeps taken h :=
    { named := h.named
      single := h.single
      unused := h.unused
      bare := h.bare
      unheard := by
        intro other hBeyond
        have hOther : id ≠ other :=
          Nat.ne_of_lt (Nat.lt_of_lt_of_le hNamed hBeyond)
        rw [heard_record, h.unheard other hBeyond]
        simp [Effect.heardBy?, hOther]
      untaken := h.untaken
      queues := by
        intro other channel hChannel
        have hOther : id ≠ other := by
          rintro rfl
          cases hBare.symm.trans hChannel
        rw [heard_record, ← h.queues other channel hChannel]
        simp [Effect.heardBy?, hOther] }

/- An event is put into a channel. -/
theorem carries_queued
    (connection : Connection)
    {id : ListenerId}
    {channel : Channel}
    (hChannel :
      connection.registry.channel? id = some channel)
    (event : Event) :
    connection.Carries [(id, event)]
      ({ connection with
        registry := connection.registry.push id event }.record
          (.queued id event)) := by
  have hHeard :
      ∀ other,
        ({ connection with
            registry :=
              connection.registry.push id event }.record
            (.queued id event)).heard other =
          connection.heard other ++ mailTo [(id, event)] other := by
    intro other
    rw [heard_record]
    by_cases hSame : id = other
    · simp [Effect.heardBy?, hSame, mailTo]
      rfl
    · simp [Effect.heardBy?, hSame, mailTo]
      rfl
  refine ⟨hHeard, ?_, ?_⟩
  · change
      connection.registry.Evolves
        (connection.registry.push id event)
    exact
      connection.registry.evolves_updateChannel id
        fun _ hShut => hShut
  · intro taken h
    change
      (connection.registry.push id event).Keeps _ taken
    apply h.updateChannel
    · rintro other (hOther | hNone)
      · rw [hHeard, mailTo_other (Ne.symm hOther),
          List.append_nil]
        exact ⟨rfl, rfl⟩
      · cases hChannel.symm.trans hNone
    · intro same hSame
      rw [hHeard, mailTo_self, ← h.queues id same hSame,
        List.append_assoc]

------------------------------------------------------------
-- Telling
------------------------------------------------------------

section Telling

variable {Spoilt : Connection → Prop}
variable {closeNow : Connection → Connection}

/-
  Unless it is spoilt by a closing, nobody is told of what a
  listener does.
-/
theorem carries_makeMove
    (hClose :
      ∀ connection : Connection,
        Spoilt (closeNow connection) ∨
          connection.Carries [] (closeNow connection))
    (connection : Connection)
    (move : Move) :
    Spoilt (connection.makeMove closeNow move) ∨
      connection.Carries []
        (connection.makeMove closeNow move) := by
  have hSame :
      ∀ later : Connection,
        later.news = connection.news →
          later.registry = connection.registry →
            Spoilt later ∨ connection.Carries [] later :=
    fun later hNews hRegistry =>
      Or.inr (carries_of_registry hNews hRegistry)
  unfold makeMove
  split
  · cases move with
    | start =>
        change
          Spoilt connection.start ∨
            connection.Carries [] connection.start
        unfold start
        split
        · exact hSame _ rfl rfl
        · exact Or.inr connection.carries_scheduleConnect
    | close => exact hSame _ rfl rfl
    | closeNow => exact hClose connection
    | addListener name moves =>
        exact
          Or.inr
            (carries_of_news rfl
              (connection.registry.evolves_add _)
              fun _ _ hKeeps => hKeeps.add _)
    | removeListener name =>
        change
          Spoilt (connection.removeListener name).1 ∨
            connection.Carries []
              (connection.removeListener name).1
        unfold removeListener
        split
        · exact hSame _ rfl rfl
        · exact
            Or.inr
              (carries_of_news rfl
                (connection.registry.evolves_filter _)
                fun _ _ hKeeps => hKeeps.filter _)
    | subscribe =>
        exact
          Or.inr
            (carries_of_news rfl
              connection.registry.evolves_subscribe
              fun _ _ hKeeps => hKeeps.subscribe)
  · exact hSame _ rfl rfl

variable (hSpoilt : Steadfast Spoilt)
variable
  (hStays :
    ∀ connection,
      Spoilt connection → Spoilt (closeNow connection))
variable
  (hClose :
    ∀ connection : Connection,
      Spoilt (closeNow connection) ∨
        connection.Carries [] (closeNow connection))

include hSpoilt hStays hClose

/- Nor of all that it does. -/
theorem carries_moves
    (moves : List Move)
    (connection : Connection) :
    Spoilt (moves.foldl (makeMove closeNow) connection) ∨
      connection.Carries []
        (moves.foldl (makeMove closeNow) connection) := by
  induction moves generalizing connection with
  | nil => exact Or.inr (carries_of_registry rfl rfl)
  | cons move moves ih =>
      rw [List.foldl_cons]
      rcases carries_makeMove hClose connection move with
        hLost | hMoved
      · refine Or.inl ?_
        apply List.foldlRecOn
        · exact hLost
        · intro current hCurrent other _
          exact
            hSpoilt.makeMove hStays current other hCurrent
      · rcases ih (connection.makeMove closeNow move) with
          hLost | hRest
        · exact Or.inl hLost
        · exact Or.inr (hMoved.trans hRest)

/- A listener that is told hears of the event once. -/
theorem carries_tell
    {connection : Connection}
    {entry : Entry Watcher}
    (hNamed : entry.1 < connection.registry.nextId)
    (hBare :
      ∀ label,
        entry.2 = .callback label →
          connection.registry.channel? entry.1 = none)
    (hOpen : connection.registry.isClosed entry = false)
    (event : Event) :
    Spoilt (connection.tell closeNow event entry) ∨
      connection.Carries [(entry.1, event)]
        (connection.tell closeNow event entry) := by
  rcases entry with ⟨id, listener⟩
  cases listener with
  | channel =>
      cases hChannel : connection.registry.channel? id with
      | none => simp [Registry.isClosed, hChannel] at hOpen
      | some channel =>
          exact
            Or.inr (connection.carries_queued hChannel event)
  | callback watcher =>
      have hTold :=
        connection.carries_told hNamed (hBare watcher rfl)
          watcher.name event
          (if connection.isHeld then
            some connection.view
          else
            none)
      rcases carries_moves hSpoilt hStays hClose
          ((watcher.moves.filter fun m =>
              m.1 == event.new).map
            Prod.snd)
          (connection.record
            (.told id watcher.name event
              (if connection.isHeld then
                some connection.view
              else
                none))) with
        hLost | hMoved
      · exact Or.inl hLost
      · exact Or.inr (hTold.trans hMoved)

end Telling

/-
  An event was handed out to those among some listeners who
  were open when their turn came. Whoever was left out is
  closed now.
-/
structure Reaches
    (event : Event)
    (entries : List (Entry Watcher))
    (before : Connection)
    (told : List (Entry Watcher))
    (after : Connection) : Prop where
  sublist : told.Sublist entries
  carries :
    before.Carries
      (told.map fun entry => (entry.1, event))
      after
  opened :
    ∀ entry ∈ told, before.registry.isClosed entry = false
  missed :
    ∀ entry ∈ entries,
      entry ∉ told → after.registry.isClosed entry = true

section Visits

variable {Spoilt : Connection → Prop}
variable {closeNow : Connection → Connection}
variable {event : Event}
variable {entry : Entry Watcher}
variable {entries told : List (Entry Watcher)}
variable {before middle after : Connection}

/- One is left out, the others are visited. -/
theorem Reaches.skip
    (hNamed : entry.1 < before.registry.nextId)
    (hClosed : before.registry.isClosed entry = true)
    (h : before.Reaches event entries told after) :
    before.Reaches event (entry :: entries) told after where
  sublist := h.sublist.cons entry
  carries := h.carries
  opened := h.opened
  missed other hMember hMissed := by
    rcases List.mem_cons.mp hMember with rfl | hRest
    · exact h.carries.evolves.closed other hNamed hClosed
    · exact h.missed other hRest hMissed

/- One is told, and then the others are visited. -/
theorem Reaches.visit
    (hNamed :
      ∀ other ∈ entries, other.1 < before.registry.nextId)
    (hOpen : before.registry.isClosed entry = false)
    (hTold : before.Carries [(entry.1, event)] middle)
    (h : middle.Reaches event entries told after) :
    before.Reaches event (entry :: entries) (entry :: told)
      after where
  sublist := h.sublist.cons_cons entry
  carries := hTold.trans h.carries
  opened other hMember := by
    rcases List.mem_cons.mp hMember with rfl | hRest
    · exact hOpen
    · have hLater := h.opened other hRest
      apply eq_false_of_ne_true
      intro hClosed
      have hStill :=
        hTold.evolves.closed other
          (hNamed other (h.sublist.subset hRest)) hClosed
      cases hLater.symm.trans hStill
  missed other hMember hMissed := by
    rcases List.mem_cons.mp hMember with rfl | hRest
    · exact absurd List.mem_cons_self hMissed
    · exact
        h.missed other hRest fun hMem =>
          hMissed (List.mem_cons_of_mem entry hMem)

variable (hSpoilt : Steadfast Spoilt)
variable
  (hStays :
    ∀ connection,
      Spoilt connection → Spoilt (closeNow connection))
variable
  (hClose :
    ∀ connection : Connection,
      Spoilt (closeNow connection) ∨
        connection.Carries [] (closeNow connection))

include hSpoilt hStays hClose

/- Visits reach everyone who is open, one after the other. -/
theorem reaches_visitEach
    (event : Event)
    (entries : List (Entry Watcher))
    (connection : Connection)
    (hNamed :
      ∀ entry ∈ entries,
        entry.1 < connection.registry.nextId)
    (hBare :
      ∀ entry ∈ entries,
        ∀ label,
          entry.2 = .callback label →
            connection.registry.channel? entry.1 = none) :
    let visited :=
      (visitEach
        (fun entry (connection : Connection) =>
          connection.registry.isClosed entry)
        (tell closeNow event)
        entries
        connection).1
    Spoilt visited ∨
      ∃ told, connection.Reaches event entries told visited := by
  induction entries generalizing connection with
  | nil =>
      exact
        Or.inr
          ⟨[], .refl _, carries_of_registry rfl rfl,
            fun _ hMember => (nomatch hMember),
            fun _ hMember => (nomatch hMember)⟩
  | cons entry rest ih =>
      have hHere := hNamed entry List.mem_cons_self
      have hRest :
          ∀ other ∈ rest,
            other.1 < connection.registry.nextId :=
        fun other hMember =>
          hNamed other (List.mem_cons_of_mem entry hMember)
      have hRestBare :
          ∀ other ∈ rest,
            ∀ label,
              other.2 = .callback label →
                connection.registry.channel? other.1 = none :=
        fun other hMember =>
          hBare other (List.mem_cons_of_mem entry hMember)
      intro visited
      unfold visited visitEach
      cases hState : connection.registry.isClosed entry with
      | true =>
          rw [if_pos rfl]
          rcases ih connection hRest hRestBare with
            hLost | ⟨told, hTold⟩
          · exact Or.inl hLost
          · exact Or.inr ⟨told, hTold.skip hHere hState⟩
      | false =>
          rw [if_neg (by simp)]
          rcases carries_tell hSpoilt hStays hClose hHere
              (hBare entry List.mem_cons_self) hState event with
            hLost | hTold
          · refine Or.inl (visitEach_keeps ?_ rest _ hLost)
            intro other current hCurrent
            exact hSpoilt.tell hStays event other current hCurrent
          · have hNow :
                ∀ other ∈ rest,
                  other.1 <
                    (connection.tell closeNow event
                      entry).registry.nextId :=
              fun other hMember =>
                Nat.lt_of_lt_of_le (hRest other hMember)
                  hTold.evolves.nextId
            have hNowBare :
                ∀ other ∈ rest,
                  ∀ label,
                    other.2 = .callback label →
                      (connection.tell closeNow event
                        entry).registry.channel? other.1 =
                        none :=
              fun other hMember label hLabel =>
                hTold.evolves.bare other.1
                  (hRest other hMember)
                  (hRestBare other hMember label hLabel)
            rcases ih _ hNow hNowBare with
              hLost | ⟨told, hLater⟩
            · exact Or.inl hLost
            · exact
                Or.inr
                  ⟨entry :: told,
                    hLater.visit hRest hState hTold⟩

/- An announcement reaches all who listen when it is made. -/
theorem reaches_announce
    (event : Event)
    {connection : Connection}
    {taken : ListenerId → List Event}
    (hKeeps :
      connection.registry.Keeps connection.heard taken) :
    Spoilt (connection.announce closeNow event) ∨
      ∃ told,
        connection.Reaches event connection.registry.entries
          told (connection.announce closeNow event) := by
  have hVisited :=
    reaches_visitEach hSpoilt hStays hClose event
      connection.registry.entries connection hKeeps.named
      hKeeps.bare
  unfold announce
  dsimp only
  split
  · rcases hVisited with hLost | ⟨told, hTold⟩
    · exact Or.inl (hSpoilt.note (.intro _ _ _ _ rfl) hLost)
    · refine Or.inr ⟨told, hTold.sublist, ?_, hTold.opened, ?_⟩
      · have hPruned := hTold.carries.trans (carries_prune _)
        rw [List.append_nil] at hPruned
        exact hPruned
      · exact hTold.missed
  · exact hVisited

end Visits

------------------------------------------------------------
-- Going Offline and Online
------------------------------------------------------------

/-
  Nothing was told, and those who listen are those who did
  before.
-/
structure TellsNothing (before after : Connection) : Prop where
  news : after.news = before.news
  registry : after.registry = before.registry

theorem TellsNothing.refl (connection : Connection) :
    connection.TellsNothing connection :=
  ⟨rfl, rfl⟩

theorem TellsNothing.trans
    {before middle after : Connection}
    (hFirst : before.TellsNothing middle)
    (hLast : middle.TellsNothing after) :
    before.TellsNothing after :=
  ⟨hLast.news.trans hFirst.news,
    hLast.registry.trans hFirst.registry⟩

theorem TellsNothing.carries
    {before after : Connection}
    (h : before.TellsNothing after) :
    before.Carries [] after :=
  carries_of_registry h.news h.registry

/- What is no news is written down in silence. -/
theorem tellsNothing_record
    (connection : Connection)
    {effect : Effect}
    (hSilent : effect.isNews = false) :
    connection.TellsNothing (connection.record effect) where
  news := by
    rw [news_record, hSilent]
    exact List.append_nil _
  registry := rfl

/- Where the flag is down, a closing on the spot is silent. -/
theorem tellsNothing_closeNow
    (world : World)
    (connection : Connection) :
    connection.TellsNothing
      (connection.closeNow world stayOffline) := by
  have hAsked :
      ∀ transport request,
        connection.shut.TellsNothing
          (connection.shut.record (.asked transport request)) :=
    fun _ _ => tellsNothing_record _ rfl
  apply closeNow_cases
  · exact fun _ => .refl _
  · exact fun _ _ => ⟨rfl, rfl⟩
  · intro transport request _ _ _ _
    exact
      ⟨(hAsked transport request).news,
        (hAsked transport request).registry⟩
  · intro transport request _ _ _
    exact
      ⟨(hAsked transport request).news,
        (hAsked transport request).registry⟩

/- What goes before and after an announcement is silent. -/
theorem Reaches.hush
    {event : Event}
    {entries told : List (Entry Watcher)}
    {before middle late after : Connection}
    (h : middle.Reaches event entries told late)
    (hBefore : before.TellsNothing middle)
    (hAfter : late.TellsNothing after) :
    before.Reaches event entries told after where
  sublist := h.sublist
  carries := by
    have hAll := hBefore.carries.trans h.carries
    have hDone := hAll.trans hAfter.carries
    rw [List.append_nil] at hDone
    exact hDone
  opened := by
    rw [← hBefore.registry]
    exact h.opened
  missed := by
    rw [hAfter.registry]
    exact h.missed

/- Whoever listens hears that the brain is offline. -/
theorem reaches_goOffline
    (world : World)
    {connection : Connection}
    {taken : ListenerId → List Event}
    (hUp : connection.session.isConnected = true)
    (hKeeps :
      connection.registry.Keeps connection.heard taken) :
    ∃ told,
      connection.Reaches ⟨true, false⟩
        connection.registry.entries told
        (connection.goOffline world) := by
  have hLowered : connection.TellsNothing connection.stayOffline :=
    ⟨rfl, rfl⟩
  have hNever : Steadfast fun _ : Connection => False :=
    { note := fun _ h => h
      start := fun _ h => h }
  rw [goOffline_of_up hUp]
  have hReaches :=
    reaches_announce hNever (fun _ h => h)
      (fun other =>
        Or.inr (tellsNothing_closeNow world other).carries)
      ⟨true, false⟩
      (show
        connection.stayOffline.registry.Keeps
          connection.stayOffline.heard taken from
        hKeeps)
  rcases hReaches with hLost | ⟨told, hTold⟩
  · exact hLost.elim
  · exact ⟨told, hTold.hush hLowered (.refl _)⟩

/- A closing on the spot leaves a connection closed. -/
theorem isClosed_closeNow
    (world : World)
    (connection : Connection) :
    (connection.closeNow world (goOffline world)).isClosed =
      true := by
  have hBare :
      ∀ other : Connection,
        other.isClosed = true →
          (other.bare.goOffline world).isClosed = true :=
    fun other hClosed =>
      (lowered_goOffline world other.bare).closed hClosed
  apply closeNow_cases (P := fun other => other.isClosed = true)
  · exact id
  · exact fun _ _ => hBare _ rfl
  · exact fun _ _ _ _ _ _ => hBare _ rfl
  · exact fun _ _ _ _ _ => rfl

/-
  Whoever listens hears that the brain is online, unless a
  listener closes the connection there and then.
-/
theorem reaches_goOnline
    (world : World)
    {connection : Connection}
    {taken : ListenerId → List Event}
    (hDown : connection.session.isConnected = false)
    (hKeeps :
      connection.registry.Keeps connection.heard taken) :
    (connection.goOnline world).isClosed = true ∨
      ∃ told,
        connection.Reaches ⟨false, true⟩
          connection.registry.entries told
          (connection.goOnline world) := by
  obtain ⟨raised, hRaised⟩ :
      ∃ raised : Connection,
        raised =
          { connection with
            session := connection.session.setConnected true } :=
    ⟨_, rfl⟩
  have hOnline :
      connection.goOnline world =
        raised.announce (closeNow world (goOffline world))
          ⟨false, true⟩ := by
    simp [goOnline, setConnected, Session.change?, hDown,
      hRaised]
  have hSilent : connection.TellsNothing raised := by
    rw [hRaised]
    exact ⟨rfl, rfl⟩
  have hRaisedKeeps :
      raised.registry.Keeps raised.heard taken := by
    rw [hRaised]
    exact hKeeps
  have hClosed :
      Steadfast fun other : Connection =>
        other.isClosed = true :=
    { note := by
        intro before after hNotes h
        cases hNotes
        exact h
      start := fun hOpen h => by
        cases hOpen.symm.trans h }
  have hClose :
      ∀ other : Connection,
        (other.closeNow world (goOffline world)).isClosed =
            true ∨
          other.Carries []
            (other.closeNow world (goOffline world)) :=
    fun other => Or.inl (isClosed_closeNow world other)
  rw [hOnline]
  rcases reaches_announce hClosed
      (fun other _ => isClosed_closeNow world other) hClose
      ⟨false, true⟩ hRaisedKeeps with
    hLost | ⟨told, hTold⟩
  · exact Or.inl hLost
  · rw [← hSilent.registry]
    exact Or.inr ⟨told, hTold.hush hSilent (.refl _)⟩

end Connection

end BrainLink
