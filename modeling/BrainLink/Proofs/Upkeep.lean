import BrainLink.Proofs.Rounds

/-
  The right listeners are kept on every stand.

  Key definitions include:
    * `Stand.KeepsRight`

  Main statements:
    * `Stand.Leads.entries_cases`
    * `Stand.Leads.goes`
    * `Stand.Sound.swept_of_fires`
    * `Stand.Sound.size_le`
    * `Stand.right_listeners_are_kept`

  Each order leads from a sound stand to a sound one with a
  longer journal. So who comes and goes is what was noted in
  between, and how many there are is bounded by what was noted
  since the closed were last dropped.
-/

namespace BrainLink

namespace Stand

variable {conduct : Conduct}
variable {stand before later : Stand}

------------------------------------------------------------
-- Coming and going
------------------------------------------------------------

/- Whoever is here later was here, or has a later name. -/
theorem Leads.entries_cases
    (h : before.Leads later)
    (hBefore : before.Sound)
    {entry : Entry Callback}
    (hMember : entry ∈ later.registry.entries) :
    entry ∈ before.registry.entries ∨
      before.registry.nextId ≤ entry.1 := by
  have hRight := h.sound.right
  rw [h.sound.entries] at hMember
  rw [hBefore.entries, hBefore.nextId]
  rcases h.grows with ⟨rest, hRest⟩
  rw [← hRest] at hRight hMember
  rcases Nat.lt_or_ge entry.1 (givenIn before.journal).length with
    hOld | hNew
  · exact .inl (mem_roster_of_append hRight hMember hOld)
  · exact .inr hNew

/- Whoever goes was removed, or has closed. -/
theorem Leads.goes
    (h : before.Leads later)
    (hBefore : before.Sound)
    {entry : Entry Callback}
    (hHere : entry ∈ before.registry.entries)
    (hGone : entry ∉ later.registry.entries) :
    .removed entry.1 true ∈ later.journal ∨
      .closed entry.1 ∈ later.journal := by
  have hGiven := h.mem_givenIn (hBefore.mem_givenIn hHere)
  rw [h.sound.entries, mem_rosterIn] at hGone
  have hGoes : entry.1 ∈ goneIn later.journal := by
    by_contra hStays
    exact hGone ⟨hGiven, hStays⟩
  rcases List.mem_filterMap.mp hGoes with
    ⟨moment, hMember, hMoment⟩
  cases moment with
  | removed id found =>
      cases found with
      | false => cases hMoment
      | true =>
          cases hMoment
          exact .inl hMember
  | dropped id =>
      cases hMoment
      right
      rcases List.append_of_mem hMember with
        ⟨early, late, hCut⟩
      have hClosed := h.sound.right early _ late hCut
      rw [hCut]
      exact List.mem_append_left _ (mem_closingsIn_iff.mp hClosed)
  | _ => cases hMoment

------------------------------------------------------------
-- Dropping the closed
------------------------------------------------------------

/- Nobody is left by a subscription who has closed. -/
theorem Sound.isClosed_subscribe
    (h : stand.Sound)
    {entry : Entry Callback}
    (hMember : entry ∈ stand.registry.subscribe.entries) :
    stand.registry.subscribe.isClosed entry = false := by
  have hLater := h.subscribed.sound
  have hGiven := hLater.mem_givenIn hMember
  rw [← Bool.not_eq_true]
  refine fun hClosed => ?_
  have hClosing := (hLater.isClosed_iff hGiven).mp hClosed
  have hSwept :=
    not_closed_of_subscribed hLater.right rfl entry
      (hLater.entries ▸ hMember)
  apply hSwept
  simpa [Stand.note, closingsIn, Moment.closing?] using hClosing

/- Whoever had not closed is left by a subscription. -/
theorem Sound.entries_subscribe (h : stand.Sound) :
    stand.registry.subscribe.entries =
      (stand.registry.entries.filter fun entry =>
          !(closingsIn stand.journal).contains entry.1) ++
        [(stand.registry.nextId, .channel)] := by
  refine congrArg (· ++ _) (List.filter_congr ?_)
  intro entry hMember
  rw [h.isClosed_eq hMember]

/- Nobody goes at once when a receiver closes. -/
theorem entries_closeReceiver (stand : Stand) (name : String) :
    (stand.closeReceiver name).registry.entries =
      stand.registry.entries := by
  unfold Stand.closeReceiver
  split
  · rfl
  · dsimp only
    split
    · rfl
    · rfl

/- A removal takes nobody but the latest of a name. -/
theorem entries_remove (stand : Stand) (name : String) :
    (stand.remove name).1.registry.entries =
      stand.registry.entries.filter fun entry =>
        stand.listeners.lookup name != some entry.1 := by
  unfold Stand.remove
  cases hFound : stand.listeners.lookup name with
  | none =>
      refine (List.filter_eq_self.mpr fun _ _ => ?_).symm
      rfl
  | some id =>
      refine List.filter_congr fun entry _ => ?_
      rw [bne_comm]
      rfl

/- Nobody is left by a round who had closed when it began. -/
theorem Sound.swept_of_fires
    (h : stand.Sound)
    (hLeads : stand.Leads later)
    {event : Event}
    {round : List Moment}
    (hRound : later.journal = stand.journal ++ round)
    (hFires : Fires conduct event stand.journal round)
    {entry : Entry Callback}
    (hHere : entry ∈ stand.registry.entries)
    (hClosed : stand.registry.isClosed entry = true) :
    entry ∉ later.registry.entries := by
  intro hMember
  rw [hLeads.sound.entries] at hMember
  have hClosing :=
    (h.isClosed_iff (h.mem_givenIn hHere)).mp hClosed
  cases hFires with
  | round _ _ told dropped hTold =>
      refine
        not_closed_of_ended hLeads.sound.right hRound ?_ entry
          hMember hClosing
      simp

------------------------------------------------------------
-- How many listen
------------------------------------------------------------

/-
  There are never more listeners than callbacks, open
  receivers, and receivers that closed since the closed were
  last dropped.
-/
theorem Sound.size_le
    (h : stand.Sound)
    {late : List Moment}
    (hSince : IsSince stand.journal late) :
    stand.registry.size ≤
      stand.registry.entries.countP isPlain +
          (stand.registry.channels.countP fun entry =>
            entry.2.isOpen) +
        (closingsIn late).length := by
  have hRoster := length_roster_le h.right hSince
  rw [h.registry]
  unfold Registry.size registryIn
  dsimp only
  rw [List.countP_map]
  exact hRoster

------------------------------------------------------------
-- Upkeep
------------------------------------------------------------

/-
  How those who listen are kept. Their names count up, and no
  name is given twice. Who comes has a new name, and who goes
  was removed or has closed. A subscription drops those who
  have closed and no others; a removal drops its own listener
  and tells whether it was there; the end of a round leaves
  nobody who had closed when it began. All this is so at each
  moment of a round, too.
-/
structure KeepsRight (conduct : Conduct) (before : Stand) :
    Prop where
  rising :
    (before.registry.entries.map Prod.fst).Pairwise (· < ·)
  named :
    (givenIn before.journal).map Prod.fst =
      List.range before.registry.nextId
  comes :
    ∀ order,
      ∀ entry ∈ (before.obey conduct order).registry.entries,
        entry ∈ before.registry.entries ∨
          before.registry.nextId ≤ entry.1
  leaves :
    ∀ order,
      ∀ entry ∈ before.registry.entries,
        entry ∉ (before.obey conduct order).registry.entries →
          .removed entry.1 true ∈
              (before.obey conduct order).journal ∨
            .closed entry.1 ∈
              (before.obey conduct order).journal
  adds :
    ∀ callback,
      (before.obey conduct (.add callback)).registry.entries =
        before.registry.entries ++
          [(before.registry.nextId, .callback callback)]
  subscribes :
    ∀ name,
      (before.obey conduct (.subscribe name)).registry.entries =
        (before.registry.entries.filter fun entry =>
            !(closingsIn before.journal).contains entry.1) ++
          [(before.registry.nextId, .channel)]
  subscribed :
    ∀ entry ∈ before.registry.subscribe.entries,
      before.registry.subscribe.isClosed entry = false
  removes :
    ∀ name,
      (before.remove name).2 = true ↔
        ∃ id ∈ before.registry.entries.map Prod.fst,
          before.listeners.lookup name = some id
  removed :
    ∀ name,
      (before.obey conduct (.remove name)).registry.entries =
        before.registry.entries.filter fun entry =>
          before.listeners.lookup name != some entry.1
  fires :
    ∀ event depth,
      (fireWithin conduct depth event before).isCut = false →
        (∀ entry ∈ before.registry.entries,
            before.registry.isClosed entry = true →
              entry ∉
                (before.fire event conduct).registry.entries) ∧
          ∃ round,
            (before.fire event conduct).journal =
                before.journal ++ round ∧
              Fires conduct event before.journal round
  size :
    ∀ late,
      IsSince before.journal late →
        before.registry.size ≤
          before.registry.entries.countP isPlain +
              (before.registry.channels.countP fun entry =>
                entry.2.isOpen) +
            (closingsIn late).length
  within :
    ∀ early,
      early <+: before.journal →
        Throughout IsRight early ∧
          ∀ late,
            IsSince early late →
              (rosterIn early).length ≤
                plainIn early + openIn early +
                  (closingsIn late).length

theorem Sound.keepsRight (conduct : Conduct) (h : stand.Sound) :
    stand.KeepsRight conduct := by
  refine
    { rising := ?_
      named := ?_
      comes := fun order _ =>
        (h.obey conduct order).entries_cases h
      leaves := fun order _ =>
        (h.obey conduct order).goes h
      adds := fun _ => rfl
      subscribes := ?_
      subscribed := fun _ => h.isClosed_subscribe
      removes := ?_
      removed := ?_
      fires := ?_
      size := fun _ => h.size_le
      within := ?_ }
  · rw [h.entries]
    exact pairwise_roster h.right
  · rw [h.nextId]
    exact names_of_right h.right
  · intro name
    rw [← h.entries_subscribe]
    exact entries_closeReceiver _ name
  · intro name
    unfold Stand.remove
    cases hFound : stand.listeners.lookup name with
    | none => simp
    | some id => simp [has_iff]
  · exact entries_remove stand
  · intro event depth hDepth
    have hFire : FiresRounds conduct (fireWithin conduct depth) :=
      firesRounds_fireWithin depth
    rcases hFire.rounds event stand h hDepth with
      ⟨round, hRound, hFires⟩
    rw [fire_eq_of_uncut hDepth]
    refine ⟨fun entry => ?_, round, hRound, hFires⟩
    exact
      h.swept_of_fires (hFire.leads event stand h) hRound hFires
  · rintro early ⟨rest, hRest⟩
    have hRight := h.right
    rw [← hRest] at hRight
    have hEarly := throughout_of_append hRight
    exact ⟨hEarly, fun _ => length_roster_le hEarly⟩

/-
  The right listeners are kept, whatever was ordered and
  whatever callbacks do.
-/
theorem right_listeners_are_kept
    (conduct : Conduct)
    (orders : List Order) :
    KeepsRight conduct (after conduct orders) :=
  (sound_after conduct orders).keepsRight conduct

end Stand

end BrainLink
