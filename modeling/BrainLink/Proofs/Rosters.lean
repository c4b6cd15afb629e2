import BrainLink.Listener.Stand
import BrainLink.Proofs.Delivery
import BrainLink.Proofs.Histories
import Mathlib.Data.List.Induction
import Mathlib.Data.List.Infix
import Mathlib.Data.List.Nodup

/-
  Who listens to a stand, by what was noted of it.

  Key definitions include:
    * `givenIn`
    * `rosterIn`
    * `heardIn`
    * `takenIn`
    * `registryIn`
    * `IsRight`
    * `IsSince`

  Main statements:
    * `names_of_right`
    * `mem_roster_of_append`
    * `isClosed_registryIn`
    * `prune_registryIn`
    * `closed_since`
    * `length_roster_le`

  A journal tells of all who came, went and closed, and of all
  that they heard and took. So the registry of a stand can be
  read off its journal. What is right of each moment, given
  those before it, bounds how many listeners there can be.
-/

namespace BrainLink

------------------------------------------------------------
-- What Is Noted
------------------------------------------------------------

namespace Moment

/- The listener that comes. -/
def given? : Moment → Option (Entry Callback)
| .added id callback => some (id, .callback callback)
| .subscribed id => some (id, .channel)
| _ => none

/- The channel that comes. -/
def opened? : Moment → Option ListenerId
| .subscribed id => some id
| _ => none

/- The listener that goes. -/
def gone? : Moment → Option ListenerId
| .removed id true => some id
| .dropped id => some id
| _ => none

/- The channel whose receiver closes. -/
def closing? : Moment → Option ListenerId
| .closed id => some id
| _ => none

/- The event that is handed over, and to whom. -/
def letter? : Moment → Option Letter
| .called id _ event => some (id, event)
| .queued id event => some (id, event)
| _ => none

/- The events that the receiver of a channel takes. -/
def takenBy (id : ListenerId) : Moment → List Event
| .received other events => if other = id then events else []
| _ => []

end Moment

/- All listeners that came, in the order in which they did. -/
def givenIn (journal : List Moment) : List (Entry Callback) :=
  journal.filterMap Moment.given?

/- All channels that came. -/
def opensIn (journal : List Moment) : List ListenerId :=
  journal.filterMap Moment.opened?

/- All listeners that went. -/
def goneIn (journal : List Moment) : List ListenerId :=
  journal.filterMap Moment.gone?

/- All channels whose receivers closed. -/
def closingsIn (journal : List Moment) : List ListenerId :=
  journal.filterMap Moment.closing?

/- All events that a listener was told. -/
def heardIn (journal : List Moment) (id : ListenerId) :
    List Event :=
  mailTo (journal.filterMap Moment.letter?) id

/- All events that the receiver of a channel has taken. -/
def takenIn (journal : List Moment) (id : ListenerId) :
    List Event :=
  journal.flatMap (Moment.takenBy id)

/- Those who came and did not go. -/
def rosterIn (journal : List Moment) : List (Entry Callback) :=
  (givenIn journal).filter fun entry =>
    !(goneIn journal).contains entry.1

section Append

variable (early late : List Moment)

theorem givenIn_append :
    givenIn (early ++ late) = givenIn early ++ givenIn late :=
  List.filterMap_append

theorem opensIn_append :
    opensIn (early ++ late) = opensIn early ++ opensIn late :=
  List.filterMap_append

theorem goneIn_append :
    goneIn (early ++ late) = goneIn early ++ goneIn late :=
  List.filterMap_append

theorem closingsIn_append :
    closingsIn (early ++ late) =
      closingsIn early ++ closingsIn late :=
  List.filterMap_append

theorem heardIn_append (id : ListenerId) :
    heardIn (early ++ late) id =
      heardIn early id ++ heardIn late id := by
  unfold heardIn
  rw [List.filterMap_append, mailTo_append]

theorem takenIn_append (id : ListenerId) :
    takenIn (early ++ late) id =
      takenIn early id ++ takenIn late id :=
  List.flatMap_append

end Append

theorem mem_rosterIn
    {journal : List Moment}
    {entry : Entry Callback} :
    entry ∈ rosterIn journal ↔
      entry ∈ givenIn journal ∧ entry.1 ∉ goneIn journal := by
  unfold rosterIn
  simp

/- Whoever came as a channel is one. -/
theorem mem_opensIn
    {journal : List Moment}
    {id : ListenerId} :
    id ∈ opensIn journal ↔ (id, .channel) ∈ givenIn journal := by
  unfold opensIn givenIn
  rw [List.mem_filterMap, List.mem_filterMap]
  refine exists_congr fun moment => and_congr_right fun _ => ?_
  cases moment with
  | added other callback => simp [Moment.opened?, Moment.given?]
  | subscribed other => simp [Moment.opened?, Moment.given?]
  | _ => simp [Moment.opened?, Moment.given?]

/- Whoever closed was noted to close. -/
theorem mem_closingsIn_iff
    {journal : List Moment}
    {id : ListenerId} :
    id ∈ closingsIn journal ↔ .closed id ∈ journal := by
  unfold closingsIn
  rw [List.mem_filterMap]
  constructor
  · rintro ⟨moment, hMember, hClosing⟩
    cases moment with
    | closed other =>
        cases hClosing
        exact hMember
    | _ => cases hClosing
  · exact fun hMember => ⟨_, hMember, rfl⟩

/- An event is heard by the one who is told, and no other. -/
theorem heardIn_queued
    (id : ListenerId)
    (event : Event)
    (other : ListenerId) :
    heardIn [.queued id event] other =
      if id = other then [event] else [] := by
  unfold heardIn mailTo
  by_cases hSame : id = other
  · simp [Moment.letter?, hSame]
  · simp [Moment.letter?, hSame]

------------------------------------------------------------
-- What Is Right
------------------------------------------------------------

/-
  What is right of a moment, given all before it. Names count
  up. Whoever is removed tells whether it was there; whoever
  is dropped had closed. Right after a subscription nobody is
  left who had closed, and after a round nobody who had closed
  when it began. A receiver closes once, and takes all that
  waits.
-/
def IsRight (early : List Moment) : Moment → Prop
| .added id _ => id = (givenIn early).length
| .subscribed id =>
    id = (givenIn early).length ∧
      ∀ entry ∈ rosterIn early, entry.1 ∉ closingsIn early
| .removed id found =>
    found = true ↔ id ∈ (rosterIn early).map Prod.fst
| .dropped id => id ∈ closingsIn early
| .closed id => id ∈ opensIn early ∧ id ∉ closingsIn early
| .received id events =>
    takenIn early id ++ events = heardIn early id
| .began round _ => round = early.length
| .called id name _ =>
    ∃ callback,
      (id, .callback callback) ∈ givenIn early ∧
        callback.name = name
| .queued id _ => id ∈ opensIn early ∧ id ∉ closingsIn early
| .ended round =>
    (∃ event, early[round]? = some (.began round event)) ∧
      ∀ entry ∈ rosterIn early,
        entry.1 ∉ closingsIn (early.take round)
| .reported _ _ => True

section Right

variable {journal early late : List Moment}

theorem throughout_of_append
    {P : List Moment → Moment → Prop}
    (h : Throughout P (early ++ late)) :
    Throughout P early := by
  intro before moment after hCut
  apply h before moment (after ++ late)
  rw [hCut, List.append_assoc]
  rfl

/- Names count up, and none is given twice. -/
theorem names_of_right (h : Throughout IsRight journal) :
    (givenIn journal).map Prod.fst =
      List.range (givenIn journal).length := by
  induction journal using List.reverseRecOn with
  | nil => rfl
  | append_singleton journal moment ih =>
      rcases throughout_snoc_iff.mp h with ⟨hBefore, hLast⟩
      have hNames := ih hBefore
      have hComes
          {entry : Entry Callback}
          (hGiven : givenIn [moment] = [entry])
          (hName : entry.1 = (givenIn journal).length) :
          (givenIn (journal ++ [moment])).map Prod.fst =
            List.range (givenIn (journal ++ [moment])).length := by
        rw [givenIn_append, hGiven, List.map_append, hNames,
          List.length_append, List.length_singleton,
          List.range_succ, List.map_singleton, hName]
      have hNobody
          (hGiven : givenIn [moment] = []) :
          (givenIn (journal ++ [moment])).map Prod.fst =
            List.range (givenIn (journal ++ [moment])).length := by
        rw [givenIn_append, hGiven, List.append_nil]
        exact hNames
      cases moment with
      | added id callback => exact hComes rfl hLast
      | subscribed id => exact hComes rfl hLast.1
      | _ => exact hNobody rfl

theorem nodup_of_right (h : Throughout IsRight journal) :
    ((givenIn journal).map Prod.fst).Nodup :=
  names_of_right h ▸ List.nodup_range

theorem lt_of_mem_givenIn
    (h : Throughout IsRight journal)
    {entry : Entry Callback}
    (hGiven : entry ∈ givenIn journal) :
    entry.1 < (givenIn journal).length := by
  rw [← List.mem_range, ← names_of_right h]
  exact List.mem_map_of_mem hGiven

/- Listeners of one name are the same. -/
theorem eq_of_mem_givenIn
    (h : Throughout IsRight journal)
    {entry other : Entry Callback}
    (hEntry : entry ∈ givenIn journal)
    (hOther : other ∈ givenIn journal)
    (hName : entry.1 = other.1) :
    entry = other :=
  List.inj_on_of_nodup_map (nodup_of_right h) hEntry hOther hName

theorem pairwise_roster (h : Throughout IsRight journal) :
    ((rosterIn journal).map Prod.fst).Pairwise (· < ·) := by
  refine
    List.Pairwise.sublist
      (List.filter_sublist.map Prod.fst) ?_
  rw [names_of_right h]
  exact List.pairwise_lt_range

/- Only receivers close. -/
theorem mem_opens_of_closing
    (h : Throughout IsRight journal)
    {id : ListenerId}
    (hClosed : id ∈ closingsIn journal) :
    id ∈ opensIn journal := by
  rcases List.mem_filterMap.mp hClosed with
    ⟨moment, hMember, hClosing⟩
  rcases List.append_of_mem hMember with ⟨before, after, hCut⟩
  have hRight := h before moment after hCut
  cases moment with
  | closed other =>
      cases hClosing
      rw [hCut, opensIn_append]
      exact List.mem_append_left _ hRight.1
  | _ => cases hClosing

/- What was taken was heard before. -/
theorem takenIn_initial
    (h : Throughout IsRight journal)
    (id : ListenerId) :
    takenIn journal id <+: heardIn journal id := by
  induction journal using List.reverseRecOn with
  | nil => exact List.prefix_refl _
  | append_singleton journal moment ih =>
      rcases throughout_snoc_iff.mp h with ⟨hBefore, hLast⟩
      have hOther
          (hTaken : takenIn [moment] id = []) :
          takenIn (journal ++ [moment]) id <+:
            heardIn (journal ++ [moment]) id := by
        rw [takenIn_append, hTaken, List.append_nil,
          heardIn_append]
        exact (ih hBefore).trans (List.prefix_append _ _)
      cases moment with
      | received other events =>
          by_cases hSame : other = id
          · subst hSame
            have hTaken :
                takenIn [.received other events] other =
                  events := by
              simp [takenIn, Moment.takenBy]
            rw [takenIn_append, hTaken, hLast, heardIn_append]
            exact List.prefix_append _ _
          · apply hOther
            simp [takenIn, Moment.takenBy, hSame]
      | _ => exact hOther rfl

/- Whoever came before a moment and is here was here then. -/
theorem mem_roster_of_append
    (h : Throughout IsRight (early ++ late))
    {entry : Entry Callback}
    (hMember : entry ∈ rosterIn (early ++ late))
    (hName : entry.1 < (givenIn early).length) :
    entry ∈ rosterIn early := by
  rcases mem_rosterIn.mp hMember with ⟨hGiven, hStays⟩
  rw [goneIn_append] at hStays
  refine
    mem_rosterIn.mpr
      ⟨?_, fun hGone => hStays (List.mem_append_left _ hGone)⟩
  have hNames := names_of_right (throughout_of_append h)
  have hEarly : entry.1 ∈ (givenIn early).map Prod.fst := by
    rw [hNames]
    exact List.mem_range.mpr hName
  rcases List.mem_map.mp hEarly with ⟨other, hOther, hSame⟩
  have hLater : other ∈ givenIn (early ++ late) := by
    rw [givenIn_append]
    exact List.mem_append_left _ hOther
  rw [← eq_of_mem_givenIn h hLater hGiven hSame]
  exact hOther

/- Whoever had closed before a moment had come before it. -/
theorem lt_of_closing
    (h : Throughout IsRight journal)
    {id : ListenerId}
    (hClosed : id ∈ closingsIn journal) :
    id < (givenIn journal).length :=
  lt_of_mem_givenIn h
    (mem_opensIn.mp (mem_opens_of_closing h hClosed))

/- Once nobody is left who had closed, nobody ever is. -/
theorem not_closed_of_append
    (h : Throughout IsRight (early ++ late))
    {before : List Moment}
    (hBefore : before <+: early)
    (hSwept :
      ∀ entry ∈ rosterIn early, entry.1 ∉ closingsIn before) :
    ∀ entry ∈ rosterIn (early ++ late),
      entry.1 ∉ closingsIn before := by
  intro entry hMember hClosed
  have hEarlier : entry.1 ∈ closingsIn early := by
    rcases hBefore with ⟨rest, rfl⟩
    rw [closingsIn_append]
    exact List.mem_append_left _ hClosed
  have hName := lt_of_closing (throughout_of_append h) hEarlier
  exact hSwept entry (mem_roster_of_append h hMember hName) hClosed

------------------------------------------------------------
-- Registries
------------------------------------------------------------

/- What waits in a channel, and whether it is open. -/
def channelIn (journal : List Moment) (id : ListenerId) :
    Channel :=
  ⟨(heardIn journal id).drop (takenIn journal id).length,
    !(closingsIn journal).contains id⟩

/- The registry that a journal tells of. -/
def registryIn (journal : List Moment) : Registry Callback :=
  ⟨(givenIn journal).length,
    rosterIn journal,
    (opensIn journal).map fun id => (id, channelIn journal id)⟩

theorem lookup_map_self
    {β : Type}
    (ids : List ListenerId)
    (value : ListenerId → β)
    (id : ListenerId) :
    (ids.map fun other => (other, value other)).lookup id =
      if id ∈ ids then some (value id) else none := by
  induction ids with
  | nil => rfl
  | cons first ids ih =>
      rw [List.map_cons, List.lookup_cons, ih]
      by_cases hSame : id = first
      · subst hSame
        simp
      · have hMissed : (id == first) = false := by
          simpa using hSame
        simp [hMissed, hSame]

theorem channel?_registryIn
    (journal : List Moment)
    (id : ListenerId) :
    (registryIn journal).channel? id =
      if id ∈ opensIn journal then
        some (channelIn journal id)
      else
        none :=
  lookup_map_self _ _ id

/- A listener is closed if its receiver has closed. -/
theorem isClosed_registryIn
    (h : Throughout IsRight journal)
    {entry : Entry Callback}
    (hGiven : entry ∈ givenIn journal) :
    (registryIn journal).isClosed entry = true ↔
      entry.1 ∈ closingsIn journal := by
  rcases entry with ⟨id, listener⟩
  cases listener with
  | callback callback =>
      refine iff_of_false Bool.false_ne_true fun hClosed => ?_
      have hChannel :=
        mem_opensIn.mp (mem_opens_of_closing h hClosed)
      have hSame := eq_of_mem_givenIn h hGiven hChannel rfl
      cases hSame
  | channel =>
      unfold Registry.isClosed
      dsimp only
      rw [channel?_registryIn, if_pos (mem_opensIn.mpr hGiven)]
      simp [channelIn]

/- A change of one channel is seen in the journal. -/
theorem updateChannel_registryIn
    {later : List Moment}
    {id : ListenerId}
    {change : Channel → Channel}
    (hGiven : givenIn later = givenIn journal)
    (hOpens : opensIn later = opensIn journal)
    (hGone : goneIn later = goneIn journal)
    (hSelf :
      channelIn later id = change (channelIn journal id))
    (hOther :
      ∀ other ≠ id,
        channelIn later other = channelIn journal other) :
    (registryIn journal).updateChannel id change =
      registryIn later := by
  unfold Registry.updateChannel registryIn rosterIn
  dsimp only
  rw [hGiven, hOpens, hGone, List.map_map]
  congr 1
  apply List.map_congr_left
  intro other _
  dsimp only [Function.comp]
  by_cases hSame : other = id
  · subst hSame
    rw [if_pos rfl, hSelf]
  · rw [if_neg hSame, hOther other hSame]

/- What a moment does not tell of stays as it is. -/
theorem filterMap_snoc_of_none
    {β : Type}
    {tells : Moment → Option β}
    {moment : Moment}
    (hNone : tells moment = none)
    (journal : List Moment) :
    (journal ++ [moment]).filterMap tells =
      journal.filterMap tells := by
  simp [hNone]

/- A channel of which a moment does not tell stays as it is. -/
theorem channelIn_snoc
    {moment : Moment}
    {id : ListenerId}
    (hClosing : moment.closing? = none)
    (hHeard : heardIn [moment] id = [])
    (hTaken : moment.takenBy id = []) :
    channelIn (journal ++ [moment]) id =
      channelIn journal id := by
  have hClosings :
      closingsIn (journal ++ [moment]) = closingsIn journal :=
    filterMap_snoc_of_none hClosing journal
  have hNothing : takenIn [moment] id = [] := by
    simp [takenIn, hTaken]
  unfold channelIn
  rw [hClosings, heardIn_append, hHeard, takenIn_append,
    hNothing, List.append_nil, List.append_nil]

/- Nothing changes by a moment that tells of nobody. -/
theorem registryIn_snoc
    {moment : Moment}
    (hGiven : moment.given? = none)
    (hOpened : moment.opened? = none)
    (hGone : moment.gone? = none)
    (hClosing : moment.closing? = none)
    (hHeard : ∀ id ∈ opensIn journal, heardIn [moment] id = [])
    (hTaken : ∀ id, moment.takenBy id = []) :
    registryIn (journal ++ [moment]) = registryIn journal := by
  unfold registryIn rosterIn givenIn opensIn goneIn
  rw [filterMap_snoc_of_none hGiven,
    filterMap_snoc_of_none hOpened,
    filterMap_snoc_of_none hGone]
  congr 1
  apply List.map_congr_left
  intro id hMember
  rw [channelIn_snoc hClosing (hHeard id hMember) (hTaken id)]

theorem push_registryIn
    (h : Throughout IsRight journal)
    (id : ListenerId)
    (event : Event) :
    (registryIn journal).push id event =
      registryIn (journal ++ [.queued id event]) := by
  refine
    updateChannel_registryIn
      (filterMap_snoc_of_none rfl journal)
      (filterMap_snoc_of_none rfl journal)
      (filterMap_snoc_of_none rfl journal) ?_ ?_
  · have hClosings :
        closingsIn (journal ++ [.queued id event]) =
          closingsIn journal :=
      filterMap_snoc_of_none rfl journal
    unfold channelIn
    rw [hClosings, takenIn_append, heardIn_append,
      heardIn_queued, if_pos rfl]
    change
      (⟨(_ ++ [event]).drop (_ ++ []).length, _⟩ : Channel) = _
    rw [List.append_nil,
      List.drop_append_of_le_length
        (takenIn_initial h id).length_le]
  · intro other hOther
    refine channelIn_snoc rfl ?_ rfl
    rw [heardIn_queued, if_neg (Ne.symm hOther)]

theorem closeChannel_registryIn
    (journal : List Moment)
    (id : ListenerId) :
    (registryIn journal).closeChannel id =
      registryIn (journal ++ [.closed id]) := by
  have hChannel (other : ListenerId) :
      channelIn (journal ++ [.closed id]) other =
        ⟨(channelIn journal other).queue,
          !(closingsIn journal ++ [id]).contains other⟩ := by
    unfold channelIn
    rw [closingsIn_append, heardIn_append, takenIn_append]
    change
      (⟨(_ ++ []).drop (_ ++ []).length, _⟩ : Channel) = _
    rw [List.append_nil, List.append_nil]
    rfl
  refine
    updateChannel_registryIn
      (filterMap_snoc_of_none rfl journal)
      (filterMap_snoc_of_none rfl journal)
      (filterMap_snoc_of_none rfl journal) ?_ ?_
  · rw [hChannel]
    simp
  · intro other hOther
    rw [hChannel]
    simp [channelIn, hOther]

/- A receiver that has closed does not close again. -/
theorem closeChannel_eq_self
    {id : ListenerId}
    (hClosed : id ∈ closingsIn journal) :
    (registryIn journal).closeChannel id =
      registryIn journal := by
  refine updateChannel_registryIn rfl rfl rfl ?_ fun _ _ => rfl
  simp [channelIn, hClosed]

/- A receiver takes all that waits. -/
theorem drain_registryIn
    (h : Throughout IsRight journal)
    {id : ListenerId}
    (hOpens : id ∈ opensIn journal) :
    let drained := (registryIn journal).drain id
    drained.1 =
        registryIn (journal ++ [.received id drained.2]) ∧
      takenIn journal id ++ drained.2 = heardIn journal id := by
  have hEvents :
      ((registryIn journal).drain id).2 =
        (heardIn journal id).drop (takenIn journal id).length := by
    unfold Registry.drain
    rw [channel?_registryIn, if_pos hOpens]
    rfl
  have hAll :
      takenIn journal id ++ ((registryIn journal).drain id).2 =
        heardIn journal id := by
    rw [hEvents]
    exact (List.prefix_append_drop (takenIn_initial h id)).symm
  refine ⟨?_, hAll⟩
  generalize ((registryIn journal).drain id).2 = events at hAll
  change
    ((registryIn journal).updateChannel id fun channel =>
        { channel with queue := [] }) =
      _
  refine updateChannel_registryIn ?_ ?_ ?_ ?_ ?_
  · exact filterMap_snoc_of_none rfl journal
  · exact filterMap_snoc_of_none rfl journal
  · exact filterMap_snoc_of_none rfl journal
  · have hClosings :
        closingsIn (journal ++ [.received id events]) =
          closingsIn journal :=
      filterMap_snoc_of_none rfl journal
    have hTaken : takenIn [.received id events] id = events := by
      simp [takenIn, Moment.takenBy]
    unfold channelIn
    rw [hClosings, takenIn_append, hTaken, hAll, heardIn_append]
    change (⟨(_ ++ []).drop _, _⟩ : Channel) = _
    rw [List.append_nil, List.drop_length]
  · exact fun other hOther =>
      channelIn_snoc rfl rfl (if_neg (Ne.symm hOther))

/- Whoever went had come. -/
theorem lt_of_gone
    (h : Throughout IsRight journal)
    {id : ListenerId}
    (hGone : id ∈ goneIn journal) :
    id < (givenIn journal).length := by
  rcases List.mem_filterMap.mp hGone with
    ⟨moment, hMember, hGoes⟩
  rcases List.append_of_mem hMember with ⟨before, after, rfl⟩
  have hRight := h before moment after rfl
  have hBefore := throughout_of_append h
  have hLess
      (hName : id < (givenIn before).length) :
      id < (givenIn (before ++ moment :: after)).length := by
    rw [givenIn_append, List.length_append]
    exact Nat.lt_add_right _ hName
  cases moment with
  | removed other found =>
      cases found with
      | false => cases hGoes
      | true =>
          cases hGoes
          rcases List.mem_map.mp (hRight.mp rfl) with
            ⟨entry, hEntry, rfl⟩
          exact
            hLess
              (lt_of_mem_givenIn hBefore
                (mem_rosterIn.mp hEntry).1)
  | dropped other =>
      cases hGoes
      exact hLess (lt_of_closing hBefore hRight)
  | _ => cases hGoes

/- Whoever has not come has heard nothing. -/
theorem heardIn_eq_nil
    (h : Throughout IsRight journal)
    {id : ListenerId}
    (hName : (givenIn journal).length ≤ id) :
    heardIn journal id = [] := by
  refine List.filterMap_eq_nil_iff.mpr ?_
  intro letter hMember
  refine if_neg ?_
  rintro rfl
  rcases List.mem_filterMap.mp hMember with
    ⟨moment, hMoment, hLetter⟩
  rcases List.append_of_mem hMoment with ⟨before, after, rfl⟩
  have hRight := h before moment after rfl
  have hBefore := throughout_of_append h
  rw [givenIn_append, List.length_append] at hName
  have hLess : ¬ letter.1 < (givenIn before).length :=
    Nat.not_lt.mpr (Nat.le_trans (Nat.le_add_right _ _) hName)
  cases moment with
  | called other name event =>
      cases hLetter
      rcases hRight with ⟨callback, hGiven, -⟩
      exact hLess (lt_of_mem_givenIn hBefore hGiven)
  | queued other event =>
      cases hLetter
      exact
        hLess
          (lt_of_mem_givenIn hBefore (mem_opensIn.mp hRight.1))
  | _ => cases hLetter

/- Whoever comes is behind all who are here. -/
theorem rosterIn_given
    (h : Throughout IsRight journal)
    {moment : Moment}
    {entry : Entry Callback}
    (hGiven : moment.given? = some entry)
    (hGone : moment.gone? = none)
    (hName : entry.1 = (givenIn journal).length) :
    rosterIn (journal ++ [moment]) =
      rosterIn journal ++ [entry] := by
  have hNew : entry.1 ∉ goneIn journal := by
    intro hMember
    have hLess := lt_of_gone h hMember
    exact Nat.lt_irrefl _ (Nat.lt_of_lt_of_eq hLess hName.symm)
  have hGivens :
      givenIn (journal ++ [moment]) =
        givenIn journal ++ [entry] := by
    rw [givenIn_append]
    simp [givenIn, hGiven]
  have hGones : goneIn (journal ++ [moment]) = goneIn journal :=
    filterMap_snoc_of_none hGone journal
  unfold rosterIn
  rw [hGivens, List.filter_append, hGones]
  simp [hNew]

theorem add_registryIn
    (h : Throughout IsRight journal)
    (callback : Callback) :
    let id := (givenIn journal).length
    (registryIn journal).add callback =
      registryIn (journal ++ [.added id callback]) := by
  intro id
  have hRoster :
      rosterIn (journal ++ [.added id callback]) =
        rosterIn journal ++ [(id, .callback callback)] :=
    rosterIn_given h rfl rfl rfl
  have hOpens :
      opensIn (journal ++ [.added id callback]) =
        opensIn journal :=
    filterMap_snoc_of_none rfl journal
  have hNames :
      (givenIn (journal ++ [.added id callback])).length =
        id + 1 := by
    rw [givenIn_append, List.length_append]
    rfl
  unfold registryIn Registry.add
  dsimp only
  rw [hRoster, hOpens, hNames]
  congr 1
  exact List.map_congr_left fun other _ => by
    rw [channelIn_snoc rfl rfl rfl]

/- Whoever has not closed stays when the closed are dropped. -/
theorem prune_eq_self
    (h : Throughout IsRight journal)
    (hSwept :
      ∀ entry ∈ rosterIn journal,
        entry.1 ∉ closingsIn journal) :
    (registryIn journal).prune = registryIn journal := by
  have hStays :
      (rosterIn journal).filter
          (fun entry => !(registryIn journal).isClosed entry) =
        rosterIn journal := by
    refine List.filter_eq_self.mpr fun entry hMember => ?_
    have hOpen := hSwept entry hMember
    have hGiven := (mem_rosterIn.mp hMember).1
    rw [← isClosed_registryIn h hGiven] at hOpen
    simpa using hOpen
  exact congrArg (fun entries => Registry.mk _ entries _) hStays

/- A new channel is open, and nothing waits in it. -/
theorem subscribe_registryIn
    (h : Throughout IsRight journal)
    (hSwept :
      ∀ entry ∈ rosterIn journal,
        entry.1 ∉ closingsIn journal) :
    let id := (givenIn journal).length
    (registryIn journal).subscribe =
      registryIn (journal ++ [.subscribed id]) := by
  intro id
  have hRoster :
      rosterIn (journal ++ [.subscribed id]) =
        rosterIn journal ++ [(id, .channel)] :=
    rosterIn_given h rfl rfl rfl
  have hOpens :
      opensIn (journal ++ [.subscribed id]) =
        opensIn journal ++ [id] :=
    opensIn_append _ _
  have hNames :
      (givenIn (journal ++ [.subscribed id])).length = id + 1 := by
    rw [givenIn_append, List.length_append]
    rfl
  have hNew : channelIn journal id = ⟨[], true⟩ := by
    have hOpen : id ∉ closingsIn journal := fun hClosed =>
      Nat.lt_irrefl _ (lt_of_closing h hClosed)
    unfold channelIn
    rw [heardIn_eq_nil h (Nat.le_refl _), List.drop_nil]
    simp [hOpen]
  unfold Registry.subscribe
  rw [prune_eq_self h hSwept]
  unfold registryIn
  dsimp only
  rw [hRoster, hOpens, hNames, List.map_append,
    List.map_singleton, channelIn_snoc rfl rfl rfl, hNew]
  congr 2
  exact List.map_congr_left fun other _ => by
    rw [channelIn_snoc rfl rfl rfl]

/- Whoever goes is no longer here, and all others are. -/
theorem rosterIn_gone
    {moment : Moment}
    {id : ListenerId}
    (hGiven : moment.given? = none)
    (hGone : moment.gone? = some id) :
    rosterIn (journal ++ [moment]) =
      (rosterIn journal).filter fun entry => entry.1 != id := by
  have hGivens :
      givenIn (journal ++ [moment]) = givenIn journal :=
    filterMap_snoc_of_none hGiven journal
  have hGones : goneIn [moment] = [id] := by
    simp [goneIn, hGone]
  unfold rosterIn
  rw [hGivens, goneIn_append, hGones, List.filter_filter]
  refine List.filter_congr fun entry _ => ?_
  by_cases hSame : entry.1 = id
  · simp [hSame]
  · simp [hSame]

theorem remove_registryIn
    {moment : Moment}
    {id : ListenerId}
    (hGone : moment.gone? = some id) :
    (registryIn journal).remove id =
      registryIn (journal ++ [moment]) := by
  have hNobody :
      moment.given? = none ∧
        moment.opened? = none ∧
          moment.closing? = none ∧
            heardIn [moment] = heardIn [] ∧
              ∀ other, moment.takenBy other = [] := by
    cases moment with
    | removed other found =>
        exact ⟨rfl, rfl, rfl, rfl, fun _ => rfl⟩
    | dropped other =>
        exact ⟨rfl, rfl, rfl, rfl, fun _ => rfl⟩
    | _ => cases hGone
  rcases hNobody with
    ⟨hGiven, hOpened, hClosing, hHeard, hTaken⟩
  have hGivens :
      givenIn (journal ++ [moment]) = givenIn journal :=
    filterMap_snoc_of_none hGiven journal
  have hOpens :
      opensIn (journal ++ [moment]) = opensIn journal :=
    filterMap_snoc_of_none hOpened journal
  unfold registryIn Registry.remove
  dsimp only
  rw [rosterIn_gone hGiven hGone, hGivens, hOpens]
  congr 1
  exact List.map_congr_left fun other _ => by
    rw [channelIn_snoc hClosing (congrFun hHeard other)
      (hTaken other)]

theorem dropped_registryIn (ids : List ListenerId) :
    registryIn (journal ++ ids.map Moment.dropped) =
      { registryIn journal with
        entries :=
          (rosterIn journal).filter fun entry =>
            !ids.contains entry.1 } := by
  induction ids generalizing journal with
  | nil =>
      rw [List.map_nil, List.append_nil]
      simp [registryIn]
  | cons id ids ih =>
      have hFirst :
          registryIn (journal ++ [.dropped id]) =
            (registryIn journal).remove id :=
        (remove_registryIn rfl).symm
      have hRoster :
          rosterIn (journal ++ [.dropped id]) =
            (rosterIn journal).filter fun entry =>
              entry.1 != id :=
        rosterIn_gone rfl rfl
      rw [List.map_cons, List.append_cons, ih, hFirst, hRoster,
        List.filter_filter]
      refine congrArg (fun entries => Registry.mk _ entries _) ?_
      refine List.filter_congr fun entry _ => ?_
      by_cases hSame : entry.1 = id
      · simp [hSame]
      · simp [hSame]

/- All who have closed are dropped, and no others. -/
theorem prune_registryIn (h : Throughout IsRight journal) :
    let closed :=
      (rosterIn journal).filter (registryIn journal).isClosed
    (registryIn journal).prune =
      registryIn
        (journal ++
          closed.map fun entry => .dropped entry.1) := by
  intro closed
  have hDropped :
      (closed.map fun entry => Moment.dropped entry.1) =
        (closed.map Prod.fst).map Moment.dropped := by
    rw [List.map_map]
    rfl
  rw [hDropped, dropped_registryIn]
  refine congrArg (fun entries => Registry.mk _ entries _) ?_
  refine List.filter_congr fun entry hMember => ?_
  have hGiven := (mem_rosterIn.mp hMember).1
  have hNames :
      entry.1 ∈ closed.map Prod.fst ↔
        (registryIn journal).isClosed entry = true := by
    constructor
    · intro hName
      rcases List.mem_map.mp hName with ⟨other, hOther, hSame⟩
      rcases List.mem_filter.mp hOther with ⟨hHere, hClosed⟩
      have hEntry :=
        eq_of_mem_givenIn h (mem_rosterIn.mp hHere).1 hGiven hSame
      exact hEntry ▸ hClosed
    · intro hClosed
      exact
        List.mem_map_of_mem
          (List.mem_filter.mpr ⟨hMember, hClosed⟩)
  have hContains :
      (closed.map Prod.fst).contains entry.1 =
        (registryIn journal).isClosed entry := by
    rw [Bool.eq_iff_iff, List.contains_iff_mem]
    exact hNames
  rw [hContains]

end Right

------------------------------------------------------------
-- How Many Listen
------------------------------------------------------------

/-
  What was noted since a subscription, or since the beginning
  of a round that has ended, or since nobody listened.
-/
inductive IsSince (journal : List Moment) :
    List Moment → Prop where
| start : IsSince journal journal
| subscribed
    (early late : List Moment)
    (id : ListenerId)
    (hCut : journal = early ++ .subscribed id :: late) :
    IsSince journal late
| began
    (early late : List Moment)
    (round : Nat)
    (event : Event)
    (hCut : journal = early ++ .began round event :: late)
    (hEnded : .ended round ∈ late) :
    IsSince journal late

/- Whether a listener is a callback. -/
def isPlain (entry : Entry Callback) : Bool :=
  match entry.2 with
  | .callback _ => true
  | .channel => false

/- How many callbacks are here. -/
def plainIn (journal : List Moment) : Nat :=
  (rosterIn journal).countP isPlain

/- How many receivers are open. -/
def openIn (journal : List Moment) : Nat :=
  (opensIn journal).countP fun id =>
    !(closingsIn journal).contains id

section Count

variable {journal late : List Moment}

/- Nobody is left who had closed before a subscription. -/
theorem not_closed_of_subscribed
    (h : Throughout IsRight journal)
    {early : List Moment}
    {id : ListenerId}
    (hCut : journal = early ++ .subscribed id :: late) :
    ∀ entry ∈ rosterIn journal, entry.1 ∉ closingsIn early := by
  have hSwept := (h early _ late hCut).2
  subst hCut
  exact not_closed_of_append h (List.prefix_refl _) hSwept

/- Nobody is left who had closed before a round that ended. -/
theorem not_closed_of_ended
    (h : Throughout IsRight journal)
    {early : List Moment}
    {round : Nat}
    {event : Event}
    (hCut : journal = early ++ .began round event :: late)
    (hEnded : .ended round ∈ late) :
    ∀ entry ∈ rosterIn journal, entry.1 ∉ closingsIn early := by
  have hRound := h early _ late hCut
  rcases List.append_of_mem hEnded with ⟨between, after, hLate⟩
  have hWhole :
      journal =
        (early ++ .began round event :: between) ++
          .ended round :: after := by
    rw [hCut, hLate]
    simp
  have hSwept := (h _ _ _ hWhole).2
  have hBegan :
      (early ++ .began round event :: between).take round =
        early := by
    rw [hRound]
    exact List.take_left
  rw [hBegan] at hSwept
  rw [hWhole] at h ⊢
  exact not_closed_of_append h (List.prefix_append _ _) hSwept

/- Whoever has closed and is here closed since then. -/
theorem closed_since
    (h : Throughout IsRight journal)
    (hSince : IsSince journal late)
    {entry : Entry Callback}
    (hMember : entry ∈ rosterIn journal)
    (hClosed : entry.1 ∈ closingsIn journal) :
    entry.1 ∈ closingsIn late := by
  cases hSince with
  | start => exact hClosed
  | subscribed early _ id hCut =>
      have hOpen := not_closed_of_subscribed h hCut entry hMember
      rw [hCut, closingsIn_append] at hClosed
      exact (List.mem_append.mp hClosed).resolve_left hOpen
  | began early _ round event hCut hEnded =>
      have hOpen :=
        not_closed_of_ended h hCut hEnded entry hMember
      rw [hCut, closingsIn_append] at hClosed
      exact (List.mem_append.mp hClosed).resolve_left hOpen

/- Each channel is open, or closed since then. -/
theorem channels_subset
    (h : Throughout IsRight journal)
    (hSince : IsSince journal late) :
    ((rosterIn journal).filter fun entry =>
          !isPlain entry).map Prod.fst ⊆
      ((opensIn journal).filter fun id =>
          !(closingsIn journal).contains id) ++
        closingsIn late := by
  intro id hMember
  rcases List.mem_map.mp hMember with ⟨entry, hFiltered, rfl⟩
  rcases List.mem_filter.mp hFiltered with ⟨hEntry, hChannel⟩
  rw [List.mem_append]
  by_cases hClosed : entry.1 ∈ closingsIn journal
  · exact .inr (closed_since h hSince hEntry hClosed)
  · left
    have hGiven := (mem_rosterIn.mp hEntry).1
    refine List.mem_filter.mpr ⟨?_, by simpa using hClosed⟩
    rcases entry with ⟨id, listener⟩
    cases listener with
    | callback callback => simp [isPlain] at hChannel
    | channel => exact mem_opensIn.mpr hGiven

/-
  There are never more listeners than callbacks, open
  receivers, and receivers that closed since then.
-/
theorem length_roster_le
    (h : Throughout IsRight journal)
    (hSince : IsSince journal late) :
    (rosterIn journal).length ≤
      plainIn journal + openIn journal +
        (closingsIn late).length := by
  have hSingle :
      (((rosterIn journal).filter fun entry =>
          !isPlain entry).map Prod.fst).Nodup := by
    refine (nodup_of_right h).sublist (List.Sublist.map _ ?_)
    exact List.filter_sublist.trans List.filter_sublist
  have hChannels :=
    hSingle.length_le_of_subset (channels_subset h hSince)
  have hSplit :=
    List.length_eq_countP_add_countP isPlain
      (l := rosterIn journal)
  rw [List.length_append, List.length_map,
    ← List.countP_eq_length_filter,
    ← List.countP_eq_length_filter] at hChannels
  unfold plainIn openIn
  simp only [Bool.not_eq_true, Bool.decide_eq_false] at hSplit
  omega

end Count

end BrainLink
