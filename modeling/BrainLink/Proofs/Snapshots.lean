import BrainLink.Proofs.Projects
import BrainLink.Rehearsal.Shelf

/-
  What a cache of device keys knows after any refreshes, and
  what its snapshots hold.

  Key definitions include:
    * `TellsKeys`
    * `Withholds`
    * `IsLastTold`
    * `Shelf.Refreshes`
    * `Shelf.after`

  Main statements:
    * `Shelf.refreshes_refresh`
    * `Shelf.read?_after`
    * `snapshots_follow_answers`

  An answer tells keys or withholds them for one of four
  reasons. A refresh sends its request in either case, and
  only keys that were told are put on the shelf. So the latest
  snapshot is what was last told, and none ever changes.
-/

namespace BrainLink

------------------------------------------------------------
-- Answers
------------------------------------------------------------

/- An answer with status 200 whose body is a project. -/
def TellsKeys
    (answer : Http.Answer)
    (keys : DeviceKeys) : Prop :=
  ∃ body,
    answer = .ok ⟨200, body⟩ ∧
      DeviceKeys.ofProject body = .ok keys

/-
  Why an answer tells no keys, with the error that comes of
  it: there is no answer, it has another status, its body is
  no JSON, or there is no object that lists the rooms.
-/
inductive Withholds : Http.Answer → Cause → Prop where
| unanswered (failure : Http.Failure) :
    Withholds (.error failure) (.io failure.message)
| refused
    (status : Nat)
    (body : String)
    (hStatus : status ≠ 200) :
    Withholds (.ok ⟨status, body⟩) (.transport status body)
| garbled
    (body : String)
    (hBody : Json.parse? body = none) :
    Withholds (.ok ⟨200, body⟩) .badJson
| roomless
    (body : String)
    (project : Json.Value)
    (hBody : Json.parse? body = some project)
    (hRooms :
      ∀ rooms,
        project.member? "rooms" ≠ some (.object rooms)) :
    Withholds (.ok ⟨200, body⟩) .noRooms

/- What was told last, of answers with the latest first. -/
inductive IsLastTold : List Http.Answer → DeviceKeys → Prop where
| never
    (answers : List Http.Answer)
    (hNever :
      ∀ answer ∈ answers, ∀ keys, ¬ TellsKeys answer keys) :
    IsLastTold answers .empty
| told
    (later : List Http.Answer)
    (answer : Http.Answer)
    (earlier : List Http.Answer)
    (keys : DeviceKeys)
    (hTold : TellsKeys answer keys)
    (hLater :
      ∀ other ∈ later, ∀ keys, ¬ TellsKeys other keys) :
    IsLastTold (later ++ answer :: earlier) keys

/- A body from which no keys can be read withholds them. -/
theorem withholds_of_ofProject
    {body : String}
    {cause : Cause}
    (hCause : DeviceKeys.ofProject body = .error cause) :
    Withholds (.ok ⟨200, body⟩) cause := by
  unfold DeviceKeys.ofProject at hCause
  split at hCause
  · rename_i hBody
    cases hCause
    exact .garbled body hBody
  · rename_i project hBody
    split at hCause
    · rename_i hNone
      cases hCause
      apply Withholds.roomless body project hBody
      intro rooms hRooms
      have hSome :=
        Project.objectAt_eq_some_iff.mpr ⟨rooms, hRooms, rfl⟩
      cases hNone.symm.trans hSome
    · cases hCause

/- So does an answer from which none can be read. -/
theorem withholds_of_ofAnswer
    {answer : Http.Answer}
    {cause : Cause}
    (hCause : DeviceKeys.ofAnswer answer = .error cause) :
    Withholds answer cause := by
  unfold DeviceKeys.ofAnswer Http.accept at hCause
  rcases answer with failure | ⟨status, body⟩
  · cases hCause
    exact .unanswered failure
  · by_cases hStatus : status = 200
    · subst hStatus
      exact withholds_of_ofProject hCause
    · have hRefused :
          Http.Response.isOk ⟨status, body⟩ = false :=
        beq_false_of_ne hStatus
      dsimp only at hCause
      rw [hRefused] at hCause
      cases hCause
      exact .refused status body hStatus

/- An answer tells keys, or it withholds them. -/
theorem tells_or_withholds (answer : Http.Answer) :
    (∃ keys,
        DeviceKeys.ofAnswer answer = .ok keys ∧
          TellsKeys answer keys) ∨
      ∃ cause,
        DeviceKeys.ofAnswer answer = .error cause ∧
          Withholds answer cause := by
  cases hKeys : DeviceKeys.ofAnswer answer with
  | ok keys =>
      exact
        Or.inl
          ⟨keys, rfl, DeviceKeys.ofAnswer_eq_ok_iff.mp hKeys⟩
  | error cause =>
      exact Or.inr ⟨cause, rfl, withholds_of_ofAnswer hKeys⟩

/- It never does both. -/
theorem Withholds.not_tellsKeys
    {answer : Http.Answer}
    {cause : Cause}
    (h : Withholds answer cause)
    (keys : DeviceKeys) :
    ¬ TellsKeys answer keys := by
  rintro ⟨told, hAnswer, hKeys⟩
  cases h with
  | unanswered failure => cases hAnswer
  | refused status body hStatus =>
      cases hAnswer
      exact hStatus rfl
  | garbled body hBody =>
      cases hAnswer
      rcases DeviceKeys.exists_rooms_of_ofProject hKeys with
        ⟨project, rooms, hParse, -⟩
      cases hBody.symm.trans hParse
  | roomless body project hBody hRooms =>
      cases hAnswer
      rcases DeviceKeys.exists_rooms_of_ofProject hKeys with
        ⟨read, rooms, hParse, hFound, -⟩
      cases hBody.symm.trans hParse
      rcases Project.objectAt_eq_some_iff.mp hFound with
        ⟨written, hWritten, -⟩
      exact hRooms written hWritten

------------------------------------------------------------
-- Refreshes
------------------------------------------------------------

namespace Shelf

variable {before : Shelf}

/-
  What comes of a refresh. One request goes out. Keys that are
  told are a new snapshot; otherwise the shelf stays as it is,
  and the refresh fails with the reason.
-/
inductive Refreshes
    (call : Refresh)
    (before : Shelf) : Shelf × Outcome Unit → Prop where
| renews
    (keys : DeviceKeys)
    (hTold : TellsKeys call.answer keys) :
    Refreshes call before
      ( { replaced := before.snapshots
          latest := keys
          calls := before.calls ++ [call.request] },
        .ok () )
| keeps
    (cause : Cause)
    (hWithheld : Withholds call.answer cause) :
    Refreshes call before
      ( { before with
          calls := before.calls ++ [call.request] },
        .error cause )

theorem refreshes_refresh
    (call : Refresh)
    (before : Shelf) :
    before.Refreshes call (before.refresh call) := by
  unfold refresh KeyCache.update
  rcases tells_or_withholds call.answer with
    ⟨keys, hKeys, hTold⟩ | ⟨cause, hCause, hWithheld⟩
  · rw [hKeys]
    exact .renews keys hTold
  · rw [hCause]
    exact .keeps cause hWithheld

/- What a snapshot holds is not touched by a refresh. -/
theorem read?_refresh
    {id : SnapshotId}
    {keys : DeviceKeys}
    (hRead : before.read? id = some keys)
    (call : Refresh) :
    (before.refresh call).1.read? id = some keys := by
  have hRefreshes := refreshes_refresh call before
  generalize before.refresh call = result at hRefreshes ⊢
  cases hRefreshes with
  | renews told hTold =>
      unfold read? at hRead ⊢
      rw [snapshots, List.getElem?_append_left]
      · exact hRead
      · exact (List.getElem?_eq_some_iff.mp hRead).1
  | keeps cause hWithheld => exact hRead

------------------------------------------------------------
-- Runs
------------------------------------------------------------

/- The shelf after some refreshes, the latest first. -/
def after : List Refresh → Shelf
| [] => empty
| call :: past => ((after past).refresh call).1

/- It has sent one request for each of them. -/
theorem calls_after (past : List Refresh) :
    (after past).calls =
      (past.map Refresh.request).reverse := by
  induction past with
  | nil => rfl
  | cons call past ih =>
      have hRefreshes := refreshes_refresh call (after past)
      rw [after, List.map_cons, List.reverse_cons, ← ih]
      generalize (after past).refresh call = result
        at hRefreshes ⊢
      cases hRefreshes with
      | renews told hTold => rfl
      | keeps cause hWithheld => rfl

/- Its latest snapshot is what was told last. -/
theorem isLastTold_after (past : List Refresh) :
    IsLastTold (past.map Refresh.answer)
      (after past).latest := by
  induction past with
  | nil => exact .never [] nofun
  | cons call past ih =>
      have hRefreshes := refreshes_refresh call (after past)
      rw [after, List.map_cons]
      generalize (after past).refresh call = result
        at hRefreshes ⊢
      cases hRefreshes with
      | renews keys hTold =>
          exact .told [] call.answer _ keys hTold nofun
      | keeps cause hWithheld =>
          -- One more answer that tells nothing comes in front.
          have hCall := hWithheld.not_tellsKeys
          generalize past.map Refresh.answer = answers at ih ⊢
          dsimp only
          generalize (after past).latest = latest at ih ⊢
          cases ih with
          | never _ hNever =>
              exact
                .never _
                  (List.forall_mem_cons.mpr ⟨hCall, hNever⟩)
          | told later answer earlier _ hTold hLater =>
              exact
                .told (call.answer :: later) answer earlier _
                  hTold
                  (List.forall_mem_cons.mpr ⟨hCall, hLater⟩)

/- A snapshot that was handed out stays what it was. -/
theorem read?_after
    (later past : List Refresh) :
    (after (later ++ past)).read? (after past).get =
      some (after past).latest := by
  induction later with
  | nil => exact List.getElem?_concat_length
  | cons call later ih =>
      rw [List.cons_append, after]
      exact read?_refresh ih call

end Shelf

/-
  After any refreshes, whatever the brains answered: the cache
  holds what was last told, or nothing if nothing was, and it
  has sent one request for each refresh. The next one renews
  it or fails with the reason and leaves it as it is. And what
  is handed out now reads the same after all later refreshes.
-/
theorem snapshots_follow_answers (past : List Refresh) :
    IsLastTold (past.map Refresh.answer)
        (Shelf.after past).latest ∧
      (Shelf.after past).calls =
          (past.map Refresh.request).reverse ∧
        (∀ call,
            (Shelf.after past).Refreshes call
              ((Shelf.after past).refresh call)) ∧
          ∀ later,
            (Shelf.after (later ++ past)).read?
                (Shelf.after past).get =
              some (Shelf.after past).latest := by
  refine ⟨?_, ?_, ?_, ?_⟩
  · exact Shelf.isLastTold_after past
  · exact Shelf.calls_after past
  · intro call
    exact Shelf.refreshes_refresh call (Shelf.after past)
  · intro later
    exact Shelf.read?_after later past

end BrainLink
