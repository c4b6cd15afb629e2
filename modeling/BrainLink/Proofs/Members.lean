import BrainLink.Json.Value
import Mathlib.Data.List.Basic

/-
  The members of a JSON object: which of them count, and that
  their order does not.

  Key definitions include:
    * `Json.Rearranged`

  Main statements:
    * `Json.mem_lastMembers_iff`
    * `Json.lastMembers_of_nodup`
    * `Json.Rearranged.member?`
    * `Json.Rearranged.text?`

  Of the members with one name the last one counts. So two
  members with different names may change places, at any depth
  of a value, and all that can be looked up stays the same.
-/

namespace BrainLink.Json

------------------------------------------------------------
-- Lookup
------------------------------------------------------------

section Lookup

variable {name : String}

/- What stands further behind counts more. -/
theorem member?_append
    (front rear : List (String × Value)) :
    (Value.object (front ++ rear)).member? name =
      ((Value.object rear).member? name).or
        ((Value.object front).member? name) := by
  simp only [Value.member?]
  rw [List.reverse_append, List.find?_append, Option.map_or]

/- The first member counts if no other has its name. -/
theorem member?_cons
    (first : String × Value)
    (rest : List (String × Value)) :
    (Value.object (first :: rest)).member? name =
      ((Value.object rest).member? name).or
        (if first.1 = name then some first.2 else none) := by
  rw [← List.singleton_append, member?_append]
  by_cases hName : first.1 = name
  · simp [Value.member?, hName]
  · simp [Value.member?, hName]

/- A name that nothing has is not found. -/
theorem member?_eq_none_iff
    {members : List (String × Value)} :
    (Value.object members).member? name = none ↔
      ∀ member ∈ members, member.1 ≠ name := by
  simp [Value.member?]

/- The members that count are those that are found. -/
theorem mem_lastMembers_iff
    {members : List (String × Value)}
    {value : Value} :
    (name, value) ∈ lastMembers members ↔
      (Value.object members).member? name = some value := by
  induction members with
  | nil => simp [lastMembers, Value.member?]
  | cons first rest ih =>
      rw [member?_cons, lastMembers]
      split
      · rename_i hLater
        rw [List.any_eq_true] at hLater
        rcases hLater with ⟨other, hOther, hSame⟩
        rw [ih]
        by_cases hName : first.1 = name
        · have hFound :
              (Value.object rest).member? name ≠ none := by
            intro hNone
            apply member?_eq_none_iff.mp hNone other hOther
            rw [beq_iff_eq.mp hSame, hName]
          rcases Option.ne_none_iff_exists'.mp hFound with
            ⟨found, hFound⟩
          rw [hFound, Option.some_or]
        · rw [if_neg hName, Option.or_none]
      · rename_i hLast
        rw [List.mem_cons, ih]
        by_cases hName : first.1 = name
        · have hNone :
              (Value.object rest).member? name = none := by
            apply member?_eq_none_iff.mpr
            intro other hOther hSame
            apply hLast
            rw [List.any_eq_true]
            exact
              ⟨other, hOther,
                beq_iff_eq.mpr (hSame.trans hName.symm)⟩
          rw [hNone, Option.none_or, if_pos hName]
          constructor
          · rintro (rfl | hFound)
            · rfl
            · cases hFound
          · intro hFound
            left
            rw [← hName, ← Option.some.inj hFound]
        · rw [if_neg hName, Option.or_none]
          constructor
          · rintro (hFirst | hFound)
            · exact (hName (congrArg Prod.fst hFirst).symm).elim
            · exact hFound
          · exact Or.inr

end Lookup

/- Where all names differ, every member counts. -/
theorem lastMembers_of_nodup
    {α : Type}
    {members : List (String × α)}
    (hNames : (members.map Prod.fst).Nodup) :
    lastMembers members = members := by
  induction members with
  | nil => rfl
  | cons first rest ih =>
      rw [List.map_cons, List.nodup_cons] at hNames
      have hNew :
          rest.any (fun other => other.1 == first.1) = false := by
        rw [List.any_eq_false]
        intro other hOther hSame
        apply hNames.1
        rw [← beq_iff_eq.mp hSame]
        exact List.mem_map_of_mem hOther
      rw [lastMembers, hNew, ih hNames.2]
      rfl

------------------------------------------------------------
-- Rearrangement
------------------------------------------------------------

/-
  Two values that differ in the order of members with different
  names only, at whatever depth.
-/
inductive Rearranged : Value → Value → Prop where
| refl (value : Value) : Rearranged value value
| trans
    {first second third : Value}
    (hFirst : Rearranged first second)
    (hSecond : Rearranged second third) :
    Rearranged first third
| swap
    (front rear : List (String × Value))
    (left right : String × Value)
    (hNames : left.1 ≠ right.1) :
    Rearranged
      (.object (front ++ left :: right :: rear))
      (.object (front ++ right :: left :: rear))
| member
    (front rear : List (String × Value))
    (name : String)
    {before after : Value}
    (hValue : Rearranged before after) :
    Rearranged
      (.object (front ++ (name, before) :: rear))
      (.object (front ++ (name, after) :: rear))
| item
    (front rear : List Value)
    {before after : Value}
    (hValue : Rearranged before after) :
    Rearranged
      (.array (front ++ before :: rear))
      (.array (front ++ after :: rear))

namespace Rearranged

variable {before after : Value}

theorem symm (h : Rearranged before after) :
    Rearranged after before := by
  induction h with
  | refl value => exact .refl value
  | trans hFirst hSecond ihFirst ihSecond =>
      exact .trans ihSecond ihFirst
  | swap front rear left right hNames =>
      exact .swap front rear right left hNames.symm
  | member front rear name hValue ih =>
      exact .member front rear name ih
  | item front rear hValue ih => exact .item front rear ih

/- A text has no order. -/
theorem text? (h : Rearranged before after) :
    after.text? = before.text? := by
  induction h with
  | refl value => rfl
  | trans hFirst hSecond ihFirst ihSecond =>
      exact ihSecond.trans ihFirst
  | swap front rear left right hNames => rfl
  | member front rear name hValue ih => rfl
  | item front rear hValue ih => rfl

/- An object stays an object. -/
theorem isSome_members? (h : Rearranged before after) :
    after.members?.isSome = before.members?.isSome := by
  induction h with
  | refl value => rfl
  | trans hFirst hSecond ihFirst ihSecond =>
      exact ihSecond.trans ihFirst
  | swap front rear left right hNames => rfl
  | member front rear name hValue ih => rfl
  | item front rear hValue ih => rfl

/- What is found under a name is the same, rearranged. -/
theorem member?
    (h : Rearranged before after)
    {name : String}
    {found : Value}
    (hFound : before.member? name = some found) :
    ∃ other,
      after.member? name = some other ∧
        Rearranged found other := by
  induction h generalizing found with
  | refl value => exact ⟨found, hFound, .refl found⟩
  | trans hFirst hSecond ihFirst ihSecond =>
      rcases ihFirst hFound with ⟨middle, hMiddle, hBefore⟩
      rcases ihSecond hMiddle with ⟨other, hOther, hAfter⟩
      exact ⟨other, hOther, .trans hBefore hAfter⟩
  | swap front rear left right hNames =>
      -- At most one of the two has the name.
      refine ⟨found, ?_, .refl found⟩
      rw [← hFound]
      simp only [member?_append, member?_cons]
      by_cases hLeft : left.1 = name
      · have hRight : right.1 ≠ name :=
          fun hSame => hNames (hLeft.trans hSame.symm)
        rw [if_neg hRight, Option.or_none, Option.or_none]
      · rw [if_neg hLeft, Option.or_none, Option.or_none]
  | member front rear other hValue ih =>
      rename_i inner replaced
      simp only [member?_append, member?_cons] at hFound ⊢
      cases hRear : (Value.object rear).member? name with
      | some value =>
          rw [hRear] at hFound
          exact ⟨found, hFound, .refl found⟩
      | none =>
          rw [hRear] at hFound
          by_cases hName : other = name
          · rw [if_pos hName] at hFound ⊢
            cases hFound
            exact ⟨replaced, rfl, hValue⟩
          · rw [if_neg hName] at hFound ⊢
            exact ⟨found, hFound, .refl found⟩
  | item front rear hValue ih => cases hFound

/- A text that was found is the same. -/
theorem eq_string
    {text : String}
    (h : Rearranged (.string text) after) :
    after = .string text := by
  have hText := h.text?
  cases after with
  | string other =>
      cases hText
      rfl
  | _ => cases hText

/- And an object is found where one was. -/
theorem eq_object
    {members : List (String × Value)}
    (h : Rearranged (.object members) after) :
    ∃ others, after = .object others := by
  have hObject := h.isSome_members?
  cases after with
  | object others => exact ⟨others, rfl⟩
  | _ => cases hObject

end Rearranged

end BrainLink.Json
