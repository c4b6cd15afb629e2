import BrainLink.Recipe
import Mathlib.Data.List.Sort
import Mathlib.Data.String.Basic

/-
  Rising lists that grow by one insertion after the other.

  Main statements:
    * `mem_risingTexts`
    * `rising_risingTexts`
    * `risingTexts_congr`
    * `Recipe.map_fst_insertNamed`
    * `Recipe.mem_foldr_insertNamed`
    * `Recipe.rising_foldr_insertNamed`

  A rising list is known by what it has. So whatever order the
  texts or the named recipes are inserted in, the list that
  comes of it is the same.
-/

namespace BrainLink

------------------------------------------------------------
-- Texts
------------------------------------------------------------

section Texts

variable {text other : String}
variable {texts : List String}

/- What is inserted is there, with all that was there. -/
theorem mem_insertText :
    other ∈ insertText text texts ↔
      other = text ∨ other ∈ texts := by
  induction texts with
  | nil => simp [insertText]
  | cons first rest ih =>
      unfold insertText
      split
      · exact List.mem_cons
      · split
        · rename_i hSame
          rw [hSame, List.mem_cons]
          exact ⟨Or.inr, fun h => h.elim Or.inl id⟩
        · rw [List.mem_cons, ih, List.mem_cons, or_left_comm]

/- A rising list stays so. -/
theorem rising_insertText
    (hRising : texts.Pairwise (· < ·)) :
    (insertText text texts).Pairwise (· < ·) := by
  induction texts with
  | nil => exact List.pairwise_singleton _ _
  | cons first rest ih =>
      rcases List.pairwise_cons.mp hRising with ⟨hFirst, hRest⟩
      unfold insertText
      split
      · rename_i hBefore
        apply List.pairwise_cons.mpr
        refine ⟨?_, hRising⟩
        intro next hNext
        rcases List.mem_cons.mp hNext with rfl | hLater
        · exact hBefore
        · exact hBefore.trans (hFirst next hLater)
      · split
        · exact hRising
        · rename_i hNotBefore hOther
          have hAfter : first < text :=
            lt_of_le_of_ne (not_lt.mp hNotBefore)
              (Ne.symm hOther)
          apply List.pairwise_cons.mpr
          refine ⟨?_, ih hRest⟩
          intro next hNext
          rcases mem_insertText.mp hNext with rfl | hLater
          · exact hAfter
          · exact hFirst next hLater

/- So the rising list of some texts has just these. -/
theorem mem_risingTexts :
    other ∈ risingTexts texts ↔ other ∈ texts := by
  induction texts with
  | nil => exact Iff.rfl
  | cons first rest ih =>
      change other ∈ insertText first (risingTexts rest) ↔ _
      rw [mem_insertText, ih, List.mem_cons]

theorem rising_risingTexts (texts : List String) :
    (risingTexts texts).Pairwise (· < ·) := by
  induction texts with
  | nil => exact List.Pairwise.nil
  | cons first rest ih => exact rising_insertText ih

/- Rising lists of the same texts are the same. -/
theorem risingTexts_congr
    {others : List String}
    (hSame : ∀ text, text ∈ texts ↔ text ∈ others) :
    risingTexts texts = risingTexts others := by
  apply
    (rising_risingTexts texts).eq_of_mem_iff
      (rising_risingTexts others)
  intro text
  rw [mem_risingTexts, mem_risingTexts, hSame]

end Texts

------------------------------------------------------------
-- Named Recipes
------------------------------------------------------------

namespace Recipe

variable {entry other : String × Recipe}
variable {entries : List (String × Recipe)}

/- The names of recipes are inserted as texts are. -/
theorem map_fst_insertNamed :
    (insertNamed entry entries).map Prod.fst =
      insertText entry.1 (entries.map Prod.fst) := by
  induction entries with
  | nil => rfl
  | cons first rest ih =>
      unfold insertNamed
      rw [List.map_cons, insertText]
      split
      · rfl
      · split
        · rfl
        · rw [List.map_cons, ih]

/- A recipe with a new name is there, with all the others. -/
theorem mem_insertNamed
    (hNew : entry.1 ∉ entries.map Prod.fst) :
    other ∈ insertNamed entry entries ↔
      other = entry ∨ other ∈ entries := by
  induction entries with
  | nil => simp [insertNamed]
  | cons first rest ih =>
      rw [List.map_cons, List.mem_cons, not_or] at hNew
      unfold insertNamed
      split
      · exact List.mem_cons
      · rw [if_neg hNew.1, List.mem_cons, ih hNew.2,
          List.mem_cons, or_left_comm]

/- The names that come of many insertions. -/
theorem map_fst_foldr_insertNamed
    (entries : List (String × Recipe)) :
    (entries.foldr insertNamed []).map Prod.fst =
      risingTexts (entries.map Prod.fst) := by
  induction entries with
  | nil => rfl
  | cons first rest ih =>
      rw [List.foldr_cons, map_fst_insertNamed, ih]
      rfl

/- Recipes with names of their own are all there. -/
theorem mem_foldr_insertNamed
    (hNames : (entries.map Prod.fst).Nodup) :
    other ∈ entries.foldr insertNamed [] ↔
      other ∈ entries := by
  induction entries with
  | nil => exact Iff.rfl
  | cons first rest ih =>
      rw [List.map_cons, List.nodup_cons] at hNames
      have hNew :
          first.1 ∉
            (rest.foldr insertNamed []).map Prod.fst := by
        rw [map_fst_foldr_insertNamed, mem_risingTexts]
        exact hNames.1
      rw [List.foldr_cons, mem_insertNamed hNew, ih hNames.2,
        List.mem_cons]

/- They stand in the order of their names. -/
theorem rising_foldr_insertNamed
    (entries : List (String × Recipe)) :
    (entries.foldr insertNamed []).Pairwise
      fun first second => first.1 < second.1 := by
  have hRising := rising_risingTexts (entries.map Prod.fst)
  rw [← map_fst_foldr_insertNamed] at hRising
  exact List.pairwise_map.mp hRising

end Recipe

end BrainLink
