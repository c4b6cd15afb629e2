/-
  Histories that grow at their end.

  Key definitions include:
    * `Throughout`

  Main statements:
    * `snoc_eq_append_cons`
    * `throughout_snoc_iff`

  What a history keeps is often said of each of its items and
  of what came before it. Then it is enough to look at the
  last item.
-/

namespace BrainLink

variable {α : Type}

/- A list with one more at its end, cut at some place. -/
theorem snoc_eq_append_cons
    {before early late : List α}
    {last middle : α}
    (hCut : before ++ [last] = early ++ middle :: late) :
    (before = early ∧ last = middle ∧ late = []) ∨
      ∃ rest,
        before = early ++ middle :: rest ∧
          late = rest ++ [last] := by
  rcases List.eq_nil_or_concat late with rfl | ⟨rest, end', hEnd⟩
  · rcases List.append_inj' hCut rfl with ⟨hBefore, hLast⟩
    exact .inl ⟨hBefore, List.head_eq_of_cons_eq hLast, rfl⟩
  · rw [List.concat_eq_append] at hEnd
    subst hEnd
    rw [← List.cons_append, ← List.append_assoc] at hCut
    rcases List.append_inj' hCut rfl with ⟨hBefore, hLast⟩
    rw [List.head_eq_of_cons_eq hLast]
    exact .inr ⟨rest, hBefore, rfl⟩

/- What holds of each item with all that came before it. -/
def Throughout
    (P : List α → α → Prop)
    (history : List α) :
    Prop :=
  ∀ early item late,
    history = early ++ item :: late → P early item

theorem throughout_nil (P : List α → α → Prop) :
    Throughout P [] := by
  intro early item late hCut
  simp at hCut

/- One more item, of which it holds with all before. -/
theorem Throughout.snoc
    {P : List α → α → Prop}
    {history : List α}
    (h : Throughout P history)
    {last : α}
    (hLast : P history last) :
    Throughout P (history ++ [last]) := by
  intro early item late hCut
  rcases snoc_eq_append_cons hCut with
    ⟨rfl, rfl, -⟩ | ⟨rest, hBefore, -⟩
  · exact hLast
  · exact h early item rest hBefore

/- It holds of the last item, and of all before as it did. -/
theorem throughout_snoc_iff
    {P : List α → α → Prop}
    {history : List α}
    {last : α} :
    Throughout P (history ++ [last]) ↔
      Throughout P history ∧ P history last := by
  constructor
  · intro h
    refine ⟨?_, h history last [] rfl⟩
    intro early item late hCut
    apply h early item (late ++ [last])
    rw [hCut, List.append_assoc]
    rfl
  · exact fun h => h.1.snoc h.2

end BrainLink
