import BrainLink.Log.Style
import BrainLink.Proofs.Hosts
import BrainLink.Proofs.Numerals

/-
  The style of an escape with the parameters of two.

  Key definitions include:
    * `Log.codes`
    * `Log.IsReset`
    * `Log.Resets`
    * `Log.IsIdle`
    * `Log.codeStyle`

  Main statements:
    * `Log.part_of_holds`
    * `Log.part_of_idle`
    * `Log.part_eq_reset_iff`
    * `Log.foldl_apply_of_reset`
    * `Log.foldl_apply_of_no_reset`
    * `Log.style_composes`

  Each part between two semicolons resets, adds a declaration
  or does nothing. The parts in front leave nothing behind but
  the declarations they have made, and a reset forgets these.
  So the style of parameters behind others is either theirs
  alone or goes on where the style of the others ends.
-/

namespace BrainLink.Log

------------------------------------------------------------
-- Codes
------------------------------------------------------------

/- The numbers that mean something in an escape. -/
def codes : List Nat :=
  [0, 1, 4] ++ List.range' 30 8 ++ List.range' 40 8

/- The style that a number asks for, if it is a code. -/
def codeStyle (number : Nat) : List Char :=
  match declaration? number with
  | none => []
  | some declaration => declaration.text.toList

/- No other number asks for a declaration. -/
theorem declaration?_eq_none
    {number : Nat}
    (hNumber : number ∉ codes) :
    declaration? number = none := by
  simp only [codes, List.mem_append, List.mem_cons,
    List.not_mem_nil, or_false, List.mem_range'_1, not_or]
    at hNumber
  unfold declaration?
  rw [if_neg (by omega), if_neg (by omega), if_neg (by omega),
    if_neg (by omega)]

theorem le_of_mem_codes : ∀ number ∈ codes, number ≤ 255 := by
  decide

------------------------------------------------------------
-- Parts
------------------------------------------------------------

/- A part that resets: a blank one, or a zero. -/
def IsReset (part : List Char) : Prop :=
  (∀ c ∈ part, Text.isBlank c = true) ∨ Text.Holds 0 part

/-
  A part that means nothing: a number that is no code, however
  large it is, or a text that is neither blank nor a number.
-/
inductive IsIdle (part : List Char) : Prop where
| unknown
    (number : Nat)
    (hNumber : Text.Holds number part)
    (hUnknown : number ∉ codes) :
    IsIdle part
| noNumber
    (hBlank : ¬ ∀ c ∈ part, Text.isBlank c = true)
    (hNumber : ∀ number, ¬ Text.Holds number part) :
    IsIdle part

theorem part_of_blank
    {text : List Char}
    (hBlank : ∀ c ∈ text, Text.isBlank c = true) :
    part text = .reset := by
  unfold part
  rw [Text.trimChars_eq_nil_iff.mpr hBlank]
  rfl

theorem isEmpty_trimChars
    {text : List Char}
    (hBlank : ¬ ∀ c ∈ text, Text.isBlank c = true) :
    (Text.trimChars text).isEmpty = false :=
  List.isEmpty_eq_false_iff.mpr
    (mt Text.trimChars_eq_nil_iff.mp hBlank)

/- What is not blank and no number in bounds does nothing. -/
theorem part_of_no_number
    {text : List Char}
    (hBlank : ¬ ∀ c ∈ text, Text.isBlank c = true)
    (hNumber : ∀ number ≤ 255, ¬ Text.Holds number text) :
    part text = .nothing := by
  unfold part
  dsimp only
  rw [isEmpty_trimChars hBlank]
  cases hRead : Text.readNat 255 (Text.trimChars text) with
  | error cause => rfl
  | ok number =>
      rcases Text.readNat_trimChars_eq_ok_iff.mp hRead with
        ⟨hHolds, hMost⟩
      exact absurd hHolds (hNumber number hMost)

/- What a number does, whether it is a code or not. -/
theorem part_of_holds
    {text : List Char}
    {number : Nat}
    (hNumber : Text.Holds number text) :
    part text =
      if number = 0 then
        .reset
      else
        match declaration? number with
        | none => .nothing
        | some declaration => .add declaration := by
  by_cases hMost : number ≤ 255
  · unfold part
    dsimp only
    rw [isEmpty_trimChars hNumber.not_blank,
      Text.readNat_trimChars_eq_ok_iff.mpr ⟨hNumber, hMost⟩]
    cases number with
    | zero => rfl
    | succ number => rfl
  · have hNone : ∀ other ≤ 255, ¬ Text.Holds other text := by
      intro other hOther hHolds
      exact hMost (hNumber.unique hHolds ▸ hOther)
    have hUnknown : number ∉ codes :=
      mt (le_of_mem_codes number) hMost
    rw [part_of_no_number hNumber.not_blank hNone,
      if_neg (by omega), declaration?_eq_none hUnknown]

/- An idle part does nothing. -/
theorem part_of_idle
    {text : List Char}
    (hIdle : IsIdle text) :
    part text = .nothing := by
  cases hIdle with
  | unknown number hNumber hUnknown =>
      have hZero : number ≠ 0 := by
        rintro rfl
        exact hUnknown (by decide)
      rw [part_of_holds hNumber, if_neg hZero,
        declaration?_eq_none hUnknown]
  | noNumber hBlank hNumber =>
      exact part_of_no_number hBlank fun number _ => hNumber number

/- The parts that reset are the blank ones and the zeros. -/
theorem part_eq_reset_iff
    {text : List Char} :
    part text = .reset ↔ IsReset text := by
  constructor
  · intro hReset
    by_contra hNot
    rcases not_or.mp hNot with ⟨hBlank, hZero⟩
    by_cases hNumber : ∃ number, Text.Holds number text
    · rcases hNumber with ⟨number, hNumber⟩
      have hPositive : number ≠ 0 := by
        rintro rfl
        exact hZero hNumber
      rw [part_of_holds hNumber, if_neg hPositive] at hReset
      split at hReset <;> cases hReset
    · rw [part_of_idle (.noNumber hBlank (not_exists.mp hNumber))]
        at hReset
      cases hReset
  · rintro (hBlank | hZero)
    · exact part_of_blank hBlank
    · rw [part_of_holds hZero, if_pos rfl]

------------------------------------------------------------
-- Resets
------------------------------------------------------------

/- One of the parts between the semicolons resets. -/
def Resets (parameters : List Char) : Prop :=
  ∃ part ∈ parameters.splitOn ';', IsReset part

theorem reset_mem_parts_iff
    {parameters : List Char} :
    .reset ∈ parts parameters ↔ Resets parameters := by
  unfold parts Resets
  rw [Text.fields_eq_splitOn, List.mem_map]
  simp only [part_eq_reset_iff]

/- Behind the last reset, all that was made before is gone. -/
theorem foldl_apply_of_reset
    {parts : List Part}
    (hReset : .reset ∈ parts)
    (made : List Declaration) :
    parts.foldl apply made = parts.foldl apply [] := by
  induction parts generalizing made with
  | nil => cases hReset
  | cons part parts ih =>
      rw [List.foldl_cons, List.foldl_cons]
      by_cases hLater : .reset ∈ parts
      · rw [ih hLater (apply made part),
          ih hLater (apply [] part)]
      · -- This one is the last reset.
        have hLast : part = .reset :=
          ((List.mem_cons.mp hReset).resolve_right hLater).symm
        rw [hLast]
        rfl

/- Without a reset, what was made before stays in front. -/
theorem foldl_apply_of_no_reset
    {parts : List Part}
    (hReset : .reset ∉ parts)
    (made : List Declaration) :
    parts.foldl apply made = made ++ parts.foldl apply [] := by
  induction parts generalizing made with
  | nil => exact (List.append_nil made).symm
  | cons part parts ih =>
      rw [List.mem_cons, not_or] at hReset
      rw [List.foldl_cons, List.foldl_cons]
      cases part with
      | reset => exact absurd rfl hReset.1
      | add declaration =>
          rw [ih hReset.2 (apply made _), ih hReset.2 (apply [] _)]
          exact List.append_assoc _ _ _
      | nothing => exact ih hReset.2 made

------------------------------------------------------------
-- Joined parameters
------------------------------------------------------------

theorem parts_append
    (front back : List Char) :
    parts (front ++ ';' :: back) = parts front ++ parts back := by
  unfold parts
  rw [Text.fields_append_mark, List.map_append]

/- What two texts of parameters make is made one by one. -/
theorem declarations_append
    (front back : List Char) :
    declarations (front ++ ';' :: back) =
      (parts back).foldl apply (declarations front) := by
  unfold declarations
  rw [parts_append, List.foldl_append]

theorem style_append_of_resets
    {back : List Char}
    (hResets : Resets back)
    (front : List Char) :
    style (front ++ ';' :: back) = style back := by
  unfold style
  rw [declarations_append,
    foldl_apply_of_reset (reset_mem_parts_iff.mpr hResets)]
  rfl

theorem style_append_of_no_resets
    {back : List Char}
    (hResets : ¬ Resets back)
    (front : List Char) :
    style (front ++ ';' :: back) = style front ++ style back := by
  have hParts : .reset ∉ parts back :=
    mt reset_mem_parts_iff.mp hResets
  unfold style
  rw [declarations_append, foldl_apply_of_no_reset hParts,
    List.flatMap_append]
  rfl

/- What stands in front of a reset does not count. -/
example : style "1;0;37".toList = "color:white;".toList := by
  decide

/- Joined texts have the parts of one after the other. -/
theorem parts_intercalate
    {texts : List (List Char)}
    (hNil : texts ≠ []) :
    parts ([';'].intercalate texts) = texts.flatMap parts := by
  induction texts with
  | nil => exact absurd rfl hNil
  | cons text texts ih =>
      cases texts with
      | nil =>
          rw [List.intercalate_singleton, List.flatMap_cons,
            List.flatMap_nil, List.append_nil]
      | cons next texts =>
          rw [List.intercalate_cons_cons, List.append_assoc,
            List.singleton_append, parts_append,
            ih (List.cons_ne_nil _ _)]
          exact List.flatMap_cons.symm

/- No text at all is joined to a blank part, which resets. -/
theorem declarations_intercalate
    (texts : List (List Char)) :
    declarations ([';'].intercalate texts) =
      (texts.flatMap parts).foldl apply [] := by
  by_cases hNil : texts = []
  · rw [hNil]
    rfl
  · unfold declarations
    rw [parts_intercalate hNil]

/- A part without a semicolon is the only one. -/
theorem parts_of_not_mem
    {text : List Char}
    (hMark : ';' ∉ text) :
    parts text = [part text] := by
  unfold parts
  rw [Text.fields_of_not_mem hMark, List.map_singleton]

/- A part that means nothing can as well be left out. -/
theorem style_without_idle
    {part : List Char}
    (hMark : ';' ∉ part)
    (hIdle : IsIdle part)
    (before after : List (List Char)) :
    style ([';'].intercalate (before ++ part :: after)) =
      style ([';'].intercalate (before ++ after)) := by
  unfold style
  rw [declarations_intercalate, declarations_intercalate,
    List.flatMap_append, List.flatMap_append, List.flatMap_cons,
    parts_of_not_mem hMark, part_of_idle hIdle,
    List.foldl_append, List.foldl_append, List.foldl_append]
  rfl

/- A number alone has the style that it asks for. -/
theorem style_of_holds
    {text : List Char}
    {number : Nat}
    (hNumber : Text.Holds number text) :
    style text = codeStyle number := by
  have hMark : ';' ∉ text :=
    hNumber.not_mem (by decide) (by decide)
  unfold style declarations codeStyle
  rw [parts_of_not_mem hMark, part_of_holds hNumber,
    List.foldl_cons, List.foldl_nil]
  by_cases hZero : number = 0
  · rw [hZero]
    rfl
  · rw [if_neg hZero]
    cases declaration? number with
    | none => rfl
    | some declaration => exact List.append_nil _

------------------------------------------------------------
-- Composition
------------------------------------------------------------

/-
  The style of joined parameters is that of the ones behind,
  if they have a reset in them, and otherwise that of the
  ones in front with that of the ones behind after it. A
  number that is a part has the style that it asks for, and a
  part that means nothing can be left out wherever it stands.
-/
theorem style_composes (front back : List Char) :
    (Resets back → style (front ++ ';' :: back) = style back) ∧
      (¬ Resets back →
        style (front ++ ';' :: back) =
          style front ++ style back) ∧
        (∀ part number,
          Text.Holds number part →
            style part = codeStyle number) ∧
          ∀ part,
            ';' ∉ part →
            IsIdle part →
              ∀ before after,
                style
                    ([';'].intercalate
                      (before ++ part :: after)) =
                  style ([';'].intercalate (before ++ after)) :=
  ⟨ fun hResets => style_append_of_resets hResets front,
    fun hResets => style_append_of_no_resets hResets front,
    fun _ _ hNumber => style_of_holds hNumber,
    fun _ hMark hIdle => style_without_idle hMark hIdle ⟩

/- A color behind bold, with and without a reset between. -/
theorem style_of_bold_and_red :
    (¬ Resets "x; +031".toList ∧
        style "1;x; +031".toList =
          style "1".toList ++ style "x; +031".toList) ∧
      (Resets " 00 ;31".toList ∧
        style "1; 00 ;31".toList = style " 00 ;31".toList) ∧
        (Text.Holds 31 " +031".toList ∧
          style " +031".toList = "color:red;".toList) ∧
          IsIdle "256".toList ∧
            style "1;256;31".toList = style "1;31".toList := by
  have hNone : ¬ Resets "x; +031".toList :=
    mt reset_mem_parts_iff.mpr (by decide)
  have hResets : Resets " 00 ;31".toList :=
    reset_mem_parts_iff.mp (by decide)
  have hRed : Text.Holds 31 " +031".toList :=
    (Text.readNat_trimChars_eq_ok_iff.mp
      (show Text.readNat 255 _ = .ok 31 by rfl)).1
  have hLarge : Text.Holds 256 "256".toList :=
    Text.holds_decimalChars 256
  have hIdle : IsIdle "256".toList :=
    .unknown 256 hLarge (by decide)
  refine ⟨⟨hNone, ?_⟩, ⟨hResets, ?_⟩, ⟨hRed, ?_⟩, hIdle, ?_⟩
  · exact (style_composes "1".toList "x; +031".toList).2.1 hNone
  · exact (style_composes "1".toList " 00 ;31".toList).1 hResets
  · exact (style_composes [] []).2.2.1 _ _ hRed
  · exact
      (style_composes [] []).2.2.2 "256".toList (by decide)
        hIdle ["1".toList] ["31".toList]

end BrainLink.Log
