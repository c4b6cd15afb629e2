import BrainLink.Proofs.Addresses
import BrainLink.Text.Blank
import BrainLink.Text.Integer
import Mathlib.Data.List.TakeWhile

/-
  Numbers that are read from what people type.

  Key definitions include:
    * `Text.IsDigits`
    * `Text.IsNumeral`
    * `Text.Holds`

  Main statements:
    * `Text.readDigits_eq_ok_iff`
    * `Text.readNat_eq_ok_iff`
    * `Text.holds_iff_isNumeral_trimChars`
    * `Text.readNat_trimChars_eq_ok_iff`

  A numeral is made of digits with or without a plus sign in
  front, and a text holds the number that it shows between
  blanks. Zeros in front are digits like any other. A reader
  with a bound finds exactly the numbers up to it that a text
  holds: digits never make a number smaller, so one that is
  past the bound stays past it.
-/

namespace BrainLink.Text

------------------------------------------------------------
-- Numerals
------------------------------------------------------------

/- One or more decimal digits, and the number they write. -/
structure IsDigits
    (number : Nat)
    (digits : List Char) : Prop where
  nonempty : digits ≠ []
  isDigit : ∀ c ∈ digits, c.isDigit = true
  number : numberOf 10 (digits.map digitValue) = number

/- Digits with or without a plus sign in front. -/
inductive IsNumeral (number : Nat) : List Char → Prop where
| bare
    {digits : List Char}
    (hDigits : IsDigits number digits) :
    IsNumeral number digits
| signed
    {digits : List Char}
    (hDigits : IsDigits number digits) :
    IsNumeral number ('+' :: digits)

/- A numeral with any blanks around it. -/
inductive Holds (number : Nat) : List Char → Prop where
| intro
    {before numeral after : List Char}
    (hBefore : ∀ c ∈ before, isBlank c = true)
    (hNumeral : IsNumeral number numeral)
    (hAfter : ∀ c ∈ after, isBlank c = true) :
    Holds number (before ++ numeral ++ after)

/- A plus sign is no digit, so digits stand behind it. -/
theorem isNumeral_plus_iff
    {number : Nat}
    {digits : List Char} :
    IsNumeral number ('+' :: digits) ↔
      IsDigits number digits := by
  constructor
  · intro hNumeral
    cases hNumeral with
    | bare hDigits =>
        have hPlus := hDigits.isDigit '+' List.mem_cons_self
        exact absurd hPlus (by decide)
    | signed hDigits => exact hDigits
  · exact .signed

theorem isNumeral_iff_isDigits
    {number : Nat}
    {text : List Char}
    (hPlus : ∀ digits, text ≠ '+' :: digits) :
    IsNumeral number text ↔ IsDigits number text := by
  constructor
  · intro hNumeral
    cases hNumeral with
    | bare hDigits => exact hDigits
    | signed => exact absurd rfl (hPlus _)
  · exact .bare

theorem IsNumeral.ne_nil
    {number : Nat}
    {numeral : List Char}
    (hNumeral : IsNumeral number numeral) :
    numeral ≠ [] := by
  cases hNumeral with
  | bare hDigits => exact hDigits.nonempty
  | signed => exact List.cons_ne_nil _ _

/- The characters of numerals. -/
def numeralChars : List Char :=
  '+' :: digits

theorem IsNumeral.mem_numeralChars
    {number : Nat}
    {numeral : List Char}
    (hNumeral : IsNumeral number numeral) :
    ∀ c ∈ numeral, c ∈ numeralChars := by
  intro c hMem
  cases hNumeral with
  | bare hDigits =>
      exact
        List.mem_cons_of_mem _
          (mem_digits (hDigits.isDigit c hMem))
  | signed hDigits =>
      rcases List.mem_cons.mp hMem with rfl | hMem
      · exact List.mem_cons_self
      · exact
          List.mem_cons_of_mem _
            (mem_digits (hDigits.isDigit c hMem))

------------------------------------------------------------
-- Readers
------------------------------------------------------------

/- Digits behind a number make it no smaller. -/
theorem le_foldl_digits
    (digits : List Nat)
    (number : Nat) :
    number ≤
      digits.foldl (fun number digit => number * 10 + digit)
        number := by
  induction digits generalizing number with
  | nil => exact Nat.le_refl number
  | cons digit digits ih =>
      rw [List.foldl_cons]
      have hNext := ih (number * 10 + digit)
      omega

/- Digits are read if the number they make is in bounds. -/
theorem readDigits_eq_ok_iff
    {most number result : Nat}
    {past : IntegerError}
    {digits : List Char}
    (hNumber : number ≤ most) :
    readDigits most past digits number = .ok result ↔
      (∀ c ∈ digits, c.isDigit = true) ∧
        (digits.map digitValue).foldl
            (fun number digit => number * 10 + digit) number =
          result ∧
          result ≤ most := by
  induction digits generalizing number with
  | nil =>
      rw [readDigits, List.map_nil, List.foldl_nil]
      constructor
      · rintro ⟨⟩
        exact ⟨nofun, rfl, hNumber⟩
      · rintro ⟨-, rfl, -⟩
        rfl
  | cons c digits ih =>
      rw [readDigits, List.forall_mem_cons, List.map_cons,
        List.foldl_cons]
      by_cases hDigit : c.isDigit = true
      · rw [if_pos hDigit]
        dsimp only
        by_cases hNext : number * 10 + digitValue c ≤ most
        · rw [if_pos hNext, ih hNext, and_iff_right hDigit]
        · rw [if_neg hNext]
          constructor
          · nofun
          · rintro ⟨-, hResult, hMost⟩
            have hLess :=
              le_foldl_digits (digits.map digitValue)
                (number * 10 + digitValue c)
            omega
      · rw [if_neg hDigit]
        constructor
        · nofun
        · rintro ⟨⟨hIs, -⟩, -⟩
          exact absurd hIs hDigit

/- Behind a sign, no digits at all are no number. -/
theorem readSigned_eq_ok_iff
    {most number : Nat}
    {past : IntegerError}
    {digits : List Char} :
    readSigned most past digits = .ok number ↔
      IsDigits number digits ∧ number ≤ most := by
  unfold readSigned
  split
  · constructor
    · nofun
    · rintro ⟨hDigits, -⟩
      exact absurd rfl hDigits.nonempty
  · rename_i hNil
    rw [readDigits_eq_ok_iff (Nat.zero_le most)]
    constructor
    · rintro ⟨hDigits, hNumber, hMost⟩
      exact ⟨⟨hNil, hDigits, hNumber⟩, hMost⟩
    · rintro ⟨hDigits, hMost⟩
      exact ⟨hDigits.isDigit, hDigits.number, hMost⟩

/- The reader finds the numerals of the numbers in bounds. -/
theorem readNat_eq_ok_iff
    {most number : Nat}
    {text : List Char} :
    readNat most text = .ok number ↔
      IsNumeral number text ∧ number ≤ most := by
  unfold readNat
  split
  · constructor
    · nofun
    · rintro ⟨hNumeral, -⟩
      exact absurd rfl hNumeral.ne_nil
  · rw [readSigned_eq_ok_iff, isNumeral_plus_iff]
  · rename_i hNil hPlus
    have hSigned :
        readDigits most .tooLarge text 0 =
          readSigned most .tooLarge text := by
      unfold readSigned
      split
      · exact absurd rfl hNil
      · rfl
    rw [hSigned, readSigned_eq_ok_iff,
      isNumeral_iff_isDigits hPlus]

------------------------------------------------------------
-- Blanks
------------------------------------------------------------

/- A trimmed text does not end in a blank. -/
theorem isBlank_getLast_trimChars
    {text : List Char}
    (hText : trimChars text ≠ []) :
    isBlank ((trimChars text).getLast hText) = false := by
  unfold trimChars trimEnd at hText ⊢
  rw [List.getLast_reverse]
  exact List.head_dropWhile_not _ _

/- Only the blanks around a text without blanks are gone. -/
theorem trimChars_append
    {before text after : List Char}
    (hBefore : ∀ c ∈ before, isBlank c = true)
    (hText : ∀ c ∈ text, isBlank c = false)
    (hAfter : ∀ c ∈ after, isBlank c = true)
    (hNil : text ≠ []) :
    trimChars (before ++ text ++ after) = text := by
  have hStart :
      ∀ c, (text ++ after).head? = some c →
        isBlank c = false := by
    cases text with
    | nil => exact absurd rfl hNil
    | cons first others =>
        rintro c ⟨⟩
        exact hText first List.mem_cons_self
  have hEnd :
      ∀ c, text.reverse.head? = some c → isBlank c = false := by
    intro c hHead
    exact
      hText c (List.mem_reverse.mp (List.mem_of_head? hHead))
  have hBehind : ∀ c ∈ after.reverse, isBlank c = true :=
    fun c hMem => hAfter c (List.mem_reverse.mp hMem)
  unfold trimChars trimStart trimEnd
  rw [List.append_assoc, dropWhile_append_stop hBefore hStart,
    List.reverse_append, dropWhile_append_stop hBehind hEnd,
    List.reverse_reverse]

/- What is trimmed away are blanks at the two ends. -/
theorem exists_trimChars (text : List Char) :
    ∃ before after,
      text = before ++ trimChars text ++ after ∧
        (∀ c ∈ before, isBlank c = true) ∧
          ∀ c ∈ after, isBlank c = true := by
  refine
    ⟨text.takeWhile isBlank,
      ((trimStart text).reverse.takeWhile isBlank).reverse,
      ?_, fun c hMem => List.mem_takeWhile_imp hMem, ?_⟩
  · unfold trimChars trimEnd
    rw [List.append_assoc, ← List.reverse_append,
      List.takeWhile_append_dropWhile, List.reverse_reverse,
      trimStart, List.takeWhile_append_dropWhile]
  · intro c hMem
    exact List.mem_takeWhile_imp (List.mem_reverse.mp hMem)

/- A text is trimmed to nothing if it is blank. -/
theorem trimChars_eq_nil_iff
    {text : List Char} :
    trimChars text = [] ↔ ∀ c ∈ text, isBlank c = true := by
  rcases exists_trimChars text with
    ⟨before, after, hText, hBefore, hAfter⟩
  constructor
  · intro hNil c hMem
    rw [hText, hNil, List.append_nil, List.mem_append] at hMem
    rcases hMem with hMem | hMem
    · exact hBefore c hMem
    · exact hAfter c hMem
  · intro hBlank
    by_contra hRest
    have hLast := isBlank_getLast_trimChars hRest
    have hSubset : trimChars text ⊆ text := by
      intro c hMem
      rw [hText]
      exact
        List.mem_append_left after
          (List.mem_append_right before hMem)
    rw [hBlank _ (hSubset (List.getLast_mem hRest))] at hLast
    cases hLast

------------------------------------------------------------
-- Numbers between blanks
------------------------------------------------------------

/- A text holds what its trimmed text is a numeral of. -/
theorem holds_iff_isNumeral_trimChars
    {number : Nat}
    {text : List Char} :
    Holds number text ↔ IsNumeral number (trimChars text) := by
  constructor
  · intro hNumber
    cases hNumber with
    | @intro before numeral after hBefore hNumeral hAfter =>
        have hChars : ∀ c ∈ numeralChars, isBlank c = false :=
          forall_mem (by decide)
        have hShown : ∀ c ∈ numeral, isBlank c = false :=
          fun c hMem =>
            hChars c (hNumeral.mem_numeralChars c hMem)
        rw [trimChars_append hBefore hShown hAfter
          hNumeral.ne_nil]
        exact hNumeral
  · intro hNumeral
    rcases exists_trimChars text with
      ⟨before, after, hText, hBefore, hAfter⟩
    rw [hText]
    exact .intro hBefore hNumeral hAfter

/- So trimming and reading finds the numbers in bounds. -/
theorem readNat_trimChars_eq_ok_iff
    {most number : Nat}
    {text : List Char} :
    readNat most (trimChars text) = .ok number ↔
      Holds number text ∧ number ≤ most := by
  rw [readNat_eq_ok_iff, holds_iff_isNumeral_trimChars]

/- No text holds two numbers. -/
theorem Holds.unique
    {number other : Nat}
    {text : List Char}
    (hNumber : Holds number text)
    (hOther : Holds other text) :
    number = other := by
  have hRead :
      readNat (number + other) (trimChars text) =
        .ok number :=
    readNat_trimChars_eq_ok_iff.mpr
      ⟨hNumber, Nat.le_add_right number other⟩
  rw [readNat_trimChars_eq_ok_iff.mpr
    ⟨hOther, Nat.le_add_left other number⟩] at hRead
  exact (Except.ok.inj hRead).symm

/- What holds a number is not blank. -/
theorem Holds.not_blank
    {number : Nat}
    {text : List Char}
    (hNumber : Holds number text) :
    ¬ ∀ c ∈ text, isBlank c = true := by
  rw [← trimChars_eq_nil_iff]
  exact (holds_iff_isNumeral_trimChars.mp hNumber).ne_nil

/- All that is in it are blanks and a numeral. -/
theorem Holds.not_mem
    {number : Nat}
    {text : List Char}
    {c : Char}
    (hNumber : Holds number text)
    (hBlank : isBlank c = false)
    (hChars : c ∉ numeralChars) :
    c ∉ text := by
  have hApart {blanks : List Char}
      (hBlanks : ∀ other ∈ blanks, isBlank other = true) :
      c ∉ blanks := by
    intro hMem
    rw [hBlanks c hMem] at hBlank
    cases hBlank
  rcases hNumber with ⟨hBefore, hNumeral, hAfter⟩
  simp only [List.mem_append, not_or]
  exact
    ⟨⟨hApart hBefore,
      fun hMem => hChars (hNumeral.mem_numeralChars c hMem)⟩,
      hApart hAfter⟩

/- A number is held by its decimal digits. -/
theorem holds_decimalChars (number : Nat) :
    Holds number (decimalChars number) := by
  have hNumeral : IsNumeral number (decimalChars number) :=
    .bare
      { nonempty := decimalChars_ne_nil number
        isDigit := isDigit_decimalChars number
        number := numberOf_decimalChars number }
  have hHolds : Holds number ([] ++ decimalChars number ++ []) :=
    .intro nofun hNumeral nofun
  rwa [List.nil_append, List.append_nil] at hHolds

end BrainLink.Text
