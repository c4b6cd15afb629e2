import BrainLink.Net.Address

/-
  Internet addresses are read back from the texts that are
  written for them.

  Key definitions include:
    * `Ipv6.writeTail`
    * `Ipv6.IsEnd`

  Main statements:
    * `Ipv4.read_toChars`
    * `Ipv6.ofChars?_compressed`
    * `Ipv6.ofChars?_toChars`

  A number is read back from its digits, an octet and a group
  from the run of digits in front of a mark, and an address
  from its octets or groups. What a double colon leaves out of
  an address of version six are zeros, so filling it up with
  zeros gives the address back.
-/

namespace BrainLink

namespace Text

------------------------------------------------------------
-- Numbers
------------------------------------------------------------

theorem numberOf_append
    (base : Nat)
    (digits : List Nat)
    (digit : Nat) :
    numberOf base (digits ++ [digit]) =
      numberOf base digits * base + digit := by
  simp [numberOf]

/- The digits of a number spell it in any base. -/
theorem numberOf_toDigits
    {base : Nat}
    {value? : Char → Option Nat}
    (hBase : 1 < base)
    (hValue :
      ∀ digit < base, value? digit.digitChar = some digit)
    (number : Nat) :
    numberOf base
        ((Nat.toDigits base number).filterMap value?) =
      number := by
  induction number using Nat.strongRecOn with
  | ind number ih =>
      rcases Nat.lt_or_ge number base with hLess | hMore
      · rw [Nat.toDigits_of_lt_base hLess]
        simp [numberOf, hValue number hLess]
      · have hDigit : number % base < base :=
          Nat.mod_lt number (Nat.zero_lt_of_lt hBase)
        have hSmaller : number / base < number :=
          Nat.div_lt_self (by omega) hBase
        rw [Nat.toDigits_of_base_le hBase hMore,
          List.filterMap_append,
          List.filterMap_cons_some (hValue _ hDigit),
          List.filterMap_nil, numberOf_append,
          ih _ hSmaller, Nat.div_add_mod']

/- The characters of a number are digits of its base. -/
theorem isDigit_of_mem_toDigits
    {base : Nat}
    {isDigit : Char → Bool}
    (hBase : 1 < base)
    (hDigit :
      ∀ digit < base, isDigit digit.digitChar = true)
    (number : Nat) :
    ∀ c ∈ Nat.toDigits base number, isDigit c = true := by
  induction number using Nat.strongRecOn with
  | ind number ih =>
      intro c hMem
      rcases Nat.lt_or_ge number base with hLess | hMore
      · rw [Nat.toDigits_of_lt_base hLess,
          List.mem_singleton] at hMem
        subst hMem
        exact hDigit number hLess
      · rw [Nat.toDigits_of_base_le hBase hMore,
          List.mem_append, List.mem_singleton] at hMem
        rcases hMem with hMem | rfl
        · exact ih _ (Nat.div_lt_self (by omega) hBase) c hMem
        · exact hDigit _ (Nat.mod_lt number (by omega))

theorem isDigit_decimalChars (number : Nat) :
    ∀ c ∈ decimalChars number, c.isDigit = true :=
  isDigit_of_mem_toDigits (by decide) (by decide) number

theorem isHexDigit_hexChars (number : Nat) :
    ∀ c ∈ hexChars number, isHexDigit c = true :=
  isDigit_of_mem_toDigits (by decide) (by decide) number

theorem numberOf_decimalChars (number : Nat) :
    numberOf 10 ((decimalChars number).map digitValue) =
      number := by
  have hNumber :
      numberOf 10
          ((decimalChars number).filterMap
            (some ∘ digitValue)) =
        number :=
    numberOf_toDigits (by decide) (by decide) number
  rwa [List.filterMap_eq_map] at hNumber

theorem numberOf_decimalChars_hex (number : Nat) :
    numberOf 10 ((decimalChars number).filterMap hexValue?) =
      number :=
  numberOf_toDigits (by decide) (by decide) number

theorem numberOf_hexChars (number : Nat) :
    numberOf 16 ((hexChars number).filterMap hexValue?) =
      number :=
  numberOf_toDigits (by decide) (by decide) number

theorem decimalChars_ne_nil (number : Nat) :
    decimalChars number ≠ [] :=
  Nat.toDigits_ne_nil

/- No number but zero is written with a zero in front. -/
theorem eq_zero_of_head?_decimalChars
    {number : Nat}
    (hHead : (decimalChars number).head? = some '0') :
    number = 0 := by
  induction number using Nat.strongRecOn with
  | ind number ih =>
      unfold decimalChars at hHead ih
      rcases Nat.lt_or_ge number 10 with hLess | hMore
      · rw [Nat.toDigits_of_lt_base hLess] at hHead
        simpa using hHead
      · rw [Nat.toDigits_of_base_le (by decide) hMore,
          List.head?_append] at hHead
        have hSmaller : number / 10 < number := by omega
        cases hFront : (Nat.toDigits 10 (number / 10)).head? with
        | none => simp at hFront
        | some first =>
            rw [hFront] at hHead
            cases hHead
            have hZero := ih _ hSmaller hFront
            omega

------------------------------------------------------------
-- Characters
------------------------------------------------------------

/- What holds of each of the ASCII characters, one by one. -/
theorem of_ascii
    (property : Char → Bool)
    (hAscii :
      ∀ code < 128, property (Char.ofNat code) = true)
    {c : Char}
    (hLess : c.toNat < 128) :
    property c = true := by
  rw [← Char.ofNat_toNat c]
  exact hAscii _ hLess

/- What holds of each member of a list, one by one. -/
theorem forall_mem
    {α : Type}
    {members : List α}
    {property : α → Prop}
    [DecidablePred property]
    (hAll : members.all (fun x => decide (property x)) = true) :
    ∀ x ∈ members, property x := by
  intro x hMem
  exact
    of_decide_eq_true (List.all_eq_true.mp hAll x hMem)

/- What is not past an ASCII character is one. -/
theorem toNat_lt_of_le
    {c last : Char}
    (hLast : last.toNat < 128)
    (hLe : c ≤ last) :
    c.toNat < 128 :=
  Nat.lt_of_le_of_lt (UInt32.le_iff_toNat_le.mp hLe) hLast

theorem toNat_lt_of_isAlphanum
    {c : Char}
    (hAlnum : c.isAlphanum = true) :
    c.toNat < 128 := by
  have hRange (first last : Char)
      (hIs :
        (decide (c.val ≥ first.val)
            && decide (c.val ≤ last.val)) =
          true) :
      c ≤ last :=
    of_decide_eq_true (Bool.and_eq_true_iff.mp hIs).2
  rcases Bool.or_eq_true_iff.mp hAlnum with hAlpha | hDigit
  · rcases Bool.or_eq_true_iff.mp hAlpha with hUpper | hLower
    · have hLe : c ≤ 'Z' := (of_decide_eq_true hUpper).2
      exact toNat_lt_of_le (by decide) hLe
    · exact toNat_lt_of_le (by decide) (hRange 'a' 'z' hLower)
  · exact toNat_lt_of_le (by decide) (hRange '0' '9' hDigit)

theorem toNat_lt_of_isHexDigit
    {c : Char}
    (hDigit : isHexDigit c = true) :
    c.toNat < 128 := by
  unfold isHexDigit hexValue? at hDigit
  split at hDigit
  · rename_i hIs
    apply toNat_lt_of_isAlphanum
    rw [Char.isAlphanum, hIs, Bool.or_true]
  · split at hDigit
    · rename_i hIs
      exact toNat_lt_of_le (by decide) hIs.2
    · split at hDigit
      · rename_i hIs
        exact toNat_lt_of_le (by decide) hIs.2
      · cases hDigit

/- The decimal digits. -/
def digits : List Char :=
  ['0', '1', '2', '3', '4', '5', '6', '7', '8', '9']

/- The hexadecimal digits of either case. -/
def hexDigits : List Char :=
  digits ++
    [ 'a', 'b', 'c', 'd', 'e', 'f',
      'A', 'B', 'C', 'D', 'E', 'F' ]

theorem mem_hexDigits
    {c : Char}
    (hDigit : isHexDigit c = true) :
    c ∈ hexDigits := by
  have hEither :
      (!isHexDigit c || hexDigits.contains c) = true :=
    of_ascii (fun c => !isHexDigit c || hexDigits.contains c)
      (by decide) (toNat_lt_of_isHexDigit hDigit)
  simpa [hDigit] using hEither

theorem mem_digits
    {c : Char}
    (hDigit : c.isDigit = true) :
    c ∈ digits := by
  have hHex : isHexDigit c = true := by
    simp [isHexDigit, hexValue?, hDigit]
  have hEither :
      ∀ c ∈ hexDigits, c.isDigit = true → c ∈ digits :=
    Text.forall_mem (by decide)
  exact hEither c (mem_hexDigits hHex) hDigit

------------------------------------------------------------
-- Runs
------------------------------------------------------------

/- A run of characters ends before a text that does. -/
theorem takeWhile_append_stop
    {isIn : Char → Bool}
    {run rest : List Char}
    (hRun : ∀ c ∈ run, isIn c = true)
    (hRest : ∀ c, rest.head? = some c → isIn c = false) :
    (run ++ rest).takeWhile isIn = run := by
  rw [List.takeWhile_append_of_pos hRun]
  cases rest with
  | nil => simp
  | cons c rest =>
      rw [List.takeWhile_cons_of_neg
        (by simp [hRest c rfl]), List.append_nil]

theorem dropWhile_append_stop
    {isIn : Char → Bool}
    {run rest : List Char}
    (hRun : ∀ c ∈ run, isIn c = true)
    (hRest : ∀ c, rest.head? = some c → isIn c = false) :
    (run ++ rest).dropWhile isIn = rest := by
  rw [List.dropWhile_append_of_pos hRun]
  cases rest with
  | nil => rfl
  | cons c rest =>
      rw [List.dropWhile_cons_of_neg (by simp [hRest c rfl])]

/- A run that nothing follows is the whole text. -/
theorem takeWhile_run
    {isIn : Char → Bool}
    {run : List Char}
    (hRun : ∀ c ∈ run, isIn c = true) :
    run.takeWhile isIn = run := by
  have hWhole : (run ++ []).takeWhile isIn = run :=
    takeWhile_append_stop hRun (by simp)
  rwa [List.append_nil] at hWhole

theorem dropWhile_run
    {isIn : Char → Bool}
    {run : List Char}
    (hRun : ∀ c ∈ run, isIn c = true) :
    run.dropWhile isIn = [] := by
  have hWhole : (run ++ []).dropWhile isIn = [] :=
    dropWhile_append_stop hRun (by simp)
  rwa [List.append_nil] at hWhole

/- A text without a mark is a run that ends at the mark. -/
theorem bne_of_not_mem
    {mark : Char}
    {text : List Char}
    (hMark : mark ∉ text) :
    ∀ c ∈ text, (c != mark) = true := by
  intro c hMem
  rw [bne_iff_ne]
  rintro rfl
  exact hMark hMem

theorem takeWhile_mark
    {mark : Char}
    {front : List Char}
    (hMark : mark ∉ front)
    (rest : List Char) :
    (front ++ mark :: rest).takeWhile (· != mark) = front := by
  rw [List.takeWhile_append_of_pos (bne_of_not_mem hMark)]
  simp

theorem dropWhile_mark
    {mark : Char}
    {front : List Char}
    (hMark : mark ∉ front)
    (rest : List Char) :
    (front ++ mark :: rest).dropWhile (· != mark) =
      mark :: rest := by
  rw [List.dropWhile_append_of_pos (bne_of_not_mem hMark)]
  simp

------------------------------------------------------------
-- Decimal numbers
------------------------------------------------------------

/- Digits behind a number go on with it. -/
theorem decimalChars_foldl
    {digits : List Char}
    (hDigits : ∀ c ∈ digits, c.isDigit = true)
    {number : Nat}
    (hPositive : 0 < number) :
    decimalChars
        ((digits.map digitValue).foldl
          (fun number digit => number * 10 + digit) number) =
      decimalChars number ++ digits := by
  have hDigit :
      ∀ c ∈ Text.digits,
        digitValue c < 10 ∧ (digitValue c).digitChar = c :=
    forall_mem (by decide)
  -- Each digit goes to the end of the number read so far.
  induction digits generalizing number with
  | nil => exact (List.append_nil _).symm
  | cons c digits ih =>
      rcases
          hDigit c
            (mem_digits (hDigits c List.mem_cons_self)) with
        ⟨hLess, hChar⟩
      have hLast :
          decimalChars (number * 10 + digitValue c) =
            decimalChars number ++ [c] := by
        have hAppend :=
          Nat.toDigits_append_toDigits (by decide) hPositive
            hLess
        rw [Nat.toDigits_of_lt_base hLess, hChar] at hAppend
        rw [Nat.mul_comm]
        exact hAppend.symm
      rw [List.map_cons, List.foldl_cons,
        ih (fun other hMem =>
            hDigits other (List.mem_cons_of_mem _ hMem))
          (by omega),
        hLast, List.append_assoc, List.singleton_append]

/- Digits without a zero in front are those of their number. -/
theorem decimalChars_numberOf
    {digits : List Char}
    (hNil : digits ≠ [])
    (hDigits : ∀ c ∈ digits, c.isDigit = true)
    (hZero : digits.head? = some '0' → digits.length = 1) :
    decimalChars (numberOf 10 (digits.map digitValue)) =
      digits := by
  cases digits with
  | nil => exact absurd rfl hNil
  | cons first digits =>
      by_cases hFirst : first = '0'
      · subst hFirst
        have hAlone : digits = [] :=
          List.length_eq_zero_iff.mp
            (Nat.succ.inj (hZero rfl))
        rw [hAlone]
        rfl
      · have hAll :
            ∀ c ∈ Text.digits,
              c ≠ '0' →
                0 < digitValue c ∧
                  decimalChars (digitValue c) = [c] :=
          forall_mem (by decide)
        rcases
            hAll first
              (mem_digits (hDigits first List.mem_cons_self))
              hFirst with
          ⟨hPositive, hChar⟩
        have hRest :=
          decimalChars_foldl
            (fun c hMem =>
              hDigits c (List.mem_cons_of_mem _ hMem))
            hPositive
        rw [hChar, List.singleton_append] at hRest
        rw [List.map_cons, numberOf, List.foldl_cons,
          Nat.zero_mul, Nat.zero_add]
        exact hRest

end Text

------------------------------------------------------------
-- Version four
------------------------------------------------------------

namespace Ipv4

open Text (decimalChars)

/- An octet is read back from its digits. -/
theorem readOctet_decimalChars
    (octet : UInt8)
    {rest : List Char}
    (hRest : ∀ c, rest.head? = some c → c.isDigit = false) :
    readOctet (decimalChars octet.toNat ++ rest) =
      some (octet, rest) := by
  have hDigits := Text.isDigit_decimalChars octet.toNat
  have hLess : octet.toNat < 256 := octet.toNat_lt
  have hLength : (decimalChars octet.toNat).length ≤ 3 :=
    (Nat.length_toDigits_le_iff (by decide) (by decide)).mpr
      (by omega)
  unfold readOctet
  simp only [Text.takeWhile_append_stop hDigits hRest,
    Text.dropWhile_append_stop hDigits hRest,
    Text.numberOf_decimalChars]
  split
  · rename_i hNil
    exact absurd hNil (Text.decimalChars_ne_nil _)
  · rename_i first others hCons
    have hNoZero : (first == '0' && !others.isEmpty) = false := by
      by_cases hFirst : first = '0'
      · subst hFirst
        have hHead :
            (decimalChars octet.toNat).head? = some '0' := by
          rw [hCons]
          rfl
        have hZero := Text.eq_zero_of_head?_decimalChars hHead
        rw [hZero] at hCons
        cases hCons
        rfl
      · simp [hFirst]
    rw [hCons, List.length_cons] at hLength
    rw [hNoZero]
    simp only [Bool.false_eq_true, if_false]
    rw [if_pos ⟨by omega, by omega⟩, UInt8.ofNat_toNat]

/- An address is read back from the head of a text. -/
theorem read_toChars
    (address : Ipv4)
    {rest : List Char}
    (hRest : ∀ c, rest.head? = some c → c.isDigit = false) :
    read (address.toChars ++ rest) = some (address, rest) := by
  have hDot (more : List Char) :
      ∀ c, ('.' :: more).head? = some c →
        c.isDigit = false := by
    rintro c ⟨⟩
    rfl
  unfold read toChars
  simp only [List.append_assoc, List.cons_append,
    readOctet_decimalChars _ (hDot _), readDotOctet,
    readOctet_decimalChars _ hRest, Option.bind_eq_bind,
    Option.bind_some]
  rfl

/- What follows an octet is the end of the text. -/
theorem suffix_of_readOctet
    {text rest : List Char}
    {octet : UInt8}
    (hRead : readOctet text = some (octet, rest)) :
    rest <:+ text := by
  simp only [readOctet] at hRead
  split at hRead
  · cases hRead
  · split at hRead
    · cases hRead
    · split at hRead
      · cases hRead
        exact List.dropWhile_suffix _
      · cases hRead

/- A text without dots does not begin with an address. -/
theorem read_of_no_dot
    {text : List Char}
    (hDot : '.' ∉ text) :
    read text = none := by
  unfold read
  cases hFirst : readOctet text with
  | none => rfl
  | some first =>
      rcases first with ⟨octet, rest⟩
      have hSuffix := suffix_of_readOctet hFirst
      have hSecond : readDotOctet rest = none := by
        unfold readDotOctet
        split
        · exact absurd (hSuffix.mem List.mem_cons_self) hDot
        · rfl
      simp [hSecond]

/- An address of version four is a number below 2^32. -/
theorem toNat_ofNat
    {number : Nat}
    (hLess : number < 0x100000000) :
    (ofNat number).toNat = number := by
  simp only [toNat, ofNat, Text.numberOf, List.foldl_cons,
    List.foldl_nil, UInt8.toNat_ofNat']
  omega

theorem ofNat_toNat (address : Ipv4) :
    ofNat address.toNat = address := by
  rcases address with ⟨first, second, third, fourth⟩
  have hFirst : first.toNat < 256 := first.toNat_lt
  have hSecond : second.toNat < 256 := second.toNat_lt
  have hThird : third.toNat < 256 := third.toNat_lt
  have hFourth : fourth.toNat < 256 := fourth.toNat_lt
  simp only [ofNat, toNat, Text.numberOf, List.foldl_cons,
    List.foldl_nil, mk.injEq, ← UInt8.toNat_inj,
    UInt8.toNat_ofNat']
  omega

end Ipv4

------------------------------------------------------------
-- Version six: groups
------------------------------------------------------------

namespace Ipv6

open Text (hexChars)

/- A group is read back from its digits. -/
theorem readGroup_hexChars
    (group : UInt16)
    {rest : List Char}
    (hRest :
      ∀ c, rest.head? = some c → Text.isHexDigit c = false) :
    readGroup (hexChars group.toNat ++ rest) =
      some (group, rest) := by
  have hDigits := Text.isHexDigit_hexChars group.toNat
  have hLess : group.toNat < 65536 := group.toNat_lt
  have hMost : (hexChars group.toNat).length ≤ 4 :=
    (Nat.length_toDigits_le_iff (by decide) (by decide)).mpr
      (by omega)
  have hLeast : 1 ≤ (hexChars group.toNat).length :=
    Nat.length_toDigits_pos
  unfold readGroup
  simp only [Text.takeWhile_append_stop hDigits hRest,
    Text.dropWhile_append_stop hDigits hRest,
    Text.numberOf_hexChars, UInt16.ofNat_toNat]
  rw [if_pos ⟨hLeast, hMost⟩]

/- Groups with a colon before each. -/
def writeTail (groups : List UInt16) : List Char :=
  groups.flatMap fun group => ':' :: hexChars group.toNat

theorem writeGroups_cons
    (group : UInt16)
    (groups : List UInt16) :
    writeGroups (group :: groups) =
      hexChars group.toNat ++ writeTail groups := by
  induction groups generalizing group with
  | nil => simp [writeGroups, writeTail]
  | cons next groups ih =>
      rw [writeGroups, ih next]
      · simp [writeTail]
      · simp

/- The groups of a text are over: at its end or at a gap. -/
def IsEnd (text : List Char) : Prop :=
  text = [] ∨ ∃ rest, text = ':' :: ':' :: rest

/- A character of a text of groups. -/
def isGroupChar (c : Char) : Bool :=
  Text.isHexDigit c || c == ':'

theorem isGroupChar_hexChars (number : Nat) :
    ∀ c ∈ hexChars number, isGroupChar c = true := by
  intro c hMem
  unfold isGroupChar
  rw [Text.isHexDigit_hexChars number c hMem, Bool.true_or]

theorem isGroupChar_writeTail (groups : List UInt16) :
    ∀ c ∈ writeTail groups, isGroupChar c = true := by
  intro c hMem
  rcases List.mem_flatMap.mp hMem with ⟨group, -, hMem⟩
  rcases List.mem_cons.mp hMem with rfl | hMem
  · rfl
  · exact isGroupChar_hexChars _ c hMem

theorem isGroupChar_writeGroups (groups : List UInt16) :
    ∀ c ∈ writeGroups groups, isGroupChar c = true := by
  cases groups with
  | nil => simp [writeGroups]
  | cons group groups =>
      intro c hMem
      rw [writeGroups_cons] at hMem
      rcases List.mem_append.mp hMem with hMem | hMem
      · exact isGroupChar_hexChars _ c hMem
      · exact isGroupChar_writeTail _ c hMem

theorem isGroupChar_compressed (address : Ipv6) :
    ∀ c ∈ address.compressed, isGroupChar c = true := by
  intro c hMem
  simp only [compressed] at hMem
  split at hMem
  · rcases List.mem_append.mp hMem with hMem | hMem
    · exact isGroupChar_writeGroups _ c hMem
    · rcases List.mem_cons.mp hMem with rfl | hMem
      · rfl
      · rcases List.mem_cons.mp hMem with rfl | hMem
        · rfl
        · exact isGroupChar_writeGroups _ c hMem
  · exact isGroupChar_writeGroups _ c hMem

/- There are no dots in a text of groups. -/
theorem no_dot_of_isGroupChar
    {text : List Char}
    (hText : ∀ c ∈ text, isGroupChar c = true) :
    '.' ∉ text := by
  intro hMem
  exact absurd (hText _ hMem) (by decide)

/- After the last group no further one is read. -/
theorem readGroups_isEnd
    {text : List Char}
    (hEnd : IsEnd text)
    (room : Nat)
    (leading : Bool) :
    readGroups room leading text = ([], false, text) := by
  cases room with
  | zero => rw [readGroups]
  | succ room =>
      rcases hEnd with rfl | ⟨rest, rfl⟩
      · cases leading with
        | false => rfl
        | true =>
            rw [readGroups]
            cases room <;> rfl
      · cases leading with
        | false =>
            rw [readGroups]
            cases room <;> rfl
        | true =>
            rw [readGroups]
            cases room <;> rfl

/- A group and what follows it, without an address in it. -/
theorem readGroups_group
    {group : UInt16}
    {rest : List Char}
    {leading : Bool}
    {text : List Char}
    (room : Nat)
    (hColon :
      afterColon leading text =
        some (hexChars group.toNat ++ rest))
    (hRest :
      ∀ c, rest.head? = some c → Text.isHexDigit c = false)
    (hDotted :
      Ipv4.read (hexChars group.toNat ++ rest) = none) :
    readGroups (room + 1) leading text =
      (group :: (readGroups room false rest).1,
        (readGroups room false rest).2) := by
  rw [readGroups]
  simp only [hColon, hDotted, ite_self,
    readGroup_hexChars group hRest]

theorem head?_of_isEnd
    {text : List Char}
    (hEnd : IsEnd text) :
    ∀ c, text.head? = some c → Text.isHexDigit c = false := by
  rcases hEnd with rfl | ⟨rest, rfl⟩
  · simp
  · rintro c ⟨⟩
    rfl

theorem head?_writeTail
    {text : List Char}
    (hEnd : IsEnd text)
    (groups : List UInt16) :
    ∀ c, (writeTail groups ++ text).head? = some c →
      Text.isHexDigit c = false := by
  cases groups with
  | nil => simpa [writeTail] using head?_of_isEnd hEnd
  | cons group groups =>
      rintro c ⟨⟩
      rfl

/- Groups do not begin with an address of version four. -/
theorem read_of_group
    {text : List Char}
    (group : UInt16)
    (groups : List UInt16)
    (hDot : '.' ∉ text) :
    Ipv4.read
        (hexChars group.toNat ++
          (writeTail groups ++ text)) =
      none := by
  have hGroup :=
    no_dot_of_isGroupChar (isGroupChar_hexChars group.toNat)
  have hGroups :=
    no_dot_of_isGroupChar (isGroupChar_writeTail groups)
  apply Ipv4.read_of_no_dot
  simp [hGroup, hGroups, hDot]

/- Groups with a colon before each are read back. -/
theorem readGroups_writeTail
    {text : List Char}
    (hEnd : IsEnd text)
    (hDot : '.' ∉ text)
    (groups : List UInt16)
    {room : Nat}
    (hRoom : groups.length ≤ room) :
    readGroups room false (writeTail groups ++ text) =
      (groups, false, text) := by
  induction groups generalizing room with
  | nil => exact readGroups_isEnd hEnd room false
  | cons group groups ih =>
      cases room with
      | zero => simp at hRoom
      | succ room =>
          have hDotted := read_of_group group groups hDot
          rw [readGroups_group room
            (by simp [writeTail, afterColon])
            (head?_writeTail hEnd groups) hDotted,
            ih (by simpa using hRoom)]

/- Groups are read back from the text of them. -/
theorem readGroups_writeGroups
    {text : List Char}
    (hEnd : IsEnd text)
    (hDot : '.' ∉ text)
    (groups : List UInt16)
    {room : Nat}
    (hRoom : groups.length ≤ room) :
    readGroups room true (writeGroups groups ++ text) =
      (groups, false, text) := by
  cases groups with
  | nil => exact readGroups_isEnd hEnd room true
  | cons group groups =>
      cases room with
      | zero => simp at hRoom
      | succ room =>
          have hDotted := read_of_group group groups hDot
          rw [writeGroups_cons, List.append_assoc,
            readGroups_group room rfl
            (head?_writeTail hEnd groups) hDotted,
            readGroups_writeTail hEnd hDot groups
              (by simpa using hRoom)]

------------------------------------------------------------
-- Version six: addresses
------------------------------------------------------------

theorem ofGroups_groups (address : Ipv6) :
    ofGroups address.groups = address := by
  rcases address with ⟨groups, hLength⟩
  simp [ofGroups, ← hLength]

/- The run of zeros at the head is one of zeros. -/
theorem take_zerosAhead (groups : List UInt16) :
    groups.take (zerosAhead groups) =
      List.replicate (zerosAhead groups) 0 := by
  induction groups with
  | nil => rfl
  | cons group groups ih =>
      unfold zerosAhead at ih ⊢
      by_cases hZero : group = 0
      · subst hZero
        rw [List.takeWhile_cons_of_pos rfl, List.length_cons,
          List.take_succ_cons, List.replicate_succ, ih]
      · rw [List.takeWhile_cons_of_neg (by simp [hZero])]
        rfl

theorem zerosAhead_le (groups : List UInt16) :
    zerosAhead groups ≤ groups.length :=
  (List.takeWhile_prefix _).length_le

/- The longest run lies in the list and holds only zeros. -/
theorem longestZeros_spec
    (groups : List UInt16)
    (start : Nat) :
    ∃ before,
      (longestZeros groups start).1 = start + before ∧
        before + (longestZeros groups start).2 ≤
          groups.length ∧
        (groups.drop before).take
            (longestZeros groups start).2 =
          List.replicate (longestZeros groups start).2 0 := by
  induction groups generalizing start with
  | nil => exact ⟨0, rfl, Nat.le_refl _, rfl⟩
  | cons group groups ih =>
      simp only [longestZeros]
      split
      · refine ⟨0, rfl, ?_, take_zerosAhead _⟩
        simpa using zerosAhead_le (group :: groups)
      · rcases ih (start + 1) with
          ⟨before, hStart, hLength, hZeros⟩
        refine ⟨before + 1, ?_, ?_, hZeros⟩
        · rw [hStart]
          omega
        · rw [List.length_cons]
          omega

/- An address in front of, within and behind its gap. -/
theorem groups_eq_around_gap (address : Ipv6) :
    let run := longestZeros address.groups 0
    run.1 + run.2 ≤ 8 ∧
      address.groups =
        address.groups.take run.1 ++
          List.replicate run.2 0 ++
          address.groups.drop (run.1 + run.2) := by
  rcases longestZeros_spec address.groups 0 with
    ⟨before, hStart, hLength, hZeros⟩
  rw [Nat.zero_add] at hStart
  rw [← hStart, address.length_groups] at hLength
  rw [← hStart] at hZeros
  refine ⟨hLength, ?_⟩
  rw [← hZeros, List.append_assoc, ← List.drop_drop,
    List.take_append_drop, List.take_append_drop]

/- A text of eight groups is an address. -/
theorem ofChars?_of_groups
    {text : List Char}
    {address : Ipv6}
    (hRead :
      readGroups 8 true text = (address.groups, false, [])) :
    ofChars? text = some address := by
  unfold ofChars? read
  simp only [hRead, address.length_groups, if_true,
    ofGroups_groups]

/- A text with a gap between groups is an address. -/
theorem ofChars?_of_gap
    {text rest : List Char}
    {head tail : List UInt16}
    {isDotted : Bool}
    {address : Ipv6}
    (hHead :
      readGroups 8 true text =
        (head, false, ':' :: ':' :: rest))
    (hShort : head.length ≠ 8)
    (hTail :
      readGroups (7 - head.length) true rest =
        (tail, isDotted, []))
    (hGroups :
      address.groups =
        head ++
          List.replicate (8 - head.length - tail.length) 0 ++
          tail) :
    ofChars? text = some address := by
  unfold ofChars? read
  simp only [hHead, hShort, if_false, Bool.false_eq_true,
    hTail, ← hGroups, ofGroups_groups]

/- The compressed text of an address is read as it. -/
theorem ofChars?_compressed (address : Ipv6) :
    ofChars? address.compressed = some address := by
  rcases groups_eq_around_gap address with ⟨hLength, hGroups⟩
  have hEight := address.length_groups
  simp only [compressed]
  generalize longestZeros address.groups 0 = run at *
  rcases run with ⟨start, length⟩
  simp only at hLength hGroups ⊢
  split
  · rename_i hGap
    have hHead : (address.groups.take start).length = start :=
      List.length_take_of_le (by omega)
    have hTail :
        (address.groups.drop (start + length)).length =
          8 - (start + length) := by
      rw [List.length_drop, hEight]
    have hRoom :
        (address.groups.drop (start + length)).length ≤
          7 - start := by
      omega
    have hBehind :=
      readGroups_writeGroups (.inl rfl) (by simp) _ hRoom
    rw [List.append_nil] at hBehind
    have hNoDot :
        '.' ∉
          ':' :: ':' ::
            writeGroups
              (address.groups.drop (start + length)) := by
      have hGroups :=
        no_dot_of_isGroupChar
          (isGroupChar_writeGroups
            (address.groups.drop (start + length)))
      simp [hGroups]
    apply ofChars?_of_gap
      (readGroups_writeGroups (.inr ⟨_, rfl⟩) hNoDot _
        (by omega))
      (by omega)
    · rw [hHead]
      exact hBehind
    · rw [hHead, hTail,
        show 8 - start - (8 - (start + length)) = length by
          omega]
      exact hGroups
  · have hRoom : address.groups.length ≤ 8 :=
      Nat.le_of_eq hEight
    have hWhole :=
      readGroups_writeGroups (.inl rfl) (by simp) _ hRoom
    rw [List.append_nil] at hWhole
    exact ofChars?_of_groups hWhole

/- The address of version four within a mapped address. -/
theorem mapped?_eq_some
    {address : Ipv6}
    {inner : Ipv4}
    (hMapped : address.mapped? = some inner) :
    address.groups =
      [ 0, 0, 0, 0, 0, 0xFFFF,
        UInt16.ofNat (inner.toNat / 0x10000),
        UInt16.ofNat inner.toNat ] := by
  unfold mapped? at hMapped
  split at hMapped
  · rename_i high low hGroups
    cases hMapped
    have hHigh : high.toNat < 65536 := high.toNat_lt
    have hLow : low.toNat < 65536 := low.toNat_lt
    rw [hGroups, Ipv4.toNat_ofNat (by omega)]
    simp only [List.cons.injEq, true_and, and_true,
      ← UInt16.toNat_inj, UInt16.toNat_ofNat']
    omega
  · cases hMapped

/- The usual text of an address is read as the address. -/
theorem ofChars?_toChars (address : Ipv6) :
    ofChars? address.toChars = some address := by
  unfold toChars
  split
  · rename_i inner hMapped
    have hDotted :
        Ipv4.read (inner.toChars ++ []) = some (inner, []) :=
      Ipv4.read_toChars inner (by simp)
    rw [List.append_nil] at hDotted
    have hLast :
        readGroups 6 false (':' :: inner.toChars) =
          ( [ UInt16.ofNat (inner.toNat / 0x10000),
              UInt16.ofNat inner.toNat ],
            true, [] ) := by
      rw [readGroups]
      simp [afterColon, hDotted]
    have hTail :
        readGroups 7 true
            ('f' :: 'f' :: 'f' :: 'f' :: ':' :: inner.toChars) =
          ( [ 0xFFFF, UInt16.ofNat (inner.toNat / 0x10000),
              UInt16.ofNat inner.toNat ],
            true, [] ) := by
      have hGroup :=
        @readGroups_group 0xFFFF (':' :: inner.toChars) true _ 6
          rfl (by rintro c ⟨⟩; rfl) rfl
      rw [hLast] at hGroup
      exact hGroup
    exact ofChars?_of_gap
      (readGroups_isEnd (.inr ⟨_, rfl⟩) 8 true)
      (by decide) hTail (mapped?_eq_some hMapped)
  · exact ofChars?_compressed address

end Ipv6

------------------------------------------------------------
-- Characters
------------------------------------------------------------

/- The characters that dotted texts are made of. -/
def dottedChars : List Char :=
  '.' :: Text.digits

/- The characters that texts of addresses are made of. -/
def addressChars : List Char :=
  ':' :: '.' :: Text.hexDigits

theorem mem_addressChars_of_isHexDigit
    {c : Char}
    (hDigit : Text.isHexDigit c = true) :
    c ∈ addressChars :=
  List.mem_cons_of_mem _
    (List.mem_cons_of_mem _ (Text.mem_hexDigits hDigit))

theorem Ipv4.mem_dottedChars
    {address : Ipv4}
    {c : Char}
    (hMem : c ∈ address.toChars) :
    c ∈ dottedChars := by
  have hOctet (octet : UInt8)
      (hIs : c ∈ Text.decimalChars octet.toNat) :
      c ∈ dottedChars :=
    List.mem_cons_of_mem _
      (Text.mem_digits (Text.isDigit_decimalChars _ c hIs))
  have hDot : '.' ∈ dottedChars := List.mem_cons_self
  simp only [toChars, List.mem_append, List.mem_cons] at hMem
  rcases hMem with
    ((hIs | rfl | hIs) | rfl | hIs) | rfl | hIs
  · exact hOctet _ hIs
  · exact hDot
  · exact hOctet _ hIs
  · exact hDot
  · exact hOctet _ hIs
  · exact hDot
  · exact hOctet _ hIs

theorem Ipv4.mem_addressChars
    {address : Ipv4}
    {c : Char}
    (hMem : c ∈ address.toChars) :
    c ∈ addressChars := by
  have hAll : ∀ c ∈ dottedChars, c ∈ addressChars :=
    Text.forall_mem (by decide)
  exact hAll c (mem_dottedChars hMem)

theorem Ipv6.compressed_mem_addressChars
    {address : Ipv6}
    {c : Char}
    (hMem : c ∈ address.compressed) :
    c ∈ addressChars := by
  have hGroup := isGroupChar_compressed address c hMem
  unfold isGroupChar at hGroup
  rcases Bool.or_eq_true_iff.mp hGroup with hDigit | hColon
  · exact mem_addressChars_of_isHexDigit hDigit
  · rw [beq_iff_eq.mp hColon]
    decide

theorem Ipv6.mem_addressChars
    {address : Ipv6}
    {c : Char}
    (hMem : c ∈ address.toChars) :
    c ∈ addressChars := by
  unfold toChars at hMem
  split at hMem
  · have hFront :
        ∀ c ∈ [':', ':', 'f', 'f', 'f', 'f', ':'],
          c ∈ addressChars :=
      Text.forall_mem (by decide)
    rcases List.mem_append.mp hMem with hMem | hMem
    · exact hFront c hMem
    · exact Ipv4.mem_addressChars hMem
  · exact compressed_mem_addressChars hMem

end BrainLink
