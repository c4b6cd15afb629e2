import BrainLink.Proofs.Addresses
import BrainLink.Url.Pieces
import Mathlib.Data.List.TakeWhile

/-
  Two readers of version six addresses agree.

  Key definitions include:
    * `Url.settle?`

  Main statements:
    * `Url.readDotted?_eq`
    * `Url.readPieces?_eq_settle?`
    * `Url.ipv6Of?_eq`

  A URL reads an address piece by piece up to the end of its
  text, and looks for the double colon on the way. By itself
  an address is read group by group as far as that goes, and
  the double colon is looked for behind the last group. Where
  the second reader stops, the first has reached the end, or
  finds the double colon, or fails.
-/

namespace BrainLink.Url

------------------------------------------------------------
-- Dotted ends
------------------------------------------------------------

/- A number of a dotted end is an octet. -/
theorem readDecimal?_eq (text : List Char) :
    readDecimal? text =
      (Ipv4.readOctet text).map fun read =>
        (read.1.toNat, read.2) := by
  have hDigits :
      ∀ c ∈ text.takeWhile Char.isDigit, c.isDigit = true :=
    fun c hMem => List.mem_takeWhile_imp hMem
  unfold readDecimal? Ipv4.readOctet
  dsimp only
  generalize text.takeWhile Char.isDigit = digits at hDigits ⊢
  cases digits with
  | nil => simp
  | cons first others =>
      generalize hNumber :
        Text.numberOf 10
            ((first :: others).map Text.digitValue) =
          number
      by_cases hZero : first = '0' ∧ others ≠ []
      · have hLength : 0 < others.length :=
          List.length_pos_iff.mpr hZero.2
        simp [hZero.1, hZero.2, hLength]
      · have hAlone :
            (first :: others).head? = some '0' →
              (first :: others).length = 1 := by
          rintro ⟨⟩
          simpa using hZero
        have hChars :=
          Text.decimalChars_numberOf (List.cons_ne_nil _ _)
            hDigits hAlone
        rw [hNumber] at hChars
        have hHead :
            (first == '0' && !others.isEmpty) = false := by
          simpa using hZero
        have hMark :
            ((first :: others).head? == some '0' &&
                decide (1 < (first :: others).length)) =
              false := by
          simpa [List.length_pos_iff] using hZero
        by_cases hMost : number ≤ 255
        · have hShort : (first :: others).length ≤ 3 := by
            rw [← hChars]
            exact
              (Nat.length_toDigits_le_iff (by decide)
                (by decide)).mpr (by omega)
          have hOctet : (UInt8.ofNat number).toNat = number := by
            rw [UInt8.toNat_ofNat']
            omega
          rw [List.length_cons] at hShort
          have hFew : others.length ≤ 2 := by omega
          have hNotMore : ¬255 < number := by omega
          simp only [hHead, hMark]
          simp [hMost, hFew, hNotMore, hOctet]
        · have hMore : 255 < number := by omega
          simp only [hHead, hMark]
          simp [hMost, hMore]

theorem readDotDecimal?_eq (text : List Char) :
    readDotDecimal? text =
      (Ipv4.readDotOctet text).map fun read =>
        (read.1.toNat, read.2) := by
  unfold readDotDecimal?
  split
  · exact readDecimal?_eq _
  · rename_i hOther
    rw [Ipv4.readDotOctet.eq_2 text hOther]
    rfl

/- The halves of an address of version four. -/
theorem halves_toNat (address : Ipv4) :
    UInt16.ofNat (address.toNat / 0x10000) =
        UInt16.ofNat
          (address.first.toNat * 256 + address.second.toNat) ∧
      UInt16.ofNat address.toNat =
        UInt16.ofNat
          (address.third.toNat * 256 +
            address.fourth.toNat) := by
  have hSecond : address.second.toNat < 256 :=
    address.second.toNat_lt
  have hThird : address.third.toNat < 256 :=
    address.third.toNat_lt
  have hFourth : address.fourth.toNat < 256 :=
    address.fourth.toNat_lt
  simp only [Ipv4.toNat, Text.numberOf, List.foldl_cons,
    List.foldl_nil, ← UInt16.toNat_inj, UInt16.toNat_ofNat']
  omega

/- A dotted end is an address of version four. -/
theorem readDotted?_eq (text : List Char) :
    readDotted? text =
      match Ipv4.read text with
      | some (address, []) =>
          some
            [ UInt16.ofNat (address.toNat / 0x10000),
              UInt16.ofNat address.toNat ]
      | _ => none := by
  have hHalves := fun first second third fourth =>
    halves_toNat ⟨first, second, third, fourth⟩
  unfold readDotted? Ipv4.read
  simp only [readDecimal?_eq, readDotDecimal?_eq, hHalves]
  rcases Ipv4.readOctet text with _ | ⟨first, text⟩
  · rfl
  simp only [Option.map_some, Option.bind_eq_bind,
    Option.bind_some]
  rcases Ipv4.readDotOctet text with _ | ⟨second, text⟩
  · rfl
  simp only [Option.map_some, Option.bind_some]
  rcases Ipv4.readDotOctet text with _ | ⟨third, text⟩
  · rfl
  simp only [Option.map_some, Option.bind_some]
  rcases Ipv4.readDotOctet text with _ | ⟨fourth, text⟩
  · rfl
  cases text with
  | nil => simp
  | cons c text => rfl

------------------------------------------------------------
-- Pieces
------------------------------------------------------------

section Pieces

variable {room : Nat}
variable {hasGap : Bool}
variable {c : Char}
variable {rest : List Char}
variable (hColon : c ≠ ':')

/- What stands behind the digits of a text. -/
theorem drop_takeWhile
    (isIn : Char → Bool)
    (text : List Char) :
    text.drop (text.takeWhile isIn).length =
      text.dropWhile isIn := by
  have hText :=
    List.takeWhile_append_dropWhile (p := isIn) (l := text)
  generalize text.takeWhile isIn = front at hText ⊢
  generalize text.dropWhile isIn = back at hText ⊢
  rw [← hText, List.drop_left]

include hColon

/- A piece that is a group, by what stands behind it. -/
theorem readPieces?_of_group
    {group : UInt16}
    {back : List Char} :
    Ipv6.readGroup (c :: rest) = some (group, back) →
      readPieces? (room + 1) hasGap (c :: rest) =
        match back with
        | [] => some ⟨[group], none⟩
        | '.' :: _ =>
            if room = 0 then
              none
            else
              (readDotted? (c :: rest)).map (⟨·, none⟩)
        | [':'] => none
        | ':' :: rest =>
            (readPieces? room hasGap rest).map (.push group)
        | _ => none := by
  intro hGroup
  unfold Ipv6.readGroup at hGroup
  dsimp only at hGroup
  split at hGroup
  · rename_i hDigits
    cases hGroup
    have hSome :
        ((c :: rest).takeWhile Text.isHexDigit).isEmpty =
          false := by
      rw [Bool.eq_false_iff, ne_eq, List.isEmpty_iff]
      intro hNil
      rw [hNil] at hDigits
      exact absurd hDigits.1 (by decide)
    have hRead :=
      readPieces?.eq_4 hasGap room c rest (fun h => hColon h)
    simp only [← List.take_takeWhile,
      List.take_of_length_le hDigits.2, drop_takeWhile, hSome,
      Bool.false_or, beq_iff_eq] at hRead
    exact hRead
  · cases hGroup

/- What is no group is no piece. -/
theorem readPieces?_of_no_group
    (hGroup : Ipv6.readGroup (c :: rest) = none) :
    readPieces? (room + 1) hasGap (c :: rest) = none := by
  have hText :=
    List.takeWhile_append_dropWhile (p := Text.isHexDigit)
      (l := c :: rest)
  have hHex :
      ∀ d ∈ (c :: rest).takeWhile Text.isHexDigit,
        Text.isHexDigit d = true :=
    fun d hMem => List.mem_takeWhile_imp hMem
  unfold Ipv6.readGroup at hGroup
  dsimp only at hGroup
  split at hGroup
  · cases hGroup
  · rename_i hDigits
    rw [readPieces?.eq_4 _ _ _ _ (fun h => hColon h)]
    simp only [← List.take_takeWhile]
    generalize (c :: rest).takeWhile Text.isHexDigit = run
      at hText hHex hDigits ⊢
    generalize (c :: rest).dropWhile Text.isHexDigit = back
      at hText
    by_cases hNil : run = []
    · subst hNil
      simp only [List.take_nil, List.length_nil, List.drop_zero,
        List.isEmpty_nil, Bool.true_or, if_true]
      split <;> simp_all
    · have hLength : 0 < run.length :=
        List.length_pos_iff.mpr hNil
      have hTake : (run.take 4).length = 4 := by
        rw [List.length_take]
        omega
      -- There is one digit too many behind the first four.
      cases hMore : run.drop 4 with
      | nil =>
          have := congrArg List.length hMore
          rw [List.length_drop, List.length_nil] at this
          omega
      | cons d more =>
          have hDigit : Text.isHexDigit d = true := by
            apply hHex
            apply List.mem_of_mem_drop
            rw [hMore]
            exact List.mem_cons_self
          have hDot : d ≠ '.' := by
            rintro rfl
            cases hDigit
          have hNoColon : d ≠ ':' := by
            rintro rfl
            cases hDigit
          rw [← hText, hTake,
            List.drop_append_of_le_length (by omega), hMore,
            List.cons_append]
          split <;> simp_all

end Pieces

/- In front of a dotted end stands a group. -/
theorem exists_readGroup
    {text rest : List Char}
    {address : Ipv4}
    (hRead : Ipv4.read text = some (address, rest)) :
    ∃ group back,
      Ipv6.readGroup text = some (group, '.' :: back) := by
  simp only [Ipv4.read, Option.bind_eq_bind,
    Option.bind_eq_some_iff, Prod.exists] at hRead
  rcases hRead with
    ⟨octet, behind, hOctet, second, _, hSecond, -⟩
  unfold Ipv4.readDotOctet at hSecond
  split at hSecond
  · rename_i back
    have hDigits :
        ∀ c ∈ text.takeWhile Char.isDigit,
          Text.isHexDigit c = true := by
      intro c hMem
      have hDigit : c.isDigit = true :=
        List.mem_takeWhile_imp hMem
      simp [Text.isHexDigit, Text.hexValue?, hDigit]
    have hText :=
      List.takeWhile_append_dropWhile (p := Char.isDigit)
        (l := text)
    have hStop :
        ∀ c, ('.' :: back).head? = some c →
          Text.isHexDigit c = false := by
      rintro c ⟨⟩
      rfl
    unfold Ipv4.readOctet at hOctet
    dsimp only at hOctet
    generalize text.takeWhile Char.isDigit = digits
      at hOctet hDigits hText
    split at hOctet
    · cases hOctet
    · rename_i first others
      split at hOctet
      · cases hOctet
      · split at hOctet
        · rename_i hShort
          have hBehind :
              text.dropWhile Char.isDigit = '.' :: back :=
            congrArg Prod.snd (Option.some.inj hOctet)
          rw [hBehind] at hText
          subst hText
          unfold Ipv6.readGroup
          simp only [Text.takeWhile_append_stop hDigits hStop,
            Text.dropWhile_append_stop hDigits hStop]
          refine ⟨_, back, if_pos ⟨?_, ?_⟩⟩
          · exact Nat.succ_pos _
          · rw [List.length_cons]
            omega
        · cases hOctet
  · cases hSecond

------------------------------------------------------------
-- Groups
------------------------------------------------------------

/-
  What the pieces of a text are if its groups were read, and
  there was room for so many. Behind them the text is over, or
  there is the double colon with all that is left.
-/
def settle? (hasGap : Bool) (room : Nat) :
    List UInt16 × Bool × List Char → Option Pieces
| (groups, _, []) => some ⟨groups, none⟩
| (groups, false, ':' :: ':' :: rest) =>
    if hasGap ∨ room ≤ groups.length then
      none
    else
      (readPieces? (room - groups.length - 1) true rest).map
        fun pieces =>
          ⟨ groups ++ 0 :: pieces.values,
            some (groups.length + 1) ⟩
| _ => none

section Settle

variable {hasGap : Bool}
variable {room : Nat}

/- Anything else behind the groups is a fault. -/
theorem settle?_eq_none
    {groups : List UInt16}
    {endsDotted : Bool}
    {rest : List Char}
    (hRest : rest ≠ [])
    (hGap :
      ∀ more,
        (endsDotted, rest) ≠ (false, ':' :: ':' :: more)) :
    settle? hasGap room (groups, endsDotted, rest) = none := by
  unfold settle?
  split <;> simp_all

/- One more group in front takes one place more. -/
theorem settle?_cons
    (group : UInt16)
    (read : List UInt16 × Bool × List Char) :
    settle? hasGap (room + 1) (group :: read.1, read.2) =
      (settle? hasGap room read).map (.push group) := by
  rcases read with ⟨groups, endsDotted, rest⟩
  by_cases hRest : rest = []
  · subst hRest
    rfl
  · by_cases hGap :
        ∃ more, (endsDotted, rest) = (false, ':' :: ':' :: more)
    · rcases hGap with ⟨more, hGap⟩
      cases hGap
      have hRoom :
          room + 1 - (groups.length + 1) =
            room - groups.length := by
        omega
      simp only [settle?, List.length_cons, hRoom,
        Nat.add_le_add_iff_right]
      split
      · rfl
      · rw [Option.map_map]
        rfl
    · rw [not_exists] at hGap
      rw [settle?_eq_none hRest hGap,
        settle?_eq_none hRest hGap]
      rfl

/- Only a colon can lead to more groups. -/
theorem readGroups_of_no_colon
    {text : List Char}
    (hColon : text.head? ≠ some ':') :
    Ipv6.readGroups room false text = ([], false, text) := by
  cases room with
  | zero => rfl
  | succ room =>
      have hAfter : Ipv6.afterColon false text = none := by
        unfold Ipv6.afterColon
        rw [if_neg Bool.false_ne_true]
        split
        · exact absurd rfl hColon
        · rfl
      rw [Ipv6.readGroups, hAfter]

/- A group behind a colon is read as one at the beginning. -/
theorem settle?_readGroups_colon
    {c : Char}
    (hColon : c ≠ ':')
    (rest : List Char) :
    settle? hasGap room
        (Ipv6.readGroups room false (':' :: c :: rest)) =
      settle? hasGap room
        (Ipv6.readGroups room true (c :: rest)) := by
  have hFault
      (text : List Char)
      (hText : text = ':' :: c :: rest ∨ text = c :: rest) :
      settle? hasGap room ([], false, text) = none := by
    apply settle?_eq_none
    · rcases hText with rfl | rfl <;> exact List.cons_ne_nil _ _
    · rcases hText with rfl | rfl <;> simp [hColon]
  cases room with
  | zero =>
      rw [Ipv6.readGroups, Ipv6.readGroups,
        hFault _ (.inl rfl), hFault _ (.inr rfl)]
  | succ room =>
      rw [Ipv6.readGroups, Ipv6.readGroups]
      simp only [Ipv6.afterColon, Bool.false_eq_true, if_false,
        if_true]
      split
      · rfl
      · split
        · rw [hFault _ (.inl rfl), hFault _ (.inr rfl)]
        · rfl

/- Behind a single last colon there is a fault. -/
theorem settle?_readGroups_last_colon :
    settle? hasGap room (Ipv6.readGroups room false [':']) =
      none := by
  have hNone :
      Ipv6.readGroups room false [':'] =
        ([], false, [':']) := by
    cases room with
    | zero => rfl
    | succ room =>
        rw [Ipv6.readGroups]
        simp only [Ipv6.afterColon, Bool.false_eq_true,
          if_false]
        cases room <;> rfl
  rw [hNone]
  rfl

/- The double colon is settled as it is read. -/
theorem readPieces?_gap (rest : List Char) :
    readPieces? room hasGap (':' :: rest) =
      settle? hasGap room ([], false, ':' :: ':' :: rest) := by
  cases room with
  | zero => simp [readPieces?, settle?]
  | succ room =>
      rw [readPieces?]
      simp only [settle?, List.length_nil, Nat.sub_zero,
        Nat.add_sub_cancel, List.nil_append, Nat.zero_add]
      cases hasGap with
      | true => simp
      | false =>
          simp only [Bool.false_eq_true, false_or, if_false]
          rw [if_neg (by omega)]
          rfl

/- A character but a colon is a fault behind the groups. -/
theorem settle?_cons_eq_none
    {c : Char}
    (hFirst : c ≠ ':')
    (endsDotted : Bool)
    (rest : List Char) :
    settle? hasGap room ([], endsDotted, c :: rest) = none :=
  settle?_eq_none (List.cons_ne_nil _ _) (by simp [hFirst])

/- A piece that is a group settles with those behind it. -/
theorem readPieces?_group
    {c : Char}
    {rest back : List Char}
    {group : UInt16}
    (hFirst : c ≠ ':')
    (hGroup : Ipv6.readGroup (c :: rest) = some (group, back))
    (hDotted : room = 0 ∨ Ipv4.read (c :: rest) = none)
    (hBehind :
      ∀ text : List Char,
        text.head? ≠ some ':' →
          readPieces? room hasGap text =
            settle? hasGap room
              (Ipv6.readGroups room true text)) :
    readPieces? (room + 1) hasGap (c :: rest) =
      (settle? hasGap room
          (Ipv6.readGroups room false back)).map
        (.push group) := by
  rw [readPieces?_of_group hFirst hGroup]
  cases back with
  | nil =>
      rw [readGroups_of_no_colon (by simp)]
      rfl
  | cons d more =>
      by_cases hColon : d = ':'
      · subst hColon
        cases more with
        | nil =>
            rw [settle?_readGroups_last_colon]
            rfl
        | cons e more =>
            change
              (readPieces? room hasGap (e :: more)).map
                  (Pieces.push group) = _
            by_cases hGap : e = ':'
            · subst hGap
              rw [readPieces?_gap,
                Ipv6.readGroups_isEnd (.inr ⟨_, rfl⟩)]
            · rw [settle?_readGroups_colon hGap,
                hBehind _ (by simpa using hGap)]
      · rw [readGroups_of_no_colon (by simpa using hColon),
          settle?_cons_eq_none hColon]
        split
        · rename_i hNil
          cases hNil
        · split
          · rfl
          · rename_i hRoom
            rw [readDotted?_eq, hDotted.resolve_left hRoom]
            rfl
        · rename_i hLast
          cases hLast
          exact absurd rfl hColon
        · rename_i hMore
          cases hMore
          exact absurd rfl hColon
        · rfl

/- A dotted end settles if nothing stands behind it. -/
theorem readPieces?_dotted
    {c : Char}
    {rest behind : List Char}
    {address : Ipv4}
    (hFirst : c ≠ ':')
    (hRoom : room ≠ 0)
    (hRead : Ipv4.read (c :: rest) = some (address, behind)) :
    readPieces? (room + 1) hasGap (c :: rest) =
      settle? hasGap (room + 1)
        ( [ UInt16.ofNat (address.toNat / 0x10000),
            UInt16.ofNat address.toNat ],
          true, behind ) := by
  rcases exists_readGroup hRead with ⟨group, back, hGroup⟩
  rw [readPieces?_of_group hFirst hGroup]
  simp only [if_neg hRoom, readDotted?_eq, hRead]
  cases behind with
  | nil => rfl
  | cons d more =>
      rw [settle?_eq_none (List.cons_ne_nil _ _) (by simp)]
      rfl

/- Pieces are what settles once the groups have been read. -/
theorem readPieces?_eq_settle?
    {text : List Char}
    (hColon : text.head? ≠ some ':') :
    readPieces? room hasGap text =
      settle? hasGap room (Ipv6.readGroups room true text) := by
  induction room generalizing text with
  | zero =>
      cases text with
      | nil => rfl
      | cons c rest =>
          have hFirst : c ≠ ':' := by simpa using hColon
          rw [Ipv6.readGroups, settle?_cons_eq_none hFirst]
          rfl
  | succ room ih =>
      cases text with
      | nil =>
          rw [Ipv6.readGroups_isEnd (.inl rfl)]
          rfl
      | cons c rest =>
          have hFirst : c ≠ ':' := by simpa using hColon
          rw [Ipv6.readGroups]
          simp only [Ipv6.afterColon, if_true]
          cases hDotted :
              if room = 0 then
                none
              else
                Ipv4.read (c :: rest) with
          | some read =>
              rcases read with ⟨address, behind⟩
              have hRoom : room ≠ 0 := by
                rintro rfl
                cases hDotted
              rw [if_neg hRoom] at hDotted
              exact readPieces?_dotted hFirst hRoom hDotted
          | none =>
              cases hGroup : Ipv6.readGroup (c :: rest) with
              | none =>
                  rw [readPieces?_of_no_group hFirst hGroup]
                  exact
                    (settle?_cons_eq_none hFirst false _).symm
              | some read =>
                  have hPlain :
                      room = 0 ∨
                        Ipv4.read (c :: rest) = none := by
                    by_cases hRoom : room = 0
                    · exact .inl hRoom
                    · rw [if_neg hRoom] at hDotted
                      exact .inr hDotted
                  rw [readPieces?_group hFirst hGroup hPlain
                    (fun _ => ih)]
                  exact (settle?_cons read.1 _).symm

end Settle

------------------------------------------------------------
-- Addresses
------------------------------------------------------------

/- There are no more groups than there is room for. -/
theorem length_readGroups_le
    (room : Nat)
    (leading : Bool)
    (text : List Char) :
    (Ipv6.readGroups room leading text).1.length ≤ room := by
  induction room generalizing leading text with
  | zero => exact Nat.le_refl _
  | succ room ih =>
      rw [Ipv6.readGroups]
      split
      · exact Nat.zero_le _
      · split
        · rename_i hDotted
          have hRoom : room ≠ 0 := by
            rintro rfl
            cases hDotted
          simp only [List.length_cons, List.length_nil]
          omega
        · split
          · exact Nat.zero_le _
          · exact Nat.succ_le_succ (ih _ _)

/- No group begins with a colon. -/
theorem readGroups_colon
    (room : Nat)
    (rest : List Char) :
    Ipv6.readGroups room true (':' :: rest) =
      ([], false, ':' :: rest) := by
  cases room with
  | zero => rfl
  | succ room =>
      rw [Ipv6.readGroups]
      simp only [Ipv6.afterColon, if_true]
      cases room <;> rfl

/- Behind the double colon the groups go on to the end. -/
theorem readPieces?_behind_gap
    (room : Nat)
    (text : List Char) :
    readPieces? room true text =
      match Ipv6.readGroups room true text with
      | (groups, _, []) => some ⟨groups, none⟩
      | _ => none := by
  have hSettle (read : List UInt16 × Bool × List Char) :
      settle? true room read =
        match read with
        | (groups, _, []) => some ⟨groups, none⟩
        | _ => none := by
    rcases read with ⟨groups, endsDotted, rest⟩
    cases rest with
    | nil => rfl
    | cons c rest =>
        unfold settle?
        split <;> simp_all
  by_cases hColon : text.head? = some ':'
  · rcases List.head?_eq_some_iff.mp hColon with ⟨rest, rfl⟩
    rw [readPieces?_gap, hSettle, readGroups_colon]
  · rw [readPieces?_eq_settle? hColon, hSettle]

/-
  The places that the double colon leaves out are filled up
  with zeros, the one among the pieces being the first.
-/
theorem address?_gap
    {head tail : List UInt16}
    (hRoom : head.length + tail.length ≤ 7) :
    Pieces.address?
        ⟨head ++ 0 :: tail, some (head.length + 1)⟩ =
      some
        (Ipv6.ofGroups
          (head
            ++ List.replicate
                (8 - head.length - tail.length) 0
            ++ tail)) := by
  have hZeros :
      8 - head.length - tail.length =
        8 - (head ++ 0 :: tail).length + 1 := by
    rw [List.length_append, List.length_cons]
    omega
  have hLength : (head ++ [0]).length = head.length + 1 :=
    List.length_append
  have hTake :
      (head ++ 0 :: tail).take (head.length + 1) =
        head ++ [0] := by
    rw [List.append_cons, List.take_left' hLength]
  have hDrop :
      (head ++ 0 :: tail).drop (head.length + 1) = tail := by
    rw [List.append_cons, List.drop_left' hLength]
  unfold Pieces.address?
  dsimp only
  rw [hTake, hDrop, hZeros, List.replicate_succ,
    ← List.append_cons]

/- What is settled for a whole text is its address. -/
theorem settle?_bind_address? (text : List Char) :
    (settle? false 8
        (Ipv6.readGroups 8 true text)).bind Pieces.address? =
      Ipv6.ofChars? text := by
  have hMost := length_readGroups_le 8 true text
  unfold Ipv6.ofChars? Ipv6.read
  generalize Ipv6.readGroups 8 true text = read at hMost ⊢
  rcases read with ⟨head, endsDotted, rest⟩
  dsimp only at hMost ⊢
  by_cases hRest : rest = []
  · subst hRest
    simp only [settle?, Option.bind_some, Pieces.address?]
    split
    · rfl
    · cases endsDotted <;> rfl
  · by_cases hFull : head.length = 8
    · have hNone :
          settle? false 8 (head, endsDotted, rest) = none := by
        unfold settle?
        split <;> simp_all
      rw [hNone, if_pos hFull]
      split
      · simp_all
      · rfl
    · rw [if_neg hFull]
      by_cases hGap :
          ∃ more,
            (endsDotted, rest) = (false, ':' :: ':' :: more)
      · rcases hGap with ⟨more, hGap⟩
        cases hGap
        have hTail :=
          length_readGroups_le (7 - head.length) true more
        have hRoom : ¬8 ≤ head.length := by omega
        have hPlaces : 8 - head.length - 1 = 7 - head.length := by
          omega
        simp only [settle?, Bool.false_eq_true, false_or,
          if_neg hRoom, hPlaces, readPieces?_behind_gap,
          if_false]
        generalize
          Ipv6.readGroups (7 - head.length) true more = read
          at hTail ⊢
        rcases read with ⟨tail, tailDotted, behind⟩
        dsimp only at hTail ⊢
        cases behind with
        | nil =>
            have hFit : head.length + tail.length ≤ 7 := by
              omega
            exact address?_gap hFit
        | cons c behind => rfl
      · rw [not_exists] at hGap
        rw [settle?_eq_none hRest hGap]
        cases endsDotted with
        | true => rfl
        | false =>
            simp only [Bool.false_eq_true, if_false]
            split <;> simp_all

/- A URL reads the addresses that are read by themselves. -/
theorem ipv6Of?_eq (text : List Char) :
    ipv6Of? text = Ipv6.ofChars? text := by
  rw [← settle?_bind_address?]
  unfold ipv6Of?
  split
  · rw [Ipv6.readGroups_isEnd (.inr ⟨_, rfl⟩),
      readPieces?_gap]
  · rename_i hGap
    rw [readGroups_colon, settle?_eq_none (List.cons_ne_nil _ _)]
    · rfl
    · rintro more hSame
      cases hSame
      exact hGap _ rfl
  · rename_i hOther
    rw [readPieces?_eq_settle?]
    intro hColon
    rcases List.head?_eq_some_iff.mp hColon with ⟨rest, rfl⟩
    exact hOther _ rfl

end BrainLink.Url
