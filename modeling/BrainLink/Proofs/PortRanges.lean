import BrainLink.PortRange
import BrainLink.Proofs.Numerals

/-
  Which texts are ranges of ports, and which ports of a range
  can be found.

  Key definitions include:
    * `PortRange.Spells`

  Main statements:
    * `Text.cutAt_eq_some_iff`
    * `PortRange.readPort_eq_ok_iff`
    * `PortRange.parse_eq_ok_iff`
    * `PortRange.firstFree?_eq_some_iff`
    * `ranges_read_as_spelled`

  The first dash of a text divides it, so a second dash is
  part of what should be the last port and makes it none. The
  search for a free port goes through the whole range, up to
  and with its last port.
-/

namespace BrainLink

------------------------------------------------------------
-- Cuts
------------------------------------------------------------

/- A text is cut at its first mark. -/
theorem Text.cutAt_eq_some_iff
    {mark : Char}
    {text before after : List Char} :
    cutAt mark text = some (before, after) ↔
      text = before ++ mark :: after ∧ mark ∉ before := by
  have hFound {front rest : List Char} (hMark : mark ∉ front) :
      cutAt mark (front ++ mark :: rest) =
        some (front, rest) := by
    unfold cutAt
    rw [dropWhile_mark hMark, takeWhile_mark hMark]
  constructor
  · intro hCut
    by_cases hMark : mark ∈ text
    · rcases List.eq_append_cons_of_mem hMark with
        ⟨front, rest, rfl, hFront⟩
      rw [hFound hFront] at hCut
      cases hCut
      exact ⟨rfl, hFront⟩
    · unfold cutAt at hCut
      rw [dropWhile_run (bne_of_not_mem hMark)] at hCut
      cases hCut
  · rintro ⟨rfl, hMark⟩
    exact hFound hMark

namespace PortRange

------------------------------------------------------------
-- Texts
------------------------------------------------------------

/-
  A text that spells a range: its first port, a dash, and its
  last port. Zero is no port, and the last port is not before
  the first one.
-/
inductive Spells (range : PortRange) : List Char → Prop where
| intro
    {before after : List Char}
    (hDash : '-' ∉ before)
    (hFirst : Text.Holds range.first.toNat before)
    (hLast : Text.Holds range.last.toNat after)
    (hPositive : 1 ≤ range.first)
    (hOrder : range.first ≤ range.last) :
    Spells range (before ++ '-' :: after)

theorem Spells.first_ne_zero
    {range : PortRange}
    {text : List Char}
    (hSpells : range.Spells text) :
    range.first ≠ 0 := by
  cases hSpells with
  | intro _ _ _ hPositive _ =>
      intro hZero
      rw [hZero] at hPositive
      exact absurd hPositive (by decide)

/- A port is read where a text holds a number that small. -/
theorem readPort_eq_ok_iff
    {text : List Char}
    {port : Nat} :
    readPort text = .ok port ↔
      Text.Holds port text ∧ port ≤ 65535 :=
  Text.readNat_trimChars_eq_ok_iff

theorem readPort_eq_ok
    {text : List Char}
    {port : UInt16}
    (hPort : Text.Holds port.toNat text) :
    readPort text = .ok port.toNat :=
  readPort_eq_ok_iff.mpr
    ⟨hPort, Nat.le_of_lt_succ port.toNat_lt⟩

/- What is read is spelled. -/
theorem spells_of_parse
    {text : String}
    {range : PortRange}
    (hParse : parse text = .ok range) :
    range.Spells text.toList := by
  unfold parse at hParse
  split at hParse
  · cases hParse
  · rename_i before after hCut
    rcases Text.cutAt_eq_some_iff.mp hCut with ⟨hText, hDash⟩
    split at hParse
    · cases hParse
    · rename_i start hStart
      split at hParse
      · cases hParse
      · rename_i stop hStop
        rw [readPort_eq_ok_iff] at hStart hStop
        split at hParse
        · cases hParse
        · rename_i hZero
          split at hParse
          · cases hParse
          · rename_i hReversed
            cases hParse
            have hFirst : (UInt16.ofNat start).toNat = start :=
              UInt16.toNat_ofNat_of_lt'
                (Nat.lt_succ_of_le hStart.2)
            have hLast : (UInt16.ofNat stop).toNat = stop :=
              UInt16.toNat_ofNat_of_lt'
                (Nat.lt_succ_of_le hStop.2)
            rw [hText]
            refine .intro hDash ?_ ?_ ?_ ?_
            · rw [hFirst]
              exact hStart.1
            · rw [hLast]
              exact hStop.1
            · rw [UInt16.le_iff_toNat_le, hFirst]
              exact Nat.pos_of_ne_zero hZero
            · rw [UInt16.le_iff_toNat_le, hFirst, hLast]
              exact Nat.le_of_not_lt hReversed

/- What is spelled is read. -/
theorem parse_of_spells
    {text : String}
    {range : PortRange}
    (hSpells : range.Spells text.toList) :
    parse text = .ok range := by
  generalize hText : text.toList = chars at hSpells
  rcases hSpells with
    ⟨hDash, hFirst, hLast, hPositive, hOrder⟩
  have hCut := Text.cutAt_eq_some_iff.mpr ⟨hText, hDash⟩
  have hZero : range.first.toNat ≠ 0 :=
    Nat.ne_of_gt (UInt16.le_iff_toNat_le.mp hPositive)
  have hStop : ¬ range.last.toNat < range.first.toNat :=
    Nat.not_lt_of_le (UInt16.le_iff_toNat_le.mp hOrder)
  unfold parse
  rw [hCut]
  dsimp only
  rw [readPort_eq_ok hFirst]
  dsimp only
  rw [readPort_eq_ok hLast]
  dsimp only
  rw [if_neg hZero, if_neg hStop, UInt16.ofNat_toNat,
    UInt16.ofNat_toNat]

theorem parse_eq_ok_iff
    {text : String}
    {range : PortRange} :
    parse text = .ok range ↔ range.Spells text.toList :=
  ⟨spells_of_parse, parse_of_spells⟩

/- A second dash belongs to what should be the last port. -/
example :
    parse "8400-8401-8402" =
      .error (.badEnd "8401-8402" .notADigit) := by
  decide +kernel

/- No range begins at port zero. -/
theorem first_ne_zero_of_parse
    {text : String}
    {range : PortRange}
    (hParse : parse text = .ok range) :
    range.first ≠ 0 :=
  (spells_of_parse hParse).first_ne_zero

/- The usual spelling: two numbers without blanks or signs. -/
theorem spells_decimal
    {range : PortRange}
    (hPositive : 1 ≤ range.first)
    (hOrder : range.first ≤ range.last) :
    range.Spells
      (toString range.first ++ "-"
        ++ toString range.last).toList := by
  have hChars :
      (toString range.first ++ "-"
          ++ toString range.last).toList =
        Text.decimalChars range.first.toNat
          ++ '-' :: Text.decimalChars range.last.toNat := by
    change
      (range.first.toNat.repr ++ "-"
          ++ range.last.toNat.repr).toList =
        _
    simp only [String.toList_append, Nat.toList_repr,
      List.append_assoc]
    rfl
  have hDash :
      '-' ∉ Text.decimalChars range.first.toNat := by
    intro hMem
    exact
      absurd (Text.isDigit_decimalChars _ _ hMem) (by decide)
  rw [hChars]
  exact
    .intro hDash (Text.holds_decimalChars _)
      (Text.holds_decimalChars _) hPositive hOrder

------------------------------------------------------------
-- Search
------------------------------------------------------------

theorem ports_eq_range' (range : PortRange) :
    range.ports =
      List.range' range.first.toNat
        (range.last.toNat + 1 - range.first.toNat) := by
  unfold ports
  rw [List.range_eq_range', List.drop_range', Nat.mul_one,
    Nat.zero_add]

/- The ports of a range are those between its two ends. -/
theorem mem_ports
    {range : PortRange}
    {port : Nat} :
    port ∈ range.ports ↔
      range.first.toNat ≤ port ∧ port ≤ range.last.toNat := by
  rw [ports_eq_range', List.mem_range'_1]
  omega

/- The search finds the first port of a range that is free. -/
theorem firstFree?_eq_some_iff
    {range : PortRange}
    {isFree : Nat → Bool}
    {port : Nat} :
    range.firstFree? isFree = some port ↔
      isFree port = true ∧
        (range.first.toNat ≤ port ∧
          port ≤ range.last.toNat) ∧
          ∀ earlier,
            range.first.toNat ≤ earlier →
            earlier < port →
              isFree earlier = false := by
  unfold firstFree?
  rw [← mem_ports, ports_eq_range', List.find?_range'_eq_some]
  simp only [Bool.not_eq_true']

end PortRange

/-
  The texts that are read as a range are those that spell it,
  among them its two ports with a dash between them. Of a
  range that was read, the first port that is free is found,
  be it the last one, and it is not zero.
-/
theorem ranges_read_as_spelled
    (text : String)
    (range : PortRange) :
    (PortRange.parse text = .ok range ↔
        range.Spells text.toList) ∧
      (1 ≤ range.first →
        range.first ≤ range.last →
          PortRange.parse
              (toString range.first ++ "-"
                ++ toString range.last) =
            .ok range) ∧
        (PortRange.parse text = .ok range →
          ∀ isFree port,
            range.firstFree? isFree = some port ↔
              port ≠ 0 ∧
                (range.first.toNat ≤ port ∧
                  port ≤ range.last.toNat) ∧
                  isFree port = true ∧
                    ∀ earlier,
                      range.first.toNat ≤ earlier →
                      earlier < port →
                        isFree earlier = false) := by
  refine
    ⟨PortRange.parse_eq_ok_iff,
      fun hPositive hOrder =>
        PortRange.parse_of_spells
          (PortRange.spells_decimal hPositive hOrder),
      ?_⟩
  intro hParse isFree port
  have hFirst : range.first.toNat ≠ 0 := by
    intro hZero
    exact
      PortRange.first_ne_zero_of_parse hParse
        (UInt16.toNat_inj.mp hZero)
  rw [PortRange.firstFree?_eq_some_iff]
  constructor
  · rintro ⟨hFree, hRange, hEarlier⟩
    exact ⟨by omega, hRange, hFree, hEarlier⟩
  · rintro ⟨-, hRange, hFree, hEarlier⟩
    exact ⟨hFree, hRange, hEarlier⟩

/- A range up to the last port of all, with a sign and blanks. -/
theorem last_port_found :
    PortRange.parse "\t8400 - +065535\n" =
        .ok ⟨8400, 65535⟩ ∧
      PortRange.parse "8400-65535" = .ok ⟨8400, 65535⟩ ∧
        PortRange.firstFree? ⟨8400, 65535⟩
            (fun port => port == 65535) =
          some 65535 := by
  have hParse :
      PortRange.parse "\t8400 - +065535\n" =
        .ok ⟨8400, 65535⟩ := by
    decide +kernel
  rcases
      ranges_read_as_spelled "\t8400 - +065535\n"
        ⟨8400, 65535⟩ with
    ⟨-, hDecimal, hSearch⟩
  refine ⟨hParse, hDecimal (by decide) (by decide), ?_⟩
  apply (hSearch hParse _ _).mpr
  refine ⟨by decide, by decide, by decide, ?_⟩
  intro earlier _ hEarlier
  exact beq_eq_false_iff_ne.mpr (Nat.ne_of_lt hEarlier)

end BrainLink
