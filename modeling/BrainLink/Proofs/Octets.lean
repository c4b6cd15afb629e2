import BrainLink.Text.Utf8

/-
  What was written in UTF-8 is read back as it was.

  Main statements:
    * `Text.readOctets_utf8EncodeChar`
    * `Text.ofOctets_octetsOf`

  The first octet of a character promises how many follow and
  in which range the second is; the octets that are written
  keep the promise, as a character is no surrogate and is
  written as short as it can be.
-/

namespace BrainLink.Text

theorem readOctets_cons
    (pending : Option Pending)
    (octet : UInt8)
    (rest : List UInt8) :
    readOctets pending (octet :: rest) =
      (Pending.read pending octet).1 ++
        readOctets (Pending.read pending octet).2 rest := by
  cases pending with
  | none => rfl
  | some _ => rfl

------------------------------------------------------------
-- First Octets
------------------------------------------------------------

theorem ofLead?_two
    {bits : Nat}
    (hLeast : 2 ≤ bits)
    (hMost : bits < 32) :
    Pending.ofLead? (UInt8.ofNat (bits + 192)) =
      some ⟨0, 0x80, 0xBF, bits⟩ := by
  have hAll :
      ∀ bits < 32,
        2 ≤ bits →
          Pending.ofLead? (UInt8.ofNat (bits + 192)) =
            some ⟨0, 0x80, 0xBF, bits⟩ := by
    decide
  exact hAll bits hMost hLeast

theorem ofLead?_three
    {bits : Nat}
    (hMost : bits < 16) :
    Pending.ofLead? (UInt8.ofNat (bits + 224)) =
      some
        ⟨ 1,
          if bits = 0 then 0xA0 else 0x80,
          if bits = 13 then 0x9F else 0xBF,
          bits ⟩ := by
  have hAll :
      ∀ bits < 16,
        Pending.ofLead? (UInt8.ofNat (bits + 224)) =
          some
            ⟨ 1,
              if bits = 0 then 0xA0 else 0x80,
              if bits = 13 then 0x9F else 0xBF,
              bits ⟩ := by
    decide
  exact hAll bits hMost

theorem ofLead?_four
    {bits : Nat}
    (hMost : bits < 5) :
    Pending.ofLead? (UInt8.ofNat (bits + 240)) =
      some
        ⟨ 2,
          if bits = 0 then 0x90 else 0x80,
          if bits = 4 then 0x8F else 0xBF,
          bits ⟩ := by
  have hAll :
      ∀ bits < 5,
        Pending.ofLead? (UInt8.ofNat (bits + 240)) =
          some
            ⟨ 2,
              if bits = 0 then 0x90 else 0x80,
              if bits = 4 then 0x8F else 0xBF,
              bits ⟩ := by
    decide
  exact hAll bits hMost

/- An octet past the ASCII range that promises more. -/
theorem readOctets_lead
    {bits : Nat}
    {pending : Pending}
    (hLeast : 128 ≤ bits)
    (hMost : bits < 256)
    (hLead : Pending.ofLead? (UInt8.ofNat bits) = some pending)
    (rest : List UInt8) :
    readOctets none (UInt8.ofNat bits :: rest) =
      readOctets (some pending) rest := by
  have hOctet : (UInt8.ofNat bits).toNat = bits := by
    rw [UInt8.toNat_ofNat']
    omega
  have hNot : ¬ UInt8.ofNat bits < 0x80 := by
    rw [UInt8.lt_iff_toNat_lt, hOctet]
    exact Nat.not_lt.mpr hLeast
  have hBegin :
      Pending.begin (UInt8.ofNat bits) = ([], some pending) := by
    unfold Pending.begin
    rw [if_neg hNot, hLead]
  rw [readOctets_cons, Pending.read, hBegin]
  rfl

------------------------------------------------------------
-- Other Octets
------------------------------------------------------------

section Follow

variable {least most : UInt8}
variable {low : Nat}

/- An octet in its range adds its bits to the character. -/
theorem next_follow
    (hLow : low < 64)
    (hLeast : least.toNat ≤ low + 128)
    (hMost : low + 128 ≤ most.toNat)
    (left bits : Nat) :
    Pending.next ⟨left, least, most, bits⟩
        (UInt8.ofNat (low + 128)) =
      match left with
      | 0 => ([Char.ofNat (bits * 64 + low)], none)
      | left + 1 =>
          ([], some ⟨left, 0x80, 0xBF, bits * 64 + low⟩) := by
  have hOctet : (UInt8.ofNat (low + 128)).toNat = low + 128 := by
    rw [UInt8.toNat_ofNat']
    omega
  have hRange :
      least ≤ UInt8.ofNat (low + 128) ∧
        UInt8.ofNat (low + 128) ≤ most := by
    rw [UInt8.le_iff_toNat_le, UInt8.le_iff_toNat_le, hOctet]
    exact ⟨hLeast, hMost⟩
  have hBits : (UInt8.ofNat (low + 128)).toNat - 0x80 = low := by
    rw [hOctet]
    omega
  refine (if_pos hRange).trans ?_
  cases left with
  | zero =>
      dsimp only
      rw [hBits]
  | succ left =>
      dsimp only
      rw [hBits]

/- Some octets are still to come. -/
theorem readOctets_follow
    (hLow : low < 64)
    (hLeast : least.toNat ≤ low + 128)
    (hMost : low + 128 ≤ most.toNat)
    (left bits : Nat)
    (rest : List UInt8) :
    readOctets (some ⟨left + 1, least, most, bits⟩)
        (UInt8.ofNat (low + 128) :: rest) =
      readOctets (some ⟨left, 0x80, 0xBF, bits * 64 + low⟩)
        rest := by
  rw [readOctets_cons, Pending.read,
    next_follow hLow hLeast hMost]
  rfl

/- The last octet gives the character. -/
theorem readOctets_follow_last
    (hLow : low < 64)
    (hLeast : least.toNat ≤ low + 128)
    (hMost : low + 128 ≤ most.toNat)
    (bits : Nat)
    (rest : List UInt8) :
    readOctets (some ⟨0, least, most, bits⟩)
        (UInt8.ofNat (low + 128) :: rest) =
      Char.ofNat (bits * 64 + low) :: readOctets none rest := by
  rw [readOctets_cons, Pending.read,
    next_follow hLow hLeast hMost]
  rfl

end Follow

------------------------------------------------------------
-- Characters
------------------------------------------------------------

/- The octets of a character are read as it. -/
theorem readOctets_utf8EncodeChar
    (c : Char)
    (rest : List UInt8) :
    readOctets none (String.utf8EncodeChar c ++ rest) =
      c :: readOctets none rest := by
  have hValid :
      c.toNat < 0xD800 ∨ 0xDFFF < c.toNat ∧ c.toNat < 0x110000 :=
    c.valid
  have hSame {bits : Nat} (hBits : bits = c.toNat) :
      Char.ofNat bits = c := by
    rw [hBits, Char.ofNat_toNat]
  have hLow (bits : Nat) : bits % 64 < 64 :=
    Nat.mod_lt _ (by decide)
  have hLeast (bits : Nat) :
      (0x80 : UInt8).toNat ≤ bits % 64 + 128 :=
    Nat.le_add_left 128 _
  have hMost (bits : Nat) :
      bits % 64 + 128 ≤ (0xBF : UInt8).toNat := by
    have := hLow bits
    change bits % 64 + 128 ≤ 191
    omega
  unfold String.utf8EncodeChar
  dsimp only
  rw [Char.toNat_val]
  generalize c.toNat = code at hValid hSame
  split
  · rename_i hOne
    have hOctet : (UInt8.ofNat code).toNat = code := by
      rw [UInt8.toNat_ofNat']
      omega
    have hShort : UInt8.ofNat code < 0x80 := by
      rw [UInt8.lt_iff_toNat_lt, hOctet]
      exact Nat.lt_succ_of_le hOne
    rw [List.singleton_append, readOctets_cons, Pending.read,
      Pending.begin, if_pos hShort, hOctet, hSame rfl]
    rfl
  split
  · rename_i hOne hTwo
    have hBits : code / 64 % 32 * 64 + code % 64 = code := by
      omega
    rw [List.cons_append,
      readOctets_lead (by omega) (by omega)
        (ofLead?_two (by omega) (by omega)),
      List.singleton_append,
      readOctets_follow_last (hLow _) (hLeast _) (hMost _),
      hSame hBits]
  split
  · rename_i hOne hTwo hThree
    have hBits :
        (code / 4096 % 16 * 64 + code / 64 % 64) * 64
            + code % 64 =
          code := by
      omega
    have hShort :
        UInt8.toNat
            (if code / 4096 % 16 = 0 then 0xA0 else 0x80) ≤
          code / 64 % 64 + 128 := by
      split
      · change 160 ≤ _
        omega
      · exact hLeast _
    have hSurrogate :
        code / 64 % 64 + 128 ≤
          UInt8.toNat
            (if code / 4096 % 16 = 13 then 0x9F else 0xBF) := by
      split
      · change _ ≤ 159
        omega
      · exact hMost _
    rw [List.cons_append,
      readOctets_lead (by omega) (by omega)
        (ofLead?_three (by omega)),
      List.cons_append,
      readOctets_follow (hLow _) hShort hSurrogate,
      List.singleton_append,
      readOctets_follow_last (hLow _) (hLeast _) (hMost _),
      hSame hBits]
  · rename_i hOne hTwo hThree
    have hBits :
        ((code / 262144 % 8 * 64 + code / 4096 % 64) * 64
              + code / 64 % 64) * 64
            + code % 64 =
          code := by
      omega
    have hShort :
        UInt8.toNat
            (if code / 262144 % 8 = 0 then 0x90 else 0x80) ≤
          code / 4096 % 64 + 128 := by
      split
      · change 144 ≤ _
        omega
      · exact hLeast _
    have hPast :
        code / 4096 % 64 + 128 ≤
          UInt8.toNat
            (if code / 262144 % 8 = 4 then 0x8F else 0xBF) := by
      split
      · change _ ≤ 143
        omega
      · exact hMost _
    rw [List.cons_append,
      readOctets_lead (by omega) (by omega)
        (ofLead?_four (by omega)),
      List.cons_append,
      readOctets_follow (hLow _) hShort hPast,
      List.cons_append,
      readOctets_follow (hLow _) (hLeast _) (hMost _),
      List.singleton_append,
      readOctets_follow_last (hLow _) (hLeast _) (hMost _),
      hSame hBits]

/- A text that was written as octets is read back. -/
theorem ofOctets_octetsOf (text : String) :
    ofOctets (octetsOf text) = text := by
  have hAll (chars : List Char) :
      readOctets none (chars.flatMap String.utf8EncodeChar) =
        chars := by
    induction chars with
    | nil => rfl
    | cons c chars ih =>
        rw [List.flatMap_cons, readOctets_utf8EncodeChar, ih]
  unfold ofOctets octetsOf
  rw [hAll, String.ofList_toList]

end BrainLink.Text
