import BrainLink.Proofs.Pieces
import BrainLink.Url.Parser

/-
  Internet addresses as the hosts of URLs.

  Key definitions include:
    * `Url.Host.ofAddress`
    * `Url.Host.IsWritten`

  Main statements:
    * `Url.Host.parse_four`
    * `Url.Host.parse_six`
    * `Url.Host.isWritten_toChars`
    * `Url.Host.exists_withPort`

  An address stands in a URL as it is usually written or, once
  the URL is in normal form, in its compressed form. Of either
  text a URL makes the same host, and it ends where the port
  begins.
-/

namespace BrainLink

namespace Text

------------------------------------------------------------
-- Parts
------------------------------------------------------------

/- A text without the mark is its only part. -/
theorem fields_of_not_mem
    {mark : Char}
    {text : List Char}
    (hMark : mark ∉ text) :
    fields mark text = [text] := by
  induction text with
  | nil => rfl
  | cons c text ih =>
      rw [List.mem_cons, not_or] at hMark
      have hNot : (c == mark) = false := by
        simpa using Ne.symm hMark.1
      simp [fields, hNot, ih hMark.2]

/- The parts between marks are those a list is split into. -/
theorem fields_eq_splitOn
    (mark : Char)
    (text : List Char) :
    fields mark text = text.splitOn mark := by
  rw [List.splitOn_eq_splitOnP]
  induction text with
  | nil => rfl
  | cons c text ih =>
      rw [List.splitOnP_cons_eq_if_modifyHead, fields, ih]
      split
      · rfl
      · cases hParts : text.splitOnP (· == mark) with
        | nil => exact absurd hParts (List.splitOnP_ne_nil _ _)
        | cons first others => rfl

/- A mark anywhere divides the parts before and behind it. -/
theorem fields_append_mark
    (mark : Char)
    (front back : List Char) :
    fields mark (front ++ mark :: back) =
      fields mark front ++ fields mark back := by
  simp only [fields_eq_splitOn, List.splitOn_eq_splitOnP]
  exact
    List.splitOnP_append_cons front back
      (beq_self_eq_true mark)

/- The part before the first mark. -/
theorem fields_append
    {mark : Char}
    {part : List Char}
    (hMark : mark ∉ part)
    (rest : List Char) :
    fields mark (part ++ mark :: rest) =
      part :: fields mark rest := by
  rw [fields_append_mark, fields_of_not_mem hMark,
    List.singleton_append]

end Text

namespace Url

------------------------------------------------------------
-- Decoding
------------------------------------------------------------

/- Nothing is decoded where there is no percent sign. -/
theorem decodeOctets_of_not_mem
    {text : List Char}
    (hPercent : '%' ∉ text) :
    decodeOctets text = text.flatMap String.utf8EncodeChar := by
  induction text with
  | nil => rfl
  | cons c text ih =>
      rw [List.mem_cons, not_or] at hPercent
      rw [decodeOctets.eq_3 c text
        (fun _ _ _ hSame _ => hPercent.1 hSame.symm),
        ih hPercent.2, List.flatMap_cons]

theorem decodeText?_of_not_mem
    {text : List Char}
    (hPercent : '%' ∉ text) :
    decodeText? text = some text := by
  have hOctets :
      (⟨(decodeOctets text).toArray⟩ : ByteArray) =
        text.utf8Encode := by
    rw [decodeOctets_of_not_mem hPercent]
    apply ByteArray.ext
    simp [List.utf8Encode]
  unfold decodeText?
  rw [hOctets, String.fromUTF8?,
    dif_pos ByteArray.isValidUTF8_utf8Encode]
  have hText :
      String.fromUTF8 text.utf8Encode
          ByteArray.isValidUTF8_utf8Encode =
        String.ofList text := by
    rw [← String.toByteArray_inj, String.toByteArray_ofList]
    rfl
  rw [hText, Option.map_some, String.toList_ofList]

------------------------------------------------------------
-- Hosts
------------------------------------------------------------

namespace Host

/- A part that does not begin with a zero is decimal. -/
theorem partNumber_of_head
    {digits : List Char}
    (hNil : digits ≠ [])
    (hHead : digits.head? ≠ some '0') :
    partNumber digits =
      digitsNumber 10 Char.isDigit digits := by
  unfold partNumber
  split
  · exact absurd rfl hNil
  all_goals first | rfl | exact absurd rfl hHead

/- The number of a part of a dotted address. -/
theorem partNumber_decimalChars
    {number : Nat}
    (hLess : number < 256) :
    partNumber (Text.decimalChars number) = .number number := by
  have hDigits := Text.isDigit_decimalChars number
  have hSmall : number < Nat.pow 2 32 :=
    Nat.lt_of_lt_of_le hLess (by decide)
  by_cases hZero : number = 0
  · subst hZero
    rfl
  · rw [partNumber_of_head (Text.decimalChars_ne_nil number)
      (fun hHead =>
        hZero (Text.eq_zero_of_head?_decimalChars hHead))]
    unfold digitsNumber
    rw [if_pos (List.all_eq_true.mpr hDigits),
      Text.numberOf_decimalChars_hex]
    exact if_pos hSmall

/- The parts of a dotted address. -/
def octets (address : Ipv4) : List (List Char) :=
  [ Text.decimalChars address.first.toNat,
    Text.decimalChars address.second.toNat,
    Text.decimalChars address.third.toNat,
    Text.decimalChars address.fourth.toNat ]

theorem fields_toChars (address : Ipv4) :
    Text.fields '.' address.toChars = octets address := by
  have hDot (number : Nat) :
      '.' ∉ Text.decimalChars number := by
    intro hMem
    exact absurd (Text.isDigit_decimalChars number _ hMem)
      (by decide)
  simp only [Ipv4.toChars, List.append_assoc, List.cons_append,
    Text.fields_append (hDot _),
    Text.fields_of_not_mem (hDot _)]
  rfl

theorem dottedParts_toChars (address : Ipv4) :
    dottedParts address.toChars = octets address := by
  have hLast : (octets address).getLast? ≠ some [] := by
    simp [octets, Text.decimalChars_ne_nil]
  unfold dottedParts
  rw [fields_toChars]
  simp [hLast]

/- A dotted text is in ASCII as it is. -/
theorem toAscii_toChars (address : Ipv4) :
    Domain.toAscii address.toChars = .ok address.toChars := by
  have hAll :
      ∀ c ∈ dottedChars,
        Domain.isForeign c = false ∧
          Domain.isForbidden c = false ∧ c.toLower = c :=
    Text.forall_mem (by decide)
  have hChars :
      ∀ c ∈ address.toChars,
        Domain.isForeign c = false ∧
          Domain.isForbidden c = false ∧ c.toLower = c :=
    fun c hMem => hAll c (Ipv4.mem_dottedChars hMem)
  have hLower :
      Text.lowerChars address.toChars = address.toChars := by
    unfold Text.lowerChars
    rw [List.map_congr_left fun c hMem => (hChars c hMem).2.2,
      List.map_id']
  have hMark (number : Nat) :
      Domain.punycodeMark.isPrefixOf
          (Text.decimalChars number) =
        false := by
    rw [Bool.eq_false_iff, ne_eq, List.isPrefixOf_iff_prefix]
    intro hPrefix
    have hMem : 'x' ∈ Text.decimalChars number :=
      hPrefix.mem List.mem_cons_self
    exact absurd (Text.isDigit_decimalChars number _ hMem)
      (by decide)
  have hSimple : Domain.isSimple address.toChars = true := by
    unfold Domain.isSimple
    rw [hLower, fields_toChars, Bool.and_eq_true]
    constructor
    · apply List.all_eq_true.mpr
      intro c hMem
      rw [(hChars c hMem).1]
      rfl
    · simp [octets, hMark]
  have hAllowed :
      address.toChars.any Domain.isForbidden = false := by
    apply List.any_eq_false.mpr
    intro c hMem
    simp [(hChars c hMem).2.1]
  unfold Domain.toAscii
  rw [hSimple, hLower, hAllowed]
  rfl

/- A dotted text has to be an address. -/
theorem endsInNumber_toChars (address : Ipv4) :
    endsInNumber address.toChars = true := by
  have hDigits :
      (Text.decimalChars address.fourth.toNat).all Char.isDigit =
        true :=
    List.all_eq_true.mpr (Text.isDigit_decimalChars _)
  unfold endsInNumber
  rw [dottedParts_toChars]
  simp only [octets, List.getLast?_cons_cons,
    List.getLast?_singleton]
  split
  · contradiction
  · rename_i hNil
    exact
      absurd (Option.some.inj hNil) (Text.decimalChars_ne_nil _)
  · rename_i hSome
    rw [← Option.some.inj hSome, hDigits, Bool.true_or]

/- The numbers of a dotted text are its octets. -/
theorem parseIpv4_toChars (address : Ipv4) :
    parseIpv4 address.toChars = .ok address := by
  have hFirst : address.first.toNat < 256 :=
    address.first.toNat_lt
  have hSecond : address.second.toNat < 256 :=
    address.second.toNat_lt
  have hThird : address.third.toNat < 256 :=
    address.third.toNat_lt
  have hFourth : address.fourth.toNat < 256 :=
    address.fourth.toNat_lt
  have hNumbers :
      partNumbers? (octets address) =
        some
          [ address.first.toNat, address.second.toNat,
            address.third.toNat, address.fourth.toNat ] := by
    simp only [octets, partNumbers?,
      partNumber_decimalChars hFirst,
      partNumber_decimalChars hSecond,
      partNumber_decimalChars hThird,
      partNumber_decimalChars hFourth]
  have hLess :
      ¬(256 ≤ address.fourth.toNat ∨
        255 < address.third.toNat ∨
          255 < address.second.toNat ∨
            255 < address.first.toNat) := by
    omega
  unfold parseIpv4
  simp only [dottedParts_toChars, hNumbers]
  change
    (if _ then _ else Except.ok (Ipv4.ofNat address.toNat)) = _
  rw [Ipv4.ofNat_toNat]
  apply if_neg
  simpa using hLess

/- A dotted text is the host that the address is. -/
theorem parse_four (address : Ipv4) :
    Host.parse address.toChars = .ok (.four address) := by
  have hPercent : '%' ∉ address.toChars := by
    intro hMem
    exact absurd (Ipv4.mem_dottedChars hMem) (by decide)
  have hBracket :
      (address.toChars.head? == some '[') = false := by
    rw [beq_eq_false_iff_ne]
    intro hHead
    exact
      absurd (Ipv4.mem_dottedChars (List.mem_of_head? hHead))
        (by decide)
  have hNotEmpty : address.toChars ≠ [] := by
    simp [Ipv4.toChars]
  unfold Host.parse
  rw [hBracket, decodeText?_of_not_mem hPercent]
  simp only [Bool.false_eq_true, if_false, toAscii_toChars]
  rw [if_pos (endsInNumber_toChars address),
    parseIpv4_toChars]
  rfl

/- A text in brackets is the host that the address is. -/
theorem parse_six
    {text : List Char}
    {address : Ipv6}
    (hText : Ipv6.ofChars? text = some address) :
    Host.parse ('[' :: text ++ [']']) = .ok (.six address) := by
  have hLast :
      (('[' :: text ++ [']']).getLast? == some ']') = true := by
    rw [List.getLast?_concat]
    rfl
  have hInner :
      ('[' :: text ++ [']']).tail.dropLast = text := by
    simp
  unfold Host.parse
  rw [if_pos (by simp)]
  unfold parseBracketed
  rw [if_pos hLast, hInner, ipv6Of?_eq, hText]

end Host

------------------------------------------------------------
-- Hosts in front of ports
------------------------------------------------------------

/- Outside brackets, a text without colons has no port. -/
theorem cutPort_append_outside
    {text : List Char}
    (hText : ∀ c ∈ text, c ∉ [':', '[', ']'])
    (rest : List Char) :
    cutPort false (text ++ rest) =
      ( text ++ (cutPort false rest).1,
        (cutPort false rest).2 ) := by
  induction text with
  | nil => rfl
  | cons c text ih =>
      have hFirst := hText c List.mem_cons_self
      have hRest := ih fun c hMem =>
        hText c (List.mem_cons_of_mem _ hMem)
      simp only [List.mem_cons, List.not_mem_nil, or_false,
        not_or] at hFirst
      simp [cutPort, hFirst, hRest]

/- Inside brackets, a text has no port up to their end. -/
theorem cutPort_append_inside
    {text : List Char}
    (hText : ∀ c ∈ text, c ∉ ['[', ']'])
    (rest : List Char) :
    cutPort true (text ++ ']' :: rest) =
      ( text ++ ']' :: (cutPort false rest).1,
        (cutPort false rest).2 ) := by
  induction text with
  | nil => rfl
  | cons c text ih =>
      have hFirst := hText c List.mem_cons_self
      have hRest := ih fun c hMem =>
        hText c (List.mem_cons_of_mem _ hMem)
      simp only [List.mem_cons, List.not_mem_nil, or_false,
        not_or] at hFirst
      simp [cutPort, hFirst, hRest]

namespace Host

/- The host that an address is. -/
def ofAddress : Address → Host
| .four address => .four address
| .six address => .six address

/- The characters of an address in a URL. -/
def hostChars : List Char :=
  '[' :: ']' :: addressChars

/-
  A text that a host can be written as: it is read as the
  host, and a port may stand behind it.
-/
structure IsWritten
    (host : Host)
    (text : List Char) :
    Prop where
  ne_nil : text ≠ []
  mem_hostChars : ∀ c ∈ text, c ∈ hostChars
  parse_eq : Host.parse text = .ok host
  cutPort_append :
    ∀ rest,
      cutPort false (text ++ rest) =
        ( text ++ (cutPort false rest).1,
          (cutPort false rest).2 )

/- A host of version four may be a dotted text. -/
theorem isWritten_four (address : Ipv4) :
    IsWritten (.four address) address.toChars where
  ne_nil := by simp [Ipv4.toChars]
  mem_hostChars c hMem :=
    List.mem_cons_of_mem _
      (List.mem_cons_of_mem _ (Ipv4.mem_addressChars hMem))
  parse_eq := parse_four address
  cutPort_append := by
    have hAll : ∀ c ∈ dottedChars, c ∉ [':', '[', ']'] :=
      Text.forall_mem (by decide)
    apply cutPort_append_outside
    exact fun c hMem => hAll c (Ipv4.mem_dottedChars hMem)

/- A host of version six may be any text in brackets. -/
theorem isWritten_six
    {text : List Char}
    {address : Ipv6}
    (hText : Ipv6.ofChars? text = some address)
    (hChars : ∀ c ∈ text, c ∈ addressChars) :
    IsWritten (.six address) ('[' :: text ++ [']']) where
  ne_nil := by simp
  mem_hostChars c hMem := by
    simp only [List.cons_append, List.mem_cons,
      List.mem_append, List.not_mem_nil, or_false] at hMem
    rcases hMem with rfl | hMem | rfl
    · decide
    · exact List.mem_cons_of_mem _
        (List.mem_cons_of_mem _ (hChars c hMem))
    · decide
  parse_eq := parse_six hText
  cutPort_append rest := by
    have hAll : ∀ c ∈ addressChars, c ∉ ['[', ']'] :=
      Text.forall_mem (by decide)
    have hInside :=
      cutPort_append_inside
        (fun c hMem => hAll c (hChars c hMem)) rest
    simp [cutPort, hInside]

/- An address is written in a URL in its compressed form. -/
theorem isWritten_toChars (address : Address) :
    IsWritten (ofAddress address)
      (ofAddress address).toChars := by
  cases address with
  | four address => exact isWritten_four address
  | six address =>
      exact
        isWritten_six (Ipv6.ofChars?_compressed address)
          fun _ hMem => Ipv6.compressed_mem_addressChars hMem

/- With a port, an address is written in its usual form. -/
theorem exists_withPort
    (address : Address)
    (port : UInt16) :
    ∃ text,
      IsWritten (ofAddress address) text ∧
        address.withPort port =
          text ++ ':' :: Text.decimalChars port.toNat := by
  cases address with
  | four address =>
      exact ⟨_, isWritten_four address, rfl⟩
  | six address =>
      refine
        ⟨ _,
          isWritten_six (Ipv6.ofChars?_toChars address)
            fun _ hMem => Ipv6.mem_addressChars hMem,
          ?_ ⟩
      simp [Address.withPort]

/- No address is an empty name. -/
theorem ofAddress_ne_empty (address : Address) :
    ofAddress address ≠ .domain [] := by
  cases address <;> exact Host.noConfusion

end Host

end Url

end BrainLink
