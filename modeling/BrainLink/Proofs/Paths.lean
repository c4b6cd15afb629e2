import BrainLink.Proofs.Hosts

/-
  Paths in normal form, and which segments are kept in them
  as they are.

  Key definitions include:
    * `Url.octetChars`
    * `Url.isSettled`

  Main statements:
    * `Url.inSet_of_mem_encode`
    * `Url.isDot_encode`
    * `Url.isDotDot_encode`
    * `Url.exists_normalPath`
    * `Url.normalPath_writeSegments`

  A segment is settled when none of its characters is encoded
  or ends it and it does not spell dots. Walking a path leaves
  settled segments only, and walks over them unchanged. So a
  path in normal form is its own normal form.
-/

namespace BrainLink

namespace Text

------------------------------------------------------------
-- Parts
------------------------------------------------------------

/- The parts of a text hold its characters but the marks. -/
theorem mem_of_mem_fields
    {mark : Char}
    {text part : List Char}
    (hPart : part ∈ fields mark text) :
    ∀ c ∈ part, c ∈ text ∧ c ≠ mark := by
  induction text generalizing part with
  | nil =>
      intro c hMem
      rw [fields, List.mem_singleton] at hPart
      subst hPart
      cases hMem
  | cons first text ih =>
      intro c hMem
      unfold fields at hPart
      split at hPart
      · rcases List.mem_cons.mp hPart with rfl | hPart
        · cases hMem
        · have hRest := ih hPart c hMem
          exact ⟨List.mem_cons_of_mem _ hRest.1, hRest.2⟩
      · rename_i hNot
        have hFirst : first ≠ mark := by
          simpa using hNot
        split at hPart
        · rw [List.mem_singleton] at hPart
          subst hPart
          rw [List.mem_singleton] at hMem
          subst hMem
          exact ⟨List.mem_cons_self, hFirst⟩
        · rename_i head others hFields
          rw [hFields] at ih
          rcases List.mem_cons.mp hPart with rfl | hPart
          · rcases List.mem_cons.mp hMem with rfl | hMem
            · exact ⟨List.mem_cons_self, hFirst⟩
            · have hRest := ih List.mem_cons_self c hMem
              exact ⟨List.mem_cons_of_mem _ hRest.1, hRest.2⟩
          · have hRest :=
              ih (List.mem_cons_of_mem _ hPart) c hMem
            exact ⟨List.mem_cons_of_mem _ hRest.1, hRest.2⟩

/- The parts behind which marks stand, and the last one. -/
theorem fields_flatMap
    {mark : Char}
    {parts : List (List Char)}
    {last : List Char}
    (hParts : ∀ part ∈ parts, mark ∉ part)
    (hLast : mark ∉ last) :
    fields mark
        (parts.flatMap (fun part => part ++ [mark]) ++ last) =
      parts ++ [last] := by
  induction parts with
  | nil => exact fields_of_not_mem hLast
  | cons part parts ih =>
      have hFirst := hParts part List.mem_cons_self
      have hRest := ih fun part hMem =>
        hParts part (List.mem_cons_of_mem _ hMem)
      rw [List.flatMap_cons, List.append_assoc,
        List.append_assoc, List.singleton_append,
        fields_append hFirst, hRest, List.cons_append]

end Text

namespace Url

------------------------------------------------------------
-- Encoding
------------------------------------------------------------

/- The characters that octets are written with. -/
def octetChars : List Char :=
  '%' :: Text.hexDigits

theorem mem_octetChars_of_mem_encodeOctet
    {octet : UInt8}
    {c : Char}
    (hMem : c ∈ encodeOctet octet) :
    c ∈ octetChars := by
  have hDigit :
      ∀ value < 16, octetDigit value ∈ octetChars := by
    decide
  have hLess : octet.toNat < 256 := octet.toNat_lt
  simp only [encodeOctet, List.mem_cons, List.not_mem_nil,
    or_false] at hMem
  rcases hMem with rfl | rfl | rfl
  · exact List.mem_cons_self
  · exact hDigit _ (by omega)
  · exact hDigit _ (by omega)

/- An encoded text: what is kept, and octets. -/
theorem mem_encode
    {inSet : Char → Bool}
    {text : List Char}
    {c : Char}
    (hMem : c ∈ encode inSet text) :
    (c ∈ text ∧ inSet c = false) ∨ c ∈ octetChars := by
  rcases List.mem_flatMap.mp hMem with ⟨source, hSource, hIn⟩
  split at hIn
  · rcases List.mem_flatMap.mp hIn with ⟨octet, -, hIn⟩
    exact .inr (mem_octetChars_of_mem_encodeOctet hIn)
  · rename_i hNot
    rw [List.mem_singleton] at hIn
    subst hIn
    exact .inl ⟨hSource, by simpa using hNot⟩

/- A text without characters of a set is kept as it is. -/
theorem encode_of_not_inSet
    {inSet : Char → Bool}
    {text : List Char}
    (hText : ∀ c ∈ text, inSet c = false) :
    encode inSet text = text := by
  induction text with
  | nil => rfl
  | cons c text ih =>
      have hRest := ih fun c hMem =>
        hText c (List.mem_cons_of_mem _ hMem)
      unfold encode at hRest ⊢
      rw [List.flatMap_cons, hRest,
        hText c List.mem_cons_self]
      rfl

/- Nothing of an encoded text is encoded again. -/
theorem inSet_of_mem_encode
    {inSet : Char → Bool}
    (hSet : ∀ c ∈ octetChars, inSet c = false)
    (text : List Char) :
    ∀ c ∈ encode inSet text, inSet c = false := by
  intro c hMem
  rcases mem_encode hMem with ⟨-, hNot⟩ | hOctet
  · exact hNot
  · exact hSet c hOctet

/-
  A character is written as one octet or more. The first is
  the octet of a dot only if the character is a dot.
-/
theorem encodeChar_eq (c : Char) :
    ∃ octet rest,
      encodeChar c = encodeOctet octet ++ rest ∧
        (octet.toNat = '.'.toNat → c = '.') := by
  have hDot : '.'.toNat = 46 := rfl
  have hValue : c.val.toNat = c.toNat := rfl
  unfold encodeChar String.utf8EncodeChar
  simp only [hDot, hValue]
  split
  · refine ⟨_, _, List.flatMap_cons, ?_⟩
    intro hOctet
    rw [UInt8.toNat_ofNat'] at hOctet
    apply Char.toNat_inj.mp
    omega
  · split
    · refine ⟨_, _, List.flatMap_cons, ?_⟩
      intro hOctet
      rw [UInt8.toNat_ofNat'] at hOctet
      omega
    · split
      · refine ⟨_, _, List.flatMap_cons, ?_⟩
        intro hOctet
        rw [UInt8.toNat_ofNat'] at hOctet
        omega
      · refine ⟨_, _, List.flatMap_cons, ?_⟩
        intro hOctet
        rw [UInt8.toNat_ofNat'] at hOctet
        omega

theorem encode_cons
    (inSet : Char → Bool)
    (c : Char)
    (text : List Char) :
    encode inSet (c :: text) =
      (if inSet c then encodeChar c else [c]) ++
        encode inSet text :=
  List.flatMap_cons

/- Only the empty text is encoded as the empty text. -/
theorem eq_nil_of_encode
    {inSet : Char → Bool}
    {text : List Char}
    (hNil : encode inSet text = []) :
    text = [] := by
  cases text with
  | nil => rfl
  | cons c text =>
      rw [encode_cons, List.append_eq_nil_iff] at hNil
      rcases encodeChar_eq c with ⟨octet, rest, hChar, -⟩
      rw [hChar] at hNil
      split at hNil <;> cases hNil.1

------------------------------------------------------------
-- Dots
------------------------------------------------------------

/-
  A character in front of an encoded text that does not begin
  an octet is a character of the text.
-/
theorem head_of_encode
    {inSet : Char → Bool}
    {text more : List Char}
    {small : Char}
    (hSmall : small ≠ '%')
    (hText :
      Text.lowerChars (encode inSet text) = small :: more) :
    ∃ c rest,
      text = c :: rest ∧ c.toLower = small ∧
        Text.lowerChars (encode inSet rest) = more := by
  cases text with
  | nil => cases hText
  | cons c rest =>
      rw [encode_cons] at hText
      split at hText
      · rcases encodeChar_eq c with ⟨octet, others, hChar, -⟩
        rw [hChar] at hText
        have hHead : '%'.toLower = small :=
          (List.cons.inj hText).1
        exact absurd hHead.symm hSmall
      · have hCons := List.cons.inj hText
        exact ⟨c, rest, rfl, hCons.1, hCons.2⟩

/- The octet that two hexadecimal digits of a dot write. -/
theorem octet_of_spelling
    (octet : UInt8)
    (hHigh :
      (octetDigit (octet.toNat / 16)).toLower = '2')
    (hLow :
      (octetDigit (octet.toNat % 16)).toLower = 'e') :
    octet.toNat = '.'.toNat := by
  have hDigits :
      ∀ high < 16, ∀ low < 16,
        (octetDigit high).toLower = '2' →
          (octetDigit low).toLower = 'e' →
            high * 16 + low = '.'.toNat := by
    decide
  have hLess : octet.toNat < 256 := octet.toNat_lt
  have hBoth :=
    hDigits (octet.toNat / 16) (by omega)
      (octet.toNat % 16) (by omega) hHigh hLow
  rw [← hBoth]
  omega

/- A dot in front of an encoded text was there before. -/
theorem spelling_of_encode
    {spelling text more : List Char}
    (hSpelling : spelling ∈ dotSpellings)
    (hText :
      Text.lowerChars (encode inPathSet text) =
        spelling ++ more) :
    ∃ front back,
      text = front ++ back ∧
        Text.lowerChars front = spelling ∧
          Text.lowerChars (encode inPathSet back) = more := by
  simp only [dotSpellings, List.mem_cons, List.not_mem_nil,
    or_false] at hSpelling
  rcases hSpelling with rfl | rfl
  · rcases head_of_encode (by decide) hText with
      ⟨c, back, rfl, hLower, hBack⟩
    refine ⟨[c], back, rfl, ?_, hBack⟩
    simp [Text.lowerChars, hLower]
  · cases text with
    | nil => cases hText
    | cons first text =>
        rw [encode_cons] at hText
        split at hText
        · rename_i hIn
          rcases encodeChar_eq first with
            ⟨octet, others, hChar, hDot⟩
          rw [hChar] at hText
          have hRest := (List.cons.inj hText).2
          have hHigh := (List.cons.inj hRest).1
          have hLow := (List.cons.inj (List.cons.inj hRest).2).1
          rw [hDot (octet_of_spelling octet hHigh hLow)] at hIn
          exact absurd hIn (by decide)
        · rename_i hNot
          have hCons := List.cons.inj hText
          rcases head_of_encode (by decide) hCons.2 with
            ⟨second, text, rfl, hSecond, hText⟩
          rcases head_of_encode (by decide) hText with
            ⟨third, back, rfl, hThird, hBack⟩
          refine
            ⟨[first, second, third], back, rfl, ?_, hBack⟩
          have hFirst : first.toLower = '%' := hCons.1
          simp [Text.lowerChars, hFirst, hSecond, hThird]

/- A segment that is encoded spells a dot if it did before. -/
theorem isDot_encode
    {segment : List Char}
    (hDot : isDot (encode inPathSet segment) = true) :
    isDot segment = true := by
  unfold isDot at hDot ⊢
  rw [List.contains_iff_mem] at hDot ⊢
  rcases spelling_of_encode hDot
      (List.append_nil _).symm with
    ⟨front, back, rfl, hFront, hBack⟩
  have hNil : back = [] :=
    eq_nil_of_encode (List.map_eq_nil_iff.mp hBack)
  rw [hNil, List.append_nil, hFront]
  exact hDot

/- Likewise of two dots. -/
theorem isDotDot_encode
    {segment : List Char}
    (hDots : isDotDot (encode inPathSet segment) = true) :
    isDotDot segment = true := by
  simp only [isDotDot, List.any_eq_true, beq_iff_eq] at hDots ⊢
  rcases hDots with ⟨first, hFirst, second, hSecond, hBoth⟩
  rcases spelling_of_encode hFirst hBoth with
    ⟨front, rest, rfl, hFront, hRest⟩
  rw [← List.append_nil second] at hRest
  rcases spelling_of_encode hSecond hRest with
    ⟨middle, back, rfl, hMiddle, hBack⟩
  have hNil : back = [] :=
    eq_nil_of_encode (List.map_eq_nil_iff.mp hBack)
  refine ⟨first, hFirst, second, hSecond, ?_⟩
  rw [hNil, List.append_nil]
  unfold Text.lowerChars at *
  rw [List.map_append, hFront, hMiddle]

------------------------------------------------------------
-- Settled segments
------------------------------------------------------------

/-
  A character that a path keeps in a segment: it is neither
  encoded nor taken for a slash.
-/
def isSettledChar (c : Char) : Bool :=
  !inPathSet c && c != '/' && c != '\\'

/- A segment that a path keeps as it is. -/
def isSettled (segment : List Char) : Bool :=
  segment.all isSettledChar && !isDot segment
    && !isDotDot segment

theorem isSettledChar_iff
    {c : Char} :
    isSettledChar c = true ↔
      inPathSet c = false ∧ c ≠ '/' ∧ c ≠ '\\' := by
  simp [isSettledChar, and_assoc]

/- What is kept of a segment is settled. -/
theorem isSettled_encode
    {segment : List Char}
    (hChars : ∀ c ∈ segment, c ≠ '/' ∧ c ≠ '\\')
    (hDot : isDot segment = false)
    (hDots : isDotDot segment = false) :
    isSettled (encode inPathSet segment) = true := by
  have hOctets :
      ∀ c ∈ octetChars, isSettledChar c = true :=
    Text.forall_mem (by decide)
  have hNotDot : isDot (encode inPathSet segment) = false := by
    rw [Bool.eq_false_iff]
    intro hIs
    rw [isDot_encode hIs] at hDot
    cases hDot
  have hNotDots :
      isDotDot (encode inPathSet segment) = false := by
    rw [Bool.eq_false_iff]
    intro hIs
    rw [isDotDot_encode hIs] at hDots
    cases hDots
  unfold isSettled
  rw [hNotDot, hNotDots, Bool.not_false, Bool.and_true,
    Bool.and_true, List.all_eq_true]
  intro c hMem
  rcases mem_encode hMem with ⟨hSource, hNot⟩ | hOctet
  · exact isSettledChar_iff.mpr ⟨hNot, hChars c hSource⟩
  · exact hOctets c hOctet

section Settled

variable {segment : List Char}
variable (hSettled : isSettled segment = true)

include hSettled

theorem isSettledChar_of_mem :
    ∀ c ∈ segment, isSettledChar c = true := by
  simp only [isSettled, Bool.and_eq_true, List.all_eq_true]
    at hSettled
  exact hSettled.1.1

theorem isDot_of_isSettled :
    isDot segment = false := by
  simpa using (Bool.and_eq_true_iff.mp
    (Bool.and_eq_true_iff.mp hSettled).1).2

theorem isDotDot_of_isSettled :
    isDotDot segment = false := by
  simpa using (Bool.and_eq_true_iff.mp hSettled).2

theorem encode_of_isSettled :
    encode inPathSet segment = segment :=
  encode_of_not_inSet fun c hMem =>
    (isSettledChar_iff.mp
      (isSettledChar_of_mem hSettled c hMem)).1

theorem slash_not_mem_of_isSettled :
    '/' ∉ segment := by
  intro hMem
  exact
    absurd (isSettledChar_of_mem hSettled _ hMem) (by decide)

end Settled

------------------------------------------------------------
-- Walking
------------------------------------------------------------

theorem mem_of_mem_stepBack
    {kept : List (List Char)}
    {segment : List Char}
    (hMem : segment ∈ stepBack kept) :
    segment ∈ kept := by
  cases kept with
  | nil => cases hMem
  | cons last others =>
      rw [stepBack] at hMem
      split at hMem
      · exact hMem
      · exact List.mem_cons_of_mem _ hMem

/- A path keeps settled segments only. -/
theorem isSettled_walk
    {kept segments : List (List Char)}
    (hKept : ∀ segment ∈ kept, isSettled segment = true)
    (hSegments :
      ∀ segment ∈ segments, ∀ c ∈ segment,
        c ≠ '/' ∧ c ≠ '\\') :
    (∀ segment ∈ (walk kept segments).1,
        isSettled segment = true) ∧
      isSettled (walk kept segments).2 = true := by
  have hBack (kept : List (List Char))
      (hKept : ∀ segment ∈ kept, isSettled segment = true) :
      ∀ segment ∈ stepBack kept, isSettled segment = true :=
    fun segment hMem =>
      hKept segment (mem_of_mem_stepBack hMem)
  fun_induction walk kept segments with
  | case1 kept => exact ⟨hKept, rfl⟩
  | case2 kept last hDots => exact ⟨hBack kept hKept, rfl⟩
  | case3 kept last hDots hDot => exact ⟨hKept, rfl⟩
  | case4 kept last hDots hDot =>
      refine ⟨hKept, ?_⟩
      exact
        isSettled_encode (hSegments last List.mem_cons_self)
          (by simpa using hDot) (by simpa using hDots)
  | case5 kept segment rest hRest hDots ih =>
      exact
        ih (hBack kept hKept) fun segment hMem =>
          hSegments segment (List.mem_cons_of_mem _ hMem)
  | case6 kept segment rest hRest hDots hDot ih =>
      exact
        ih hKept fun segment hMem =>
          hSegments segment (List.mem_cons_of_mem _ hMem)
  | case7 kept segment rest hRest hDots hDot ih =>
      apply ih
      · intro other hMem
        rcases List.mem_cons.mp hMem with rfl | hMem
        · exact
            isSettled_encode
              (hSegments segment List.mem_cons_self)
              (by simpa using hDot) (by simpa using hDots)
        · exact hKept other hMem
      · exact fun segment hMem =>
          hSegments segment (List.mem_cons_of_mem _ hMem)

/- Settled segments are walked over unchanged. -/
theorem walk_of_isSettled
    {segments : List (List Char)}
    {last : List Char}
    (kept : List (List Char))
    (hSegments :
      ∀ segment ∈ segments, isSettled segment = true)
    (hLast : isSettled last = true) :
    walk kept (segments ++ [last]) =
      (segments.reverse ++ kept, last) := by
  induction segments generalizing kept with
  | nil =>
      rw [List.nil_append, walk, isDotDot_of_isSettled hLast,
        isDot_of_isSettled hLast, encode_of_isSettled hLast]
      rfl
  | cons segment segments ih =>
      have hFirst := hSegments segment List.mem_cons_self
      have hRest := ih (segment :: kept) fun segment hMem =>
        hSegments segment (List.mem_cons_of_mem _ hMem)
      rw [List.cons_append, walk, isDotDot_of_isSettled hFirst,
        isDot_of_isSettled hFirst, encode_of_isSettled hFirst]
      · simp only [Bool.false_eq_true, if_false, hRest]
        simp
      · simp

------------------------------------------------------------
-- Normal form
------------------------------------------------------------

/- The segments of a special path hold neither slash. -/
theorem mem_splitSegments
    (path : List Char)
    {segment : List Char}
    (hSegment : segment ∈ splitSegments true path) :
    ∀ c ∈ segment, c ≠ '/' ∧ c ≠ '\\' := by
  intro c hMem
  have hField := Text.mem_of_mem_fields hSegment c hMem
  refine ⟨hField.2, ?_⟩
  rintro rfl
  have hMap := hField.1
  simp only [if_true, List.mem_map] at hMap
  rcases hMap with ⟨source, -, hSource⟩
  split at hSource
  · cases hSource
  · rename_i hNot
    rw [hSource] at hNot
    exact hNot rfl

/- Without backslashes, only slashes end the segments. -/
theorem splitSegments_of_not_mem
    {path : List Char}
    (hBackslash : '\\' ∉ path) :
    splitSegments true path = Text.fields '/' path := by
  have hMap :
      path.map (fun c => if c == '\\' then '/' else c) =
        path := by
    rw [List.map_congr_left, List.map_id']
    intro c hMem
    apply if_neg
    rw [beq_iff_eq]
    rintro rfl
    exact hBackslash hMem
  unfold splitSegments
  rw [if_pos rfl, hMap]

/- A path in normal form consists of settled segments. -/
theorem exists_normalPath (path : List Char) :
    ∃ kept last,
      normalPath true path = writeSegments kept last ∧
        (∀ segment ∈ kept, isSettled segment = true) ∧
          isSettled last = true := by
  have hNone :
      ∀ segment ∈ ([] : List (List Char)),
        isSettled segment = true :=
    fun _ hMem => absurd hMem List.not_mem_nil
  have hWalk :=
    isSettled_walk hNone fun _ hMem =>
      mem_splitSegments path hMem
  exact ⟨_, _, rfl, hWalk.1, hWalk.2⟩

/- The characters of a path of settled segments. -/
theorem mem_writeSegments
    {kept : List (List Char)}
    {last : List Char}
    (hKept : ∀ segment ∈ kept, isSettled segment = true)
    (hLast : isSettled last = true) :
    ∀ c ∈ writeSegments kept last,
      inPathSet c = false ∧ c ≠ '\\' := by
  have hSlash : inPathSet '/' = false ∧ '/' ≠ '\\' := by
    decide
  have hSegment {segment : List Char}
      (hSettled : isSettled segment = true)
      {c : Char}
      (hMem : c ∈ segment) :
      inPathSet c = false ∧ c ≠ '\\' := by
    have hChar :=
      isSettledChar_iff.mp
        (isSettledChar_of_mem hSettled c hMem)
    exact ⟨hChar.1, hChar.2.2⟩
  intro c hMem
  rcases List.mem_cons.mp hMem with rfl | hMem
  · exact hSlash
  · rcases List.mem_append.mp hMem with hMem | hMem
    · rcases List.mem_flatMap.mp hMem with
        ⟨segment, hIn, hMem⟩
      rcases List.mem_append.mp hMem with hMem | hMem
      · have hIs := hKept segment (List.mem_reverse.mp hIn)
        exact hSegment hIs hMem
      · rw [List.mem_singleton.mp hMem]
        exact hSlash
    · exact hSegment hLast hMem

/- A path of settled segments is in normal form. -/
theorem normalPath_writeSegments
    {kept : List (List Char)}
    {last : List Char}
    (hKept : ∀ segment ∈ kept, isSettled segment = true)
    (hLast : isSettled last = true) :
    normalPath true (writeSegments kept last).tail =
      writeSegments kept last := by
  have hReverse :
      ∀ segment ∈ kept.reverse, isSettled segment = true :=
    fun segment hMem => hKept segment (List.mem_reverse.mp hMem)
  have hBackslash : '\\' ∉ (writeSegments kept last).tail := by
    intro hMem
    have hChar :=
      mem_writeSegments hKept hLast _
        (List.mem_of_mem_tail hMem)
    exact hChar.2 rfl
  have hSplit :
      splitSegments true (writeSegments kept last).tail =
        kept.reverse ++ [last] := by
    rw [splitSegments_of_not_mem hBackslash]
    exact
      Text.fields_flatMap
        (fun segment hMem =>
          slash_not_mem_of_isSettled (hReverse segment hMem))
        (slash_not_mem_of_isSettled hLast)
  unfold normalPath
  rw [hSplit, walk_of_isSettled [] hReverse hLast,
    List.reverse_reverse, List.append_nil]

end Url

end BrainLink
