import BrainLink.Proofs.Lines

/-
  The line breaks of a log, and how many divisions it has.

  Key definitions include:
    * `Log.occurrences`
    * `Log.breaks`
    * `Log.swallowed`
    * `Log.body`

  Main statements:
    * `Log.occurrences_toHtml_eq`
    * `Log.Cuts.breaks_eq`
    * `Log.Cuts.exists_body`
    * `Log.divisions_unless_swallowed`

  An escape reaches up to the next `m`, so that it can reach
  over line breaks. It is these breaks that start no division,
  and one that ends the log.
-/

namespace BrainLink.Log

------------------------------------------------------------
-- Counting divisions
------------------------------------------------------------

/- How often a text stands in another. -/
def occurrences (pattern : List Char) : List Char → Nat
| [] => 0
| c :: text =>
    occurrences pattern text
      + if pattern.isPrefixOf (c :: text) then 1 else 0

/- The tag that opens a division. -/
def divisionTag : List Char :=
  "<div>".toList

/- No division is opened where no tag begins. -/
theorem occurrences_append
    {text : List Char}
    (hText : '<' ∉ text)
    (rest : List Char) :
    occurrences divisionTag (text ++ rest) =
      occurrences divisionTag rest := by
  induction text with
  | nil => rfl
  | cons c text ih =>
      rw [List.mem_cons, not_or] at hText
      have hNot :
          divisionTag.isPrefixOf (c :: (text ++ rest)) =
            false := by
        change ('<' == c && _) = false
        rw [beq_eq_false_iff_ne.mpr hText.1, Bool.false_and]
      rw [List.cons_append, occurrences, hNot, ih hText.2]
      rfl

/- Another tag opens no division. -/
theorem occurrences_tag
    {first : Char}
    {tag text : List Char}
    (hTag : tag = '<' :: first :: text)
    (hFirst : first ≠ 'd')
    (hText : '<' ∉ first :: text)
    (rest : List Char) :
    occurrences divisionTag (tag ++ rest) =
      occurrences divisionTag rest := by
  have hNot :
      divisionTag.isPrefixOf ('<' :: first :: (text ++ rest)) =
        false := by
    change ('<' == '<' && ('d' == first && _)) = false
    rw [beq_eq_false_iff_ne.mpr (Ne.symm hFirst),
      Bool.false_and, Bool.and_false]
  rw [hTag, List.cons_append, List.cons_append, occurrences,
    hNot]
  exact occurrences_append hText rest

theorem occurrences_closingSpan (rest : List Char) :
    occurrences divisionTag ("</span>".toList ++ rest) =
      occurrences divisionTag rest := by
  have hTag : "</span>".toList = '<' :: '/' :: "span>".toList := by
    decide
  exact occurrences_tag hTag (by decide) (by decide) rest

/- A piece of a line opens no division. -/
theorem occurrences_toHtml
    {piece : Piece}
    (hPiece : piece ≠ .lineBreak)
    (rest : List Char) :
    occurrences divisionTag (piece.toHtml ++ rest) =
      occurrences divisionTag rest := by
  cases piece with
  | char c => exact occurrences_append (not_mem_escapeHtml c) rest
  | lineBreak => exact (hPiece rfl).elim
  | escape parameters =>
      have hOpening :
          "<span style='".toList =
            '<' :: 's' :: "pan style='".toList := by
        decide
      have hEnd : '<' ∉ "'>".toList := by
        decide
      rw [Piece.toHtml, nextSpan_eq, List.append_assoc,
        List.append_assoc, List.append_assoc,
        occurrences_closingSpan,
        occurrences_tag hOpening (by decide) (by decide),
        occurrences_append (not_mem_style (by decide) _),
        occurrences_append hEnd]

/- The tags in front of a line open one division. -/
theorem occurrences_openingTags (rest : List Char) :
    occurrences divisionTag (openingTags ++ rest) =
      occurrences divisionTag rest + 1 := by
  have hTags :
      openingTags = '<' :: ("div>".toList ++ "<span>".toList) := by
    decide
  have hSpan : "<span>".toList = '<' :: 's' :: "pan>".toList := by
    decide
  have hText : '<' ∉ "div>".toList := by
    decide
  have hOpens (rest : List Char) :
      divisionTag.isPrefixOf ('<' :: ("div>".toList ++ rest)) =
        true := by
    have hDivision : divisionTag = '<' :: "div>".toList := by
      decide
    rw [hDivision, List.isPrefixOf_iff_prefix,
      ← List.cons_append]
    exact List.prefix_append _ _
  rw [hTags, List.cons_append, List.append_assoc, occurrences,
    if_pos (hOpens _), occurrences_append hText,
    occurrences_tag hSpan (by decide) (by decide)]

/- The tags behind a line open none. -/
theorem occurrences_closingTags (rest : List Char) :
    occurrences divisionTag (closingTags ++ rest) =
      occurrences divisionTag rest := by
  have hTags :
      closingTags = "</span>".toList ++ "</div>".toList := by
    decide
  have hDivision :
      "</div>".toList = '<' :: '/' :: "div>".toList := by
    decide
  rw [hTags, List.append_assoc, occurrences_closingSpan,
    occurrences_tag hDivision (by decide) (by decide)]

/- A line opens one division. -/
theorem occurrences_division
    {line : List Piece}
    (hLine : .lineBreak ∉ line)
    (rest : List Char) :
    occurrences divisionTag (division line ++ rest) =
      occurrences divisionTag rest + 1 := by
  rw [division, List.append_assoc, occurrences_openingTags,
    List.append_assoc]
  congr 1
  induction line with
  | nil => exact occurrences_closingTags rest
  | cons piece line ih =>
      rw [List.mem_cons, not_or] at hLine
      rw [List.flatMap_cons, List.append_assoc,
        occurrences_toHtml (Ne.symm hLine.1), ih hLine.2]

/- The HTML of a log has a division for each line. -/
theorem occurrences_toHtml_eq (log : String) :
    occurrences divisionTag (toHtml log).toList =
      (lines (pieces log.toList)).length := by
  have hLines
      (lines : List (List Piece))
      (hLines : ∀ line ∈ lines, .lineBreak ∉ line) :
      occurrences divisionTag
          (lines.flatMap division ++ "</pre>".toList) =
        lines.length := by
    induction lines with
    | nil => decide
    | cons line lines ih =>
        rw [List.flatMap_cons, List.append_assoc,
          occurrences_division (hLines line List.mem_cons_self),
          ih fun line hMem =>
            hLines line (List.mem_cons_of_mem _ hMem),
          List.length_cons]
  have hOpening : "<pre>".toList = '<' :: 'p' :: "re>".toList := by
    decide
  rw [toHtml_eq, List.append_assoc,
    occurrences_tag hOpening (by decide) (by decide)]
  exact hLines _ fun _ => not_mem_of_mem_lines

------------------------------------------------------------
-- Counting breaks
------------------------------------------------------------

/-
  How many line breaks a text holds. A line feed right behind
  a carriage return belongs to the same break.
-/
def breaks : List Char → Nat
| [] => 0
| '\r' :: '\n' :: text => breaks text + 1
| c :: text =>
    breaks text + if c = '\r' ∨ c = '\n' then 1 else 0

/- The line breaks that escapes reach over. -/
def swallowed : List Piece → Nat
| [] => 0
| .escape parameters :: cut =>
    swallowed cut + breaks parameters
| _ :: cut => swallowed cut

theorem breaks_cons
    (c : Char)
    {text : List Char}
    (hPair : c = '\r' → text.head? ≠ some '\n') :
    breaks (c :: text) =
      breaks text + if c = '\r' ∨ c = '\n' then 1 else 0 := by
  apply breaks.eq_3
  rintro rest hReturn rfl
  exact hPair hReturn rfl

theorem breaks_of_not_break
    {c : Char}
    (hBreak : c ≠ '\r' ∧ c ≠ '\n')
    (text : List Char) :
    breaks (c :: text) = breaks text := by
  rw [breaks_cons c fun hReturn => absurd hReturn hBreak.1,
    if_neg (not_or.mpr hBreak), Nat.add_zero]

/- No break goes across a character that is none. -/
theorem breaks_append_cons
    {c : Char}
    (hBreak : c ≠ '\r' ∧ c ≠ '\n')
    (front rest : List Char) :
    breaks (front ++ c :: rest) = breaks front + breaks rest := by
  induction front using breaks.induct with
  | case1 =>
      rw [List.nil_append, breaks_of_not_break hBreak]
      simp [breaks]
  | case2 text ih =>
      rw [List.cons_append, List.cons_append, breaks, ih, breaks]
      omega
  | case3 first text hPair ih =>
      have hHead :
          first = '\r' → text.head? ≠ some '\n' :=
        fun hReturn => head?_ne_of_not_cons fun more =>
          hPair more hReturn
      -- A carriage return at the end of `front` stays alone, as
      -- `c` is no line feed.
      have hLonger :
          first = '\r' →
            (text ++ c :: rest).head? ≠ some '\n' := by
        intro hReturn
        cases text with
        | nil => simpa using hBreak.2
        | cons next text => exact hHead hReturn
      rw [List.cons_append, breaks_cons first hLonger, ih,
        breaks_cons first hHead]
      omega

theorem breaks_eq_zero_iff (text : List Char) :
    breaks text = 0 ↔ '\r' ∉ text ∧ '\n' ∉ text := by
  induction text using breaks.induct with
  | case1 => simp [breaks]
  | case2 text ih => simp [breaks]
  | case3 c text hPair ih =>
      rw [breaks.eq_3 c text hPair, Nat.add_eq_zero_iff, ih]
      simp only [List.mem_cons, not_or, eq_comm]
      split
      · rename_i hBreak
        rcases hBreak with hIs | hIs <;> simp [hIs]
      · rename_i hBreak
        simp [not_or.mp hBreak]

/- Each break of a log is a piece, or an escape reaches over it. -/
theorem Cuts.breaks_eq
    {text : List Char}
    {cut : List Piece}
    (hCut : Cuts text cut) :
    breaks text =
      cut.count .lineBreak + swallowed cut := by
  induction hCut with
  | nil => rfl
  | pair hRest ih =>
      rw [breaks, ih]
      simp [swallowed]
      omega
  | carriageReturn hFeed hRest ih =>
      rw [breaks_cons _ fun _ => hFeed, ih]
      simp [swallowed]
      omega
  | lineFeed hRest ih =>
      rw [breaks_cons '\n' fun hIs => absurd hIs (by decide), ih]
      simp [swallowed]
      omega
  | escape hEnd hRest ih =>
      rw [breaks_of_not_break (by decide),
        breaks_of_not_break (by decide),
        breaks_append_cons (by decide), ih]
      simp [swallowed]
      omega
  | openEscape hEnd =>
      rw [breaks_of_not_break (by decide),
        breaks_of_not_break (by decide)]
      simp [swallowed]
  | char hBreak hEscape hRest ih =>
      rw [breaks_of_not_break hBreak, ih]
      simp [swallowed]

/- No break is swallowed if no escape reaches over one. -/
theorem swallowed_eq_zero_iff (cut : List Piece) :
    swallowed cut = 0 ↔
      ∀ parameters,
        .escape parameters ∈ cut →
          '\r' ∉ parameters ∧ '\n' ∉ parameters := by
  induction cut with
  | nil => simp [swallowed]
  | cons piece cut ih =>
      cases piece with
      | char c => simp [swallowed, ih]
      | lineBreak => simp [swallowed, ih]
      | escape parameters =>
          rw [swallowed, Nat.add_eq_zero_iff, ih,
            breaks_eq_zero_iff]
          simp only [List.mem_cons, Piece.escape.injEq,
            forall_eq_or_imp, and_comm]

------------------------------------------------------------
-- Final breaks
------------------------------------------------------------

/- A log without the line break that ends it, if one does. -/
def body : List Char → List Char
| [] => []
| ['\r', '\n'] => []
| ['\r'] => []
| ['\n'] => []
| c :: text => c :: body text

theorem body_cons
    {c : Char}
    {text : List Char}
    (hLast : text = [] → c ≠ '\r' ∧ c ≠ '\n')
    (hPair : text = ['\n'] → c ≠ '\r') :
    body (c :: text) = c :: body text := by
  apply body.eq_5
  · exact fun hReturn hFeed => hPair hFeed hReturn
  · exact fun hReturn hNil => (hLast hNil).1 hReturn
  · exact fun hFeed hNil => (hLast hNil).2 hFeed

theorem body_of_not_break
    {c : Char}
    (hBreak : c ≠ '\r' ∧ c ≠ '\n')
    (text : List Char) :
    body (c :: text) = c :: body text :=
  body_cons (fun _ => hBreak) fun _ => hBreak.1

theorem body_append_cons
    {c : Char}
    (hBreak : c ≠ '\r' ∧ c ≠ '\n')
    (front rest : List Char) :
    body (front ++ c :: rest) = front ++ c :: body rest := by
  induction front with
  | nil => exact body_of_not_break hBreak rest
  | cons first front ih =>
      rw [List.cons_append, body_cons, ih, List.cons_append]
      · exact fun hNil =>
          absurd hNil (List.append_ne_nil_of_right_ne_nil _ nofun)
      · intro hFeed
        have hMem : c ∈ ['\n'] := by
          rw [← hFeed]
          simp
        exact absurd (List.mem_singleton.mp hMem) hBreak.2

theorem isPrefix_body (text : List Char) : body text <+: text := by
  induction text using body.induct with
  | case1 => exact List.nil_prefix
  | case2 => exact List.nil_prefix
  | case3 => exact List.nil_prefix
  | case4 => exact List.nil_prefix
  | case5 c text hPair hReturn hFeed ih =>
      rw [body.eq_5 c text hPair hReturn hFeed]
      exact List.prefix_cons_inj c |>.mpr ih

/- What a text does not begin with, its body does not either. -/
theorem head?_body_ne
    {mark : Char}
    {text : List Char}
    (hText : text.head? ≠ some mark) :
    (body text).head? ≠ some mark := by
  intro hBody
  rcases isPrefix_body text with ⟨rest, hRest⟩
  cases hFront : body text with
  | nil =>
      rw [hFront] at hBody
      cases hBody
  | cons c front =>
      rw [hFront] at hBody hRest
      cases hBody
      rw [← hRest] at hText
      exact hText rfl

theorem Cuts.eq_nil_iff
    {text : List Char}
    {cut : List Piece}
    (hCut : Cuts text cut) :
    cut = [] ↔ text = [] := by
  cases hCut <;> simp

/- The pieces of a body, with as many breaks as start a line. -/
def Cuts.IsOfBody
    (text : List Char)
    (cut shorter : List Piece) : Prop :=
  Cuts (body text) shorter ∧
    shorter.count .lineBreak =
      (withoutFinalBreak cut).count .lineBreak

theorem count_withoutFinalBreak_cons
    (piece : Piece)
    {cut shorter : List Piece}
    (hMore : piece ≠ .lineBreak ∨ cut ≠ [])
    (hCount :
      shorter.count .lineBreak =
        (withoutFinalBreak cut).count .lineBreak) :
    (piece :: shorter).count .lineBreak =
      (withoutFinalBreak (piece :: cut)).count .lineBreak := by
  rw [withoutFinalBreak_cons piece cut hMore, List.count_cons,
    List.count_cons, hCount]

/- A break in front is a piece of the body unless it is last. -/
theorem Cuts.exists_body_of_break
    {text rest : List Char}
    {cut : List Piece}
    (hRest : Cuts rest cut)
    (hLast : rest = [] → body text = [])
    (hMore :
      rest ≠ [] →
        ∀ shorter,
          Cuts (body rest) shorter →
            Cuts (body text) (.lineBreak :: shorter))
    (ih : ∃ shorter, IsOfBody rest cut shorter) :
    ∃ shorter, IsOfBody text (.lineBreak :: cut) shorter := by
  by_cases hNil : rest = []
  · refine ⟨[], ?_, ?_⟩
    · rw [hLast hNil]
      exact .nil
    · rw [hRest.eq_nil_iff.mpr hNil]
      rfl
  · rcases ih with ⟨shorter, hShorter, hCount⟩
    exact
      ⟨.lineBreak :: shorter, hMore hNil _ hShorter,
        count_withoutFinalBreak_cons .lineBreak
          (.inr (mt hRest.eq_nil_iff.mp hNil)) hCount⟩

/-
  The breaks of the body are those that start a line: a break
  that ends the log is no piece of the body, or an escape
  reaches over it.
-/
theorem Cuts.exists_body
    {text : List Char}
    {cut : List Piece}
    (hCut : Cuts text cut) :
    ∃ shorter, IsOfBody text cut shorter := by
  induction hCut with
  | nil => exact ⟨[], .nil, rfl⟩
  | @pair rest cut hRest ih =>
      apply hRest.exists_body_of_break _ _ ih
      · rintro rfl
        rfl
      · intro hNil shorter hShorter
        have hReturn :
            body ('\r' :: '\n' :: rest) =
              '\r' :: body ('\n' :: rest) := by
          apply body_cons
          · exact fun hNone =>
              absurd hNone (List.cons_ne_nil _ _)
          · exact fun hFeed =>
              absurd (List.cons.inj hFeed).2 hNil
        have hFeed :
            body ('\n' :: rest) = '\n' :: body rest :=
          body_cons (fun hNone => absurd hNone hNil)
            fun _ => by decide
        rw [hReturn, hFeed]
        exact .pair hShorter
  | @carriageReturn rest cut hFeed hRest ih =>
      apply hRest.exists_body_of_break _ _ ih
      · rintro rfl
        rfl
      · intro hNil shorter hShorter
        rw [body_cons]
        · exact .carriageReturn (head?_body_ne hFeed) hShorter
        · exact fun hNone => absurd hNone hNil
        · rintro rfl
          exact absurd rfl hFeed
  | @lineFeed rest cut hRest ih =>
      apply hRest.exists_body_of_break _ _ ih
      · rintro rfl
        rfl
      · intro hNil shorter hShorter
        rw [body_cons]
        · exact .lineFeed hShorter
        · exact fun hNone => absurd hNone hNil
        · exact fun _ => by decide
  | @escape parameters rest cut hEnd hRest ih =>
      rcases ih with ⟨shorter, hShorter, hCount⟩
      refine ⟨.escape parameters :: shorter, ?_, ?_⟩
      · rw [body_of_not_break (by decide),
          body_of_not_break (by decide),
          body_append_cons (by decide)]
        exact .escape hEnd hShorter
      · exact
          count_withoutFinalBreak_cons (.escape parameters)
            (.inl nofun) hCount
  | @openEscape parameters hEnd =>
      -- It reaches to the end of the log, so that a final break
      -- is no piece of the log either.
      refine ⟨[.escape (body parameters)], ?_, rfl⟩
      rw [body_of_not_break (by decide),
        body_of_not_break (by decide)]
      exact
        .openEscape fun hMem =>
          hEnd ((isPrefix_body parameters).mem hMem)
  | @char c rest cut hBreak hEscape hRest ih =>
      rcases ih with ⟨shorter, hShorter, hCount⟩
      refine ⟨.char c :: shorter, ?_, ?_⟩
      · rw [body_of_not_break hBreak]
        exact
          .char hBreak
            (fun hIs => head?_body_ne (hEscape hIs)) hShorter
      · exact
          count_withoutFinalBreak_cons (.char c) (.inl nofun)
            hCount

/- The divisions of a log and the breaks of its body. -/
theorem occurrences_add_swallowed
    (log : String)
    {cut : List Piece}
    (hCut : Cuts (body log.toList) cut) :
    occurrences divisionTag (toHtml log).toList
        + swallowed cut =
      1 + breaks (body log.toList) := by
  rcases (cuts_pieces log.toList).exists_body with
    ⟨shorter, hShorter, hCount⟩
  have hSame : shorter = cut :=
    (cuts_iff.mp hShorter).trans (cuts_iff.mp hCut).symm
  rw [hSame] at hCount
  rw [occurrences_toHtml_eq, lines, length_splitOn, ← hCount,
    hCut.breaks_eq]
  omega

/-
  A log has one division more than its body has line breaks,
  less the breaks that escapes reach over. So each line has a
  division of its own if and only if no escape of the body
  reaches over a line break.
-/
theorem divisions_unless_swallowed (log : String) :
    ∃ cut,
      Cuts (body log.toList) cut ∧
        occurrences divisionTag (toHtml log).toList
            + swallowed cut =
          1 + breaks (body log.toList) ∧
        (occurrences divisionTag (toHtml log).toList =
            1 + breaks (body log.toList) ↔
          ∀ parameters,
            .escape parameters ∈ cut →
              '\r' ∉ parameters ∧ '\n' ∉ parameters) := by
  have hCut := cuts_pieces (body log.toList)
  have hSum := occurrences_add_swallowed log hCut
  refine ⟨_, hCut, hSum, ?_⟩
  rw [← swallowed_eq_zero_iff]
  omega

/-
  A line that a terminal is told to erase has no division of
  its own: the escape ends with another letter than `m`.
-/
theorem swallowed_of_erasing :
    occurrences divisionTag (toHtml "one\x1b[2K\ntwo").toList = 1 ∧
      1 + breaks (body "one\x1b[2K\ntwo".toList) = 2 := by
  decide +kernel

end BrainLink.Log
