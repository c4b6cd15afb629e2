import BrainLink.Proofs.Lines

/-
  What the HTML of a log is made of.

  Key definitions include:
    * `Log.IsContent`
    * `Log.IsOpeningTag`
    * `Log.IsSpan`
    * `Log.IsDivision`
    * `Log.IsPage`

  Main statements:
    * `Log.isContent_escapeHtml`
    * `Log.exists_spans`
    * `Log.isPage_toHtml`

  The tags are of a few kinds that the log does not choose,
  and what stands between them can be taken for no tag. An
  escape ends one span and opens another, so that the spans of
  a line are found by walking along it.
-/

namespace BrainLink.Log

------------------------------------------------------------
-- Pages
------------------------------------------------------------

/- What stands for the characters that mean something. -/
def entities : List (List Char) :=
  [ "&lt;".toList, "&gt;".toList, "&amp;".toList,
    "&#39;".toList, "&quot;".toList ]

/-
  The content of a span: no angle bracket and no quote stands
  in it, and an ampersand only where an entity begins.
-/
structure IsContent (text : List Char) : Prop where
  plain :
    ∀ c ∈ text, c ∉ ['<', '>', '\'', '"']
  entity :
    ∀ before after,
      text = before ++ '&' :: after →
        ∃ entity ∈ entities, entity <+: '&' :: after

/- The tag of a span: bare, or with a style of the palette. -/
inductive IsOpeningTag : List Char → Prop where
| bare : IsOpeningTag "<span>".toList
| styled
    (declarations : List Declaration)
    (hPalette :
      ∀ declaration ∈ declarations, declaration ∈ palette) :
    IsOpeningTag
      ("<span style='".toList
        ++ declarations.flatMap (fun declaration =>
          declaration.text.toList)
        ++ "'>".toList)

/- A span with its tags. -/
inductive IsSpan : List Char → Prop where
| intro
    {tag content : List Char}
    (hTag : IsOpeningTag tag)
    (hContent : IsContent content) :
    IsSpan (tag ++ content ++ "</span>".toList)

/- One or more spans between the tags of a division. -/
inductive IsDivision : List Char → Prop where
| intro
    {spans : List (List Char)}
    (hSpans : ∀ span ∈ spans, IsSpan span)
    (hNil : spans ≠ []) :
    IsDivision
      ("<div>".toList ++ spans.flatten ++ "</div>".toList)

/- One or more divisions between the tags of a page. -/
inductive IsPage : List Char → Prop where
| intro
    {divisions : List (List Char)}
    (hDivisions :
      ∀ division ∈ divisions, IsDivision division)
    (hNil : divisions ≠ []) :
    IsPage
      ("<pre>".toList ++ divisions.flatten ++ "</pre>".toList)

------------------------------------------------------------
-- Contents
------------------------------------------------------------

/- A text in which nothing means anything in HTML. -/
theorem isContent_of_not_mem
    {text : List Char}
    (hText : ∀ c ∈ text, c ∉ markupChars) :
    IsContent text where
  plain c hMem hMark := by
    have hAll :
        ∀ mark ∈ ['<', '>', '\'', '"'], mark ∈ markupChars :=
      Text.forall_mem (by decide)
    exact hText c hMem (hAll c hMark)
  entity before after hIs := by
    have hMem : '&' ∈ text := by
      rw [hIs]
      simp
    exact absurd (by decide) (hText '&' hMem)

theorem isContent_nil : IsContent [] :=
  isContent_of_not_mem fun _ hMem => absurd hMem List.not_mem_nil

/- An entity, which has its ampersand in front only. -/
theorem isContent_entity
    {entity : List Char}
    (hEntity : entity ∈ entities) :
    IsContent entity := by
  have hHeads : ∀ entity ∈ entities, entity.head? = some '&' :=
    Text.forall_mem (by decide)
  have hTails :
      ∀ c ∈ entities.flatMap List.tail, c ∉ markupChars :=
    Text.forall_mem (by decide)
  rcases
      List.head?_eq_some_iff.mp (hHeads entity hEntity) with
    ⟨rest, rfl⟩
  have hRest : IsContent rest :=
    isContent_of_not_mem fun c hMem =>
      hTails c (List.mem_flatMap_of_mem hEntity hMem)
  constructor
  · intro c hMem
    rcases List.mem_cons.mp hMem with rfl | hMem
    · decide
    · exact hRest.plain c hMem
  · intro before after hIs
    cases before with
    | nil =>
        rw [List.nil_append] at hIs
        exact ⟨_, hEntity, hIs ▸ List.prefix_rfl⟩
    | cons first before =>
        exact hRest.entity before after (List.cons.inj hIs).2

theorem IsContent.append
    {front back : List Char}
    (hFront : IsContent front)
    (hBack : IsContent back) :
    IsContent (front ++ back) := by
  constructor
  · intro c hMem
    rcases List.mem_append.mp hMem with hMem | hMem
    · exact hFront.plain c hMem
    · exact hBack.plain c hMem
  · intro before after hIs
    rcases List.append_eq_append_iff.mp hIs with
      ⟨more, rfl, hAfter⟩ | ⟨more, hBefore, hAfter⟩
    · exact hBack.entity more after hAfter
    · cases more with
      | nil =>
          rw [List.nil_append] at hAfter
          exact hBack.entity [] after hAfter.symm
      | cons c more =>
          cases hAfter
          rcases hFront.entity before more hBefore with
            ⟨entity, hEntity, hPrefix⟩
          exact
            ⟨entity, hEntity,
              hPrefix.trans (List.prefix_append _ back)⟩

/- What a character is written as. -/
theorem isContent_escapeHtml (c : Char) :
    IsContent (escapeHtml c) := by
  have hEntities : markupChars.map escapeHtml = entities := by
    decide
  rcases escapeHtml_cases c with
    ⟨-, hEntity⟩ | ⟨hPlain, hText⟩
  · rw [hEntities] at hEntity
    exact isContent_entity hEntity
  · rw [hText]
    apply isContent_of_not_mem
    intro other hOther
    rwa [List.mem_singleton.mp hOther]

------------------------------------------------------------
-- Spans
------------------------------------------------------------

/- An escape opens a span with a style of the palette. -/
theorem isOpeningTag_style (parameters : List Char) :
    IsOpeningTag
      ("<span style='".toList ++ style parameters
        ++ "'>".toList) :=
  .styled (declarations parameters) fun _ => mem_palette

/-
  The rest of a line, in a span that is open and has a content
  already: an escape closes it and opens the next one.
-/
theorem exists_spans
    {line : List Piece}
    (hLine : .lineBreak ∉ line)
    {tag content : List Char}
    (hTag : IsOpeningTag tag)
    (hContent : IsContent content) :
    ∃ spans,
      (∀ span ∈ spans, IsSpan span) ∧ spans ≠ [] ∧
        tag ++ content
            ++ (line.flatMap Piece.toHtml ++ "</span>".toList) =
          spans.flatten := by
  -- A character adds to the content, and an escape starts
  -- again with another tag and no content.
  induction line generalizing tag content with
  | nil =>
      refine
        ⟨[tag ++ content ++ "</span>".toList], ?_,
          List.cons_ne_nil _ _, ?_⟩
      · intro span hSpan
        rw [List.mem_singleton.mp hSpan]
        exact .intro hTag hContent
      · simp only [List.flatMap_nil, List.nil_append,
          List.flatten_singleton]
  | cons piece line ih =>
      rw [List.mem_cons, not_or] at hLine
      cases piece with
      | lineBreak => exact (hLine.1 rfl).elim
      | char c =>
          rcases
              ih hLine.2 hTag
                (hContent.append (isContent_escapeHtml c)) with
            ⟨spans, hSpans, hNil, hText⟩
          refine ⟨spans, hSpans, hNil, ?_⟩
          rw [← hText]
          simp only [List.flatMap_cons, Piece.toHtml,
            List.append_assoc]
      | escape parameters =>
          rcases
              ih hLine.2 (isOpeningTag_style parameters)
                isContent_nil with
            ⟨spans, hSpans, -, hText⟩
          refine
            ⟨(tag ++ content ++ "</span>".toList) :: spans, ?_,
              List.cons_ne_nil _ _, ?_⟩
          · intro span hSpan
            rcases List.mem_cons.mp hSpan with rfl | hSpan
            · exact .intro hTag hContent
            · exact hSpans span hSpan
          · rw [List.flatten_cons, ← hText]
            simp only [List.flatMap_cons, Piece.toHtml,
              nextSpan_eq, List.append_assoc, List.append_nil]

/- A line is written as a division. -/
theorem isDivision_division
    {line : List Piece}
    (hLine : .lineBreak ∉ line) :
    IsDivision (division line) := by
  have hOpening :
      openingTags = "<div>".toList ++ "<span>".toList := by
    decide
  have hClosing :
      closingTags = "</span>".toList ++ "</div>".toList := by
    decide
  rcases exists_spans hLine .bare isContent_nil with
    ⟨spans, hSpans, hNil, hText⟩
  have hDivision :
      division line =
        "<div>".toList ++ spans.flatten ++ "</div>".toList := by
    rw [← hText, division, hOpening, hClosing]
    simp only [List.append_assoc, List.append_nil]
  rw [hDivision]
  exact .intro hSpans hNil

/-
  Whatever a log holds, its HTML is a page of divisions and
  spans: each tag is of a kind that the log does not choose,
  and no content can be taken for a tag or for an entity that
  it is not.
-/
theorem isPage_toHtml (log : String) :
    IsPage (toHtml log).toList := by
  rw [toHtml_eq, List.flatMap_def]
  apply IsPage.intro
  · intro written hWritten
    rcases List.mem_map.mp hWritten with ⟨line, hLine, rfl⟩
    exact isDivision_division (not_mem_of_mem_lines hLine)
  · exact fun hNil => lines_ne_nil _ (List.map_eq_nil_iff.mp hNil)

end BrainLink.Log
