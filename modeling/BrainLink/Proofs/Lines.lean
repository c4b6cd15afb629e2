import BrainLink.Log.Html
import BrainLink.Proofs.Addresses

/-
  The lines of a log, and the divisions of its HTML.

  Key definitions include:
    * `Log.Cuts`
    * `Log.lines`
    * `Log.division`
    * `Log.palette`
    * `Log.markupChars`

  Main statements:
    * `Log.cuts_iff`
    * `Log.toHtml_eq`
    * `Log.mem_palette`
    * `Log.escapeHtml_cases`

  A log is cut into pieces in one way only. Its HTML is one
  division for each line of these pieces, and each piece is
  written by itself: an escape as tags with a style from a
  palette, a character as itself or as an entity.
-/

namespace BrainLink.Log

------------------------------------------------------------
-- Cuts
------------------------------------------------------------

/-
  A log is cut into pieces: escapes up to the next `m` or to
  the end of the log, line breaks, and single characters.
-/
inductive Cuts : List Char → List Piece → Prop where
| nil : Cuts [] []
| pair
    {rest : List Char}
    {cut : List Piece}
    (hRest : Cuts rest cut) :
    Cuts ('\r' :: '\n' :: rest) (.lineBreak :: cut)
| carriageReturn
    {rest : List Char}
    {cut : List Piece}
    (hFeed : rest.head? ≠ some '\n')
    (hRest : Cuts rest cut) :
    Cuts ('\r' :: rest) (.lineBreak :: cut)
| lineFeed
    {rest : List Char}
    {cut : List Piece}
    (hRest : Cuts rest cut) :
    Cuts ('\n' :: rest) (.lineBreak :: cut)
| escape
    {parameters rest : List Char}
    {cut : List Piece}
    (hEnd : 'm' ∉ parameters)
    (hRest : Cuts rest cut) :
    Cuts ('\x1b' :: '[' :: (parameters ++ 'm' :: rest))
      (.escape parameters :: cut)
| openEscape
    {parameters : List Char}
    (hEnd : 'm' ∉ parameters) :
    Cuts ('\x1b' :: '[' :: parameters) [.escape parameters]
| char
    {c : Char}
    {rest : List Char}
    {cut : List Piece}
    (hBreak : c ≠ '\r' ∧ c ≠ '\n')
    (hEscape : c = escapeChar → rest.head? ≠ some '[')
    (hRest : Cuts rest cut) :
    Cuts (c :: rest) (.char c :: cut)

/- A text does not go on with a character. -/
theorem head?_ne_of_not_cons
    {mark : Char}
    {rest : List Char}
    (hRest : ∀ more, rest = mark :: more → False) :
    rest.head? ≠ some mark := by
  cases rest with
  | nil => exact nofun
  | cons c rest =>
      rintro ⟨⟩
      exact hRest rest rfl

/- Every log is cut into its pieces. -/
theorem cuts_pieces (text : List Char) :
    Cuts text (pieces text) := by
  induction text using pieces.induct with
  | case1 =>
      rw [pieces]
      exact .nil
  | case2 rest ih =>
      rw [pieces]
      exact .pair ih
  | case3 rest ih =>
      rw [pieces]
      by_cases hEnd : 'm' ∈ rest
      · rcases List.eq_append_cons_of_mem hEnd with
          ⟨parameters, later, rfl, hFirst⟩
        rw [Text.dropWhile_mark hFirst, List.drop_one,
          List.tail_cons] at ih ⊢
        rw [Text.takeWhile_mark hFirst]
        exact .escape hFirst ih
      · have hAll := Text.bne_of_not_mem hEnd
        rw [Text.takeWhile_run hAll, Text.dropWhile_run hAll,
          List.drop_nil, pieces]
        exact .openEscape hEnd
  | case4 c rest hPair hEscape hBreak ih =>
      rw [pieces.eq_4 c rest hPair hEscape, if_pos hBreak]
      rcases Bool.or_eq_true_iff.mp hBreak with hIs | hIs
      · have hReturn : c = '\r' := beq_iff_eq.mp hIs
        subst hReturn
        exact
          .carriageReturn
            (head?_ne_of_not_cons fun more => hPair more rfl)
            ih
      · have hFeed : c = '\n' := beq_iff_eq.mp hIs
        subst hFeed
        exact .lineFeed ih
  | case5 c rest hPair hEscape hBreak ih =>
      rw [pieces.eq_4 c rest hPair hEscape, if_neg hBreak]
      refine .char ?_ ?_ ih
      · simpa using hBreak
      · exact fun hIs =>
          head?_ne_of_not_cons fun more => hEscape more hIs

/- There is no other way to cut a log. -/
theorem Cuts.pieces_eq
    {text : List Char}
    {cut : List Piece}
    (hCut : Cuts text cut) :
    pieces text = cut := by
  induction hCut with
  | nil => rw [pieces]
  | pair hRest ih => rw [pieces, ih]
  | @carriageReturn rest cut hFeed hRest ih =>
      have hPair :
          ∀ more, '\r' = '\r' → rest = '\n' :: more → False := by
        rintro more - rfl
        exact hFeed rfl
      have hEscape :
          ∀ more,
            '\r' = '\x1b' → rest = '[' :: more → False :=
        fun _ hIs => absurd hIs (by decide)
      rw [pieces.eq_4 '\r' rest hPair hEscape, ih]
      rfl
  | @lineFeed rest cut hRest ih =>
      have hPair :
          ∀ more, '\n' = '\r' → rest = '\n' :: more → False :=
        fun _ hIs => absurd hIs (by decide)
      have hEscape :
          ∀ more,
            '\n' = '\x1b' → rest = '[' :: more → False :=
        fun _ hIs => absurd hIs (by decide)
      rw [pieces.eq_4 '\n' rest hPair hEscape, ih]
      rfl
  | @escape parameters rest cut hEnd hRest ih =>
      rw [pieces, Text.takeWhile_mark hEnd,
        Text.dropWhile_mark hEnd, List.drop_one,
        List.tail_cons, ih]
  | @openEscape parameters hEnd =>
      have hAll := Text.bne_of_not_mem hEnd
      rw [pieces, Text.takeWhile_run hAll,
        Text.dropWhile_run hAll, List.drop_nil, pieces]
  | char hBreak hEscape hRest ih =>
      rw [pieces.eq_4, ih]
      · simp [hBreak]
      · exact fun _ hIs => absurd hIs hBreak.1
      · rintro more hIs rfl
        exact hEscape hIs rfl

theorem cuts_iff
    {text : List Char}
    {cut : List Piece} :
    Cuts text cut ↔ cut = pieces text := by
  constructor
  · exact fun hCut => hCut.pieces_eq.symm
  · rintro rfl
    exact cuts_pieces text

------------------------------------------------------------
-- Lines
------------------------------------------------------------

/- The pieces without a break that is the last of them. -/
def withoutFinalBreak (cut : List Piece) : List Piece :=
  if cut.getLast? = some .lineBreak then cut.dropLast else cut

/- The lines of a log, each with its escapes. -/
def lines (cut : List Piece) : List (List Piece) :=
  (withoutFinalBreak cut).splitOn .lineBreak

theorem withoutFinalBreak_cons
    (piece : Piece)
    (cut : List Piece)
    (hMore : piece ≠ .lineBreak ∨ cut ≠ []) :
    withoutFinalBreak (piece :: cut) =
      piece :: withoutFinalBreak cut := by
  cases cut with
  | nil =>
      have hPiece : piece ≠ .lineBreak := by
        simpa using hMore
      simp [withoutFinalBreak, hPiece]
  | cons next cut =>
      unfold withoutFinalBreak
      rw [List.getLast?_cons_cons]
      split <;> rfl

/- A line holds no break. -/
theorem not_mem_of_mem_splitOn
    {cut line : List Piece}
    (hLine : line ∈ cut.splitOn .lineBreak) :
    .lineBreak ∉ line := by
  induction cut generalizing line with
  | nil =>
      rw [List.splitOn_nil, List.mem_singleton] at hLine
      subst hLine
      exact List.not_mem_nil
  | cons piece cut ih =>
      rw [List.splitOn_cons_eq_if_modifyHead] at hLine
      split at hLine
      · rcases List.mem_cons.mp hLine with rfl | hLine
        · exact List.not_mem_nil
        · exact ih hLine
      · rename_i hPiece
        rw [beq_iff_eq] at hPiece
        cases hSplit : cut.splitOn .lineBreak with
        | nil =>
            rw [hSplit] at hLine
            exact absurd hLine List.not_mem_nil
        | cons first others =>
            rw [hSplit] at hLine ih
            rcases List.mem_cons.mp hLine with rfl | hLine
            · rw [List.mem_cons, not_or]
              exact
                ⟨Ne.symm hPiece, ih List.mem_cons_self⟩
            · exact ih (List.mem_cons_of_mem _ hLine)

/- There is one line more than there are breaks. -/
theorem length_splitOn (cut : List Piece) :
    (cut.splitOn .lineBreak).length =
      cut.count .lineBreak + 1 := by
  induction cut with
  | nil => rfl
  | cons piece cut ih =>
      rw [List.splitOn_cons_eq_if_modifyHead, List.count_cons]
      split
      · rw [List.length_cons, ih]
      · rw [List.length_modifyHead, ih, Nat.add_zero]

theorem lines_ne_nil (cut : List Piece) : lines cut ≠ [] :=
  List.splitOn_ne_nil _ _

theorem not_mem_of_mem_lines
    {cut line : List Piece}
    (hLine : line ∈ lines cut) :
    .lineBreak ∉ line :=
  not_mem_of_mem_splitOn hLine

------------------------------------------------------------
-- Divisions
------------------------------------------------------------

/- What one piece is written as between tags. -/
def Piece.toHtml : Piece → List Char
| .char c => escapeHtml c
| .lineBreak => nextLine
| .escape parameters => nextSpan parameters

/- The tags that stand in front of a line. -/
def openingTags : List Char :=
  "<div><span>".toList

/- The tags that stand behind a line. -/
def closingTags : List Char :=
  "</span></div>".toList

/- The division of one line. -/
def division (line : List Piece) : List Char :=
  openingTags ++ (line.flatMap Piece.toHtml ++ closingTags)

theorem nextLine_eq : nextLine = closingTags ++ openingTags := by
  decide

theorem nextSpan_eq (parameters : List Char) :
    nextSpan parameters =
      "</span>".toList ++ ("<span style='".toList
        ++ (style parameters ++ "'>".toList)) := by
  have hTags :
      "</span><span style='".toList =
        "</span>".toList ++ "<span style='".toList := by
    decide
  unfold nextSpan
  rw [hTags, List.append_assoc, List.append_assoc]

/- Each piece is written by itself, but for a final break. -/
theorem render_eq (cut : List Piece) :
    render cut =
      (withoutFinalBreak cut).flatMap Piece.toHtml := by
  induction cut using render.induct with
  | case1 => rfl
  | case2 c rest ih =>
      rw [render, ih,
        withoutFinalBreak_cons (.char c) rest (.inl nofun)]
      rfl
  | case3 => rfl
  | case4 rest hRest ih =>
      rw [render.eq_4 rest hRest, ih,
        withoutFinalBreak_cons .lineBreak rest (.inr hRest)]
      rfl
  | case5 parameters rest ih =>
      rw [render, ih,
        withoutFinalBreak_cons (.escape parameters) rest
          (.inl nofun)]
      rfl

/- What is written of all lines, after the first opening. -/
theorem flatMap_toHtml_eq
    {cut first : List Piece}
    {others : List (List Piece)}
    (hSplit : cut.splitOn .lineBreak = first :: others) :
    cut.flatMap Piece.toHtml ++ closingTags =
      first.flatMap Piece.toHtml ++ closingTags
        ++ others.flatMap division := by
  induction cut generalizing first others with
  | nil =>
      cases hSplit
      simp
  | cons piece cut ih =>
      rw [List.splitOn_cons_eq_if_modifyHead] at hSplit
      cases hRest : cut.splitOn .lineBreak with
      | nil => exact absurd hRest (List.splitOn_ne_nil _ _)
      | cons next later =>
          have hLater := ih hRest
          rw [hRest] at hSplit
          by_cases hBreak : piece = .lineBreak
          · subst hBreak
            rw [if_pos (beq_self_eq_true _)] at hSplit
            cases hSplit
            rw [List.flatMap_cons, List.append_assoc, hLater,
              List.flatMap_cons, division, Piece.toHtml,
              nextLine_eq]
            simp
          · rw [if_neg (by simpa using hBreak)] at hSplit
            cases hSplit
            rw [List.flatMap_cons, List.flatMap_cons,
              List.append_assoc, hLater]
            simp

/- The HTML of a log is one division for each line. -/
theorem toHtml_eq (log : String) :
    (toHtml log).toList =
      "<pre>".toList
        ++ (lines (pieces log.toList)).flatMap division
        ++ "</pre>".toList := by
  have hFront :
      "<pre><div><span>".toList =
        "<pre>".toList ++ openingTags := by
    decide
  have hBack :
      "</span></div></pre>".toList =
        closingTags ++ "</pre>".toList := by
    decide
  have hText :
      (toHtml log).toList =
        "<pre><div><span>".toList ++ render (pieces log.toList)
          ++ "</span></div></pre>".toList := by
    have hRendered :
        (String.ofList (render (pieces log.toList))).toList =
          render (pieces log.toList) :=
      String.toList_ofList
    unfold toHtml
    rw [String.toList_append, String.toList_append, hRendered]
  cases hLines : lines (pieces log.toList) with
  | nil => exact absurd hLines (lines_ne_nil _)
  | cons first others =>
      have hRendered := flatMap_toHtml_eq hLines
      rw [← render_eq] at hRendered
      calc
        (toHtml log).toList =
            "<pre>".toList ++ (openingTags
              ++ (render (pieces log.toList) ++ closingTags))
              ++ "</pre>".toList := by
          rw [hText, hFront, hBack]
          simp only [List.append_assoc]
        _ = _ := by
          rw [hRendered, List.flatMap_cons, division]
          simp only [List.append_assoc]

------------------------------------------------------------
-- Markup
------------------------------------------------------------

/- The declarations that styles are made of. -/
def palette : List Declaration :=
  .bold :: .italic ::
    (colors.map .color ++ colors.map .background)

/- A code asks for nothing but what is in the palette. -/
theorem mem_palette_of_declaration?
    {code : Nat}
    {declaration : Declaration}
    (hCode : declaration? code = some declaration) :
    declaration ∈ palette := by
  have hColor
      {place : Nat}
      {make : String → Declaration}
      (hMake : ∀ name ∈ colors, make name ∈ palette)
      (hNamed : colors[place]?.map make = some declaration) :
      declaration ∈ palette := by
    rcases Option.map_eq_some_iff.mp hNamed with
      ⟨name, hName, rfl⟩
    exact hMake name (List.mem_of_getElem? hName)
  unfold declaration? at hCode
  split at hCode
  · cases hCode
    decide
  · split at hCode
    · cases hCode
      decide
    · split at hCode
      · apply hColor _ hCode
        intro name hName
        have hMem : Declaration.color name ∈ colors.map .color :=
          List.mem_map_of_mem hName
        simp [palette, hMem]
      · split at hCode
        · apply hColor _ hCode
          intro name hName
          have hMem :
              Declaration.background name ∈
                colors.map .background :=
            List.mem_map_of_mem hName
          simp [palette, hMem]
        · cases hCode

theorem mem_palette_of_part
    {text : List Char}
    {declaration : Declaration}
    (hPart : part text = .add declaration) :
    declaration ∈ palette := by
  unfold part at hPart
  dsimp only at hPart
  split at hPart
  · cases hPart
  · split at hPart
    · cases hPart
    · cases hPart
    · split at hPart
      · cases hPart
      · rename_i hCode
        cases hPart
        exact mem_palette_of_declaration? hCode

/- Parts add nothing but what is in the palette. -/
theorem mem_palette_of_foldl
    {parts : List Part}
    {made : List Declaration}
    (hMade : ∀ declaration ∈ made, declaration ∈ palette)
    (hParts :
      ∀ declaration,
        .add declaration ∈ parts → declaration ∈ palette) :
    ∀ declaration ∈ parts.foldl apply made,
      declaration ∈ palette := by
  induction parts generalizing made with
  | nil => exact hMade
  | cons part parts ih =>
      have hApplied :
          ∀ declaration ∈ apply made part,
            declaration ∈ palette := by
        cases part with
        | reset => exact nofun
        | nothing => exact hMade
        | add added =>
            intro declaration hMem
            rcases List.mem_append.mp hMem with hMem | hMem
            · exact hMade declaration hMem
            · rw [List.mem_singleton.mp hMem]
              exact hParts added List.mem_cons_self
      exact
        ih hApplied fun declaration hMem =>
          hParts declaration (List.mem_cons_of_mem _ hMem)

/- A style is made of declarations of the palette. -/
theorem mem_palette
    {parameters : List Char}
    {declaration : Declaration}
    (hMem : declaration ∈ declarations parameters) :
    declaration ∈ palette := by
  refine
    mem_palette_of_foldl
      (fun _ hNone => absurd hNone List.not_mem_nil) ?_
      declaration hMem
  intro added hAdded
  rcases List.mem_map.mp hAdded with ⟨text, -, hPart⟩
  exact mem_palette_of_part hPart

/- The characters that mean something in HTML. -/
def markupChars : List Char :=
  ['<', '>', '&', '\'', '"']

/- A style holds nothing that means something in HTML. -/
theorem not_mem_style
    {mark : Char}
    (hMark : mark ∈ markupChars)
    (parameters : List Char) :
    mark ∉ style parameters := by
  have hPalette :
      ∀ declaration ∈ palette,
        declaration.text.toList.all (· ∉ markupChars) = true :=
    Text.forall_mem (by decide)
  intro hMem
  rcases List.mem_flatMap.mp hMem with
    ⟨declaration, hDeclaration, hText⟩
  have hNone :=
    hPalette declaration (mem_palette hDeclaration)
  exact
    of_decide_eq_true (List.all_eq_true.mp hNone mark hText)
      hMark

/-
  A character is written as itself, or as an entity if it
  means something in HTML.
-/
theorem escapeHtml_cases (c : Char) :
    (c ∈ markupChars ∧
        escapeHtml c ∈ markupChars.map escapeHtml) ∨
      (c ∉ markupChars ∧ escapeHtml c = [c]) := by
  by_cases hMark : c ∈ markupChars
  · exact .inl ⟨hMark, List.mem_map_of_mem hMark⟩
  · refine .inr ⟨hMark, ?_⟩
    unfold escapeHtml
    split
    · exact absurd (by decide) hMark
    · exact absurd (by decide) hMark
    · exact absurd (by decide) hMark
    · exact absurd (by decide) hMark
    · exact absurd (by decide) hMark
    · rfl

/- No tag begins in what a character is written as. -/
theorem not_mem_escapeHtml (c : Char) : '<' ∉ escapeHtml c := by
  have hEntities :
      ∀ entity ∈ markupChars.map escapeHtml, '<' ∉ entity :=
    Text.forall_mem (by decide)
  rcases escapeHtml_cases c with
    ⟨-, hEntity⟩ | ⟨hPlain, hText⟩
  · exact hEntities _ hEntity
  · rw [hText, List.mem_singleton]
    rintro rfl
    exact hPlain (by decide)

end BrainLink.Log
