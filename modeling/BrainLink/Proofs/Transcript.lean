import BrainLink.Proofs.Lines
import Mathlib.Data.List.Forall2

/-
  Reading the HTML of a log back.

  Key definitions include:
    * `Log.Token`
    * `Log.tokens`
    * `Log.divisions`
    * `Log.Place`
    * `Log.placed`
    * `Log.placeAfter`
    * `Log.Shows`

  Main statements:
    * `Log.tokens_toHtml`
    * `Log.divisions_toHtml`
    * `Log.shows_line`
    * `Log.divisions_show_lines`

  The HTML is read as tags and characters, with the entities
  undone. What is between the tags of a division is then a
  line of the log, and the span in which a character stands
  has the style of the last escape in front of it.
-/

namespace BrainLink.Log

------------------------------------------------------------
-- Tokens
------------------------------------------------------------

/- What HTML is read as: tags and characters. -/
inductive Token where
| tag (text : List Char)
| char (c : Char)
deriving DecidableEq, Repr

/- Read HTML: an entity stands for one character. -/
def tokens : List Char → List Token
| [] => []
| '&' :: 'l' :: 't' :: ';' :: rest => .char '<' :: tokens rest
| '&' :: 'g' :: 't' :: ';' :: rest => .char '>' :: tokens rest
| '&' :: 'a' :: 'm' :: 'p' :: ';' :: rest =>
    .char '&' :: tokens rest
| '&' :: '#' :: '3' :: '9' :: ';' :: rest =>
    .char '\'' :: tokens rest
| '&' :: 'q' :: 'u' :: 'o' :: 't' :: ';' :: rest =>
    .char '"' :: tokens rest
| '<' :: rest =>
    .tag (rest.takeWhile (· != '>'))
      :: tokens ((rest.dropWhile (· != '>')).drop 1)
| c :: rest => .char c :: tokens rest
termination_by text => text.length
decreasing_by
  all_goals simp only [List.length_cons, List.length_drop]
  · omega
  · omega
  · omega
  · omega
  · omega
  · have hDrop :=
      (List.dropWhile_sublist
        (fun x : Char => x != '>') (l := rest)).length_le
    omega
  · omega

/- A tag is read up to its end. -/
theorem tokens_tag
    {tag text : List Char}
    (hTag : tag = '<' :: (text ++ ['>']))
    (hText : '>' ∉ text)
    (rest : List Char) :
    tokens (tag ++ rest) = .tag text :: tokens rest := by
  rw [hTag, List.cons_append, List.append_assoc,
    List.singleton_append, tokens, Text.takeWhile_mark hText,
    Text.dropWhile_mark hText, List.drop_one, List.tail_cons]

/- What means nothing in HTML is read as itself. -/
theorem tokens_plain
    {c : Char}
    (hPlain : c ∉ markupChars)
    (rest : List Char) :
    tokens (c :: rest) = .char c :: tokens rest := by
  have hAnd : c ≠ '&' := by
    rintro rfl
    exact hPlain (by decide)
  have hLess : c ≠ '<' := by
    rintro rfl
    exact hPlain (by decide)
  apply tokens.eq_8
  · exact fun _ hIs => absurd hIs hAnd
  · exact fun _ hIs => absurd hIs hAnd
  · exact fun _ hIs => absurd hIs hAnd
  · exact fun _ hIs => absurd hIs hAnd
  · exact fun _ hIs => absurd hIs hAnd
  · exact hLess

/- A character is read from what it is written as. -/
theorem tokens_escapeHtml
    (c : Char)
    (rest : List Char) :
    tokens (escapeHtml c ++ rest) = .char c :: tokens rest := by
  rcases escapeHtml_cases c with ⟨hMark, -⟩ | ⟨hPlain, hText⟩
  · simp only [markupChars, List.mem_cons, List.not_mem_nil,
      or_false] at hMark
    rcases hMark with rfl | rfl | rfl | rfl | rfl
    · have hEntity : escapeHtml '<' = ['&', 'l', 't', ';'] := by
        decide
      rw [hEntity]
      exact tokens.eq_2 rest
    · have hEntity : escapeHtml '>' = ['&', 'g', 't', ';'] := by
        decide
      rw [hEntity]
      exact tokens.eq_3 rest
    · have hEntity :
          escapeHtml '&' = ['&', 'a', 'm', 'p', ';'] := by
        decide
      rw [hEntity]
      exact tokens.eq_4 rest
    · have hEntity :
          escapeHtml '\'' = ['&', '#', '3', '9', ';'] := by
        decide
      rw [hEntity]
      exact tokens.eq_5 rest
    · have hEntity :
          escapeHtml '"' = ['&', 'q', 'u', 'o', 't', ';'] := by
        decide
      rw [hEntity]
      exact tokens.eq_6 rest
  · rw [hText]
    exact tokens_plain hPlain rest

------------------------------------------------------------
-- Tags
------------------------------------------------------------

/- The tag of a span with a style, without its brackets. -/
def styleTag (style : List Char) : List Char :=
  "span style='".toList ++ style ++ ['\'']

/- What a piece of a line is read as. -/
def Piece.tokens : Piece → List Token
| .char c => [.char c]
| .lineBreak => []
| .escape parameters =>
    [ .tag "/span".toList, .tag (styleTag (style parameters)) ]

/- What the division of a line is read as, between its tags. -/
def lineTokens (line : List Piece) : List Token :=
  .tag "span".toList ::
    (line.flatMap Piece.tokens ++ [.tag "/span".toList])

theorem tokens_toHtml
    {piece : Piece}
    (hPiece : piece ≠ .lineBreak)
    (rest : List Char) :
    tokens (piece.toHtml ++ rest) =
      piece.tokens ++ tokens rest := by
  cases piece with
  | char c => exact tokens_escapeHtml c rest
  | lineBreak => exact (hPiece rfl).elim
  | escape parameters =>
      have hClosing :
          "</span>".toList = '<' :: ("/span".toList ++ ['>']) := by
        decide
      have hFront :
          "<span style='".toList =
            '<' :: "span style='".toList := by
        decide
      have hEnd : "'>".toList = ['\'', '>'] := by
        decide
      have hOpening :
          "<span style='".toList
              ++ (style parameters ++ "'>".toList) =
            '<' :: (styleTag (style parameters) ++ ['>']) := by
        unfold styleTag
        rw [hFront, hEnd]
        simp only [List.cons_append, List.append_assoc,
          List.nil_append]
      have hStyle : '>' ∉ styleTag (style parameters) := by
        unfold styleTag
        rw [List.mem_append, List.mem_append, not_or, not_or]
        exact
          ⟨⟨by decide, not_mem_style (by decide) _⟩, by decide⟩
      rw [Piece.toHtml, nextSpan_eq, List.append_assoc,
        tokens_tag hClosing (by decide),
        tokens_tag hOpening hStyle]
      rfl

theorem tokens_flatMap_toHtml
    {line : List Piece}
    (hLine : .lineBreak ∉ line)
    (rest : List Char) :
    tokens (line.flatMap Piece.toHtml ++ rest) =
      line.flatMap Piece.tokens ++ tokens rest := by
  induction line with
  | nil => rfl
  | cons piece line ih =>
      rw [List.mem_cons, not_or] at hLine
      rw [List.flatMap_cons, List.append_assoc,
        tokens_toHtml (Ne.symm hLine.1), ih hLine.2,
        List.flatMap_cons, List.append_assoc]

/- A division is read as its tags and what is between them. -/
theorem tokens_division
    {line : List Piece}
    (hLine : .lineBreak ∉ line)
    (rest : List Char) :
    tokens (division line ++ rest) =
      .tag "div".toList ::
        (lineTokens line ++ .tag "/div".toList ::
          tokens rest) := by
  have hOpening :
      openingTags =
        '<' :: ("div".toList ++ ['>']) ++
          '<' :: ("span".toList ++ ['>']) := by
    decide
  have hClosing :
      closingTags =
        '<' :: ("/span".toList ++ ['>']) ++
          '<' :: ("/div".toList ++ ['>']) := by
    decide
  rw [division, List.append_assoc, hOpening, List.append_assoc,
    tokens_tag rfl (by decide), tokens_tag rfl (by decide),
    List.append_assoc, tokens_flatMap_toHtml hLine, hClosing,
    List.append_assoc, tokens_tag rfl (by decide),
    tokens_tag rfl (by decide)]
  unfold lineTokens
  simp only [List.cons_append, List.append_assoc,
    List.nil_append]

------------------------------------------------------------
-- Divisions
------------------------------------------------------------

/- What is between the tags of each division. -/
def divisions : List Token → List (List Token)
| [] => []
| token :: rest =>
    if token = .tag "div".toList then
      rest.takeWhile (· != .tag "/div".toList)
        :: divisions rest
    else
      divisions rest

/- Tokens that are neither end of a division. -/
def IsInside (read : List Token) : Prop :=
  ∀ token ∈ read,
    token ≠ .tag "div".toList ∧ token ≠ .tag "/div".toList

theorem divisions_append
    {read : List Token}
    (hRead : IsInside read)
    (rest : List Token) :
    divisions (read ++ rest) = divisions rest := by
  induction read with
  | nil => rfl
  | cons token read ih =>
      rw [List.cons_append, divisions,
        if_neg (hRead token List.mem_cons_self).1]
      exact ih fun other hMem =>
        hRead other (List.mem_cons_of_mem _ hMem)

/- A style is no end of a division. -/
theorem styleTag_ne
    {text : List Char}
    (hText : text.head? ≠ some 's')
    (style : List Char) :
    styleTag style ≠ text := by
  have hFront :
      "span style='".toList = 's' :: "pan style='".toList := by
    decide
  rintro rfl
  unfold styleTag at hText
  rw [hFront] at hText
  exact hText rfl

/- There is no end of a division within a line. -/
theorem isInside_lineTokens (line : List Piece) :
    IsInside (lineTokens line) := by
  intro token hMem
  rcases List.mem_cons.mp hMem with rfl | hMem
  · decide
  · rcases List.mem_append.mp hMem with hMem | hMem
    · rcases List.mem_flatMap.mp hMem with
        ⟨piece, -, hPiece⟩
      cases piece with
      | char c =>
          rw [List.mem_singleton.mp hPiece]
          exact ⟨nofun, nofun⟩
      | lineBreak => exact absurd hPiece List.not_mem_nil
      | escape parameters =>
          rcases List.mem_cons.mp hPiece with rfl | hPiece
          · decide
          · rw [List.mem_singleton.mp hPiece]
            constructor
            · intro hSame
              exact
                styleTag_ne (by decide) _ (Token.tag.inj hSame)
            · intro hSame
              exact
                styleTag_ne (by decide) _ (Token.tag.inj hSame)
    · rw [List.mem_singleton.mp hMem]
      decide

/- The divisions that are read are those of the lines. -/
theorem divisions_flatMap
    {lines : List (List Piece)}
    (hLines : ∀ line ∈ lines, .lineBreak ∉ line)
    (rest : List Char) :
    divisions (tokens (lines.flatMap division ++ rest)) =
      lines.map lineTokens ++ divisions (tokens rest) := by
  induction lines with
  | nil => rfl
  | cons line lines ih =>
      have hLine := hLines line List.mem_cons_self
      have hInside := isInside_lineTokens line
      have hTake (rest : List Token) :
          (lineTokens line ++ .tag "/div".toList :: rest).takeWhile
              (· != .tag "/div".toList) =
            lineTokens line := by
        rw [List.takeWhile_append_of_pos fun token hMem =>
            bne_iff_ne.mpr (hInside token hMem).2,
          List.takeWhile_cons, bne_self_eq_false]
        exact List.append_nil _
      have hEnd :
          Token.tag "/div".toList ≠ .tag "div".toList := by
        decide
      rw [List.flatMap_cons, List.append_assoc,
        tokens_division hLine, divisions, if_pos rfl, hTake,
        divisions_append hInside, divisions, if_neg hEnd,
        ih fun other hMem =>
          hLines other (List.mem_cons_of_mem _ hMem),
        List.map_cons, List.cons_append]

theorem divisions_toHtml (log : String) :
    divisions (tokens (toHtml log).toList) =
      (lines (pieces log.toList)).map lineTokens := by
  have hOpening :
      "<pre>".toList = '<' :: ("pre".toList ++ ['>']) := by
    decide
  have hClosing : divisions (tokens "</pre>".toList) = [] := by
    decide +kernel
  have hTag : Token.tag "pre".toList ≠ .tag "div".toList := by
    decide
  rw [toHtml_eq, List.append_assoc,
    tokens_tag hOpening (by decide), divisions, if_neg hTag,
    divisions_flatMap fun _ => not_mem_of_mem_lines, hClosing,
    List.append_nil]

------------------------------------------------------------
-- Places
------------------------------------------------------------

/- Where a character stands: outside all spans, or in one. -/
inductive Place where
| outside
| bare
| styled (style : List Char)
deriving DecidableEq, Repr

/- The place behind a tag. -/
def Place.ofTag (text : List Char) : Place :=
  let front := "span style='".toList
  if text = "span".toList then
    .bare
  else if front.isPrefixOf text then
    .styled (text.drop front.length).dropLast
  else
    .outside

/- The characters that are read, without the tags. -/
def contents (read : List Token) : List Char :=
  read.filterMap fun
    | .tag _ => none
    | .char c => some c

/- The characters that are read, each with its place. -/
def placed : Place → List Token → List (Char × Place)
| _, [] => []
| _, .tag text :: rest => placed (.ofTag text) rest
| place, .char c :: rest => (c, place) :: placed place rest

/- The characters of a line. -/
def characters (line : List Piece) : List Char :=
  line.filterMap fun
    | .char c => some c
    | _ => none

/- The parameters of each escape of a line. -/
def escapes (line : List Piece) : List (List Char) :=
  line.filterMap fun
    | .escape parameters => some parameters
    | _ => none

/-
  The place behind some pieces of a line: that of the last
  escape, or the one before them.
-/
def placeFrom (place : Place) (before : List Piece) : Place :=
  match (escapes before).getLast? with
  | none => place
  | some parameters => .styled (style parameters)

/- The place behind some pieces at the head of a line. -/
def placeAfter (before : List Piece) : Place :=
  placeFrom .bare before

/-
  A division shows a line: its content is the line, and each
  character stands in a span with the style of the last escape
  in front of it, or in a bare one if there is none.
-/
structure Shows
    (division : List Token)
    (line : List Piece) :
    Prop where
  contents_eq : contents division = characters line
  place_eq :
    ∀ before c after,
      line = before ++ .char c :: after →
        (placed .outside division)[(characters before).length]? =
          some (c, placeAfter before)

theorem ofTag_styleTag (style : List Char) :
    Place.ofTag (styleTag style) = .styled style := by
  have hBare : styleTag style ≠ "span".toList := by
    intro hSame
    have hLength := congrArg List.length hSame
    unfold styleTag at hLength
    rw [List.length_append, List.length_append] at hLength
    have hFront : "span style='".toList.length = 12 := by
      decide
    have hText : "span".toList.length = 4 := by
      decide
    omega
  have hPrefix :
      "span style='".toList.isPrefixOf (styleTag style) =
        true := by
    unfold styleTag
    rw [List.isPrefixOf_iff_prefix, List.append_assoc]
    exact List.prefix_append _ _
  unfold Place.ofTag
  dsimp only
  rw [if_neg hBare, if_pos hPrefix]
  unfold styleTag
  rw [List.append_assoc, List.drop_left, List.dropLast_concat]

/- A piece in front changes the place for those behind it. -/
theorem placeFrom_cons
    (place : Place)
    (piece : Piece)
    (before : List Piece) :
    placeFrom place (piece :: before) =
      placeFrom (placeFrom place [piece]) before := by
  cases piece with
  | char c => rfl
  | lineBreak => rfl
  | escape parameters =>
      have hEscapes :
          escapes (.escape parameters :: before) =
            parameters :: escapes before :=
        rfl
      unfold placeFrom
      rw [hEscapes, List.getLast?_cons]
      cases (escapes before).getLast? <;> rfl

/- What is read of some pieces leads on to the next place. -/
theorem exists_placed
    {before : List Piece}
    (hBefore : .lineBreak ∉ before)
    (place : Place)
    (rest : List Token) :
    ∃ front,
      front.length = (characters before).length ∧
        placed place (before.flatMap Piece.tokens ++ rest) =
          front ++ placed (placeFrom place before) rest := by
  -- An escape changes the place for all pieces behind it.
  induction before generalizing place with
  | nil => exact ⟨[], rfl, rfl⟩
  | cons piece before ih =>
      rw [List.mem_cons, not_or] at hBefore
      rw [placeFrom_cons, List.flatMap_cons, List.append_assoc]
      rcases ih hBefore.2 (placeFrom place [piece]) with
        ⟨front, hLength, hPlaced⟩
      cases piece with
      | lineBreak => exact (hBefore.1 rfl).elim
      | char c =>
          refine ⟨(c, place) :: front, ?_, ?_⟩
          · rw [List.length_cons, hLength]
            rfl
          · exact congrArg ((c, place) :: ·) hPlaced
      | escape parameters =>
          refine ⟨front, hLength, ?_⟩
          rw [← hPlaced]
          have hStyle := ofTag_styleTag (style parameters)
          exact
            congrArg
              (placed · (before.flatMap Piece.tokens ++ rest))
              hStyle

theorem contents_flatMap
    (line : List Piece)
    (rest : List Token) :
    contents (line.flatMap Piece.tokens ++ rest) =
      characters line ++ contents rest := by
  induction line with
  | nil => rfl
  | cons piece line ih =>
      rw [List.flatMap_cons, List.append_assoc]
      cases piece with
      | char c => exact congrArg (c :: ·) ih
      | lineBreak => exact ih
      | escape parameters => exact ih

/- What is read of the division of a line shows the line. -/
theorem shows_line
    {line : List Piece}
    (hLine : .lineBreak ∉ line) :
    Shows (lineTokens line) line where
  contents_eq := by
    have hContents :=
      contents_flatMap line [.tag "/span".toList]
    rw [show contents [.tag "/span".toList] = [] from rfl,
      List.append_nil] at hContents
    exact hContents
  place_eq before c after hIs := by
    have hBefore : .lineBreak ∉ before := by
      rw [hIs, List.mem_append, not_or] at hLine
      exact hLine.1
    have hBare : Place.ofTag "span".toList = .bare := by
      decide
    rcases
        exists_placed hBefore .bare
          (.char c :: (after.flatMap Piece.tokens
            ++ [.tag "/span".toList])) with
      ⟨front, hLength, hPlaced⟩
    have hRead :
        placed .outside (lineTokens line) =
          front ++ (c, placeAfter before) ::
            placed (placeAfter before)
              (after.flatMap Piece.tokens
                ++ [.tag "/span".toList]) := by
      unfold lineTokens
      rw [placed, hBare, hIs, List.flatMap_append,
        List.flatMap_cons, List.append_assoc, List.append_assoc]
      exact hPlaced
    rw [hRead, ← hLength, List.getElem?_append_right (by omega),
      Nat.sub_self]
    rfl

/-
  A log is cut in one way, and the divisions of its HTML show
  the lines of that cut, one by one: nothing of the text
  outside the escapes is lost, and nothing is made up.
-/
theorem divisions_show_lines (log : String) :
    ∃ cut,
      Cuts log.toList cut ∧
        (∀ other, Cuts log.toList other → other = cut) ∧
        List.Forall₂ Shows
          (divisions (tokens (toHtml log).toList))
          (lines cut) := by
  refine
    ⟨pieces log.toList, cuts_pieces _, fun _ => cuts_iff.mp, ?_⟩
  rw [divisions_toHtml, List.forall₂_map_left_iff,
    List.forall₂_same]
  exact fun _ hLine => shows_line (not_mem_of_mem_lines hLine)

end BrainLink.Log
