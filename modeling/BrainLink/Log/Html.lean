import BrainLink.Error
import BrainLink.Log.Style

/-
  A terminal log as HTML: a division for every line, a span
  for every stretch of one style.

  Key definitions include:
    * `Log.Piece`
    * `Log.pieces`
    * `Log.escapeHtml`
    * `Log.render`
    * `Log.toHtml`
-/

namespace BrainLink.Log

------------------------------------------------------------
-- Pieces
------------------------------------------------------------

/-
  What a log is made of: characters, line breaks, and escapes
  with their parameters.
-/
inductive Piece where
| char (c : Char)
| lineBreak
| escape (parameters : List Char)
deriving DecidableEq, Repr

/- The character that opens an escape. -/
def escapeChar : Char :=
  '\x1b'

/-
  Cut a log into its pieces from left to right. A carriage
  return with a line feed after it is one break. An escape
  reaches up to the next `m`, or to the end of the log.
-/
def pieces : List Char → List Piece
| [] => []
| '\r' :: '\n' :: rest => .lineBreak :: pieces rest
| '\x1b' :: '[' :: rest =>
    .escape (rest.takeWhile (· != 'm'))
      :: pieces ((rest.dropWhile (· != 'm')).drop 1)
| c :: rest =>
    if c == '\r' || c == '\n' then
      .lineBreak :: pieces rest
    else
      .char c :: pieces rest
termination_by text => text.length
decreasing_by
  · simp only [List.length_cons]
    omega
  · have hDrop :=
      (List.dropWhile_sublist
        (fun x : Char => x != 'm') (l := rest)).length_le
    simp only [List.length_drop, List.length_cons]
    omega
  · simp
  · simp

------------------------------------------------------------
-- HTML
------------------------------------------------------------

/- A character as the content of an element. -/
def escapeHtml (c : Char) : List Char :=
  match c with
  | '<' => "&lt;".toList
  | '>' => "&gt;".toList
  | '&' => "&amp;".toList
  | '\'' => "&#39;".toList
  | '"' => "&quot;".toList
  | c => [c]

/- What ends a line and starts the next one. -/
def nextLine : List Char :=
  "</span></div><div><span>".toList

/- What ends a span and starts one of another style. -/
def nextSpan (parameters : List Char) : List Char :=
  "</span><span style='".toList ++ style parameters
    ++ "'>".toList

/-
  The pieces between the first opening tag and the last
  closing one. A break at the very end starts no line.
-/
def render : List Piece → List Char
| [] => []
| .char c :: rest => escapeHtml c ++ render rest
| [.lineBreak] => []
| .lineBreak :: rest => nextLine ++ render rest
| .escape parameters :: rest =>
    nextSpan parameters ++ render rest

/- A log as HTML. -/
def toHtml (log : String) : String :=
  "<pre><div><span>"
    ++ String.ofList (render (pieces log.toList))
    ++ "</span></div></pre>"

/- The log of the answer to the request for it, as HTML. -/
def ofAnswer (answer : Http.Answer) : Outcome String :=
  match Http.accept answer with
  | .error cause => .error cause
  | .ok body => .ok (toHtml body)

end BrainLink.Log
