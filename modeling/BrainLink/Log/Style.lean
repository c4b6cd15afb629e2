import BrainLink.Text.Blank
import BrainLink.Text.Integer

/-
  Inline styles for the parameters of a terminal's graphics
  escape.

  Key definitions include:
    * `Log.Declaration`
    * `Log.Part`
    * `Log.part`
    * `Log.style`
-/

namespace BrainLink.Log

------------------------------------------------------------
-- Declarations
------------------------------------------------------------

/- The eight colors of a terminal. -/
def colors : List String :=
  [ "black", "red", "green", "yellow", "blue", "magenta",
    "cyan", "white" ]

/- One declaration of an inline style. -/
inductive Declaration where
| bold
| italic
| color (name : String)
| background (name : String)
deriving DecidableEq, Repr

/- The text of a declaration. -/
def Declaration.text : Declaration → String
| .bold => "font-weight:bold;"
| .italic => "font-style:italic;"
| .color name => "color:" ++ name ++ ";"
| .background name => "background-color:" ++ name ++ ";"

/- The declaration that a code asks for. -/
def declaration? (code : Nat) : Option Declaration :=
  if code = 1 then
    some .bold
  else if code = 4 then
    some .italic
  else if 30 ≤ code ∧ code ≤ 37 then
    colors[code - 30]?.map .color
  else if 40 ≤ code ∧ code ≤ 47 then
    colors[code - 40]?.map .background
  else
    none

------------------------------------------------------------
-- Parameters
------------------------------------------------------------

/- What one parameter of an escape does. -/
inductive Part where
| reset
| add (declaration : Declaration)
| nothing
deriving DecidableEq, Repr

/-
  What the text of a parameter does. An empty one resets like
  a zero; numbers above 255 and other texts do nothing.
-/
def part (text : List Char) : Part :=
  let code := Text.trimChars text
  if code.isEmpty then
    .reset
  else
    match Text.readNat 255 code with
    | .error _ => .nothing
    | .ok 0 => .reset
    | .ok number =>
        match declaration? number with
        | none => .nothing
        | some declaration => .add declaration

/- The parts that the parameters of an escape are made of. -/
def parts (parameters : List Char) : List Part :=
  (Text.fields ';' parameters).map part

/- Let one part change the declarations made so far. -/
def apply
    (made : List Declaration) : Part → List Declaration
| .reset => []
| .add declaration => made ++ [declaration]
| .nothing => made

/- The declarations of the parameters of an escape. -/
def declarations (parameters : List Char) : List Declaration :=
  (parts parameters).foldl apply []

/- The inline style of the parameters of an escape. -/
def style (parameters : List Char) : List Char :=
  (declarations parameters).flatMap fun declaration =>
    declaration.text.toList

end BrainLink.Log
