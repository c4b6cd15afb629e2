/-
  JSON texts as they are written, and the values they denote.

  A written text keeps every escape and every digit, so that
  a part nobody asks for can be skipped without judging it.
  The value of a text exists only when its escapes spell
  Unicode, its numbers stay finite and it does not nest too
  deep.

  Key definitions include:
    * `Json.Glyph`
    * `Json.Numeral`
    * `Json.Written`
    * `Json.Value`
-/

namespace BrainLink.Json

------------------------------------------------------------
-- Written texts
------------------------------------------------------------

/-
  One step of a written string: a character, or the sixteen
  bits of a numeric escape.
-/
inductive Glyph where
| plain (c : Char)
| unit (code : Nat)
deriving DecidableEq, Repr

/-
  The digits of a written number: before the point, after
  it, and after the sign of the exponent.
-/
structure Numeral where
  negative : Bool
  whole : List Char
  fraction : List Char
  exponent : Option (Bool × List Char)
deriving DecidableEq, Repr

/- A JSON text, escapes and digits kept as written. -/
inductive Written where
| null
| bool (value : Bool)
| number (numeral : Numeral)
| string (glyphs : List Glyph)
| array (items : List Written)
| object (members : List (List Glyph × Written))

------------------------------------------------------------
-- Values
------------------------------------------------------------

/-
  A JSON value. An object keeps its members in the order of
  the text; of two members with one name the last one counts.
-/
inductive Value where
| null
| bool (value : Bool)
| number (numeral : Numeral)
| string (text : String)
| array (items : List Value)
| object (members : List (String × Value))

namespace Value

/- The text of a string value. -/
def text? : Value → Option String
| .string text => some text
| _ => none

/- The members of an object. -/
def members? : Value → Option (List (String × Value))
| .object members => some members
| _ => none

/- The last member of an object with a given name. -/
def member? (name : String) : Value → Option Value
| .object members =>
    (members.reverse.find? (fun member => member.1 == name)).map
      Prod.snd
| _ => none

end Value

/-
  The members that count: of those with one name, the last.
-/
def lastMembers
    {α : Type} :
    List (String × α) → List (String × α)
| [] => []
| member :: rest =>
    if rest.any (fun other => other.1 == member.1) then
      lastMembers rest
    else
      member :: lastMembers rest

end BrainLink.Json
