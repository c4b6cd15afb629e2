import BrainLink.Json.Value
import BrainLink.Text.Ascii

/-
  Writing a value as compact JSON text: no space, members in
  order, and only those characters escaped that must be.

  Key definitions include:
    * `Json.escape`
    * `Json.writeText`
    * `Json.Value.write`
    * `Json.Value.toText`
-/

namespace BrainLink.Json

------------------------------------------------------------
-- Strings
------------------------------------------------------------

/-
  A character as it is written inside a string: quotes,
  backslashes and control characters are escaped.
-/
def escape (c : Char) : List Char :=
  match c with
  | '"' => ['\\', '"']
  | '\\' => ['\\', '\\']
  | '\x08' => ['\\', 'b']
  | '\x0c' => ['\\', 'f']
  | '\n' => ['\\', 'n']
  | '\r' => ['\\', 'r']
  | '\t' => ['\\', 't']
  | c =>
      if c.toNat < 0x20 then
        [ '\\', 'u', '0', '0',
          Text.hexDigit (c.toNat / 16),
          Text.hexDigit (c.toNat % 16) ]
      else
        [c]

/- A string with its quotes. -/
def writeText (text : List Char) : List Char :=
  '"' :: (text.flatMap escape ++ ['"'])

------------------------------------------------------------
-- Numbers
------------------------------------------------------------

/- A number, digit for digit. -/
def Numeral.write (numeral : Numeral) : List Char :=
  (if numeral.negative then ['-'] else [])
    ++ numeral.whole
    ++ (match numeral.fraction with
        | [] => []
        | digits => '.' :: digits)
    ++ (match numeral.exponent with
        | none => []
        | some (true, digits) => 'e' :: '-' :: digits
        | some (false, digits) => 'e' :: digits)

------------------------------------------------------------
-- Values
------------------------------------------------------------

mutual

/- A value as compact text. -/
def Value.write : Value → List Char
| .null => ['n', 'u', 'l', 'l']
| .bool true => ['t', 'r', 'u', 'e']
| .bool false => ['f', 'a', 'l', 's', 'e']
| .number numeral => numeral.write
| .string text => writeText text.toList
| .array [] => ['[', ']']
| .array (item :: items) =>
    '[' :: (item.write ++ writeItems items)
| .object [] => ['{', '}']
| .object ((name, value) :: members) =>
    '{' :: (writeText name.toList
      ++ ':' :: (value.write ++ writeMembers members))

/- The items of an array after its first. -/
def writeItems : List Value → List Char
| [] => [']']
| item :: items => ',' :: (item.write ++ writeItems items)

/- The members of an object after its first. -/
def writeMembers : List (String × Value) → List Char
| [] => ['}']
| (name, value) :: members =>
    ',' :: (writeText name.toList
      ++ ':' :: (value.write ++ writeMembers members))

end

/- A value as compact text. -/
def Value.toText (value : Value) : String :=
  String.ofList value.write

end BrainLink.Json
