/-
  ASCII letters and digits, and cutting a text at a separator.

  Key definitions include:
    * `Text.lowerChars`
    * `Text.sameLetters`
    * `Text.hexValue?`
    * `Text.cutAt`
    * `Text.fields`
-/

namespace BrainLink.Text

------------------------------------------------------------
-- Letters
------------------------------------------------------------

/- ASCII capitals made small, all else untouched. -/
def lowerChars (text : List Char) : List Char :=
  text.map Char.toLower

/- ASCII capitals made small, all else untouched. -/
def lower (text : String) : String :=
  String.ofList (lowerChars text.toList)

/- Two texts that differ in the case of ASCII letters only. -/
def sameLetters (left right : String) : Bool :=
  lowerChars left.toList == lowerChars right.toList

------------------------------------------------------------
-- Digits
------------------------------------------------------------

/- The value of a decimal digit. -/
def digitValue (c : Char) : Nat :=
  c.toNat - '0'.toNat

/- The value of a hexadecimal digit, of either case. -/
def hexValue? (c : Char) : Option Nat :=
  if c.isDigit then
    some (c.toNat - '0'.toNat)
  else if 'a' ≤ c ∧ c ≤ 'f' then
    some (c.toNat - 'a'.toNat + 10)
  else if 'A' ≤ c ∧ c ≤ 'F' then
    some (c.toNat - 'A'.toNat + 10)
  else
    none

/- A hexadecimal digit of either case. -/
def isHexDigit (c : Char) : Bool :=
  (hexValue? c).isSome

/- The small hexadecimal digit of a value below sixteen. -/
def hexDigit (value : Nat) : Char :=
  if value < 10 then
    Char.ofNat ('0'.toNat + value)
  else
    Char.ofNat ('a'.toNat + (value - 10))

/- The number that a list of digit values writes in a base. -/
def numberOf (base : Nat) (digits : List Nat) : Nat :=
  digits.foldl (fun number digit => number * base + digit) 0

/- The hexadecimal digits of a number, without leading zeros. -/
def hexChars (number : Nat) : List Char :=
  Nat.toDigits 16 number

/- The decimal digits of a number, without leading zeros. -/
def decimalChars (number : Nat) : List Char :=
  Nat.toDigits 10 number

------------------------------------------------------------
-- Separators
------------------------------------------------------------

/-
  The text before the first `mark` and the text after it, or
  nothing when there is no `mark`.
-/
def cutAt
    (mark : Char)
    (text : List Char) :
    Option (List Char × List Char) :=
  match text.dropWhile (· != mark) with
  | [] => none
  | _ :: rest => some (text.takeWhile (· != mark), rest)

/-
  The parts between the marks. A text with `n` marks has
  `n + 1` parts, some of them perhaps empty.
-/
def fields (mark : Char) : List Char → List (List Char)
| [] => [[]]
| c :: rest =>
    if c == mark then
      [] :: fields mark rest
    else
      match fields mark rest with
      | [] => [[c]]
      | first :: others => (c :: first) :: others

end BrainLink.Text
