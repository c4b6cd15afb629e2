import BrainLink.Text.Ascii

/-
  Reading an integer of a bounded range from its decimal text.

  Key definitions include:
    * `IntegerError`
    * `Text.readNat`
    * `Text.readInt`
-/

namespace BrainLink

------------------------------------------------------------
-- Errors
------------------------------------------------------------

/- Why a text is not an integer of the range. -/
inductive IntegerError where
| empty
| notADigit
| tooLarge
| tooSmall
deriving DecidableEq, Repr

namespace IntegerError

/- The wording of each cause. -/
def message : IntegerError → String
| .empty => "cannot parse integer from empty string"
| .notADigit => "invalid digit found in string"
| .tooLarge => "number too large to fit in target type"
| .tooSmall => "number too small to fit in target type"

end IntegerError

namespace Text

------------------------------------------------------------
-- Digits
------------------------------------------------------------

/-
  Read digits from left to right on top of `number`. The
  first fault decides: a character that is no digit, or the
  digit that takes the number past `most`.
-/
def readDigits
    (most : Nat)
    (past : IntegerError) :
    List Char → Nat → Except IntegerError Nat
| [], number => .ok number
| c :: rest, number =>
    if c.isDigit then
      let next := number * 10 + digitValue c
      if next ≤ most then
        readDigits most past rest next
      else
        .error past
    else
      .error .notADigit

/- Digits after a sign; a sign alone is no number. -/
def readSigned
    (most : Nat)
    (past : IntegerError) :
    List Char → Except IntegerError Nat
| [] => .error .notADigit
| digits => readDigits most past digits 0

------------------------------------------------------------
-- Integers
------------------------------------------------------------

/-
  A natural number of at most `most`: one or more digits,
  after an optional plus sign.
-/
def readNat
    (most : Nat) :
    List Char → Except IntegerError Nat
| [] => .error .empty
| '+' :: digits => readSigned most .tooLarge digits
| digits => readDigits most .tooLarge digits 0

/-
  An integer from `-(most + 1)` to `most`: one or more
  digits, after an optional sign.
-/
def readInt
    (most : Nat) :
    List Char → Except IntegerError Int
| [] => .error .empty
| '+' :: digits =>
    (readSigned most .tooLarge digits).map Int.ofNat
| '-' :: digits =>
    (readSigned (most + 1) .tooSmall digits).map
      fun number => -(Int.ofNat number)
| digits =>
    (readDigits most .tooLarge digits 0).map Int.ofNat

end Text

end BrainLink
