/-
  Blank characters, the ones with the Unicode property
  White_Space, and trimming a text of them at both ends.

  Key definitions include:
    * `Text.isBlank`
    * `Text.trimStart`
    * `Text.trim`
    * `Text.isBlankText`
-/

namespace BrainLink.Text

------------------------------------------------------------
-- Blank characters
------------------------------------------------------------

/- The code points of White_Space, as closed ranges. -/
def blankRanges : List (Nat × Nat) :=
  [ (0x09, 0x0D), (0x20, 0x20), (0x85, 0x85), (0xA0, 0xA0),
    (0x1680, 0x1680), (0x2000, 0x200A), (0x2028, 0x2029),
    (0x202F, 0x202F), (0x205F, 0x205F), (0x3000, 0x3000) ]

/- A character is blank when it has the property White_Space. -/
def isBlank (c : Char) : Bool :=
  blankRanges.any fun range =>
    decide (range.1 ≤ c.toNat) && decide (c.toNat ≤ range.2)

------------------------------------------------------------
-- Trimming
------------------------------------------------------------

/- The text without its leading blanks. -/
def trimStart (text : List Char) : List Char :=
  text.dropWhile isBlank

/- The text without its trailing blanks. -/
def trimEnd (text : List Char) : List Char :=
  (text.reverse.dropWhile isBlank).reverse

/- The text without the blanks at its two ends. -/
def trimChars (text : List Char) : List Char :=
  trimEnd (trimStart text)

/- The text without the blanks at its two ends. -/
def trim (text : String) : String :=
  String.ofList (trimChars text.toList)

/- Nothing but blanks. -/
def isBlankText (text : String) : Bool :=
  text.toList.all isBlank

end BrainLink.Text
