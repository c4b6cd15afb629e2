import BrainLink.Json.Value
import BrainLink.Text.Ascii

/-
  Reading a written JSON text.

  Key definitions include:
    * `Json.skipSpace`
    * `Json.readGlyphs`
    * `Json.readNumeral`
    * `Json.readWritten`
    * `Json.Written.ofChars?`
-/

namespace BrainLink.Json

------------------------------------------------------------
-- Space
------------------------------------------------------------

/- The four characters that may stand between tokens. -/
def isSpace (c : Char) : Bool :=
  c == ' ' || c == '\n' || c == '\t' || c == '\r'

/- The text after its leading space. -/
def skipSpace (text : List Char) : List Char :=
  text.dropWhile isSpace

------------------------------------------------------------
-- Strings
------------------------------------------------------------

/- The character that a short escape stands for. -/
def shortEscape? : Char → Option Char
| '"' => some '"'
| '\\' => some '\\'
| '/' => some '/'
| 'b' => some '\x08'
| 'f' => some '\x0c'
| 'n' => some '\n'
| 'r' => some '\r'
| 't' => some '\t'
| _ => none

/- The number that four hexadecimal digits write. -/
def hexUnit? (a b c d : Char) : Option Nat :=
  match Text.hexValue? a, Text.hexValue? b,
      Text.hexValue? c, Text.hexValue? d with
  | some a, some b, some c, some d =>
      some (Text.numberOf 16 [a, b, c, d])
  | _, _, _, _ => none

/- Put one more glyph in front of a read string. -/
def consGlyph
    (glyph : Glyph) :
    Option (List Glyph × List Char) →
      Option (List Glyph × List Char)
| none => none
| some (glyphs, rest) => some (glyph :: glyphs, rest)

/-
  The rest of a string after its opening quote, and the text
  after its closing one. Control characters must be escaped.
-/
def readGlyphs : List Char → Option (List Glyph × List Char)
| [] => none
| '"' :: rest => some ([], rest)
| '\\' :: 'u' :: a :: b :: c :: d :: rest =>
    match hexUnit? a b c d with
    | none => none
    | some code => consGlyph (.unit code) (readGlyphs rest)
| '\\' :: mark :: rest =>
    match shortEscape? mark with
    | none => none
    | some c => consGlyph (.plain c) (readGlyphs rest)
| c :: rest =>
    if c == '\\' || c.toNat < 0x20 then
      none
    else
      consGlyph (.plain c) (readGlyphs rest)

------------------------------------------------------------
-- Numbers
------------------------------------------------------------

/- The leading digits of a text, and the rest of it. -/
def spanDigits (text : List Char) : List Char × List Char :=
  (text.takeWhile Char.isDigit, text.dropWhile Char.isDigit)

/- One or more digits. -/
def readDigits (text : List Char) :
    Option (List Char × List Char) :=
  match spanDigits text with
  | ([], _) => none
  | (digits, rest) => some (digits, rest)

/- The digits before the point: a zero, or no leading zero. -/
def readWhole : List Char → Option (List Char × List Char)
| '0' :: rest => some (['0'], rest)
| text => readDigits text

/- The digits after the point, if there is a point. -/
def readFraction : List Char → Option (List Char × List Char)
| '.' :: rest => readDigits rest
| text => some ([], text)

/- The sign and the digits of an exponent. -/
def readSignedDigits :
    List Char → Option ((Bool × List Char) × List Char)
| '-' :: rest =>
    (readDigits rest).map fun read => ((true, read.1), read.2)
| '+' :: rest =>
    (readDigits rest).map fun read => ((false, read.1), read.2)
| text =>
    (readDigits text).map fun read => ((false, read.1), read.2)

/- The exponent, if there is one. -/
def readExponent :
    List Char →
      Option (Option (Bool × List Char) × List Char)
| 'e' :: rest =>
    (readSignedDigits rest).map fun read =>
      (some read.1, read.2)
| 'E' :: rest =>
    (readSignedDigits rest).map fun read =>
      (some read.1, read.2)
| text => some (none, text)

/- A number without its sign. -/
def readUnsigned
    (negative : Bool)
    (text : List Char) :
    Option (Numeral × List Char) :=
  match readWhole text with
  | none => none
  | some (whole, text) =>
      match readFraction text with
      | none => none
      | some (fraction, text) =>
          match readExponent text with
          | none => none
          | some (exponent, text) =>
              some (⟨negative, whole, fraction, exponent⟩, text)

/- A number. -/
def readNumeral :
    List Char → Option (Numeral × List Char)
| '-' :: rest => readUnsigned true rest
| text => readUnsigned false text

------------------------------------------------------------
-- Texts
------------------------------------------------------------

mutual

/-
  Read one value and return what follows it. The fuel bounds
  the number of nested and chained steps; one more than the
  length of the text is always enough.
-/
def readWritten :
    Nat → List Char → Option (Written × List Char)
| 0, _ => none
| fuel + 1, text =>
    match skipSpace text with
    | 'n' :: 'u' :: 'l' :: 'l' :: rest => some (.null, rest)
    | 't' :: 'r' :: 'u' :: 'e' :: rest =>
        some (.bool true, rest)
    | 'f' :: 'a' :: 'l' :: 's' :: 'e' :: rest =>
        some (.bool false, rest)
    | '"' :: rest =>
        match readGlyphs rest with
        | none => none
        | some (glyphs, rest) => some (.string glyphs, rest)
    | '[' :: rest =>
        match skipSpace rest with
        | ']' :: rest => some (.array [], rest)
        | rest =>
            match readItems fuel rest with
            | none => none
            | some (items, rest) => some (.array items, rest)
    | '{' :: rest =>
        match skipSpace rest with
        | '}' :: rest => some (.object [], rest)
        | rest =>
            match readMembers fuel rest with
            | none => none
            | some (members, rest) =>
                some (.object members, rest)
    | rest =>
        match readNumeral rest with
        | none => none
        | some (numeral, rest) => some (.number numeral, rest)

/- Read the values of an array up to its closing bracket. -/
def readItems :
    Nat → List Char → Option (List Written × List Char)
| 0, _ => none
| fuel + 1, text =>
    match readWritten fuel text with
    | none => none
    | some (item, rest) =>
        match skipSpace rest with
        | ']' :: rest => some ([item], rest)
        | ',' :: rest =>
            match readItems fuel rest with
            | none => none
            | some (items, rest) => some (item :: items, rest)
        | _ => none

/- Read the members of an object up to its closing brace. -/
def readMembers :
    Nat → List Char →
      Option (List (List Glyph × Written) × List Char)
| 0, _ => none
| fuel + 1, text =>
    match skipSpace text with
    | '"' :: rest =>
        match readGlyphs rest with
        | none => none
        | some (name, rest) =>
            match skipSpace rest with
            | ':' :: rest =>
                match readWritten fuel rest with
                | none => none
                | some (value, rest) =>
                    match skipSpace rest with
                    | '}' :: rest => some ([(name, value)], rest)
                    | ',' :: rest =>
                        match readMembers fuel rest with
                        | none => none
                        | some (members, rest) =>
                            some ((name, value) :: members, rest)
                    | _ => none
            | _ => none
    | _ => none

end

/- The text as one value with nothing but space after it. -/
def Written.ofChars? (text : List Char) : Option Written :=
  match readWritten (2 * text.length + 2) text with
  | none => none
  | some (written, rest) =>
      match skipSpace rest with
      | [] => some written
      | _ => none

end BrainLink.Json
