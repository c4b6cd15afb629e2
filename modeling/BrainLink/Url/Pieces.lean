import BrainLink.Net.Ipv6

/-
  The version six address between the brackets of a URL.

  Key definitions include:
    * `Url.Pieces`
    * `Url.readDotted?`
    * `Url.readPieces?`
    * `Url.ipv6Of?`

  The text is read once, piece by piece and to its end. A
  double colon takes the place of one piece, and there is one
  of them at most. The pieces behind it are moved to the end
  of the address once all have been read.
-/

namespace BrainLink.Url

------------------------------------------------------------
-- Dotted ends
------------------------------------------------------------

/-
  A decimal number at the head of a text, without a leading
  zero and at most 255.
-/
def readDecimal? (text : List Char) : Option (Nat × List Char) :=
  let digits := text.takeWhile Char.isDigit
  let number := Text.numberOf 10 (digits.map Text.digitValue)
  if digits.isEmpty || 255 < number
      || (digits.head? == some '0' && 1 < digits.length) then
    none
  else
    some (number, text.dropWhile Char.isDigit)

/- A number after a dot. -/
def readDotDecimal? :
    List Char → Option (Nat × List Char)
| '.' :: text => readDecimal? text
| _ => none

/- The two pieces of four numbers with nothing behind them. -/
def readDotted? (text : List Char) : Option (List UInt16) := do
  let (first, text) ← readDecimal? text
  let (second, text) ← readDotDecimal? text
  let (third, text) ← readDotDecimal? text
  let (fourth, text) ← readDotDecimal? text
  if text.isEmpty then
    some
      [ UInt16.ofNat (first * 256 + second),
        UInt16.ofNat (third * 256 + fourth) ]
  else
    none

------------------------------------------------------------
-- Pieces
------------------------------------------------------------

/-
  The pieces of a text in their order, and how many of them
  stand up to the end of the double colon, if there is one.
-/
structure Pieces where
  values : List UInt16
  gap : Option Nat

namespace Pieces

/- One more piece in front. -/
def push (value : UInt16) (pieces : Pieces) : Pieces :=
  ⟨value :: pieces.values, pieces.gap.map (· + 1)⟩

/- A double colon in front. -/
def spread (pieces : Pieces) : Pieces :=
  ⟨0 :: pieces.values, some 1⟩

/-
  The address of the pieces. Those behind a double colon are
  its last ones; without it all eight must be there.
-/
def address? (pieces : Pieces) : Option Ipv6 :=
  match pieces.gap with
  | some gap =>
      some
        (Ipv6.ofGroups
          (pieces.values.take gap
            ++ List.replicate (8 - pieces.values.length) 0
            ++ pieces.values.drop gap))
  | none =>
      if pieces.values.length = 8 then
        some (Ipv6.ofGroups pieces.values)
      else
        none

end Pieces

/-
  Read pieces to the end of a text that stands behind a colon
  or begins an address; there is room for so many. A single
  colon must not come last, and a dotted end fills two places.
-/
def readPieces? :
    Nat → Bool → List Char → Option Pieces
| _, _, [] => some ⟨[], none⟩
| 0, _, _ :: _ => none
| room + 1, hasGap, ':' :: rest =>
    if hasGap then
      none
    else
      (readPieces? room true rest).map Pieces.spread
| room + 1, hasGap, c :: rest =>
    let text := c :: rest
    let digits := (text.take 4).takeWhile Text.isHexDigit
    let value :=
      UInt16.ofNat
        (Text.numberOf 16 (digits.filterMap Text.hexValue?))
    match text.drop digits.length with
    | [] => some ⟨[value], none⟩
    | '.' :: _ =>
        if digits.isEmpty || room == 0 then
          none
        else
          (readDotted? text).map fun values => ⟨values, none⟩
    | [':'] => none
    | ':' :: rest =>
        (readPieces? room hasGap rest).map (Pieces.push value)
    | _ => none

/- The address that a text is. It cannot begin with one colon. -/
def ipv6Of? (text : List Char) : Option Ipv6 :=
  match text with
  | ':' :: ':' :: rest =>
      (readPieces? 8 false (':' :: rest)).bind Pieces.address?
  | ':' :: _ => none
  | text => (readPieces? 8 false text).bind Pieces.address?

end BrainLink.Url
