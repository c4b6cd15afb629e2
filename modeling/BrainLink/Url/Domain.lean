import BrainLink.Url.Error
import BrainLink.Url.Label
import BrainLink.Url.Punycode

/-
  Domain names in ASCII: letters made small, and a label with
  other characters written in Punycode behind `xn--`.

  Key definitions include:
    * `Domain.foldChars`
    * `Domain.Label`
    * `Domain.Label.read`
    * `Domain.toAscii`
-/

namespace BrainLink.Domain

open Url (Fault)

/- A text as domain names hold it. -/
def foldChars (text : List Char) : List Char :=
  (foldCodes (text.map Char.toNat)).map Char.ofNat

/- What a Punycode label starts with. -/
def punycodeMark : List Char :=
  ['x', 'n', '-', '-']

/- How long the Punycode of a label can be. -/
def mostPunycode : Nat := 2000

------------------------------------------------------------
-- Labels
------------------------------------------------------------

/- A label as it reads, and as it is written in ASCII. -/
structure Label where
  text : List Char
  ascii : List Char
deriving DecidableEq, Repr

/- The label that Punycode claims to spell. -/
def spelledBy (code : List Char) : Option (List Char) :=
  if mostPunycode < code.length || code.getLast? == some '-' then
    none
  else
    Punycode.decode? code

namespace Label

/-
  A label of folded characters. One that claims to be Punycode
  must spell a label that could not be written without it.
-/
def read (label : List Char) : Except Fault Label :=
  if punycodeMark.isPrefixOf label then
    match spelledBy (label.drop 4) with
    | none => .error .badDomainName
    | some spelled =>
        if !label.any isForeign
            && spelled.any isForeign
            && isSound spelled
            && foldChars spelled == spelled then
          .ok ⟨spelled, label⟩
        else
          .error .badDomainName
  else if !isSound label then
    .error .badDomainName
  else if label.any isForeign then
    .ok ⟨label, punycodeMark ++ Punycode.encode label⟩
  else
    .ok ⟨label, label⟩

/- All labels of a name. -/
def readAll :
    List (List Char) → Except Fault (List Label)
| [] => .ok []
| label :: labels =>
    match read label with
    | .error fault => .error fault
    | .ok first =>
        match readAll labels with
        | .error fault => .error fault
        | .ok others => .ok (first :: others)

/-
  Where one label holds something written leftward, each has
  to keep to one direction.
-/
def keepDirections (labels : List Label) : Bool :=
  !(labels.any fun label => turns label.text)
    || labels.all fun label => directionsFit label.text

/- Labels in ASCII with dots between them. -/
def join (labels : List Label) : List Char :=
  ['.'].intercalate (labels.map Label.ascii)

end Label

------------------------------------------------------------
-- Names
------------------------------------------------------------

/-
  A name of ASCII characters that no label of claims to be
  Punycode.
-/
def isSimple (name : List Char) : Bool :=
  name.all (fun c => !isForeign c)
    && (Text.fields '.' (Text.lowerChars name)).all
      fun label => !punycodeMark.isPrefixOf label

/- A name with characters past ASCII, or in Punycode. -/
def spellAscii (name : List Char) : Except Fault (List Char) :=
  match Label.readAll (Text.fields '.' (foldChars name)) with
  | .error fault => .error fault
  | .ok labels =>
      if Label.keepDirections labels then
        .ok (Label.join labels)
      else
        .error .badDomainName

/- A domain name in ASCII. -/
def toAscii (name : List Char) : Except Fault (List Char) :=
  if !isSimple name then
    spellAscii name
  else if name.any isForbidden then
    .error .badDomainName
  else
    .ok (Text.lowerChars name)

end BrainLink.Domain
