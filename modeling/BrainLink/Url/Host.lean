import BrainLink.Url.Domain
import BrainLink.Url.Encode
import BrainLink.Url.Pieces

/-
  The host of a URL: a domain name, or an address.

  Key definitions include:
    * `Url.Host`
    * `Url.Host.toChars`
    * `Url.Host.parse`
    * `Url.Host.parseOpaque`
-/

namespace BrainLink.Url

/- A domain name in ASCII, or an address. -/
inductive Host where
| domain (name : List Char)
| four (address : Ipv4)
| six (address : Ipv6)
deriving DecidableEq

------------------------------------------------------------
-- Numbers in a host
------------------------------------------------------------

/- What one part of a dotted host is worth as a number. -/
inductive PartNumber where
| notANumber
| tooLarge
| number (value : Nat)
deriving DecidableEq, Repr

/- Digits of a base as a number below 2^32. -/
def digitsNumber
    (base : Nat)
    (isDigit : Char → Bool)
    (digits : List Char) :
    PartNumber :=
  if digits.all isDigit then
    let value :=
      Text.numberOf base (digits.filterMap Text.hexValue?)
    if value < Nat.pow 2 32 then .number value else .tooLarge
  else
    .notANumber

/-
  A part as a number: hexadecimal behind `0x`, octal behind
  another leading zero, else decimal.
-/
def partNumber : List Char → PartNumber
| [] => .notANumber
| ['0', 'x'] => .number 0
| ['0', 'X'] => .number 0
| '0' :: 'x' :: digits => digitsNumber 16 Text.isHexDigit digits
| '0' :: 'X' :: digits => digitsNumber 16 Text.isHexDigit digits
| '0' :: c :: digits =>
    digitsNumber 8 (fun d => '0' ≤ d && d ≤ '7') (c :: digits)
| digits => digitsNumber 10 Char.isDigit digits

/- The dotted parts of a host, one trailing dot ignored. -/
def dottedParts (name : List Char) : List (List Char) :=
  let parts := Text.fields '.' name
  if parts.length > 1 && parts.getLast? == some [] then
    parts.dropLast
  else
    parts

/- A host whose last part is a number has to be an address. -/
def endsInNumber (name : List Char) : Bool :=
  match (dottedParts name).getLast? with
  | none => false
  | some [] => false
  | some last =>
      last.all Char.isDigit
        || partNumber last != .notANumber

/- The numbers of the parts, if each part is one. -/
def partNumbers? : List (List Char) → Option (List Nat)
| [] => some []
| part :: parts =>
    match partNumber part, partNumbers? parts with
    | .number value, some values => some (value :: values)
    | _, _ => none

/-
  A version four address of one to four numbers. Each but the
  last fills one octet; the last fills all that are left.
-/
def parseIpv4 (name : List Char) : Except Fault Ipv4 :=
  let parts := dottedParts name
  if parts.length > 4 then
    .error .badIpv4
  else
    match (partNumbers? parts).map List.reverse with
    | none => .error .badIpv4
    | some [] => .error .badIpv4
    | some (last :: others) =>
        if last ≥ Nat.pow 256 (4 - others.length)
            || others.any (fun value => 255 < value) then
          .error .badIpv4
        else
          .ok
            (Ipv4.ofNat
              (Text.numberOf 256 others.reverse
                * Nat.pow 256 (4 - others.length) + last))

------------------------------------------------------------
-- Hosts
------------------------------------------------------------

namespace Host

/- The text of a host. -/
def toChars : Host → List Char
| .domain name => name
| .four address => address.toChars
| .six address => '[' :: address.compressed ++ [']']

/- The version six address between brackets. -/
def parseBracketed
    (text : List Char) : Except Fault Host :=
  if text.getLast? == some ']' then
    match ipv6Of? text.tail.dropLast with
    | none => .error .badIpv6
    | some address => .ok (.six address)
  else
    .error .badIpv6

/-
  The host of a URL with a special scheme: an address in
  brackets, a version four address in any of its spellings,
  or a domain name.
-/
def parse (text : List Char) : Except Fault Host :=
  if text.head? == some '[' then
    parseBracketed text
  else
    match decodeText? text with
    | none => .error .badDomainName
    | some name =>
        match Domain.toAscii name with
        | .error fault => .error fault
        | .ok [] => .error .emptyHost
        | .ok ascii =>
            if endsInNumber ascii then
              (parseIpv4 ascii).map .four
            else
              .ok (.domain ascii)

/- Characters that no host of another scheme may hold. -/
def isForbiddenOpaque (c : Char) : Bool :=
  [ '\x00', '\t', '\n', '\r', ' ', '#', '/', ':', '<', '>',
    '?', '@', '[', '\\', ']', '^', '|' ].contains c

/- The host of a URL with any other scheme. -/
def parseOpaque (text : List Char) : Except Fault Host :=
  if text.head? == some '[' then
    parseBracketed text
  else if text.any isForbiddenOpaque then
    .error .badHostCharacter
  else
    .ok (.domain (encode isControlCode text))

end Host

end BrainLink.Url
