import BrainLink.Text.Ascii

/-
  Internet addresses of version four in dotted decimal.

  Key definitions include:
    * `Ipv4`
    * `Ipv4.toChars`
    * `Ipv4.read`
    * `Ipv4.ofChars?`
-/

namespace BrainLink

/- Four octets, the most significant first. -/
structure Ipv4 where
  first : UInt8
  second : UInt8
  third : UInt8
  fourth : UInt8
deriving DecidableEq, Repr

namespace Ipv4

------------------------------------------------------------
-- Writing
------------------------------------------------------------

/- Dotted decimal. -/
def toChars (address : Ipv4) : List Char :=
  Text.decimalChars address.first.toNat
    ++ '.' :: Text.decimalChars address.second.toNat
    ++ '.' :: Text.decimalChars address.third.toNat
    ++ '.' :: Text.decimalChars address.fourth.toNat

/- The address as one number below 2^32. -/
def toNat (address : Ipv4) : Nat :=
  Text.numberOf 256
    [ address.first.toNat, address.second.toNat,
      address.third.toNat, address.fourth.toNat ]

/- The address that a number below 2^32 stands for. -/
def ofNat (number : Nat) : Ipv4 :=
  ⟨ UInt8.ofNat (number / 0x1000000),
    UInt8.ofNat (number / 0x10000),
    UInt8.ofNat (number / 0x100),
    UInt8.ofNat number ⟩

------------------------------------------------------------
-- Reading
------------------------------------------------------------

/-
  An octet at the head of a text: a run of one to three
  digits without a leading zero, at most 255.
-/
def readOctet
    (text : List Char) : Option (UInt8 × List Char) :=
  let digits := text.takeWhile Char.isDigit
  let value := Text.numberOf 10 (digits.map Text.digitValue)
  match digits with
  | [] => none
  | first :: others =>
      if first == '0' && !others.isEmpty then
        none
      else if others.length ≤ 2 ∧ value ≤ 255 then
        some (UInt8.ofNat value, text.dropWhile Char.isDigit)
      else
        none

/- An octet after a dot. -/
def readDotOctet :
    List Char → Option (UInt8 × List Char)
| '.' :: text => readOctet text
| _ => none

/- An address at the head of a text, and what follows it. -/
def read (text : List Char) : Option (Ipv4 × List Char) := do
  let (first, text) ← readOctet text
  let (second, text) ← readDotOctet text
  let (third, text) ← readDotOctet text
  let (fourth, text) ← readDotOctet text
  pure (⟨first, second, third, fourth⟩, text)

/- A text that is an address from end to end. -/
def ofChars? (text : List Char) : Option Ipv4 :=
  match read text with
  | some (address, []) => some address
  | _ => none

end Ipv4

end BrainLink
