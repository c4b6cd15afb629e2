import BrainLink.Net.Ipv6

/-
  Internet addresses of either version, and an address with
  a port.

  Key definitions include:
    * `Address`
    * `Address.toText`
    * `Address.ofText?`
    * `Address.withPort`
-/

namespace BrainLink

/- An address of version four or six. -/
inductive Address where
| four (address : Ipv4)
| six (address : Ipv6)
deriving DecidableEq

namespace Address

/- The usual text of an address. -/
def toChars : Address → List Char
| .four address => address.toChars
| .six address => address.toChars

/- The usual text of an address. -/
def toText (address : Address) : String :=
  String.ofList address.toChars

/- A text that is an address of either version. -/
def ofText? (text : String) : Option Address :=
  match Ipv4.ofChars? text.toList with
  | some address => some (.four address)
  | none => (Ipv6.ofChars? text.toList).map .six

/-
  An address and a port with a colon between them; a version
  six address stands in brackets.
-/
def withPort (address : Address) (port : UInt16) : List Char :=
  match address with
  | .four dotted =>
      dotted.toChars ++ ':' :: Text.decimalChars port.toNat
  | .six grouped =>
      '[' :: grouped.toChars
        ++ ']' :: ':' :: Text.decimalChars port.toNat

end Address

end BrainLink
