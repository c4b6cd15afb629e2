/-
  Reading octets as a text in UTF-8, whatever they are.

  Key definitions include:
    * `Text.Pending`
    * `Text.Pending.begin`
    * `Text.readOctets`
    * `Text.ofOctets`
    * `Text.octetsOf`

  What is no character is read as the replacement character:
  each octet that can begin none, and each beginning of one
  that breaks off. The octet at which it breaks off is read
  anew.
-/

namespace BrainLink.Text

/- What stands for octets that are no character. -/
def replacement : Char :=
  '\uFFFD'

/-
  A character of which some octets are still to come: how
  many after the next, in which range the next must be, and
  the bits so far.
-/
structure Pending where
  left : Nat
  least : UInt8
  most : UInt8
  bits : Nat
deriving DecidableEq, Repr

namespace Pending

/-
  What the first octet of a longer character promises. The
  ranges leave out what could be written shorter, surrogates,
  and what is past the last character.
-/
def ofLead? (octet : UInt8) : Option Pending :=
  let bits := octet.toNat
  if octet < 0xC2 then
    none
  else if octet < 0xE0 then
    some ⟨0, 0x80, 0xBF, bits - 0xC0⟩
  else if octet < 0xF0 then
    let least := if octet = 0xE0 then 0xA0 else 0x80
    let most := if octet = 0xED then 0x9F else 0xBF
    some ⟨1, least, most, bits - 0xE0⟩
  else if octet < 0xF5 then
    let least := if octet = 0xF0 then 0x90 else 0x80
    let most := if octet = 0xF4 then 0x8F else 0xBF
    some ⟨2, least, most, bits - 0xF0⟩
  else
    none

/- Read an octet where a character begins. -/
def begin (octet : UInt8) : List Char × Option Pending :=
  if octet < 0x80 then
    ([Char.ofNat octet.toNat], none)
  else
    match ofLead? octet with
    | none => ([replacement], none)
    | some pending => ([], some pending)

/- Read an octet where a character is to go on. -/
def next
    (pending : Pending)
    (octet : UInt8) :
    List Char × Option Pending :=
  if pending.least ≤ octet ∧ octet ≤ pending.most then
    let bits := pending.bits * 64 + (octet.toNat - 0x80)
    match pending.left with
    | 0 => ([Char.ofNat bits], none)
    | left + 1 => ([], some ⟨left, 0x80, 0xBF, bits⟩)
  else
    let (text, pending) := begin octet
    (replacement :: text, pending)

/- Read an octet wherever it stands. -/
def read :
    Option Pending → UInt8 → List Char × Option Pending
| none, octet => begin octet
| some pending, octet => pending.next octet

end Pending

/- Read octets, perhaps with a character pending. -/
def readOctets : Option Pending → List UInt8 → List Char
| none, [] => []
| some _, [] => [replacement]
| pending, octet :: rest =>
    let (text, pending) := Pending.read pending octet
    text ++ readOctets pending rest

/- The text that octets are read as. -/
def ofOctets (octets : List UInt8) : String :=
  String.ofList (readOctets none octets)

/- The octets that a text is written with. -/
def octetsOf (text : String) : List UInt8 :=
  text.toList.flatMap String.utf8EncodeChar

end BrainLink.Text
