import BrainLink.Text.Ascii

/-
  Percent-encoding: which characters each part of a URL
  writes as the hexadecimal octets of their UTF-8 form.

  Key definitions include:
    * `Url.isControlCode`
    * `Url.inFragmentSet`
    * `Url.inPathSet`
    * `Url.encode`
    * `Url.decodeOctets`
-/

namespace BrainLink.Url

------------------------------------------------------------
-- Sets of characters
------------------------------------------------------------

/- Controls, and everything past the printable ASCII range. -/
def isControlCode (c : Char) : Bool :=
  c.toNat < 0x20 || 0x7E < c.toNat

/- Encoded in a fragment. -/
def inFragmentSet (c : Char) : Bool :=
  isControlCode c || [' ', '"', '<', '>', '`'].contains c

/- Encoded in a query. -/
def inQuerySet (c : Char) : Bool :=
  isControlCode c || [' ', '"', '#', '<', '>'].contains c

/- Encoded in the query of a URL with a special scheme. -/
def inSpecialQuerySet (c : Char) : Bool :=
  inQuerySet c || c == '\''

/- Encoded in a path. -/
def inPathSet (c : Char) : Bool :=
  inFragmentSet c || ['#', '?', '{', '}'].contains c

/- Encoded in a user name and in a password. -/
def inUserSet (c : Char) : Bool :=
  inPathSet c
    || ['/', ':', ';', '=', '@', '[', '\\', ']', '^', '|'].contains c

------------------------------------------------------------
-- Encoding
------------------------------------------------------------

/- The capital hexadecimal digit of a value below sixteen. -/
def octetDigit (value : Nat) : Char :=
  (Text.hexDigit value).toUpper

/- One octet: a percent sign and two digits. -/
def encodeOctet (octet : UInt8) : List Char :=
  [ '%', octetDigit (octet.toNat / 16),
    octetDigit (octet.toNat % 16) ]

/- A character as the octets of its UTF-8 form. -/
def encodeChar (c : Char) : List Char :=
  (String.utf8EncodeChar c).flatMap encodeOctet

/- A text with the characters of a set encoded. -/
def encode
    (inSet : Char → Bool)
    (text : List Char) :
    List Char :=
  text.flatMap fun c =>
    if inSet c then encodeChar c else [c]

------------------------------------------------------------
-- Decoding
------------------------------------------------------------

/-
  The octets of a text, a percent sign with two hexadecimal
  digits standing for the octet they write.
-/
def decodeOctets : List Char → List UInt8
| [] => []
| '%' :: high :: low :: rest =>
    match Text.hexValue? high, Text.hexValue? low with
    | some upper, some lower =>
        UInt8.ofNat (upper * 16 + lower) :: decodeOctets rest
    | _, _ =>
        UInt8.ofNat '%'.toNat :: decodeOctets (high :: low :: rest)
| c :: rest => String.utf8EncodeChar c ++ decodeOctets rest

/- The text that octets are the UTF-8 form of. -/
def decodeText? (text : List Char) : Option (List Char) :=
  (String.fromUTF8? ⟨(decodeOctets text).toArray⟩).map
    String.toList

end BrainLink.Url
