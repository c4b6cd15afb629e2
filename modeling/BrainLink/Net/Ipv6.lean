import BrainLink.Net.Ipv4

/-
  Internet addresses of version six: eight groups of sixteen
  bits, of which one run of zeros may be left out.

  Key definitions include:
    * `Ipv6`
    * `Ipv6.longestZeros`
    * `Ipv6.compressed`
    * `Ipv6.toChars`
    * `Ipv6.ofChars?`
-/

namespace BrainLink

/- Eight groups, the most significant first. -/
structure Ipv6 where
  groups : List UInt16
  length_groups : groups.length = 8
deriving DecidableEq

namespace Ipv6

/-
  The address of a list of groups: the first eight of them,
  filled up with zeros at the end.
-/
def ofGroups (groups : List UInt16) : Ipv6 :=
  ⟨(groups ++ List.replicate 8 0).take 8, by simp⟩

------------------------------------------------------------
-- Runs of zeros
------------------------------------------------------------

/- The length of the run of zeros at the head of a list. -/
def zerosAhead (groups : List UInt16) : Nat :=
  (groups.takeWhile (· == 0)).length

/-
  Start and length of the longest run of zeros at or after
  position `start`; of several, the first.
-/
def longestZeros :
    List UInt16 → Nat → Nat × Nat
| [], start => (start, 0)
| group :: rest, start =>
    let here := zerosAhead (group :: rest)
    let later := longestZeros rest (start + 1)
    if later.2 ≤ here then (start, here) else later

------------------------------------------------------------
-- Writing
------------------------------------------------------------

/- Groups in small hexadecimal digits with colons between. -/
def writeGroups : List UInt16 → List Char
| [] => []
| [group] => Text.hexChars group.toNat
| group :: rest =>
    Text.hexChars group.toNat ++ ':' :: writeGroups rest

/-
  The groups with the first longest run of two or more zeros
  written as a double colon.
-/
def compressed (address : Ipv6) : List Char :=
  let run := longestZeros address.groups 0
  if run.2 ≥ 2 then
    writeGroups (address.groups.take run.1)
      ++ ':' :: ':'
      :: writeGroups (address.groups.drop (run.1 + run.2))
  else
    writeGroups address.groups

/-
  The version four address inside an address whose first
  five groups are zero and whose sixth is all ones.
-/
def mapped? (address : Ipv6) : Option Ipv4 :=
  match address.groups with
  | [0, 0, 0, 0, 0, 0xFFFF, high, low] =>
      some
        (Ipv4.ofNat (high.toNat * 0x10000 + low.toNat))
  | _ => none

/-
  The usual text of an address: compressed, with an inner
  version four address in dotted decimal.
-/
def toChars (address : Ipv6) : List Char :=
  match address.mapped? with
  | some inner =>
      [':', ':', 'f', 'f', 'f', 'f', ':'] ++ inner.toChars
  | none => address.compressed

------------------------------------------------------------
-- Reading
------------------------------------------------------------

/-
  A group at the head of a text: a run of one to four
  hexadecimal digits.
-/
def readGroup
    (text : List Char) : Option (UInt16 × List Char) :=
  let digits := text.takeWhile Text.isHexDigit
  if 1 ≤ digits.length ∧ digits.length ≤ 4 then
    some
      ( UInt16.ofNat
          (Text.numberOf 16 (digits.filterMap Text.hexValue?)),
        text.dropWhile Text.isHexDigit )
  else
    none

/- The text after the colon that must stand between groups. -/
def afterColon
    (leading : Bool)
    (text : List Char) :
    Option (List Char) :=
  if leading then
    some text
  else
    match text with
    | ':' :: rest => some rest
    | _ => none

/-
  Read up to `room` groups, `leading` telling that none has
  been read yet. A version four address is worth two groups
  and ends the list. Returned are the groups, whether a
  version four address ended them, and the rest.
-/
def readGroups :
    Nat → Bool → List Char →
      List UInt16 × Bool × List Char
| 0, _, text => ([], false, text)
| room + 1, leading, text =>
    match afterColon leading text with
    | none => ([], false, text)
    | some inside =>
        match if room = 0 then none else Ipv4.read inside with
        | some (address, rest) =>
            ( [ UInt16.ofNat (address.toNat / 0x10000),
                UInt16.ofNat address.toNat ],
              true, rest )
        | none =>
            match readGroup inside with
            | none => ([], false, text)
            | some (group, rest) =>
                let read := readGroups room false rest
                (group :: read.1, read.2)

/-
  An address at the head of a text. A double colon stands for
  one or more groups of zeros, and no version four address
  may come before it.
-/
def read (text : List Char) : Option (Ipv6 × List Char) :=
  match readGroups 8 true text with
  | (head, endsDotted, rest) =>
      if head.length = 8 then
        some (ofGroups head, rest)
      else if endsDotted then
        none
      else
        match rest with
        | ':' :: ':' :: rest =>
            let tail := readGroups (7 - head.length) true rest
            let zeros := 8 - head.length - tail.1.length
            some
              ( ofGroups
                  (head ++ List.replicate zeros 0 ++ tail.1),
                tail.2.2 )
        | _ => none

/- A text that is an address from end to end. -/
def ofChars? (text : List Char) : Option Ipv6 :=
  match read text with
  | some (address, []) => some address
  | _ => none

end Ipv6

end BrainLink
