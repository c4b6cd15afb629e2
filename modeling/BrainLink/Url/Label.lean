import BrainLink.Unicode.Direction
import BrainLink.Unicode.Joining
import BrainLink.Url.Fold

/-
  The labels of a domain name: which characters they may hold
  and in what order.

  Key definitions include:
    * `Domain.isForbidden`
    * `Domain.joinersFit`
    * `Domain.directionsFit`
    * `Domain.isSound`
-/

namespace BrainLink.Domain

open Unicode (Direction)

------------------------------------------------------------
-- Characters
------------------------------------------------------------

/- ASCII characters that no domain name may hold. -/
def isForbidden (c : Char) : Bool :=
  c.toNat ≤ 0x20 || c.toNat == 0x7F
    || [ '%', '#', '/', ':', '<', '>', '?', '@', '[', '\\',
         ']', '^', '|' ].contains c

/- A character outside ASCII. -/
def isForeign (c : Char) : Bool :=
  decide (0x80 ≤ c.toNat)

/- A character that a domain name may hold. -/
def isAllowed (c : Char) : Bool :=
  !isForbidden c && !(isForeign c && isRefusedCode c.toNat)

/- A mark, which no label may begin with. -/
def isMark (c : Char) : Bool :=
  isForeign c && Unicode.isMark c.toNat

------------------------------------------------------------
-- Joiners
------------------------------------------------------------

/- Asks the letters on its sides to join. -/
def joiner : Char := '\u200D'

/- Asks the letters on its sides to stand apart. -/
def nonJoiner : Char := '\u200C'

/- Whether the character before takes a vowel away. -/
def followsVirama (before : List Char) : Bool :=
  before.head?.any fun c => Unicode.isVirama c.toNat

/-
  Whether every joiner stands where it tells anything: either
  kind behind a virama, and the one that keeps letters apart
  also between letters that would join. What comes before is
  given with the nearest first.
-/
def joinersFit : List Char → List Char → Bool
| _, [] => true
| before, c :: after =>
    (if c == joiner then
        followsVirama before
      else if c == nonJoiner then
        followsVirama before
          || (Unicode.joinsForward (before.map Char.toNat)
            && Unicode.joinsBack (after.map Char.toNat))
      else
        true)
      && joinersFit (c :: before) after

------------------------------------------------------------
-- Directions
------------------------------------------------------------

/- What may follow the first letter of a rightward label. -/
def fitsRightward (rest : List Direction) : Bool :=
  rest.all (fun d => d != .leftward && d != .arabicDigit)
    && rest.getLast?.all fun d =>
      d == .rightward || d == .europeanDigit

/- What may follow the first letter of a leftward label. -/
def fitsLeftward (rest : List Direction) : Bool :=
  rest.all (fun d => d != .rightward)
    && !(rest.contains .europeanDigit
      && rest.contains .arabicDigit)
    && rest.getLast?.all fun d =>
      d == .leftward || d == .europeanDigit || d == .arabicDigit

/- The directions of a label, without marks at its end. -/
def restDirections (rest : List Char) : List Direction :=
  ((rest.map fun c => Unicode.direction c.toNat).reverse.dropWhile
    fun d => d == .mark).reverse

/-
  Whether a label keeps to one direction. It begins with a
  letter, ends with a letter or a digit, and is empty or holds
  letters of no other direction and digits of one kind.
-/
def directionsFit : List Char → Bool
| [] => true
| first :: rest =>
    match Unicode.direction first.toNat with
    | .rightward => fitsRightward (restDirections rest)
    | .leftward => fitsLeftward (restDirections rest)
    | _ => false

/- A label that holds something written leftward. -/
def turns (label : List Char) : Bool :=
  label.any fun c =>
    isForeign c && (Unicode.direction c.toNat).turns

------------------------------------------------------------
-- Labels
------------------------------------------------------------

/- How long a label past ASCII can be. -/
def mostForeign : Nat := 1000

/-
  A label of folded characters that may stand in a name, its
  direction aside.
-/
def isSound (label : List Char) : Bool :=
  label.all isAllowed
    && !label.head?.any isMark
    && joinersFit [] label
    && !(label.any isForeign && mostForeign < label.length)

end BrainLink.Domain
