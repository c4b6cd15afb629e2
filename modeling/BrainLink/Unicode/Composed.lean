import BrainLink.Unicode.Decomposition
import BrainLink.Unicode.Mark

/-
  The composed form of a text: of all texts that read alike,
  the one whose marks are in order and whose letters have
  taken up the marks they can.

  Key definitions include:
    * `Unicode.orderMarks`
    * `Unicode.composeOnto`
    * `Unicode.composed`
-/

namespace BrainLink.Unicode

------------------------------------------------------------
-- Order
------------------------------------------------------------

/- Put a character before others, behind marks of less class. -/
def insertMark (code : Nat) : List Nat → List Nat
| [] => [code]
| next :: rest =>
    if markClass next ≠ 0 ∧ markClass next < markClass code then
      next :: insertMark code rest
    else
      code :: next :: rest

/- Put the marks behind each letter in the order of classes. -/
def orderMarks (codes : List Nat) : List Nat :=
  codes.foldr insertMark []

------------------------------------------------------------
-- Composition
------------------------------------------------------------

/-
  Let a letter take up what follows it. Between the two stand
  the marks that it passed over, the latest first; one of the
  same class or of a higher one keeps a mark away.
-/
def composeOnto : Nat → List Nat → List Nat → List Nat
| letter, passed, [] => letter :: passed.reverse
| letter, passed, code :: rest =>
    let isNear :=
      passed.head?.all fun mark => markClass mark < markClass code
    match if isNear then pairUp? letter code else none with
    | some both => composeOnto both passed rest
    | none =>
        if markClass code = 0 then
          letter :: passed.reverse ++ composeOnto code [] rest
        else
          composeOnto letter (code :: passed) rest

/- Let every letter take up what follows it. -/
def compose : List Nat → List Nat
| [] => []
| code :: rest =>
    if markClass code = 0 then
      composeOnto code [] rest
    else
      code :: compose rest

/- The composed form of a text. -/
def composed (codes : List Nat) : List Nat :=
  compose (orderMarks (codes.flatMap (spellOut mostDepth)))

end BrainLink.Unicode
