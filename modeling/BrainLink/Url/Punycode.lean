import BrainLink.Text.Ascii

/-
  Punycode: a list of characters as ASCII letters, digits and
  hyphens. The ASCII characters come first; each other one is
  inserted at the place that a chain of variable-length
  numbers tells.

  Key definitions include:
    * `Punycode.adapt`
    * `Punycode.encode`
    * `Punycode.decode?`
-/

namespace BrainLink.Punycode

------------------------------------------------------------
-- Digits
------------------------------------------------------------

/- The character of a digit: the letters, then `0` to `9`. -/
def digitChar (digit : Nat) : Char :=
  if digit < 26 then
    Char.ofNat ('a'.toNat + digit)
  else
    Char.ofNat ('0'.toNat + (digit - 26))

/- The digit of a character of either case. -/
def digitValue? (c : Char) : Option Nat :=
  if c.isLower then
    some (c.toNat - 'a'.toNat)
  else if c.isUpper then
    some (c.toNat - 'A'.toNat)
  else if c.isDigit then
    some (c.toNat - '0'.toNat + 26)
  else
    none

/- The least digit at place `k` that does not end a number. -/
def threshold (k bias : Nat) : Nat :=
  if k ≤ bias then
    1
  else if bias + 26 ≤ k then
    26
  else
    k - bias

------------------------------------------------------------
-- Bias
------------------------------------------------------------

/- Divide by 35 until at most 455 is left, counting in 36s. -/
def damp (delta k : Nat) : Nat × Nat :=
  if 455 < delta then damp (delta / 35) (k + 36) else (delta, k)
termination_by delta
decreasing_by exact Nat.div_lt_self (by omega) (by omega)

/- The bias for the number that comes after `delta`. -/
def adapt (delta points : Nat) (isFirst : Bool) : Nat :=
  let halved := if isFirst then delta / 700 else delta / 2
  let damped := damp (halved + halved / points) 0
  damped.2 + 36 * damped.1 / (damped.1 + 38)

------------------------------------------------------------
-- Encoding
------------------------------------------------------------

/- A number, least digit first. -/
def writeNumber (bias k number : Nat) : List Char :=
  let t := threshold k bias
  if number < t then
    [digitChar number]
  else
    digitChar (t + (number - t) % (36 - t))
      :: writeNumber bias (k + 36) ((number - t) / (36 - t))
termination_by number
decreasing_by
  have hPos : 1 ≤ threshold k bias := by
    unfold threshold
    split
    · omega
    · split <;> omega
  have hDiv :=
    Nat.div_le_self
      (number - threshold k bias) (36 - threshold k bias)
  omega

/- What encoding carries along. -/
structure Progress where
  written : List Char
  delta : Nat
  bias : Nat
  points : Nat

/- Pass one character of the text while code `least` is due. -/
def passChar
    (basic least : Nat)
    (state : Progress)
    (c : Char) :
    Progress :=
  if c.toNat < least then
    { state with delta := state.delta + 1 }
  else if c.toNat = least then
    { written :=
        state.written ++ writeNumber state.bias 36 state.delta
      delta := 0
      bias :=
        adapt state.delta (state.points + 1)
          (state.points == basic)
      points := state.points + 1 }
  else
    state

/- Insert the codes in rising order, each everywhere it is. -/
def insertCodes
    (text : List Char)
    (basic : Nat) :
    List Nat → Nat → Progress → Progress
| [], _, state => state
| code :: codes, reached, state =>
    let due :=
      { state with
        delta :=
          state.delta + (code - reached) * (state.points + 1) }
    let passed := text.foldl (passChar basic code) due
    insertCodes text basic codes (code + 1)
      { passed with delta := passed.delta + 1 }

/- Put a code into a rising list, once. -/
def insertRising (code : Nat) : List Nat → List Nat
| [] => [code]
| first :: rest =>
    if code < first then
      code :: first :: rest
    else if code = first then
      first :: rest
    else
      first :: insertRising code rest

/- The codes past ASCII, rising and each once. -/
def risingCodes (text : List Char) : List Nat :=
  (text.filter fun c => 0x80 ≤ c.toNat).foldl
    (fun codes c => insertRising c.toNat codes) []

/- A text in Punycode. -/
def encode (text : List Char) : List Char :=
  let basic := text.filter fun c => c.toNat < 0x80
  let start : Progress :=
    { written := []
      delta := 0
      bias := 72
      points := basic.length }
  basic
    ++ (if basic.isEmpty then [] else ['-'])
    ++ (insertCodes text basic.length
          (risingCodes text) 0x80 start).written

------------------------------------------------------------
-- Decoding
------------------------------------------------------------

/-
  Read a number on top of `sum`, with `weight` the worth of
  the digit at place `k`.
-/
def readNumber
    (bias : Nat) :
    List Char → Nat → Nat → Nat → Option (Nat × List Char)
| [], _, _, _ => none
| c :: rest, k, weight, sum =>
    match digitValue? c with
    | none => none
    | some digit =>
        if digit < threshold k bias then
          some (sum + digit * weight, rest)
        else
          readNumber bias rest (k + 36)
            (weight * (36 - threshold k bias))
            (sum + digit * weight)

/-
  Insert one character after another. The fuel is the number
  of characters left, of which each number takes at least one.
-/
def insertChars :
    Nat → Nat → Nat → Nat → List Char → List Char →
      Option (List Char)
| _, _, _, _, text, [] => some text
| 0, _, _, _, _, _ :: _ => none
| fuel + 1, bias, code, place, text, rest =>
    match readNumber bias rest 36 1 place with
    | none => none
    | some (sum, rest) =>
        let points := text.length + 1
        let next := code + sum / points
        let spot := sum % points
        if next.isValidChar then
          insertChars fuel
            (adapt (sum - place) points (place == 0))
            next (spot + 1)
            (text.take spot
              ++ Char.ofNat next :: text.drop spot)
            rest
        else
          none

/-
  The text that Punycode spells. A hyphen in front of all the
  rest has nothing to end.
-/
def decode? (code : List Char) : Option (List Char) :=
  let extension :=
    (code.reverse.takeWhile (· != '-')).reverse
  let basic :=
    code.take (code.length - extension.length - 1)
  if basic.isEmpty && code.head? == some '-' then
    none
  else
    insertChars extension.length 72 0x80 0 basic extension

end BrainLink.Punycode
