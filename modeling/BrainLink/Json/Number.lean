import BrainLink.Json.Value
import BrainLink.Text.Ascii

/-
  Which written numbers are finite.

  A number is held as a significand below 2^64 and a decimal
  exponent; digits past those that fit only move the
  exponent. It is finite when the product of the significand
  and the power of ten, both rounded to 53 bits, rounds below
  2^1024.

  Key definitions include:
    * `Json.Scaled`
    * `Json.Numeral.scaled`
    * `Json.Numeral.isFinite`
-/

namespace BrainLink.Json

------------------------------------------------------------
-- Significand and exponent
------------------------------------------------------------

/- A decimal number: a significand times a power of ten. -/
structure Scaled where
  significand : Nat
  exponent : Int
deriving DecidableEq, Repr

/- The largest significand. -/
def largestSignificand : Nat :=
  Nat.pow 2 64 - 1

/- The largest number an exponent may spell. -/
def largestExponent : Nat :=
  Nat.pow 2 31 - 1

/-
  Read the digits before the point. From the first digit that
  does not fit on, each digit is worth one power of ten.
-/
def wholeDigits : List Char → Nat → Scaled
| [], number => ⟨number, 0⟩
| c :: rest, number =>
    let next := number * 10 + Text.digitValue c
    if next ≤ largestSignificand then
      wholeDigits rest next
    else
      ⟨number, Int.ofNat (rest.length + 1)⟩

/-
  Read the digits after the point. The first digit that does
  not fit and all after it are dropped.
-/
def fractionDigits : List Char → Scaled → Scaled
| [], number => number
| c :: rest, number =>
    let next := number.significand * 10 + Text.digitValue c
    if next ≤ largestSignificand then
      fractionDigits rest ⟨next, number.exponent - 1⟩
    else
      number

/- The digits of a numeral without its exponent. -/
def Numeral.mantissa (numeral : Numeral) : Scaled :=
  fractionDigits numeral.fraction (wholeDigits numeral.whole 0)

------------------------------------------------------------
-- Finite numbers
------------------------------------------------------------

/-
  The nearest number with 53 significant bits; a tie goes to
  the even one.
-/
def roundBits (number : Nat) : Nat :=
  let extra := Nat.log2 number + 1 - 53
  let step := Nat.pow 2 extra
  let low := number / step
  let twice := 2 * (number % step)
  if twice > step ∨ twice = step ∧ low % 2 = 1 then
    (low + 1) * step
  else
    low * step

/- A significand times a power of ten stays finite. -/
def Scaled.isFinite (number : Scaled) : Bool :=
  if number.significand = 0 then
    true
  else if number.exponent < 0 then
    true
  else if number.exponent ≤ 308 then
    decide
      (roundBits
          (roundBits number.significand
            * roundBits (Nat.pow 10 number.exponent.toNat))
        < Nat.pow 2 1024)
  else
    false

/-
  A numeral is finite. An exponent too large to hold makes
  every significand but zero infinite, or as good as zero.
-/
def Numeral.isFinite (numeral : Numeral) : Bool :=
  let mantissa := numeral.mantissa
  match numeral.exponent with
  | none => mantissa.isFinite
  | some (negative, digits) =>
      let shift :=
        Text.numberOf 10 (digits.map Text.digitValue)
      if shift ≤ largestExponent then
        let exponent :=
          if negative then
            mantissa.exponent - Int.ofNat shift
          else
            mantissa.exponent + Int.ofNat shift
        Scaled.isFinite ⟨mantissa.significand, exponent⟩
      else
        negative || mantissa.significand == 0

end BrainLink.Json
