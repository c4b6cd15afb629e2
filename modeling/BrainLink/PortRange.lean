import BrainLink.Text.Blank
import BrainLink.Text.Integer

/-
  Inclusive ranges of ports.

  Key definitions include:
    * `PortRange`
    * `PortRangeError`
    * `PortRange.parse`
    * `PortRange.firstFree?`
-/

namespace BrainLink

/- The ports from `first` to `last`, both included. -/
structure PortRange where
  first : UInt16
  last : UInt16
deriving DecidableEq, Repr

/- Why a text is not a range of ports. -/
inductive PortRangeError where
| noDash (text : String)
| badStart (text : String) (cause : IntegerError)
| badEnd (text : String) (cause : IntegerError)
| startsAtZero
| reversed (start : Nat) (stop : Nat)
deriving DecidableEq, Repr

/- The wording of each cause. -/
def PortRangeError.message : PortRangeError → String
| .noDash text => "expected <start>-<end>, got '" ++ text ++ "'"
| .badStart text cause =>
    "invalid start port '" ++ text ++ "': " ++ cause.message
| .badEnd text cause =>
    "invalid end port '" ++ text ++ "': " ++ cause.message
| .startsAtZero => "Port range must not include port 0"
| .reversed start stop =>
    "Invalid port range: start (" ++ toString start
      ++ ") > end (" ++ toString stop ++ ")"

namespace PortRange

/- A port after trimming. -/
def readPort (text : List Char) : Except IntegerError Nat :=
  Text.readNat 65535 (Text.trimChars text)

/-
  Two ports with a dash between them. The first dash divides;
  zero is no port, and the range must not be reversed.
-/
def parse (text : String) : Except PortRangeError PortRange :=
  match Text.cutAt '-' text.toList with
  | none => .error (.noDash text)
  | some (before, after) =>
      match readPort before with
      | .error cause =>
          .error (.badStart (String.ofList before) cause)
      | .ok start =>
          match readPort after with
          | .error cause =>
              .error (.badEnd (String.ofList after) cause)
          | .ok stop =>
              if start = 0 then
                .error .startsAtZero
              else if stop < start then
                .error (.reversed start stop)
              else
                .ok ⟨UInt16.ofNat start, UInt16.ofNat stop⟩

/- The ports of a range in rising order. -/
def ports (range : PortRange) : List Nat :=
  (List.range (range.last.toNat + 1)).drop range.first.toNat

/- The first port of a range that is free to be bound. -/
def firstFree?
    (range : PortRange)
    (isFree : Nat → Bool) :
    Option Nat :=
  range.ports.find? isFree

end PortRange

end BrainLink
