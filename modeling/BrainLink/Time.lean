/-
  Spans of time, and systems that do things at set times.

  Key definitions include:
    * `Millis`
    * `Timeline`
    * `Timeline.advance`

  `Timeline.advance` jumps from one time at which something
  is due to the next, so a long wait costs no more than what
  happens in it.
-/

namespace BrainLink

/- A span of time, or a time since the start of a clock. -/
abbrev Millis :=
  Nat

/-
  How a system lives in time: when something is due next, and
  what the system is once all that is due at a time is done.
-/
structure Timeline (σ : Type) where
  next? : σ → Option Millis
  happen : Millis → σ → σ

namespace Timeline

variable {σ : Type}

/-
  Do all that is due up to a time, each thing at its own
  time. The number bounds the times at which something is
  due.
-/
def advance
    (line : Timeline σ)
    (last : Millis) :
    Nat → σ → σ
| 0, system => system
| count + 1, system =>
    match line.next? system with
    | none => system
    | some time =>
        if time ≤ last then
          line.advance last count (line.happen time system)
        else
          system

end Timeline

/- The least time of a list of times. -/
def earliest? : List Millis → Option Millis
| [] => none
| time :: rest =>
    match earliest? rest with
    | none => some time
    | some other => some (min time other)

end BrainLink
