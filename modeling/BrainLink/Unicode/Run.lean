import BrainLink.Text.Ascii

/-
  Tables of characters, written as text: entries with blanks
  or line ends between them, each beginning with one code or
  with the first and the last code of a run, in hexadecimal.

  Key definitions include:
    * `Unicode.Run`
    * `Unicode.Run.has`
    * `Unicode.readRuns`
    * `Unicode.inRuns`
-/

namespace BrainLink.Unicode

/- The characters with codes from `first` to `last`. -/
structure Run where
  first : Nat
  last : Nat
deriving DecidableEq, Repr

/- Whether a code is in a run. -/
def Run.has (run : Run) (code : Nat) : Bool :=
  run.first ≤ code && code ≤ run.last

/- Whether a code is in one of some runs. -/
def inRuns (runs : List Run) (code : Nat) : Bool :=
  runs.any fun run => run.has code

------------------------------------------------------------
-- Reading a table
------------------------------------------------------------

/- The code that hexadecimal digits write. -/
def readCode (digits : List Char) : Nat :=
  Text.numberOf 16 (digits.filterMap Text.hexValue?)

/- Codes with plus signs between them. -/
def readCodes (text : List Char) : List Nat :=
  match text with
  | [] => []
  | _ => (Text.fields '+' text).map readCode

/- A run as tables write it: one code, or two. -/
def Run.ofChars (text : List Char) : Run :=
  match Text.cutAt '-' text with
  | none => ⟨readCode text, readCode text⟩
  | some (first, last) => ⟨readCode first, readCode last⟩

/- The entries of a table. -/
def entries (table : String) : List (List Char) :=
  let lines := Text.fields '\n' table.toList
  (lines.flatMap (Text.fields ' ')).filter fun entry =>
    !entry.isEmpty

/- A table of runs alone. -/
def readRuns (table : String) : List Run :=
  (entries table).map Run.ofChars

end BrainLink.Unicode
