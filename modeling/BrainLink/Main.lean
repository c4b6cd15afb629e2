import BrainLink.Report

/-
  The command: print the report on the arguments.
-/

def main (arguments : List String) : IO UInt32 := do
  let report := BrainLink.Report.ofArguments arguments
  if report.isFine then
    IO.println report.text
    return 0
  else
    IO.eprintln report.text
    return 2
