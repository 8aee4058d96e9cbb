import Forager.CommandLine

/-!
# The program

Runs a command line on the files of the machine.
-/
namespace Forager.CommandLine

/-- The files of the machine. -/
def machineFiles : FileSystem IO where
  read path := do
    match ← (IO.FS.readFile path).toBaseIO with
    | .ok text => return some text
    | .error _ => return none
  write path text := do
    match ← (IO.FS.writeFile path text).toBaseIO with
    | .ok () => return true
    | .error _ => return false

/-- The text of a failure: its message, and below it the cause. -/
def failureText (f : Failure) : String :=
  match f.cause with
  | none => "Error: " ++ f.message
  | some cause => "Error: " ++ f.message ++ "\n\nCaused by:\n    " ++ cause

def usageText : String :=
  "Usage: survivor [-v] COMMAND\n\n  run SCENARIO [--config FILE] [--trace FILE] [--json]\n  tree [--keys]\n  leaves\n  check [--config FILE]"

/-- Prints an outcome: results to standard output, complaints to standard error. -/
def report (outcome : Outcome) : IO Unit := do
  IO.print outcome.output
  match outcome.failure with
  | some f => IO.eprintln (failureText f)
  | none => if outcome.exit == 2 then IO.eprintln usageText

end Forager.CommandLine

open Forager.CommandLine in
def main (words : List String) : IO UInt32 := do
  let outcome ← answer machineFiles words
  report outcome
  return outcome.exit
