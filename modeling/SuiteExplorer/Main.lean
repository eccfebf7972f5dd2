/-
  SuiteExplorer/Main.lean
  =======================
  The command line. Arguments are those of the program; the world they are about
  is read as a document from standard input.
-/
import SuiteExplorer.CommandLine.Program
import SuiteExplorer.CommandLine.Snapshot

namespace SuiteExplorer.CommandLine

/-- All that is left of a stream. -/
partial def readAll (stream : IO.FS.Stream) (before : String := "") : IO String := do
  let line ← stream.getLine
  if line.isEmpty then return before else readAll stream (before ++ line)

/-- Show what the program has shown, and give its status. -/
def showOutcome (o : Outcome) : IO UInt32 := do
  IO.print o.terminal.stdout
  IO.eprint o.terminal.stderr
  if let some f := o.fault? then IO.eprintln f.message
  return UInt32.ofNat o.status

/-- Read the world, and run the program in it. -/
def runProgram (args : List String) : IO UInt32 := do
  match Snapshot.ofString? (← readAll (← IO.getStdin)) with
  | some w => showOutcome (execute w args)
  | none =>
    IO.eprintln "standard input holds no description of a world"
    return 2

end SuiteExplorer.CommandLine

def main (args : List String) : IO UInt32 := SuiteExplorer.CommandLine.runProgram args
