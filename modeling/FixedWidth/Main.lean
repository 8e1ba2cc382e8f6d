import FixedWidth.Command.Run

/-!
# The program

The files a command line names are read, the command line is carried out, and
what it comes to is printed and written. What it comes to is computed elsewhere.
-/

namespace FixedWidth

/-- A file and its path, if it can be read. -/
def readInput (path : String) : IO (Option (String × List UInt8)) := do
  try
    let bytes ← IO.FS.readBinFile path
    return some (Command.normalizePath path, bytes.toList)
  catch _ => return none

/-- Prints and writes what a command line comes to. -/
def deliver (o : Command.Outcome) : IO Unit := do
  o.journalLines.forM IO.eprintln
  for (path, text) in o.written do
    IO.FS.writeFile path text
  IO.print o.output
  IO.eprint o.errors
  match o.problem with
  | some p => IO.eprintln p.text
  | none => return

end FixedWidth

open FixedWidth in
/-- Carries out the command line that the words given to the program are. -/
def main (words : List String) : IO UInt32 := do
  let files ← (Command.inputs words).filterMapM readInput
  let outcome := Command.run .plain files words
  deliver outcome
  return outcome.exitCode.toUInt32
