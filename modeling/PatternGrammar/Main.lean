import PatternGrammar.CommandLine.Run

/-!
# The program

Reads the files that the command line names, runs it, and writes what it gives.
-/

namespace PatternGrammar.CommandLine

/-- What stands under a path, if anything does. -/
def loadEntry (path : String) : IO (Option FileEntry) := do
  try
    return some (.file (← IO.FS.readBinFile path))
  catch
    | .inappropriateType .. => return some .directory
    | _ => return none

/-- The files under the given paths. -/
def loadFiles (paths : List String) : IO Files := do
  let entries ← paths.filterMapM fun path => do
    return (← loadEntry path).map fun e => (path, e)
  return ⟨entries⟩

end PatternGrammar.CommandLine

open PatternGrammar in
/-- Runs the command line. -/
def main (args : List String) : IO UInt32 := do
  let fs ← CommandLine.loadFiles (CommandLine.pathsOf args)
  let report := CommandLine.run fs args
  IO.print report.output
  IO.eprint report.messages
  return report.code.toUInt32
