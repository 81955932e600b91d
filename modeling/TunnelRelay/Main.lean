import TunnelRelay.CommandLine.Outcome

/-!
# The program

Reads the files that an invocation may read, and shows what it comes to.
-/

namespace TunnelRelay

/-- What the file at a path holds, if it can be read. -/
def readFile? (path : String) : IO (Option (List UInt8)) := do
  try
    let bytes ← IO.FS.readBinFile path
    return some bytes.toList
  catch _ => return none

/-- An invocation with these arguments. -/
def invoke (args : List String) : IO CommandLine.Outcome := do
  let files ← (CommandLine.paths args).mapM fun path => return (path, ← readFile? path)
  return CommandLine.run (fun path => (files.lookup path).join) args

end TunnelRelay

/-- The program. The exit code tells how it ended. -/
def main (args : List String) : IO UInt32 := do
  let outcome ← TunnelRelay.invoke args
  IO.print outcome.output
  IO.eprint outcome.errorText
  return outcome.code.toUInt32
