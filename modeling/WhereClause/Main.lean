import WhereClause.CommandLine.Run

/-!
# The Program

The command line program: it looks up what a run has to be told about the
world, runs, and prints what the run leaves behind.

Only what the command may ask for is looked up. Standard input in particular
is not touched unless the document comes from there.

## Main definitions

* `main`: The program.
-/

namespace WhereClause

namespace CommandLine

/-- Why reading a file failed. -/
def FileFault.ofError : IO.Error → FileFault
  | .noFileOrDirectory .. => .missing
  | .inappropriateType .. => .isDirectory
  | error => .other error.toString

/-- Bytes that are read somewhere, as a text. -/
def readText (read : IO ByteArray) : IO (Except FileFault String) := do
  try
    return FileFault.decode (← read)
  catch error =>
    return .error (.ofError error)

/-- What a run of a command has to be told about the world. -/
def look (command : Command) : IO Surroundings := do
  let limit ← IO.getEnv Settings.depthVariable
  let files ← command.paths.mapM fun (path : String) => do
    return (path, ← readText (IO.FS.readBinFile path))
  let input ←
    if command.readsInput then readText do (← IO.getStdin).readBinToEnd
    else pure (.ok "")
  return {
    environment := ⟨limit.toList.map fun value => (Settings.depthVariable, value)⟩
    fileText := fun path =>
      ((files.find? fun file => file.1 = path).map Prod.snd).getD (.error .missing)
    input }

/-- Print what a run leaves behind. -/
def finish (left : Exit) : IO UInt32 := do
  IO.print left.output
  IO.eprint left.errors
  return left.status

end CommandLine

end WhereClause

open WhereClause CommandLine in
/-- The program. -/
def main (arguments : List String) : IO UInt32 := do
  match Command.ofArguments arguments with
  | .error error => finish (.ofUsage error)
  | .ok command => finish (.ofRun (command.run (← look command)).outcome)
