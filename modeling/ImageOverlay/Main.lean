import ImageOverlay.CommandLine.Run

set_option autoImplicit false

/-!
# The program

The outer layer of the command line: it fetches what a run may read, runs the command line and
writes what came out. Called by the name `dump_config_schema`, the program prints the schema of
the settings file, or writes it to a file.
-/

namespace ImageOverlay.CommandLine

/-- What is behind a path on the disk. -/
def fetch (path : String) : IO FileContent := do
  try
    return .bytes (← IO.FS.readBinFile path)
  catch
    | .noFileOrDirectory .. => return .missing
    | _ => return .unreadable

/-- The world a command line sees. -/
def fetchEnvironment (words : List String) : IO Environment := do
  let directories : Directories :=
    { configHome := ← IO.getEnv "XDG_CONFIG_HOME", home := ← IO.getEnv "HOME" }
  let contents ← (pathsRead directories words).mapM fun path =>
    return (path, ← fetch path)
  let input ← if readsInput words then (← IO.getStdin).readBinToEnd else pure ByteArray.empty
  let seed := (← IO.getRandomBytes 16).foldl (fun n b => n * 256 + b.toNat) 0
  return {
    file := fun path => (contents.lookup path).getD .missing
    input
    directories
    supply := { bits := fun n => BitVec.ofNat 128 (seed + n) } }

/-- Say why a run failed. -/
def report (e : RunError) : IO UInt32 := do
  IO.eprintln ("Error: " ++ e.message)
  return 1

/-- Run a command line. -/
def runProgram (words : List String) : IO UInt32 := do
  match run (← fetchEnvironment words) words with
  | .printed text =>
    IO.print text
    return 0
  | .failed e => report e
  | .refused =>
    IO.eprintln "error: unexpected or missing arguments"
    return 2

/-- Print the schema or write it to a file. -/
def runSchemaProgram (words : List String) : IO UInt32 := do
  match schemaRequest words with
  | .print text =>
    IO.print text
    return 0
  | .write path text =>
    try
      IO.FS.writeFile path text
      return 0
    catch _ => report (.schemaNotWritten path)

end ImageOverlay.CommandLine

/-- The program under either of its names. -/
def main (words : List String) : IO UInt32 := do
  if (toString (← IO.appPath)).endsWith "dump_config_schema" then
    ImageOverlay.CommandLine.runSchemaProgram words
  else ImageOverlay.CommandLine.runProgram words
