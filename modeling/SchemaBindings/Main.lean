import SchemaBindings.CommandLine

/-!
The program: reads the files that its arguments name and prints the bindings.  The
environment can name a configuration file.
-/

open SchemaBindings

/-- Read a file; one that cannot be read counts as missing. -/
def loadFile (path : String) : IO File := do
  try
    return .present (← IO.FS.readBinFile path)
  catch _ =>
    return .missing

/-- The runtime hands over the arguments as texts and without the name of the program. -/
def main (arguments : List String) : IO UInt32 := do
  let files ← arguments.mapM fun path => return (path, ← loadFile path)
  let disk (path : String) : File := (files.lookup path).getD .missing
  let config ← match ← IO.getEnv CommandLine.configVariable with
    | none => pure none
    | some path => pure (some (path, ← loadFile path))
  let ending := CommandLine.start disk (("generate" :: arguments).map String.toUTF8) config
  match ending with
  | .aborted _ => IO.eprintln "an argument is not Unicode"
  | .finished outcome =>
      for line in outcome.output do
        IO.println line
      for line in outcome.errors do
        IO.eprintln line
  return ending.exitCode.toUInt32
