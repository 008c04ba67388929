import CaseSynthesis.Command.Run

/-! The command line. -/

namespace CaseSynthesis.Main

/-- The fault behind an error. A directory can be opened, but not read: then no path is named. -/
def faultOf : IO.Error → FileFault
  | .inappropriateType none .. => .directory
  | .inappropriateType (some _) .. => .notDirectory
  | _ => .missing

def fileText (path : String) : IO (Except FileFault String) := do
  try
    return Files.decode (← IO.FS.readBinFile path)
  catch error =>
    return .error (faultOf error)

def readFiles (paths : List String) : IO Files := do
  let texts ← paths.mapM fun path => return (path, ← fileText path)
  return fun path => (texts.lookup path).getD (.error .missing)

end CaseSynthesis.Main

open CaseSynthesis

def main (arguments : List String) : IO UInt32 := do
  let path ← IO.getEnv Command.settingsVariable
  let environment (name : String) := if name == Command.settingsVariable then path else none
  let outcome ← match Command.ofArguments environment arguments with
    | .ok command => pure (command.run (← Main.readFiles command.paths))
    | .error refusal => pure (Command.refuse refusal)
  IO.print outcome.output
  IO.eprint outcome.errorOutput
  return outcome.exitCode.toUInt32
