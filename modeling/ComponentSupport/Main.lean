import ComponentSupport.CommandLine.Run

/-!
# The program

Reads the files that a command line names, carries out the command, and prints and writes what it
answers.
-/

namespace ComponentSupport.CommandLine

/-- Why a file could not be read or written. -/
def describe : IO.Error → String
  | .noFileOrDirectory .. => Files.missing
  | e => toString e

/-- The text of a file on disk, or why it cannot be read. -/
def readText (path : String) : IO (Except String String) := do
  try
    return .ok (← IO.FS.readFile path)
  catch e =>
    return .error (describe e)

/-- The paths that a command reads. -/
def Command.paths : Command → List String
  | .analyze r => r.config.toList ++ [r.types, r.model]
  | .defaultConfig => []

/-- The files that a command reads. That a file cannot be written turns out when it is written. -/
def loadFiles (command : Command) : IO Files := do
  let texts ← command.paths.mapM fun path => return (path, ← readText path)
  return {
    read := fun path =>
      match texts.find? (·.1 == path) with
      | some found => found.2
      | none => .error Files.missing
    canWrite := fun _ => true }

/-- Writes the file of an outcome, and answers the outcome as it is then. -/
def Outcome.write (o : Outcome) : IO Outcome := do
  match o.written with
  | none => return o
  | some (path, text) =>
    try
      IO.FS.writeFile path text
      return o
    catch _ =>
      return o.unwritten path

/-- Prints what an outcome says. -/
def Outcome.print (o : Outcome) : IO Unit := do
  IO.print o.stdout
  if let some error := o.error then
    IO.eprintln s!"Error: {error}"

end ComponentSupport.CommandLine

open ComponentSupport.CommandLine in
/-- Carries out a command line. -/
def main (args : List String) : IO UInt32 := do
  match parse? args with
  | none =>
    IO.eprintln "error: analyze --types FILE --model FILE, or default-config"
    return Outcome.usage.exitCode.toUInt32
  | some command =>
    let outcome ← (command.run (← loadFiles command)).write
    outcome.print
    return outcome.exitCode.toUInt32
