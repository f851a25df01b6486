import Gamebook.Command.Render

/-!
# The program

Runs the command on the files and the variables of the system.
-/

namespace Gamebook.Main

/-- The content of a file; nothing where it cannot be read. -/
def contentOf (path : Path) : IO (Option Text) := do
  try
    let text ← IO.FS.readFile (String.ofList path.toText)
    return some text.toList
  catch _ => return none

/-- The variables of the system, as the process was given them. -/
def environment : IO Environment := do
  try
    let text ← IO.FS.readFile "/proc/self/environ"
    return (Text.splitOn '\x00' text.toList).filterMap (Text.cutAt? ['='])
  catch _ => return []

/-- Runs the command with its arguments; the exit code. -/
def run (arguments : List String) : IO UInt32 := do
  let arguments := arguments.map String.toList
  let content ← match arguments with
    | source :: _ => contentOf (Path.ofText source)
    | [] => pure none
  match Command.run (← environment) (← contentOf Command.envPath) content arguments with
  | .error e =>
    IO.eprintln (String.ofList e.message)
    return 1
  | .ok outcome =>
    IO.print (String.ofList outcome.output)
    IO.eprint (String.ofList outcome.report)
    match outcome.file with
    | some (path, text) => IO.FS.writeFile (String.ofList path.toText) (String.ofList text)
    | none => pure ()
    IO.eprint (String.ofList outcome.closing)
    return outcome.exitCode.toUInt32

end Gamebook.Main

/-- The program: renders the file it is given. -/
def main (arguments : List String) : IO UInt32 := Gamebook.Main.run arguments
