import Gamebook.Cartridge
import Gamebook.Command.Folder
import Gamebook.Settings.LogLevel
import Gamebook.Settings.Reading

/-!
# Rendering on the command line

The command renders the file of a cartridge to an annotated fragment. The fragment is
printed, or written to a second file where one is named; the outline and what is wrong
with the definitions are reported beside it.
-/

namespace Gamebook.Command

/-- What the command does. -/
structure Outcome where
  exitCode : Nat
  output : Text
  /-- What is reported before a file is written. -/
  report : Text
  /-- The file to write. -/
  file : Option (Path × Text)
  /-- What is reported once the file is written. -/
  closing : Text

/-- Why the command breaks off. -/
inductive CommandError where
  | settings (e : Settings.ReadError)
  | level (e : UnknownLevel)
  | load (e : LoadError)
  | file (e : FileError)

/-- The text of the error that ends the command. -/
def CommandError.message : CommandError → Text
  | settings e => e.message
  | level e => e.message
  | load e => e.message
  | file e => e.message

/-- Prints a line and fails. -/
def refuse (line : Text) : Outcome := ⟨1, line ++ ['\n'], [], none, []⟩

/-- What is said when the arguments are not those of the command. -/
def usage : Text := "Usage: python scripts/render_cartridge.py <cartridge.md> [output.html]".toList

/-- What is said when the source is not there. -/
def notFound (source : Path) : Text :=
  "Error: Cartridge '".toList ++ source.toText ++ "' not found.".toList

/-- The line of the outline for a heading; every level is set in by two blanks. -/
def outlineLine (h : Heading) : Text :=
  List.replicate (2 * (h.level - 1)) ' ' ++ "- ".toList ++ h.text ++ " (#".toList ++ h.id ++ [')']

/-- The lines on what is wrong with the definitions. -/
def warnings (c : Cartridge) : List Text :=
  let block := match c.decodeError with
    | some e => if e.message = [] then [] else
      ["Warning: definitions block ignored: ".toList ++ e.message]
    | none => []
  block ++ c.entryErrors.map fun e =>
    "Warning: definition '".toList ++ e.1 ++ "' skipped: ".toList ++
      Problem.report Definition.subject e.2

/-- The report on a cartridge. -/
def report (c : Cartridge) : Text :=
  (warnings c ++ "Outline:".toList :: c.outline.map outlineLine).flatMap (· ++ ['\n'])

/-- The report on a written file. -/
def closing (target : Path) (c : Cartridge) : Text :=
  "Wrote ".toList ++ target.toText ++ " (".toList ++ Number.writeNat c.tables.length ++
    " roll tables).\n".toList

/-- Renders the file at `source`, which holds `content` where it is there. -/
def render (settings : Settings) (source : Path) (content : Option Text) (target : Option Path) :
    Except CommandError Outcome :=
  match content with
  | none => .ok (refuse (notFound source))
  | some content => do
    let c ← (Cartridge.load settings.render settings.tableIdStem
      (Text.unifyNewlines content)).mapError .load
    match target with
    | none => return ⟨0, c.html ++ ['\n'], report c, none, []⟩
    | some target => return ⟨0, [], report c, some (target, c.html), closing target c⟩

/-- Runs the command: `file` is the environment file and `content` that of the file which the first
argument names, where they are there. -/
def run (environment : Environment) (file content : Option Text) (arguments : List Text) :
    Except CommandError Outcome := do
  let settings ← (Settings.read environment file).mapError .settings
  let start (source : Text) (target : Option Text) : Except CommandError Outcome := do
    let _ ← (Log.start none settings).mapError .level
    render settings (Path.ofText source) content (target.map Path.ofText)
  match arguments with
  | [source] => start source none
  | [source, target] => start source (some target)
  | _ => return refuse usage

/-- Where the environment file lies. -/
def envPath : Path := Path.ofText ".env".toList

/-- Runs the command in a folder: what it does, and the folder after it. -/
def runIn (environment : Environment) (folder : Folder) (arguments : List Text) :
    Except CommandError (Outcome × Folder) := do
  let content := arguments.head?.bind fun source => folder.content? (Path.ofText source)
  let outcome ← run environment (folder.content? envPath) content arguments
  match outcome.file with
  | none => return (outcome, folder)
  | some (target, text) => return (outcome, ← (folder.write target text).mapError .file)

end Gamebook.Command
