import Gamebook.Definition.Integer
import Gamebook.Json
import Gamebook.Settings.Basic
import Gamebook.Settings.EnvFile
import Gamebook.Text.Case

/-!
# Reading settings

A setting is given by an environment variable or by a line of the environment file;
the variable wins. Case does not matter in their names. The extensions are written
as a list in JSON, the history limit as an integer, and the others as they are.

The file is for settings alone: any other name in it that has a value is a problem,
while the environment may hold what it likes.
-/

namespace Gamebook.Settings

/-- Where a setting is given. -/
inductive Origin where
  | environment
  | file
deriving DecidableEq

/-- The name under which a message speaks of an origin. -/
def Origin.name : Origin → Text
  | environment => "EnvSettingsSource".toList
  | file => "DotEnvSettingsSource".toList

/-- Why settings are not read. -/
inductive ReadError where
  /-- The extensions are not written in JSON. -/
  | unreadable (origin : Origin)
  | problems (ps : List Problem)
deriving DecidableEq

/-- A setting that can be given. -/
inductive Field where
  | extensions
  | tableIdStem
  | historyLimit
  | logLevel
deriving DecidableEq

namespace Field

/-- The name of a field. -/
def name : Field → Text
  | extensions => "markdown_extensions".toList
  | tableIdStem => "table_id_prefix".toList
  | historyLimit => "roll_history_limit".toList
  | logLevel => "log_level".toList

/-- The fields, in the order they are checked. -/
def all : List Field := [extensions, tableIdStem, historyLimit, logLevel]

/-- The name of the variable that gives the setting, in lower case. -/
def key (f : Field) : Text := "cartridge_".toList ++ f.name

end Field

/-- The text of the error for settings that cannot be read. -/
def ReadError.message : ReadError → Text
  | unreadable origin =>
    "error parsing value for field \"".toList ++ Field.extensions.name ++
      "\" from source \"".toList ++ origin.name ++ ['"']
  | problems ps => Problem.report "Settings".toList ps

/-- Names in lower case with what they are given, in the order in which they first came. -/
abbrev Layer := List (Text × Option Text)

/-- Writes the names in lower case; of names that become one, the last gives the value. -/
def Layer.ofEntries (entries : List (Text × Option Text)) : Layer :=
  entries.foldl (fun layer e => putEntry (Text.lower e.1) e.2 layer) []

/-- The text that a layer gives a setting. -/
def Layer.given (layer : Layer) (f : Field) : Option Text := (entryOf? f.key layer).join

/-- The extensions that a layer gives; JSON's null gives none. -/
def Layer.extensions (origin : Origin) (layer : Layer) : Except ReadError (Option Value) :=
  match layer.given .extensions with
  | none => .ok none
  | some t =>
    match Json.read? (some digitLimit) t with
    | none => .error (.unreadable origin)
    | some .null => .ok none
    | some v => .ok (some v)

/-- Whether a name of the file is for the settings. A bare name of a setting has no effect, and
behind the name of the extensions there may be more. -/
def isKnown (name : Text) : Bool :=
  Field.all.any fun f =>
    name == f.name || name == f.key || (f == .extensions && Text.startsWith f.key name)

/-- The problems with names of the file that are not for the settings. -/
def Layer.strangers (layer : Layer) : List Problem :=
  layer.filterMap fun e =>
    if isKnown e.1 || e.2.getD [] == [] then none else some ⟨[e.1], .notAllowed⟩

/-- The name of an extension, which has to be a text. -/
def extensionName? : Value → Option Text
  | .text t => some t
  | .broken codes => some (Text.ofCodePoints codes)
  | _ => none

/-- The problems of a check, none if it is passed. -/
def problemsOf {α : Type} : Except (List Problem) α → List Problem
  | .ok _ => []
  | .error ps => ps

/-- The extensions in a list, counted from `index`. -/
def readItems (index : Nat) : List Value → Except (List Problem) (List Text)
  | [] => .ok []
  | v :: vs =>
    match extensionName? v, readItems (index + 1) vs with
    | some t, .ok ts => .ok (t :: ts)
    | some _, .error ps => .error ps
    | none, rest =>
      .error (⟨[Field.extensions.name, Number.writeNat index], .notText⟩ :: problemsOf rest)

/-- The extensions: those given, or the standard ones. -/
def readExtensions : Option Value → Except (List Problem) (List Text)
  | none => .ok standard.extensions
  | some (.list vs) => readItems 0 vs
  | some _ => .error [⟨[Field.extensions.name], .notList⟩]

/-- The limit of the history: the one given, or the standard one. -/
def readLimit : Option Text → Except (List Problem) (Option Int)
  | none => .ok standard.historyLimit
  | some t =>
    match IntegerText.read t with
    | .ok z => .ok (some z)
    | .error fault => .error [⟨[Field.historyLimit.name], fault⟩]

/-- The settings in an environment, beside a file where there is one. -/
def read (environment : Environment) (file : Option Text) : Except ReadError Settings := do
  let fromSystem := Layer.ofEntries (environment.map fun e => (e.1, some e.2))
  let fromFile := Layer.ofEntries (EnvFile.read environment (file.getD []))
  let outer ← fromSystem.extensions .environment
  let inner ← fromFile.extensions .file
  let given (f : Field) := (fromSystem.given f).or (fromFile.given f)
  let strangers := fromFile.strangers
  match readExtensions (outer.or inner), readLimit (given .historyLimit), strangers with
  | .ok extensions, .ok historyLimit, [] =>
    return {
      extensions
      tableIdStem := (given .tableIdStem).getD standard.tableIdStem
      historyLimit
      logLevel := (given .logLevel).getD standard.logLevel }
  | extensions, historyLimit, strangers =>
    .error (.problems (problemsOf extensions ++ problemsOf historyLimit ++ strangers))

end Gamebook.Settings
