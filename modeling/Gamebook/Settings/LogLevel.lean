import Gamebook.Settings.Basic
import Gamebook.Text.Case
import Gamebook.Text.Quoted

/-!
# Log levels

Messages are logged from a level on. A level is named in any case, and two of them
have a second name.
-/

namespace Gamebook

/-- How grave a message is. -/
inductive LogLevel where
  | notset
  | debug
  | info
  | warning
  | error
  | critical
deriving DecidableEq

namespace LogLevel

/-- The number of a level; a graver one has a greater number. -/
def rank : LogLevel → Nat
  | notset => 0
  | debug => 10
  | info => 20
  | warning => 30
  | error => 40
  | critical => 50

/-- The level with a name in capitals. -/
def ofName? (name : Text) : Option LogLevel :=
  match String.ofList name with
  | "NOTSET" => some notset
  | "DEBUG" => some debug
  | "INFO" => some info
  | "WARNING" | "WARN" => some warning
  | "ERROR" => some error
  | "CRITICAL" | "FATAL" => some critical
  | _ => none

end LogLevel

/-- No level has the name. -/
structure UnknownLevel where
  name : Text
deriving DecidableEq

/-- The text of the error for a name that is no level. -/
def UnknownLevel.message (e : UnknownLevel) : Text :=
  "Unknown level: ".toList ++ Text.quoted e.name

/-- Where messages go: from which level on, and to how many outputs. -/
structure Log where
  level : LogLevel
  outputs : Nat
deriving DecidableEq

/-- The log with one output, at the level that is named, or at that of the settings where none is
named. -/
def Log.start (level : Option Text) (s : Settings) : Except UnknownLevel Log :=
  let named := match level with
    | some (c :: t) => c :: t
    | _ => s.logLevel
  let name := Text.upper named
  match LogLevel.ofName? name with
  | some level => .ok ⟨level, 1⟩
  | none => .error ⟨name⟩

end Gamebook
