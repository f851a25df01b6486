import Gamebook.Definition.Basic
import Gamebook.Definition.Integer
import Gamebook.Value.Spelling

/-!
# Reading definitions

Reads one definition from the value it is written as. A bare text is lore. A mapping
may leave out its type: with stats it is an entity and without them lore, and a stat
is told by the fields it has. Every field is checked and all problems are reported
together, in the order of the fields and the stats.
-/

namespace Gamebook

/-- Why a value is no definition. -/
inductive DefinitionError where
  | problems (ps : List Problem)
  /-- A number had to be written as text and is too long for it. -/
  | numeral (e : NumeralError)
deriving DecidableEq

/-- The text of the error for a definition: a report of its problems. -/
def DefinitionError.message : DefinitionError → Text
  | problems ps => Problem.report Definition.subject ps
  | numeral e => e.message

/-- The result of a check that collects problems; a number too long to be written ends it. -/
abbrev Checked (α : Type) := Except NumeralError (Except (List Problem) α)

namespace Checked

/-- A check that is passed. -/
def value {α : Type} (a : α) : Checked α := .ok (.ok a)

/-- A check that fails at the value itself. -/
def fault {α : Type} (f : Fault) : Checked α := .ok (.error [⟨[], f⟩])

/-- Moves the problems one step further in. -/
def within {α : Type} (step : Text) : Checked α → Checked α
  | .ok (.error ps) => .ok (.error (ps.map (Problem.within step)))
  | r => r

/-- Two checks, one after the other. The problems of both are kept. -/
def both {α β γ : Type} (f : α → β → γ) : Checked α → Checked β → Checked γ
  | .error e, _ => .error e
  | _, .error e => .error e
  | .ok (.ok a), .ok (.ok b) => .ok (.ok (f a b))
  | .ok (.ok _), .ok (.error qs) => .ok (.error qs)
  | .ok (.error ps), .ok (.ok _) => .ok (.error ps)
  | .ok (.error ps), .ok (.error qs) => .ok (.error (ps ++ qs))

/-- What a passed check gives, under a function. -/
def map {α β : Type} (f : α → β) : Checked α → Checked β
  | .ok (.ok a) => .ok (.ok (f a))
  | .ok (.error ps) => .ok (.error ps)
  | .error e => .error e

end Checked

namespace Value

/-- The text of a field that takes texts and numbers. Bytes have to be one, but a text may have code
points that are no characters. -/
def asText : Value → Checked Text
  | text t => .value t
  | broken codes => .value (Text.ofCodePoints codes)
  | bytes bs =>
    match Text.ofUtf8? bs with
    | some t => .value t
    | none => .fault .notUnicode
  | int z =>
    match Number.write z with
    | .ok t => .value t
    | .error e => .error e
  | real x => .value x.write
  | _ => .fault .notText

/-- The text of a field that takes any value: what is no text is spelled out. -/
def asSpelling : Value → Checked Text
  | null => .value []
  | v =>
    match v.spell with
    | .ok t => .value t
    | .error e => .fault (.refused e)

/-- The integer of a field. -/
def asIntegerField (v : Value) : Checked Int :=
  match v.asInteger with
  | .ok z => .value z
  | .error f => .fault f

/-- The spelling of a value that names no known kind. -/
def kindSpelling (v : Value) : Text :=
  match v.spell with
  | .ok t => t
  | .error _ => "<unprintable ".toList ++ v.kindName ++ " object>".toList

end Value

namespace Definition

open Value (Entries)

/-- A field that must be there. -/
def required {α : Type} (name : Text) (check : Value → Checked α) (entries : Entries) :
    Checked α :=
  match Value.field? name entries with
  | some v => (check v).within name
  | none => (Checked.fault .missing).within name

/-- A field that may be left out. -/
def optional {α : Type} (name : Text) (fallback : α) (check : Value → Checked α)
    (entries : Entries) : Checked α :=
  match Value.field? name entries with
  | some v => (check v).within name
  | none => .value fallback

/-- The kind that the fields name as their type, or the one they imply if they name none. -/
def kindBy {κ : Type} (kinds : List κ) (name : κ → Text) (implied : κ) (entries : Entries) :
    Except Fault κ :=
  match Value.field? "type".toList entries with
  | none => .ok implied
  | some v =>
    let named := match v with
      | .text t => kinds.find? fun k => name k == t
      | _ => none
    match named with
    | some k => .ok k
    | none => .error (.unknownKind v.kindSpelling (kinds.map name))

end Definition

namespace Stat

open Value (Entries)
open Definition (required optional)

/-- The kinds of stats. -/
inductive Kind where
  | static
  | bar
  | roll
deriving DecidableEq

/-- The name that tells the kind of a stat. -/
def Kind.name : Kind → Text
  | static => "static".toList
  | bar => "bar".toList
  | roll => "roll".toList

/-- The kinds of stats, in the order a message lists them. -/
def Kind.all : List Kind := [static, bar, roll]

/-- The kind of a stat that does not tell its type. -/
def impliedKind (entries : Entries) : Kind :=
  if Value.hasField "formula".toList entries then .roll
  else if Value.hasField "current".toList entries || Value.hasField "max".toList entries then .bar
  else .static

/-- The kind of a stat. -/
def kindOf (entries : Entries) : Except Fault Kind :=
  Definition.kindBy Kind.all Kind.name (impliedKind entries) entries

/-- A run of digits, perhaps with a minus sign before it, and the rest of the text. -/
def takeSigned? (t : Text) : Option ((Bool × Text) × Text) :=
  match t with
  | '-' :: rest => (Text.takeDigits? rest).map fun r => ((true, r.1), r.2)
  | _ => (Text.takeDigits? t).map fun r => ((false, r.1), r.2)

/-- The two halves of a bar written as current and greatest value with a slash between. -/
def splitBar? (t : Text) : Option ((Bool × Text) × (Bool × Text)) :=
  match takeSigned? (Text.trim t) with
  | some (current, rest) =>
    match Text.trimStart rest with
    | '/' :: rest =>
      match takeSigned? (Text.trimStart rest) with
      | some (maximum, []) => some (current, maximum)
      | _ => none
    | _ => none
  | none => none

/-- The integer with a sign and digits. -/
def readSigned (s : Bool × Text) : Except NumeralError Int :=
  (Number.read s.2).map fun n => if s.1 then -(n : Int) else n

/-- The fields of a bar, with a value such as `3/10` taken apart when there is no current value.
A greatest value that is given stays. -/
def spreadBar (entries : Entries) : Except NumeralError Entries :=
  match Value.field? "val".toList entries with
  | none => .ok entries
  | some v =>
    if Value.hasField "current".toList entries then .ok entries
    else do
      let spelled ← v.spell
      match splitBar? spelled with
      | none => return entries
      | some (current, maximum) => do
        let current ← readSigned current
        let maximum ← readSigned maximum
        let kept := entries.filter fun e => !e.1.sameKey (.text "val".toList)
        let kept := Value.insertEntry (.text "current".toList) (.int current) kept
        return if Value.hasField "max".toList kept then kept
          else Value.insertEntry (.text "max".toList) (.int maximum) kept

/-- The greatest value of a bar, under its short or its long name. Where it has neither, it is
missed under the short one. -/
def maximumField (entries : Entries) : Checked Int :=
  match Value.field? "max".toList entries, Value.field? "maximum".toList entries with
  | none, some v => v.asIntegerField.within "maximum".toList
  | _, _ => required "max".toList Value.asIntegerField entries

/-- The stat of a kind that the fields make up. -/
def ofEntries (kind : Kind) (entries : Entries) : Checked Stat :=
  match kind with
  | .static =>
    .both static (required "label".toList Value.asText entries)
      (optional "val".toList [] Value.asSpelling entries)
  | .roll =>
    .both roll (required "label".toList Value.asText entries)
      (required "formula".toList Value.asText entries)
  | .bar =>
    match spreadBar entries with
    | .error e => .fault (.refused e)
    | .ok entries =>
      .both (fun label numbers => bar label numbers.1 numbers.2)
        (required "label".toList Value.asText entries)
        (.both Prod.mk (required "current".toList Value.asIntegerField entries)
          (maximumField entries))

/-- Reads one stat. -/
def read (v : Value) : Checked Stat :=
  match v.head with
  | .map entries =>
    match kindOf entries with
    | .error f => .fault f
    | .ok kind => (ofEntries kind entries).within kind.name
  | _ => .fault .notMapping

/-- Reads the stats of an entity, the first of which has number `index`. -/
def readAllFrom (index : Nat) : List Value → Checked (List Stat)
  | [] => .value []
  | v :: vs =>
    .both List.cons ((read v).within (Number.writeNat index)) (readAllFrom (index + 1) vs)

end Stat

namespace Definition

open Value (Entries)

/-- The stats of an entity. -/
def readStats (v : Value) : Checked (List Stat) :=
  match v.head with
  | .null => .value []
  | .list items => Stat.readAllFrom 0 items
  | .set items => Stat.readAllFrom 0 items
  | .pair a b => Stat.readAllFrom 0 [a, b]
  | _ => .fault .notList

/-- The heading that lore leads to; nothing stands for none. -/
def readJump (v : Value) : Checked (Option Text) :=
  match v with
  | .null => .value none
  | v => v.asText.map some

/-- The kinds of definitions. -/
inductive Kind where
  | entity
  | lore
deriving DecidableEq

/-- The name that tells the kind of a definition. -/
def Kind.name : Kind → Text
  | entity => "entity".toList
  | lore => "lore".toList

/-- The kinds of definitions, in the order a message lists them. -/
def Kind.all : List Kind := [entity, lore]

/-- The kind of a definition that does not tell its type. -/
def impliedKind (entries : Entries) : Kind :=
  if Value.hasField "stats".toList entries then .entity else .lore

/-- The kind of a definition. -/
def kindOf (entries : Entries) : Except Fault Kind :=
  kindBy Kind.all Kind.name (impliedKind entries) entries

/-- The definition of a kind that the fields make up. -/
def ofEntries (kind : Kind) (entries : Entries) : Checked Definition :=
  match kind with
  | .entity => (optional "stats".toList [] readStats entries).map entity
  | .lore =>
    .both lore (optional "desc".toList [] Value.asText entries)
      (optional "jump".toList none readJump entries)

/-- Checks a mapping. -/
def checkEntries (entries : Entries) : Checked Definition :=
  match kindOf entries with
  | .error f => .fault f
  | .ok kind => (ofEntries kind entries).within kind.name

/-- Checks the value of a definition. -/
def check (v : Value) : Checked Definition :=
  match v.head with
  | .text t => .value (lore t none)
  | .broken codes => .value (lore (Text.ofCodePoints codes) none)
  | .map entries => checkEntries entries
  | _ => .fault .notMapping

/-- Reads a definition. -/
def read (v : Value) : Except DefinitionError Definition :=
  match check v with
  | .error e => .error (.numeral e)
  | .ok (.error ps) => .error (.problems ps)
  | .ok (.ok d) => .ok d

end Definition

end Gamebook
