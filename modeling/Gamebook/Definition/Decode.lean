import Gamebook.Definition.Reading
import Gamebook.Yaml.Load

/-!
# Decoding a definitions block

A definitions block is a mapping from terms to definitions. Every entry is read on
its own: one that does not fit is left out and reported under its term, and the
others stay. Terms are trimmed, and of several entries with one term the last one
counts.
-/

namespace Gamebook

/-- Why a block could not be decoded as a whole. -/
inductive DecodeError where
  /-- The text of the block cannot be read. -/
  | unreadable (block : Text) (f : Yaml.Fault)
  /-- The block holds something else than a mapping. -/
  | notMapping (kind : Text)
  /-- A number has to be written as text and is too long for it. -/
  | numeral (e : NumeralError)

/-- The text of the error that leaves a cartridge without its glossary. -/
def DecodeError.message : DecodeError → Text
  | unreadable block f => f.message block
  | notMapping kind => "Definitions block must be a mapping of terms, got ".toList ++ kind
  | numeral e => e.message

/-- The definitions of a block, and the problems of the entries that were left out. -/
structure Decoded where
  glossary : Glossary
  entryErrors : List (Text × List Problem)

namespace Decoded

/-- Nothing read and nothing refused. -/
def empty : Decoded := ⟨[], []⟩

/-- The term that a key stands for. -/
def termOf (key : Value) : Except NumeralError Text := (key.spell).map Text.trim

/-- Adds one entry of a block. -/
def addEntry (d : Decoded) (key raw : Value) : Except DecodeError Decoded :=
  match termOf key with
  | .error e => .error (.numeral e)
  | .ok term =>
    match Definition.read raw with
    | .ok definition => .ok { d with glossary := putEntry term definition d.glossary }
    | .error (.problems ps) => .ok { d with entryErrors := putEntry term ps d.entryErrors }
    | .error (.numeral e) => .error (.numeral e)

/-- Adds entries in their order. -/
def addEntries (d : Decoded) : Value.Entries → Except DecodeError Decoded
  | [] => .ok d
  | (key, raw) :: rest =>
    match d.addEntry key raw with
    | .ok d => addEntries d rest
    | .error e => .error e

/-- The definitions in the value of a block. -/
def ofValue (v : Value) : Except DecodeError Decoded :=
  match v.head with
  | .null => .ok empty
  | .map entries => empty.addEntries entries
  | _ => .error (.notMapping v.kindName)

end Decoded

/-- The definitions in the text of a block. -/
def Glossary.decode (block : Text) : Except DecodeError Decoded :=
  match Yaml.load block with
  | .error f => .error (.unreadable block f)
  | .ok v => Decoded.ofValue v

end Gamebook
