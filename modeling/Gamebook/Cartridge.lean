import Gamebook.Annotation.Enhance
import Gamebook.Document.Split
import Gamebook.Outline
import Gamebook.Settings.Basic
import Gamebook.Table.Reading

/-!
# Cartridges

A loaded cartridge has all that a reader needs: the narrative and its outline, the
glossary, the enhanced text and the tables in it that can be rolled. Definitions that
cannot be read cost themselves only, and are reported.
-/

namespace Gamebook

/-- A cartridge that was read, with what could not be read of it. -/
structure Cartridge where
  narrative : Text
  glossary : Glossary
  outline : List Heading
  html : Text
  tables : List RollTable
  decodeError : Option DecodeError
  entryErrors : List (Text × List Problem)

/-- Why a document is not loaded. -/
inductive LoadError where
  | decode (e : DecodeError)
  | enhance (e : EnhanceError)
  | html (e : Html.HtmlError)

/-- The text of the error that ends a load. -/
def LoadError.message : LoadError → Text
  | decode e => e.message
  | enhance e => e.message
  | html e => e.message

namespace Cartridge

/-- A cartridge of a glossary and tables alone. -/
def ofParts (glossary : Glossary) (tables : List RollTable) : Cartridge :=
  ⟨[], glossary, [], [], tables, none, []⟩

/-- The first table with an identifier. -/
def table? (c : Cartridge) (id : Text) : Option RollTable := c.tables.find? fun t => t.id == id

/-- Whether a term has a definition. -/
def defines (glossary : Glossary) (term : Text) : Bool := (entryOf? term glossary).isSome

/-- Loads a document. -/
def load (render : Renderer) (idStem document : Text) : Except LoadError Cartridge := do
  let split ← (Split.ofDocument document).mapError LoadError.decode
  let html ← (Gamebook.enhance render (defines split.glossary) idStem split.narrative).mapError
    LoadError.enhance
  let tables ← (Table.rollTablesOf html).mapError LoadError.html
  return ⟨split.narrative, split.glossary, Outline.ofNarrative split.narrative, html, tables,
    split.decodeError, split.entryErrors⟩

end Cartridge

/-- The rendering that settings ask for. -/
def Settings.render (s : Settings) : Renderer := Markdown.render s.extensions

end Gamebook
