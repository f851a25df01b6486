import Gamebook.Definition.Decode
import Gamebook.Text.Blank

/-!
# Splitting a cartridge

A cartridge is a narrative with at most one definitions block in it: the first fence
that opens with the word definitions at the end of its line and is closed later. The
narrative is what stands before and after the block. A block that cannot be decoded
costs its definitions and nothing else.
-/

namespace Gamebook

namespace Document

/-- The fence around a block. -/
def fence : Text := "```".toList

/-- What opens a definitions block. -/
def opening : Text := "```definitions".toList

/-- The characters of the line breaks behind the opening. -/
def isNewline (c : Char) : Bool := c == '\r' || c == '\n'

/-- A document cut at its definitions block. -/
structure Cut where
  before : Text
  /-- The line breaks after the opening. -/
  breaks : Text
  body : Text
  after : Text

/-- The cut of a text that begins with a definitions block. -/
def cutHere? (t : Text) : Option Cut :=
  match Text.after? opening t with
  | none => none
  | some rest =>
    match rest.span isNewline with
    | ([], _) => none
    | (breaks, rest) =>
      (Text.cutAt? fence rest).map fun r => ⟨[], breaks, r.1, r.2⟩

/-- The cut of a document at its first definitions block. -/
def cut? : Text → Option Cut
  | [] => none
  | c :: t =>
    match cutHere? (c :: t) with
    | some cut => some cut
    | none => (cut? t).map fun cut => { cut with before := c :: cut.before }

end Document

/-- A cartridge with its definitions apart from its narrative. -/
structure Split where
  narrative : Text
  glossary : Glossary
  decodeError : Option DecodeError
  entryErrors : List (Text × List Problem)

namespace Yaml.Fault

/-- Whether a fault only costs the definitions. Faults of a scalar whose tag promised another kind
of contents end the reading of the whole document. -/
def isContained : Fault → Bool
  | unacceptable .. | placed _ | numeral _ | notInteger .. | notFloat _ | calendar _
  | notCharacter => true
  | emptyNumber | notTruthValue _ | notTimestamp | timestampOfMapping | oversizedCharacter
  | oversizedFloat => false

end Yaml.Fault

/-- Whether a failure only costs the definitions. -/
def DecodeError.isContained : DecodeError → Bool
  | unreadable _ f => f.isContained
  | notMapping _ => true
  | numeral _ => true

/-- Splits a document into its narrative and its definitions. -/
def Split.ofDocument (document : Text) : Except DecodeError Split :=
  match Document.cut? document with
  | none => .ok ⟨Text.trim document, [], none, []⟩
  | some cut =>
    let narrative := Text.trim (cut.before ++ cut.after)
    match Glossary.decode cut.body with
    | .ok d => .ok ⟨narrative, d.glossary, none, d.entryErrors⟩
    | .error e => if e.isContained then .ok ⟨narrative, [], some e, []⟩ else .error e

end Gamebook
