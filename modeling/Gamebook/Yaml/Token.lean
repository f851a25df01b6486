import Gamebook.Yaml.Fault

/-!
# Tokens of a block

A block is first cut into tokens. Besides the marks an author writes there are
tokens for the start and the end of a collection that is told by its indentation.
-/

namespace Gamebook.Yaml

/-- How a scalar was written. -/
inductive ScalarStyle where
  | plain
  | quoted
deriving DecidableEq

/-- What a directive says. -/
inductive Directive where
  | version (major minor : Nat)
  | tagHandle (handle start : Text)
  | reserved

/-- The kinds of tokens. -/
inductive TokenKind where
  | directive (d : Directive)
  | documentStart
  | documentEnd
  | streamEnd
  | blockSequenceStart
  | blockMappingStart
  | blockEnd
  | flowSequenceStart
  | flowMappingStart
  | flowSequenceEnd
  | flowMappingEnd
  | key
  | value
  | blockEntry
  | flowEntry
  | aliasMark (name : Text)
  | anchor (name : Text)
  | tag (handle : Option Text) (suffix : Text)
  /-- The contents are code points, since an escape may name one that is no character. -/
  | scalar (codes : List Nat) (style : ScalarStyle)

/-- A token, and where it begins and ends. -/
structure Token where
  kind : TokenKind
  start : Mark
  stop : Mark

/-- What a token is called in a message. -/
def TokenKind.name : TokenKind → Text
  | directive _ => "<directive>".toList
  | documentStart => "<document start>".toList
  | documentEnd => "<document end>".toList
  | streamEnd => "<stream end>".toList
  | blockSequenceStart => "<block sequence start>".toList
  | blockMappingStart => "<block mapping start>".toList
  | blockEnd => "<block end>".toList
  | flowSequenceStart => "[".toList
  | flowMappingStart => "\x7b".toList
  | flowSequenceEnd => "]".toList
  | flowMappingEnd => "\x7d".toList
  | key => "?".toList
  | value => ":".toList
  | blockEntry => "-".toList
  | flowEntry => ",".toList
  | aliasMark _ => "<alias>".toList
  | anchor _ => "<anchor>".toList
  | tag .. => "<tag>".toList
  | scalar .. => "<scalar>".toList

/-- The result of a step that reads a block. -/
abbrev Reading (α : Type) := Except Fault α

/-- A fault of the scanner at a place, while something that began at `began` was read. -/
def scanFault {α : Type} (what : Text) (began : Mark) (problem : Text) (mark : Mark) :
    Reading α :=
  .error (.placed ⟨.scanning, some (what, began), problem, mark⟩)

/-- A fault that names the character it found. -/
def unexpected {α : Type} (what : Text) (began : Mark) (expected : Text) (c : Cursor) :
    Reading α :=
  scanFault what began ("expected ".toList ++ expected ++ ", but found ".toList ++
    Text.quoted [c.peek]) c.mark

end Gamebook.Yaml
