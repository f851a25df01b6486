import Gamebook.Markdown.Source

/-!
# Blocks

A document is a tree of blocks. Its source is cut into paragraphs at empty lines, and
one after the other is read into a block that is still growing: it may become a child
of that block, or belong to the last child. A rule says what one kind of paragraph
becomes; it may leave part of the paragraph for the rules to come.

Rules that read nested text are given the reading itself as an argument. So each rule
is a plain function, and only the loop over all of them is recursive.
-/

namespace Gamebook.Markdown

/-- An element with its text, its children and the text that follows it. -/
structure Block where
  tag : Text
  attributes : List (Text × Text)
  text : Text
  /-- Whether the text means what it says, and is no markup. -/
  literal : Bool
  children : List Block
  tail : Text

namespace Block

/-- An element with nothing in it but text. -/
def ofText (tag : String) (text : Text) : Block := ⟨tag.toList, [], text, false, [], []⟩

/-- Whether an element has one of the names. -/
def isNamed (names : List String) (b : Block) : Bool := names.any fun n => b.tag == n.toList

/-- The last child of a block. -/
def last? (b : Block) : Option Block := b.children.getLast?

/-- Whether the last child has one of the names. -/
def endsWith (names : List String) (b : Block) : Bool :=
  match b.last? with
  | some child => child.isNamed names
  | none => false

/-- A block with one more child, behind the others. -/
def append (b child : Block) : Block := { b with children := b.children ++ [child] }

/-- Puts another block in the place of the last child. -/
def setLast (b child : Block) : Block :=
  { b with children := b.children.dropLast ++ [child] }

/-- Moves the text of an element into a paragraph before its children. -/
def wrapText (b : Block) : Block :=
  if b.text.isEmpty then b else { b with text := [], children := ofText "p" b.text :: b.children }

end Block

/-- Where the link of a definition leads, and its title; an empty title is none. -/
structure LinkDefinition where
  address : Text
  title : Text

/-- What a document defines: the names of links, the latest first. -/
abbrev LinkDefinitions := List (Text × LinkDefinition)

/-- What the place of a paragraph says about it. -/
inductive Setting where
  | free
  /-- Inside of an item whose list has no empty lines. -/
  | tightItem
  /-- Inside of an item that follows an empty line. -/
  | looseItem
  /-- Inside of an item, after its indentation was taken off. -/
  | outdented
deriving DecidableEq

/-- A block that grows, and what has been defined so far. -/
structure Growth where
  block : Block
  definitions : LinkDefinitions

namespace Growth

/-- Lets the block be changed. -/
def map (f : Block → Block) (g : Growth) : Growth := { g with block := f g.block }

end Growth

/-- Reads paragraphs into a growing block. -/
abbrev Reading := Setting → List Text → Growth → Growth

/-- Reads paragraphs into a block inside of the growing one. -/
def Reading.inside (read : Reading) (setting : Setting) (paragraphs : List Text) (child : Block)
    (g : Growth) : Block × Growth :=
  let grown := read setting paragraphs ⟨child, g.definitions⟩
  (grown.block, { g with definitions := grown.definitions })

/-- What a paragraph becomes: the paragraphs that are left, and the grown block; nothing if the
rule is not for the paragraph. -/
abbrev Rule := Reading → Setting → Text → List Text → Growth → Option (List Text × Growth)

/-- The paragraphs of a text. -/
def paragraphs : Text → List Text
  | [] => [[]]
  | '\n' :: '\n' :: t => [] :: paragraphs t
  | c :: t => Text.consToFirst c (paragraphs t)

/-- The lines of a block's text, without the line feeds. -/
def linesOf (t : Text) : List Text := Text.splitOn '\n' t

/-- The text of lines, with line feeds between them. -/
def ofLines (lines : List Text) : Text := Text.joinWith ['\n'] lines

/-- What follows so many spaces at the start of a text. -/
def afterSpaces? (count : Nat) (t : Text) : Option Text :=
  Text.after? (List.replicate count ' ') t

/-- Whether a text is indented by a step. -/
def isIndented (t : Text) : Bool := (afterSpaces? tabWidth t).isSome

/-- A text whose lines have lost so many steps of indentation, those that have them. -/
def outdent (steps : Nat) (t : Text) : Text :=
  ofLines ((linesOf t).map fun line => (afterSpaces? (steps * tabWidth) line).getD line)

/-- What follows at most three spaces, which are no indentation. -/
def afterMargin? (t : Text) : Option Text :=
  let spaces := t.takeWhile (· == ' ')
  if spaces.length < tabWidth then some (t.drop spaces.length) else none

/-- The paragraphs that are left when a text remains of one. -/
def leave (rest : Text) (others : List Text) : List Text :=
  if rest.isEmpty then others else rest :: others

end Gamebook.Markdown
