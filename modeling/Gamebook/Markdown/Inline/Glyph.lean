import Gamebook.Markdown.Block.Basic
import Gamebook.Markdown.Mark
import Gamebook.Text.Blank

/-!
# Running text

Inside of a block, text and elements stand side by side. While the text is read, each
element that was found stands in it as a single sign, so that the rules see across
elements but not into them. Characters that a rule has dealt with are signs of their
own too: no later rule takes them for markup.
-/

namespace Gamebook.Markdown

/-- A sign of the result. -/
inductive Sign where
  | plain (c : Char)
  /-- A character that a backslash keeps from being markup. -/
  | escaped (c : Char)
  /-- An ampersand that begins a character reference. -/
  | ampersand
  /-- A piece of HTML that is written as it is. -/
  | raw (html : Text)

mutual

/-- A part of running text that is still read. -/
inductive Glyph where
  | sign (s : Sign)
  /-- Signs that are put aside until the rules are through. -/
  | aside (signs : List Sign)
  | node (e : Element)

/-- An element of the result. Its text stands before its children, its tail behind itself. -/
structure Element where
  tag : Text
  attributes : List (Text × List Sign)
  text : List Glyph
  /-- Whether the text is finished. -/
  literal : Bool
  children : List Element
  tail : List Glyph

end

/-- A character that may be markup. -/
@[match_pattern]
abbrev Glyph.char (c : Char) : Glyph := .sign (.plain c)

/-- Running text. -/
abbrev Markup := List Glyph

namespace Markup

/-- The markup of a text in which nothing was read yet. -/
def ofText (t : Text) : Markup := t.map Glyph.char

/-- The signs of a text in which the pieces are put in for their marks, of which `skip` more
characters belong to the last mark. -/
def signsFrom (pieces : List Text) : Nat → Text → List Sign
  | _, [] => []
  | skip + 1, _ :: t => signsFrom pieces skip t
  | 0, c :: t =>
    match takeMark? (c :: t) with
    | some (number, after) =>
      match pieces[number]? with
      | some html => .raw html :: signsFrom pieces (t.length - after.length) t
      | none => .plain c :: signsFrom pieces 0 t
    | none => .plain c :: signsFrom pieces 0 t

/-- The signs of a text in which the pieces are put in for their marks. -/
def signsOf (pieces : List Text) (t : Text) : List Sign := signsFrom pieces 0 t

end Markup

namespace Glyph

/-- Whether a glyph is a character. -/
def isChar (c : Char) : Glyph → Bool
  | char x => x == c
  | _ => false

/-- Whether a glyph is a character that passes the test. -/
def passes (p : Char → Bool) : Glyph → Bool
  | char x => p x
  | _ => false

/-- Whether a glyph is a blank. -/
def isBlank (g : Glyph) : Bool := g.passes Text.isBlank

end Glyph

namespace Sign

/-- Whether a sign is a character that nothing escapes. -/
def isChar (c : Char) : Sign → Bool
  | plain x => x == c
  | _ => false

/-- Whether a sign is a blank. -/
def isBlank : Sign → Bool
  | plain c => Text.isBlank c
  | _ => false

end Sign

/-- Drops the entries at the end of a list that pass the test. -/
def dropLastWhile {α : Type} (p : α → Bool) (xs : List α) : List α :=
  (xs.reverse.dropWhile p).reverse

/-- Drops the entries at both ends of a list that pass the test. -/
def stripWhile {α : Type} (p : α → Bool) (xs : List α) : List α :=
  dropLastWhile p (xs.dropWhile p)

/-! ## The text of an element -/

mutual

/-- What a glyph says, elements by their text. -/
def Glyph.signs : Glyph → List Sign
  | .sign s => [s]
  | .aside signs => signs
  | .node e => e.signs

/-- The text of an element with the text of its children. -/
def Element.signs : Element → List Sign
  | ⟨_, _, text, _, children, _⟩ => signsOfGlyphs text ++ signsOfChildren children

/-- The signs of glyphs, in their order. -/
def signsOfGlyphs : List Glyph → List Sign
  | [] => []
  | g :: gs => g.signs ++ signsOfGlyphs gs

/-- The signs of elements in a row, each with the text behind it. -/
def signsOfChildren : List Element → List Sign
  | [] => []
  | ⟨_, _, text, _, children, tail⟩ :: es =>
    signsOfGlyphs text ++ signsOfChildren children ++ signsOfGlyphs tail ++ signsOfChildren es

end

/-- What running text says. -/
def Markup.signs (m : Markup) : List Sign := signsOfGlyphs m

/-- The characters of running text, if it has nothing else. -/
def Markup.text? : Markup → Option Text
  | [] => some []
  | .char c :: rest => (text? rest).map (c :: ·)
  | _ :: _ => none

namespace Element

/-- An element with nothing in it but text. -/
def ofMarkup (tag : String) (text : Markup) : Element := ⟨tag.toList, [], text, false, [], []⟩

/-- Whether an element has a tag. -/
def isNamed (name : String) (e : Element) : Bool := e.tag == name.toList

end Element

/-! ## Blocks as elements -/

mutual

/-- A block whose text is to be read, with the pieces put in for their marks. -/
def Element.ofBlock (pieces : List Text) : Block → Element
  | ⟨tag, attributes, text, literal, children, tail⟩ =>
    ⟨tag, attributes.map fun a => (a.1, Markup.signsOf pieces a.2),
      (Markup.signsOf pieces text).map Glyph.sign, literal, ofBlocks pieces children,
      (Markup.signsOf pieces tail).map Glyph.sign⟩

/-- The elements of blocks in a row. -/
def Element.ofBlocks (pieces : List Text) : List Block → List Element
  | [] => []
  | b :: bs => ofBlock pieces b :: ofBlocks pieces bs

end

end Gamebook.Markdown
