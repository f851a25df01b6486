import Gamebook.Markdown.Block.Read
import Gamebook.Markdown.Extension
import Gamebook.Markdown.Fence
import Gamebook.Markdown.Inline.Read
import Gamebook.Markdown.RawBlock
import Gamebook.Markdown.Written

/-!
# Rendering

A document is rendered in steps: its source gets one form; fenced code and raw HTML
are set aside; paragraphs become a tree of blocks; the texts in the tree are read; the
tree gets line feeds between its blocks, and is written.
-/

namespace Gamebook.Markdown

/-! ## Line feeds between blocks -/

/-- Whether an element stands on lines of its own. -/
def Element.isBlock (e : Element) : Bool := isBlockTag e.tag

/-- Whether a markup shows nothing. -/
def isBlankMarkup (m : Markup) : Bool := m.all Glyph.isBlank

/-- A line break between blocks. -/
def lineFeed : Markup := [.char '\n']

/-- Puts line feeds around the blocks in an element, but not into code. -/
def Element.spread : Nat → Element → Element
  | 0, e => e
  | fuel + 1, e =>
    let opened :=
      if e.isBlock && !(e.isNamed "code" || e.isNamed "pre") then
        { e with
          text := if isBlankMarkup e.text && e.children.head?.any isBlock then lineFeed else e.text
          children := e.children.map fun child =>
            if child.isBlock then spread fuel child else child }
      else e
    if isBlankMarkup e.tail then { opened with tail := lineFeed } else opened

/-- Ends the code of a code block with one line feed. -/
def endCode (children : List Element) : List Element :=
  match children with
  | code :: rest =>
    if code.isNamed "code" && code.children.isEmpty then
      { code with text := dropLastWhile Glyph.isBlank code.text ++ lineFeed } :: rest
    else children
  | [] => []

/-- Puts a line feed behind every line break, and ends code blocks with one. -/
def finishLines : List Element → List Element
  | [] => []
  | ⟨tag, attributes, text, literal, children, tail⟩ :: es =>
    let tail :=
      if tag == "br".toList then
        if isBlankMarkup tail then lineFeed else .char '\n' :: tail
      else tail
    let children := finishLines children
    let children := if tag == "pre".toList then endCode children else children
    ⟨tag, attributes, text, literal, children, tail⟩ :: finishLines es

/-! ## Documents -/

/-- Sets fenced code and raw HTML aside: the text with marks for them, and the pieces. -/
def setAside (features : Features) (source : Text) : Except NumeralError (Text × List Text) := do
  let (text, fenced) := if features.fences then Fence.setAside source else (source, [])
  let (text, raw) ← RawBlock.setAside fenced.length text
  return (text, fenced ++ raw.map (fillMarks fenced))

/-- Renders a document as a fragment of HTML. -/
def renderWith (features : Features) (document : Text) : Except NumeralError Text := do
  if document.all Text.isBlank then return []
  let (source, pieces) ← setAside features (normalize document)
  let grown := readBlocks (blockRules features.grids features.strictLists) source
  let escapes := if features.grids then escapable ++ ['|'] else escapable
  let rules := inlineRules grown.definitions pieces escapes features.lineBreaks
  let root := (Element.ofBlock pieces grown.block).readInside rules
  let root := root.spread (root.depth + 1)
  return Text.trim (writeElements (finishLines root.children))

/-- Why a document is not rendered. -/
inductive RenderError where
  | extension (e : ExtensionError)
  | numeral (e : NumeralError)

/-- The text of the error that ends a rendering. -/
def RenderError.message : RenderError → Text
  | extension e => e.message
  | numeral e => e.message

/-- Renders a document with some extensions. -/
def render (extensions : List Text) (document : Text) : Except RenderError Text := do
  let features ← (Features.ofNames extensions).mapError RenderError.extension
  (renderWith features document).mapError RenderError.numeral

end Gamebook.Markdown
