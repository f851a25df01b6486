import Gamebook.Markdown.Block.Code
import Gamebook.Markdown.Block.Grid
import Gamebook.Markdown.Block.Heading
import Gamebook.Markdown.Block.ListItem
import Gamebook.Markdown.Block.Paragraph
import Gamebook.Markdown.Block.Quote

/-!
# Reading blocks

The rules for paragraphs have an order: the first one that is for a paragraph reads
it. What a rule leaves of a paragraph is read like a paragraph of its own.
-/

namespace Gamebook.Markdown

/-- The rules for paragraphs, in their order. -/
def blockRules (grids strictLists : Bool) : List Rule :=
  [emptyRule, indentRule, codeRule] ++ (if grids then [gridRule] else []) ++
    [headingRule, underlineRule, pageRule, listRule ⟨true, strictLists⟩,
      listRule ⟨false, strictLists⟩, quoteRule, definitionRule, paragraphRule]

/-- Reads paragraphs by rules, one after the other. -/
def readParagraphs (rules : List Rule) : Nat → Reading
  | 0, _, _, g => g
  | _ + 1, _, [], g => g
  | fuel + 1, setting, paragraph :: others, g =>
    let read := readParagraphs rules fuel
    match rules.findSome? fun rule => rule read setting paragraph others g with
    | some (left, g) => readParagraphs rules fuel setting left g
    | none => g

/-- The blocks of a source and the definitions in it. A rule takes a character or a level of
nesting away, which bounds how often rules are applied. -/
def readBlocks (rules : List Rule) (source : Text) : Growth :=
  readParagraphs rules (3 * source.length + 16) .free (paragraphs source)
    ⟨Block.ofText "div" [], []⟩

end Gamebook.Markdown
