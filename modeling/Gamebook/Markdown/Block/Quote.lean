import Gamebook.Markdown.Block.Basic
import Gamebook.Text.Blank

/-!
# Quotes

From the first line that opens with an angle bracket on, a paragraph is quoted. A
quote after a quote goes on with it.
-/

namespace Gamebook.Markdown

/-- A quoted line without its bracket. -/
def afterBracket? (line : Text) : Option Text :=
  match afterMargin? line with
  | some ('>' :: ' ' :: rest) => some rest
  | some ('>' :: rest) => some rest
  | _ => none

/-- A line inside of a quote, without its bracket if it has one. -/
def unquote (line : Text) : Text :=
  if Text.trim line == ['>'] then [] else (afterBracket? line).getD line

/-- A paragraph with a quote: what stands before it is read first. -/
def quoteRule : Rule := fun read setting paragraph others g =>
  match (linesOf paragraph).span fun line => (afterBracket? line).isNone with
  | (_, []) => none
  | (before, quoted) =>
    let g := read setting [ofLines before] g
    -- a quote on a later line begins with the end of the line before it
    let quoted := quoted.map unquote
    let text := ofLines (if before.isEmpty then quoted else [] :: quoted)
    match g.block.last?, g.block.endsWith ["blockquote"] with
    | some quote, true =>
      let (quote, g) := read.inside .free (paragraphs text) quote g
      some (others, g.map (·.setLast quote))
    | _, _ =>
      let (quote, g) := read.inside .free (paragraphs text) (Block.ofText "blockquote" []) g
      some (others, g.map (·.append quote))

end Gamebook.Markdown
