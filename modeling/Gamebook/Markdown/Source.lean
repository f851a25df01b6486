import Gamebook.Markdown.Mark
import Gamebook.Text.Line

/-!
# The source of a document

Before anything is read, a source gets one form: every line ends with a line feed,
tabs are spaces, a line of spaces is empty, and an empty line ends the document. The
characters that make marks are dropped.
-/

namespace Gamebook.Markdown

/-- The width of a step of indentation. -/
def tabWidth : Nat := 4

/-- A text with each tab written as spaces up to the next multiple of the width; `column` is the
place in the line. -/
def expandTabsFrom (column : Nat) : Text → Text
  | [] => []
  | c :: t =>
    if c == '\t' then
      let width := tabWidth - column % tabWidth
      List.replicate width ' ' ++ expandTabsFrom (column + width) t
    else if c == '\n' then c :: expandTabsFrom 0 t
    else c :: expandTabsFrom (column + 1) t

/-- Whether a line holds spaces only. -/
def isSpaces (t : Text) : Bool := t.all (· == ' ')

/-- Empties the lines of spaces after the first line. -/
def emptyBlankLines (t : Text) : Text :=
  match Text.splitOn '\n' t with
  | first :: rest =>
    Text.joinWith ['\n'] (first :: rest.map fun line => if isSpaces line then [] else line)
  | [] => []

/-- The one form of a source. -/
def normalize (source : Text) : Text :=
  let kept := source.filter fun c => c != markOpening && c != markClosing
  emptyBlankLines (expandTabsFrom 0 (Text.unifyNewlines kept ++ ['\n', '\n']))

end Gamebook.Markdown
