import Gamebook.Text.Basic
import Gamebook.Text.Case

/-!
# Elements that stand apart

The elements that take lines of their own: raw HTML that opens with one of them is
kept out of the paragraphs, and the result is written with them on lines of their
own.
-/

namespace Gamebook.Markdown

/-- The names of the elements that stand apart from running text. -/
def blockTags : List Text :=
  ["address", "article", "aside", "blockquote", "details", "div", "dl", "fieldset", "figcaption",
    "figure", "footer", "form", "h1", "h2", "h3", "h4", "h5", "h6", "header", "hgroup", "hr",
    "main", "menu", "nav", "ol", "p", "pre", "section", "table", "ul", "canvas",
    "colgroup", "dd", "body", "dt", "group", "html", "iframe", "li", "legend", "math", "map",
    "noscript", "output", "object", "option", "progress", "script", "style", "summary", "tbody",
    "td", "textarea", "tfoot", "th", "thead", "tr", "video", "center"].map String.toList

/-- Whether an element stands apart; the slash of a name that ends with one does not count. -/
def isBlockTag (name : Text) : Bool :=
  blockTags.contains (Text.dropEndWhile (· == '/') (Text.lower name))

end Gamebook.Markdown
