import Gamebook.Markdown.Inline.Rule
import Gamebook.Markdown.Written

/-!
# Raw HTML in running text

Tags, comments, instructions, marked sections and character references in running
text reach the result as they are.
-/

namespace Gamebook.Markdown

/-- What follows a tag after its opening bracket. -/
def afterTag? (m : Markup) : Option Markup :=
  let inside := (Markup.after? ['/'] m).getD m
  let endsName (g : Glyph) : Bool := g.passes fun c => c == '<' || c == '>' || c == '@' || c == ' '
  match inside with
  | .char c :: _ =>
    if c.isAlpha then
      match inside.dropWhile fun g => !endsName g with
      | .char '>' :: rest => some rest
      | .char ' ' :: rest =>
        match rest.dropWhile fun g => !(g.isChar '<' || g.isChar '>') with
        | .char '>' :: rest => some rest
        | _ => none
      | _ => none
    else none
  | _ => none

/-- What follows the first `closing` in a text, if no `opening` stands before it. -/
def afterClosing? (opening closing : Text) : Markup → Option Markup
  | [] => none
  | g :: m =>
    match Markup.after? closing (g :: m) with
    | some rest => some rest
    | none =>
      if (Markup.after? opening (g :: m)).isSome then none else afterClosing? opening closing m

/-- What follows markup that opens and closes with certain words and is not nested; its opening
bracket is taken off. -/
def afterDelimited? (opening closing : String) (m : Markup) : Option Markup :=
  (Markup.after? opening.toList.tail m).bind (afterClosing? opening.toList closing.toList)

/-- What follows a piece of markup. -/
def afterMarkup? (m : Markup) : Option Markup :=
  (Markup.after? ['<'] m).bind fun inside =>
    [afterTag? inside, afterDelimited? "<!--" "-->" inside, afterDelimited? "<?" "?>" inside,
      afterDelimited? "<![CDATA[" "]]>" inside].findSome? id

/-- A sign as it goes into a tag. -/
def Sign.source : Sign → Text
  | .plain c => [c]
  | .escaped c => [c]
  | .ampersand => ['&']
  | .raw html => html

/-- What a glyph is as HTML: what was put aside has a backslash in front, and elements have their
tags. -/
def Glyph.source : Glyph → Text
  | .sign s => s.source
  | .aside signs => '\\' :: signs.flatMap Sign.source
  | .node e => e.write

/-- Raw HTML up to a rest. -/
def rawUpTo (m rest : Markup) : Finding :=
  let html := (m.take (m.length - rest.length)).flatMap Glyph.source
  replaceUpTo m rest [.aside [.raw html]]

/-- Markup in running text. -/
def rawTagRule : InlineRule := fun _ m => (afterMarkup? m).map (rawUpTo m)

/-- What follows some glyphs that pass the test and a semicolon. -/
def afterClosed? (p : Char → Bool) (m : Markup) : Option Markup :=
  match m.span fun g => g.passes p with
  | (_ :: _, .char ';' :: rest) => some rest
  | _ => none

/-- What follows a character reference. -/
def afterReference? (m : Markup) : Option Markup :=
  (Markup.after? ['&'] m).bind fun inside =>
    match Markup.after? ['#', 'x'] inside, Markup.after? ['#'] inside with
    | some digits, _ => afterClosed? Text.isHexDigit digits
    | none, some digits => afterClosed? Char.isDigit digits
    | none, none => afterClosed? Char.isAlphanum inside

/-- A character reference in running text. -/
def referenceRule : InlineRule := fun _ m => (afterReference? m).map (rawUpTo m)

end Gamebook.Markdown
