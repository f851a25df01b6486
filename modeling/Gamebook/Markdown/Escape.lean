import Gamebook.Text.Digit

/-!
# Escapes in the written result

Text and the values of attributes are escaped as little as HTML allows. An ampersand
that begins a character reference is left as it is, so that authors may write
references; in code it is not, since code means what it says.
-/

namespace Gamebook.Markdown

/-- Whether a character is taken for one of the letters of a class without regard to case: the
dotless and dotted i, the long s and the sign of the kelvin are taken for letters. -/
def isLooseLetter (c : Char) : Bool :=
  c.isAlpha || c == '\u0130' || c == '\u0131' || c == '\u017f' || c == '\u212a'

/-- Whether a run of characters of a class follows, and then a semicolon. -/
def closesReference (p : Char → Bool) (t : Text) : Bool :=
  match t.span p with
  | (_ :: _, ';' :: _) => true
  | _ => false

/-- Whether the text after an ampersand makes it a character reference. -/
def beginsReference (t : Text) : Bool :=
  match t with
  | '#' :: x :: rest =>
    if x == 'x' || x == 'X' then closesReference Text.isHexDigit rest
    else closesReference Char.isDigit (x :: rest)
  | _ => closesReference (fun c => c.isDigit || isLooseLetter c) t

/-- Text as it is written between tags. -/
def escapeText : Text → Text
  | [] => []
  | '&' :: t => (if beginsReference t then ['&'] else "&amp;".toList) ++ escapeText t
  | '<' :: t => "&lt;".toList ++ escapeText t
  | '>' :: t => "&gt;".toList ++ escapeText t
  | c :: t => c :: escapeText t

/-- Text as it is written between the quotes of an attribute. -/
def escapeAttribute (t : Text) : Text := Text.replaceAll ['"'] "&quot;".toList (escapeText t)

/-- How a character of code is written. -/
def escapeCodeChar : Char → Text
  | '&' => "&amp;".toList
  | '<' => "&lt;".toList
  | '>' => "&gt;".toList
  | c => [c]

/-- Code as it is written between tags. -/
def escapeCode (t : Text) : Text := t.flatMap escapeCodeChar

end Gamebook.Markdown
