import Gamebook.Markdown.Escape
import Gamebook.Markdown.Inline.Rule

/-!
# Code in running text, and escapes

Code stands between two runs of as many backticks. A backslash before a character
that may be markup makes it text, and backslashes come in pairs before code.
-/

namespace Gamebook.Markdown

/-- The character that encloses code. -/
def backtick : Char := '\x60'

/-- The number of a character's occurrences at the start of a text. -/
def runLength (c : Char) (m : Markup) : Nat := (m.takeWhile fun g => g.isChar c).length

/-- Running text as code. -/
def escapeCodeMarkup (m : Markup) : Markup :=
  m.flatMap fun
    | .char c => Markup.ofText (escapeCodeChar c)
    | g => [g]

/-- Text as an element of code. -/
def codeElement (m : Markup) : Element :=
  { Element.ofMarkup "code" (escapeCodeMarkup (stripWhile Glyph.isBlank m)) with literal := true }

/-- What follows a closing run of so many backticks, which are not part of a longer run. -/
def afterTicks? (size : Nat) (before : Option Glyph) (m : Markup) : Option Markup :=
  if before.any (·.isChar backtick) || runLength backtick m != size then none
  else some (m.drop size)

/-- Code that opens with at most so many backticks, the most of them that something closes. -/
def takeCode? (m : Markup) : Nat → Option (Markup × Markup)
  | 0 => none
  | size + 1 =>
    match takeFewest? (afterTicks? (size + 1)) 1 none (m.drop (size + 1)) with
    | some found => some found
    | none => takeCode? m size

/-- Code, or pairs of backslashes before it. -/
def codeSpanRule : InlineRule := fun before m =>
  if before.any (·.isChar '\\') then none
  else
    let slashes := runLength '\\' m
    if 0 < slashes then
      if slashes % 2 == 0 && (m.drop slashes).head?.any (·.isChar backtick) then
        some (.replace slashes [.aside (List.replicate (slashes / 2) (.escaped '\\'))])
      else none
    else
      (takeCode? m (runLength backtick m)).map fun (code, rest) =>
        replaceUpTo m rest [.node (codeElement code)]

/-- The characters that a backslash escapes. -/
def escapable : List Char :=
  ['\\', '\x60', '*', '_', '\x7b', '\x7d', '[', ']', '(', ')', '>', '#', '+', '-', '.', '!']

/-- A backslash and the character after it. -/
def escapeRule (characters : List Char) : InlineRule := fun _ m =>
  match m with
  | .char '\\' :: .char c :: _ =>
    if characters.contains c then some (.replace 2 [.aside [.escaped c]]) else some (.pass 2)
  | .char '\\' :: _ :: _ => some (.pass 2)
  | _ => none

end Gamebook.Markdown
