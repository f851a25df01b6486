import Gamebook.Text.Blank
import Gamebook.Text.Case
import Gamebook.Text.Line

/-!
# The outline of a narrative

The headings of the three upper levels, each with an identifier that a jump can
name. A heading is a line of one to three number signs, a blank and some text.
-/

namespace Gamebook

/-- A heading, and the identifier its place in the page has. -/
structure Heading where
  /-- One to three. -/
  level : Nat
  text : Text
  id : Text
deriving DecidableEq

namespace Outline

/-- The characters an identifier keeps. -/
def isSlugChar (c : Char) : Bool := ('a' ≤ c && c ≤ 'z') || ('0' ≤ c && c ≤ '9')

/-- Keeps slug characters and writes one hyphen for each run of others; `inRun` tells that a
hyphen was written for the run the text begins in. -/
def collapse (inRun : Bool) : Text → Text
  | [] => []
  | c :: t =>
    if isSlugChar c then c :: collapse false t
    else if inRun then collapse true t
    else '-' :: collapse true t

/-- The identifier of a heading: its text in lower case, with a hyphen for each run of characters
that are no Latin letters or digits. -/
def slug (t : Text) : Text := collapse false (Text.lower t)

/-- The heading that a line is. -/
def heading? (line : Text) : Option Heading :=
  let hashes := line.takeWhile (· == '#')
  match line.dropWhile (· == '#') with
  | c :: rest =>
    let text := Text.trim rest
    if 1 ≤ hashes.length && hashes.length ≤ 3 && Text.isBlank c && text ≠ [] then
      some ⟨hashes.length, text, slug text⟩
    else none
  | [] => none

/-- The headings of a narrative, in order. -/
def ofNarrative (narrative : Text) : List Heading := (Text.lines narrative).filterMap heading?

end Outline

end Gamebook
