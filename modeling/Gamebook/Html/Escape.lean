import Gamebook.Text.Basic

/-!
# Escaped text

A text that goes into a fragment of HTML, between tags or between the quotes of an
attribute, has the five characters escaped that mean something there.
-/

namespace Gamebook.Html

/-- How a character is written in escaped text. -/
def escapeChar : Char → Text
  | '&' => "&amp;".toList
  | '<' => "&lt;".toList
  | '>' => "&gt;".toList
  | '"' => "&quot;".toList
  | '\'' => "&#x27;".toList
  | c => [c]

/-- A text with its special characters escaped. -/
def escape (t : Text) : Text := t.flatMap escapeChar

end Gamebook.Html
