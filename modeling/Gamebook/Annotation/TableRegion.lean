import Gamebook.Html.Escape
import Gamebook.Number.Decimal
import Gamebook.Text.Blank
import Gamebook.Text.Scan

/-!
# Tables in the rendered text

What the marks around a table enclose after rendering becomes a container with a
button that rolls the table's die. A region reaches from an opening mark to the next
closing one, and takes in the paragraph tags that the rendering put around the marks.
-/

namespace Gamebook.TableRegion

/-- A region: the digits of its die and what stands between the marks. -/
structure Region where
  die : Text
  content : Text
deriving DecidableEq

/-- What opens a region, up to the digits of its die. -/
def opening : Text := "\x7b\x7bROLLTABLE::d".toList
/-- What follows the digits of the die. -/
def openingEnd : Text := "\x7d\x7d".toList
/-- What closes a region. -/
def closing : Text := "\x7b\x7b/ROLLTABLE\x7d\x7d".toList
/-- The tag that a renderer may put in front of a mark. -/
def paragraph : Text := "<p>".toList
/-- The tag that a renderer may put behind a mark. -/
def paragraphEnd : Text := "</p>".toList

/-- What follows a word that may stand at the start of the text. -/
def dropOptional (word t : Text) : Text := (Text.after? word t).getD t

/-- The text without a word that may stand at its end. -/
def dropOptionalEnd (word t : Text) : Text :=
  if t.drop (t.length - word.length) = word then t.take (t.length - word.length) else t

/-- The region at the start of a text, and what follows it. -/
def take? (t : Text) : Option (Region × Text) := do
  let rest ← Text.after? opening (dropOptional paragraph t)
  let (die, rest) ← Text.takeDigits? rest
  let rest ← Text.after? openingEnd rest
  let (content, rest) ← Text.cutAt? closing (dropOptional paragraphEnd rest)
  return (⟨die, dropOptionalEnd paragraph content⟩, dropOptional paragraphEnd rest)

/-- A region, wherever it begins: what stands before a place does not count. -/
def recognise : Text.Recogniser Region := fun _ t =>
  (take? t).map fun r => (r.1, t.length - r.2.length)

/-- The container of the table with an identifier. -/
def container (id : Text) (r : Region) : Text :=
  "<div class=\"rollable-table-container\" data-table-id=\"".toList ++ id ++ "\">\n".toList ++
    "<button class=\"roll-table-button\" data-dice=\"d".toList ++ r.die ++
    "\" data-table-id=\"".toList ++ id ++ "\">Roll Table (d".toList ++ r.die ++
    ")</button>\n".toList ++
    "<div class=\"rollable-table\" data-table-id=\"".toList ++ id ++ "\">\n".toList ++
    Text.trim r.content ++ "\n</div>\n</div>".toList

/-- The identifier of the k-th table. -/
def tableId (idStem : Text) (k : Nat) : Text := Html.escape idStem ++ '-' :: Number.writeNat k

/-- A rendered text with containers for its regions, numbered from one. -/
def materialize (rendered idStem : Text) : Text :=
  Text.Piece.renderFrom (fun k r => container (tableId idStem k) r) 1
    (Text.scan recognise rendered)

end Gamebook.TableRegion
