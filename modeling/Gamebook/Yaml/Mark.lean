import Gamebook.Number.Decimal

/-!
# Places in a block

A mark is a place in the text of a definitions block. A message shows it with its
line, its column and the part of the line around it, with a caret under the place.
-/

namespace Gamebook.Yaml

/-- Whether a character breaks a line of a block. -/
def isBreak (c : Char) : Bool :=
  c == '\n' || c == '\r' || c == '\u0085' || c == '\u2028' || c == '\u2029'

/-- A place: the number of characters, of lines and of columns before it. -/
structure Mark where
  index : Nat
  line : Nat
  column : Nat
deriving DecidableEq

namespace Mark

/-- How many characters are shown on each side of a place. -/
def reach : Nat := 36

/-- What is shown of the characters that follow a place; five are given up for the dots. -/
def shownAfter (following : Text) : Text :=
  let line := following.takeWhile fun c => !isBreak c
  if line.length ≤ reach then line else line.take (reach - 4) ++ " ... ".toList

/-- What is shown of the characters before a place, nearest first, and the width it takes. -/
def shownBefore (preceding : Text) : Text :=
  let line := preceding.takeWhile fun c => !isBreak c
  if line.length ≤ reach then line.reverse else " ... ".toList ++ (line.take (reach - 4)).reverse

/-- The line around a place and, below, a caret under it. -/
def snippet (source : Text) (m : Mark) : Text :=
  let before := shownBefore (source.take m.index).reverse
  let indent := List.replicate 4 ' '
  indent ++ before ++ shownAfter (source.drop m.index) ++ ['\n'] ++ indent ++
    List.replicate before.length ' ' ++ ['^']

/-- The place as a message shows it. -/
def describe (source : Text) (m : Mark) : Text :=
  "  in \"<unicode string>\", line ".toList ++ Number.writeNat (m.line + 1) ++
    ", column ".toList ++ Number.writeNat (m.column + 1) ++ ":\n".toList ++ snippet source m

end Mark

/-- A place in a block together with the text from there on. -/
structure Cursor where
  rest : Text
  mark : Mark

namespace Cursor

/-- The start of a block. -/
def start (source : Text) : Cursor := ⟨source, ⟨0, 0, 0⟩⟩

/-- What stands at the end of every block. -/
def endMark : Char := '\x00'

/-- The character at the place. -/
def peek (c : Cursor) : Char := c.rest.headD endMark

/-- The character `n` places further on. -/
def peekAt (n : Nat) (c : Cursor) : Char := (c.rest.drop n).headD endMark

/-- The place after the next character. A byte order mark takes no column. -/
def next (c : Cursor) : Cursor :=
  match c.rest with
  | [] => c
  | x :: rest =>
    let ends := isBreak x && !(x == '\r' && rest.head? == some '\n')
    let m := c.mark
    if ends then ⟨rest, ⟨m.index + 1, m.line + 1, 0⟩⟩
    else if x == '\ufeff' then ⟨rest, ⟨m.index + 1, m.line, m.column⟩⟩
    else ⟨rest, ⟨m.index + 1, m.line, m.column + 1⟩⟩

/-- The place after `n` more characters. -/
def forward : Nat → Cursor → Cursor
  | 0, c => c
  | n + 1, c => forward n c.next

/-- The characters from the place on that pass the test, and the place after them. -/
def takeWhile (p : Char → Bool) (c : Cursor) : Text × Cursor :=
  let taken := c.rest.takeWhile p
  (taken, c.forward taken.length)

/-- The place after the characters that pass the test. -/
def skipWhile (p : Char → Bool) (c : Cursor) : Cursor := (c.takeWhile p).2

/-- The column of a place. -/
def column (c : Cursor) : Int := c.mark.column

/-- Whether a character is a line break or the end. -/
def isBreakOrEnd (x : Char) : Bool := isBreak x || x == endMark

/-- Whether a character is a space, a line break or the end. -/
def isSpaceOrEnd (x : Char) : Bool := x == ' ' || isBreakOrEnd x

/-- Whether a character is a space, a tab, a line break or the end. -/
def isBlankOrEnd (x : Char) : Bool := x == '\t' || isSpaceOrEnd x

/-- The line break at the place, if there is one, as it is kept, and the place after it. All breaks
but the two Unicode separators are kept as line feeds. -/
def lineBreak (c : Cursor) : Text × Cursor :=
  match c.rest with
  | '\r' :: '\n' :: _ => (['\n'], c.forward 2)
  | x :: _ =>
    if x == '\r' || x == '\n' || x == '\u0085' then (['\n'], c.next)
    else if isBreak x then ([x], c.next)
    else ([], c)
  | [] => ([], c)

/-- Whether a document marker stands at the place. -/
def atMarker (marker : Text) (c : Cursor) : Bool :=
  Text.startsWith marker c.rest && isBlankOrEnd (c.peekAt 3)

/-- Whether the start or the end of a document stands at the place. -/
def atDocumentMarker (c : Cursor) : Bool := c.atMarker "---".toList || c.atMarker "...".toList

end Cursor

end Gamebook.Yaml
