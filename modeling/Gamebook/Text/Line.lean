import Gamebook.Text.Basic

/-!
# Lines

A text is cut into lines at every line boundary: line feed, carriage return, the
two together as one, the vertical controls, the record separators, next line and
the two Unicode separators. A boundary ends its line, so none at the end of the
text opens an empty last line.
-/

namespace Gamebook.Text

/-- Whether a character ends a line. -/
def isLineBreak (c : Char) : Bool :=
  let n := c.toNat
  (10 ≤ n && n ≤ 13) || (28 ≤ n && n ≤ 30) || n == 0x85 || n == 0x2028 || n == 0x2029

/-- Puts a character in front of the first line; `c` is no boundary. -/
def consToFirst (c : Char) : List Text → List Text
  | [] => [[c]]
  | line :: lines => (c :: line) :: lines

/-- The lines of a text, without their boundaries. -/
def lines : Text → List Text
  | [] => []
  | '\r' :: '\n' :: t => [] :: lines t
  | c :: t => if isLineBreak c then [] :: lines t else consToFirst c (lines t)

/-- Writes every carriage return, alone or before a line feed, as a line feed. -/
def unifyNewlines : Text → Text
  | [] => []
  | '\r' :: '\n' :: t => '\n' :: unifyNewlines t
  | c :: t => (if c = '\r' then '\n' else c) :: unifyNewlines t

end Gamebook.Text
