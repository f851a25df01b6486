import Gamebook.Text.Digit

/-!
# Marks for raw pieces

A piece of HTML that is to reach the result unchanged is set aside while the text
around it is read. A mark stands for it: a word and the number of the piece between
two control characters. The text of a source has neither of them, so no author can
write a mark.
-/

namespace Gamebook.Markdown

/-- The character that opens a mark. -/
def markOpening : Char := '\x02'

/-- The character that closes a mark. -/
def markClosing : Char := '\x03'

/-- What stands in a mark before the number: a word of no language. -/
def markWord : Text := "wzxhzdk:".toList

/-- The mark of the piece with a number. -/
def mark (number : Nat) : Text :=
  markOpening :: (markWord ++ Nat.toDigits 10 number ++ [markClosing])

/-- The mark at the start of a text: its number, and what follows it. -/
def takeMark? (t : Text) : Option (Nat × Text) :=
  match Text.after? (markOpening :: markWord) t with
  | some rest =>
    match rest.span (· != markClosing) with
    | (digits, _ :: after) => some (Text.digitsValue digits, after)
    | (_, []) => none
  | none => none

/-- A text with the pieces put in for their marks, of which `skip` more characters belong to the
last mark. -/
def fillMarksFrom (pieces : List Text) : Nat → Text → Text
  | _, [] => []
  | skip + 1, _ :: t => fillMarksFrom pieces skip t
  | 0, c :: t =>
    match takeMark? (c :: t) with
    | some (number, after) =>
      pieces.getD number [] ++ fillMarksFrom pieces (t.length - after.length) t
    | none => c :: fillMarksFrom pieces 0 t

/-- A text with the pieces put in for their marks. -/
def fillMarks (pieces : List Text) (t : Text) : Text := fillMarksFrom pieces 0 t

end Gamebook.Markdown
