import Gamebook.Dice.Formula
import Gamebook.Text.Scan
import Gamebook.Text.Word

/-!
# Formulas mentioned in prose

In running text a formula has no blanks. It begins where a word begins, so the end
of `x1d6` is none, and it may run into letters, so `2d4hp` holds `2d4`. Every run of
digits is taken to its end.
-/

namespace Gamebook.Dice

/-- A sign and the digits after it, if both follow. -/
def takeModifier (t : Text) : Text × Text :=
  match t with
  | sign :: rest =>
    if isSign sign then
      match Text.takeDigits? rest with
      | some (ds, rest) => (sign :: ds, rest)
      | none => ([], t)
    else ([], t)
  | [] => ([], [])

/-- The formula at the start of a text, and what follows it. -/
def takeMention? (t : Text) : Option (Text × Text) :=
  match Text.takeDigits? t with
  | some (count, d :: rest) =>
    if isDieLetter d then
      match Text.takeDigits? rest with
      | some (sides, rest) =>
        let (modifier, rest) := takeModifier rest
        some (count ++ d :: sides ++ modifier, rest)
      | none => none
    else none
  | _ => none

/-- Recognises a formula where a word begins. -/
def mention : Text.Recogniser Text := fun before t =>
  if (before.map Text.isWord).getD false then none
  else (takeMention? t).map fun r => (r.1, r.1.length)

/-- The text cut at the formulas it mentions. -/
def mentionPieces (t : Text) : List (Text.Piece Text) := Text.scan mention t

/-- The formulas that a text mentions, in order. -/
def mentions (t : Text) : List Text := Text.Piece.findings (mentionPieces t)

end Gamebook.Dice
