import Gamebook.Dice.Formula

/-!
# The die of a table

A table is rolled with the die that its header names: the first letter d that stands
after no Latin letter and before a digit.
-/

namespace Gamebook.Table

/-- A letter of the plain alphabet. -/
def isLatinLetter (c : Char) : Bool := ('a' ≤ c && c ≤ 'z') || ('A' ≤ c && c ≤ 'Z')

/-- The digits of the first die named in a text that follows the character `before`. -/
def dieDigitsAfter (before : Option Char) : Text → Option Text
  | [] => none
  | c :: t =>
    if Dice.isDieLetter c && !(before.map isLatinLetter).getD false then
      match Text.takeDigits? t with
      | some (ds, _) => some ds
      | none => dieDigitsAfter (some c) t
    else dieDigitsAfter (some c) t

/-- The digits of the first die named in a text. -/
def dieDigits? (t : Text) : Option Text := dieDigitsAfter none t

/-- The size of the first die named in a text. -/
def dieSize? (t : Text) : Except NumeralError (Option Nat) :=
  match dieDigits? t with
  | none => .ok none
  | some ds => (Number.read ds).map some

end Gamebook.Table
