import Gamebook.Number.Decimal
import Gamebook.Text.Blank

/-!
# Dice formulas

A formula is a number of dice, the letter d, a number of sides and perhaps a
modifier: `2d6`, `1d20 - 1`. Digits may come from any script, blanks may surround
the formula and the sign of the modifier, and nothing else may stand in it.
-/

namespace Gamebook.Dice

/-- What a formula asks for: `count` dice with `sides` sides each and a number to add. -/
structure Formula where
  /-- The formula as it was written. -/
  written : Text
  count : Int
  sides : Int
  modifier : Int
deriving DecidableEq

/-- Why a text is no formula. -/
inductive FormulaError where
  | empty
  | malformed (written : Text)
  /-- The formula is well formed and its die has no side. -/
  | noSides (written : Text)
  | numeral (e : NumeralError)
deriving DecidableEq

/-- The text of the error for a formula, which shows it as it was written. -/
def FormulaError.message : FormulaError → Text
  | empty => "Empty dice formula".toList
  | malformed written => "Invalid dice formula: ".toList ++ written
  | noSides written => "Die must have at least one side: ".toList ++ written
  | numeral e => e.message

/-- The letter between the number of dice and the number of sides. -/
def isDieLetter (c : Char) : Bool := c == 'd' || c == 'D'

/-- The signs of a modifier. -/
def isSign (c : Char) : Bool := c == '+' || c == '-'

/-- A formula cut into its runs of digits; the modifier has its sign. -/
structure Parts where
  count : Text
  sides : Text
  modifier : Option (Char × Text)
deriving DecidableEq

namespace Parts

/-- The sign and digits that make up the whole of a text, blanks around the sign apart. -/
def readModifier? (t : Text) : Option (Char × Text) :=
  match Text.trimStart t with
  | sign :: rest =>
    if isSign sign then
      match Text.takeDigits? (Text.trimStart rest) with
      | some (ds, []) => some (sign, ds)
      | _ => none
    else none
  | [] => none

/-- The parts of a text that has the form of a formula and no blanks at its ends. -/
def read? (t : Text) : Option Parts :=
  match Text.takeDigits? t with
  | some (count, d :: rest) =>
    if isDieLetter d then
      match Text.takeDigits? rest with
      | some (sides, []) => some ⟨count, sides, none⟩
      | some (sides, rest) => (readModifier? rest).map fun m => ⟨count, sides, some m⟩
      | none => none
    else none
  | _ => none

/-- The number a modifier adds. -/
def modifierValue : Option (Char × Text) → Except NumeralError Int
  | none => .ok 0
  | some (sign, ds) => do
    let n ← Number.read ds
    return if sign = '-' then -(n : Int) else n

end Parts

/-- Reads a formula. -/
def Formula.read (written : Text) : Except FormulaError Formula :=
  let t := Text.trim written
  if t = [] then .error .empty
  else
    match Parts.read? t with
    | none => .error (.malformed written)
    | some parts =>
      match Number.read parts.count with
      | .error e => .error (.numeral e)
      | .ok count =>
        match Number.read parts.sides with
        | .error e => .error (.numeral e)
        | .ok sides =>
          if sides = 0 then .error (.noSides written)
          else
            match Parts.modifierValue parts.modifier with
            | .error e => .error (.numeral e)
            | .ok modifier => .ok ⟨written, count, sides, modifier⟩

end Gamebook.Dice
