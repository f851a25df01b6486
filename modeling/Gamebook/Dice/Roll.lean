import Gamebook.Dice.Formula

/-!
# Rolling dice

Numbers come from a source that hands out a fixed list in order and keeps the bounds
it was asked for. A source that is used up answers with the lower bound.
-/

namespace Gamebook.Dice

/-- A source of numbers: those still to come, and the bounds asked for so far, oldest first. -/
structure Source where
  upcoming : List Int
  asked : List (Int × Int)
deriving DecidableEq

namespace Source

/-- A source that hands out the given numbers. -/
def ofList (numbers : List Int) : Source := ⟨numbers, []⟩

/-- Asks for one number between `low` and `high`. -/
def draw (low high : Int) (s : Source) : Int × Source :=
  match s.upcoming with
  | [] => (low, ⟨[], s.asked ++ [(low, high)]⟩)
  | n :: rest => (n, ⟨rest, s.asked ++ [(low, high)]⟩)

/-- Asks `count` times for a number between `low` and `high`. -/
def drawMany (low high : Int) : Nat → Source → List Int × Source
  | 0, s => ([], s)
  | count + 1, s =>
    let (n, s) := s.draw low high
    let (ns, s) := drawMany low high count s
    (n :: ns, s)

end Source

/-- One evaluation of a formula. -/
structure Roll where
  formula : Text
  rolls : List Int
  modifier : Int
  total : Int
deriving DecidableEq

/-- Rolls the dice of a formula; a negative number of dice is none. -/
def Formula.roll (f : Formula) (s : Source) : Roll × Source :=
  let (rolls, s) := s.drawMany 1 f.sides f.count.toNat
  (⟨f.written, rolls, f.modifier, f.modifier + rolls.foldr (· + ·) 0⟩, s)

/-- Reads and rolls a formula. A text that is no formula asks the source for nothing. -/
def roll? (written : Text) (s : Source) : Option Roll × Source :=
  match Formula.read written with
  | .error _ => (none, s)
  | .ok f =>
    let (r, s) := f.roll s
    (some r, s)

end Gamebook.Dice
