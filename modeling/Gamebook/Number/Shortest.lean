import Gamebook.Number.Binary64
import Gamebook.Number.Decimal

/-!
# The shortest decimal of a floating number

A floating number is written with the fewest digits that read back as the same
number, and of those with the digits nearest to it. The numbers that read back form
an interval around the value; the search goes through the decimal grids from one
digit to seventeen and takes the first grid with a point in the interval.
-/

namespace Gamebook.Binary64

/-- The positive numbers that round to one floating number, scaled to whole numbers: the value,
and how far the interval reaches below and above it. -/
structure Interval where
  value : Nat
  below : Nat
  above : Nat
  /-- What one stands for in this scale. -/
  unit : Nat
  /-- Whether the ends round to the number too. -/
  closed : Bool

/-- The interval of `mantissa * 2 ^ exponent`. The lower half is half as long at a power of two,
the smallest exponent apart. -/
def interval (mantissa : Nat) (exponent : Int) : Interval :=
  let scale : Nat := if 0 ≤ exponent then Nat.pow 2 exponent.toNat else 1
  let unit : Nat := if 0 ≤ exponent then 4 else 4 * Nat.pow 2 (-exponent).toNat
  let atPower := mantissa == Nat.pow 2 52 && -1074 < exponent
  { value := 4 * mantissa * scale
    below := if atPower then scale else 2 * scale
    above := 2 * scale
    unit := unit
    closed := mantissa % 2 == 0 }

namespace Interval

/-- Whether `num / den`, in the scale of the interval, rounds to the number. -/
def holds (i : Interval) (num den : Nat) : Bool :=
  let low := (i.value - i.below) * den
  let high := (i.value + i.above) * den
  if i.closed then low ≤ num && num ≤ high else low < num && num < high

/-- The point of the grid `10 ^ k` that rounds to the number and lies nearest to it. -/
def gridPoint? (i : Interval) (k : Int) : Option Nat :=
  let num := i.value * (if 0 ≤ k then 1 else Nat.pow 10 (-k).toNat)
  let den := i.unit * (if 0 ≤ k then Nat.pow 10 k.toNat else 1)
  let down := num / den
  let up := down + 1
  -- a point p of the grid stands for p * den / (num / value) in the scale of the interval
  let factor := if 0 ≤ k then 1 else Nat.pow 10 (-k).toNat
  let downHolds := 0 < down && i.holds (down * den) factor
  let upHolds := i.holds (up * den) factor
  let twice := 2 * (num % den)
  if downHolds && upHolds then
    some (if twice < den then down else if den < twice then up
      else if down % 2 = 0 then down else up)
  else if downHolds then some down
  else if upHolds then some up
  else none

/-- The first grid from `10 ^ k` downwards, of `steps` many, that has a point in the interval. -/
def firstPoint (i : Interval) : Nat → Int → Nat × Int
  | 0, k => (i.value / i.unit, k)
  | steps + 1, k =>
    match i.gridPoint? k with
    | some p => (p, k)
    | none => firstPoint i steps (k - 1)

end Interval

/-- The position of the first digit: the number lies between `10 ^ k` and `10 ^ (k + 1)`. -/
def leadingPower (i : Interval) : Int :=
  let num := i.value
  let den := i.unit
  if den ≤ num then (Nat.toDigits 10 (num / den)).length - 1
  else
    let inverse := (den + num - 1) / num
    Int.negOfNat (Nat.toDigits 10 (inverse - 1)).length

/-- Drops the zeros at the end of a number's digits. -/
def dropZeros : Nat → Nat → Int → Nat × Int
  | 0, p, k => (p, k)
  | steps + 1, p, k => if p % 10 = 0 then dropZeros steps (p / 10) (k + 1) else (p, k)

/-- The fewest digits `p` and the power `k` such that `p * 10 ^ k` reads back as the number. -/
def shortest (mantissa : Nat) (exponent : Int) : Nat × Int :=
  let i := interval mantissa exponent
  let (p, k) := i.firstPoint 18 (leadingPower i)
  dropZeros 20 p k

/-- The digits of an exponent, at least two. -/
def exponentDigits (n : Nat) : Text :=
  let ds := Number.writeNat n
  if ds.length < 2 then '0' :: ds else ds

/-- The text of a positive number from its digits and the power of the last one: with a point when
the first digit lies between `10 ^ -4` and `10 ^ 15`, with an exponent otherwise. -/
def layout (digits : Text) (power : Int) : Text :=
  let first : Int := power + digits.length - 1
  if first < -4 || 16 ≤ first then
    let mantissa := match digits with
      | [] => []
      | [d] => [d]
      | d :: ds => d :: '.' :: ds
    mantissa ++ ['e', if first < 0 then '-' else '+'] ++ exponentDigits first.natAbs
  else if 0 ≤ power then digits ++ List.replicate power.toNat '0' ++ ['.', '0']
  else if first < 0 then
    ['0', '.'] ++ List.replicate (-first - 1).toNat '0' ++ digits
  else
    let whole := (first + 1).toNat
    digits.take whole ++ '.' :: digits.drop whole

/-- How a floating number is written. -/
def write : Binary64 → Text
  | nan => "nan".toList
  | infinite negative => (if negative then "-inf" else "inf").toList
  | finite negative m e =>
    let size :=
      if m = 0 then "0.0".toList
      else
        let (p, k) := shortest m e
        layout (Number.writeNat p) k
    if negative then '-' :: size else size

end Gamebook.Binary64
