import Gamebook.Number.Decimal
import Gamebook.Text.Blank

/-!
# Row keys

The first cell of a table row tells which rolls lead to it: one number, or two
numbers with a hyphen or an en dash between them for all numbers from the first to
the second. Any other text leads to no roll. Where several rows are named by one
roll, the last of them is meant.
-/

namespace Gamebook.Table

/-- What the first cell of a row says, with its numbers still as digits. -/
inductive RowKey where
  | single (digits : Text)
  | range (low high : Text)
  | other
deriving DecidableEq

namespace RowKey

/-- What separates the ends of a range. -/
def isDash (c : Char) : Bool := c == '-' || c == '–'

/-- Reads the text of a first cell. -/
def read (cell : Text) : RowKey :=
  match Text.takeDigits? (Text.trim cell) with
  | none => .other
  | some (low, []) => .single low
  | some (low, rest) =>
    match Text.trimStart rest with
    | dash :: rest =>
      if isDash dash then
        match Text.takeDigits? (Text.trimStart rest) with
        | some (high, []) => .range low high
        | _ => .other
      else .other
    | [] => .other

/-- Whether a roll leads to the row. -/
def covers (rolled : Int) : RowKey → Except NumeralError Bool
  | .single ds => (Number.read ds).map fun n => (n : Int) == rolled
  | .range low high => do
    let a ← Number.read low
    let b ← Number.read high
    return a ≤ rolled && rolled ≤ b
  | .other => .ok false

end RowKey

/-- Whether a roll leads to the row with this first cell. -/
def rowMatches (rolled : Int) (cell : Text) : Except NumeralError Bool :=
  (RowKey.read cell).covers rolled

/-- The last of the rows from number `index` on that a roll leads to; `found` is the last so far. -/
def lastMatchFrom (rolled : Int) (found : Option Nat) (index : Nat) :
    List Text → Except NumeralError (Option Nat)
  | [] => .ok found
  | cell :: cells =>
    match rowMatches rolled cell with
    | .error e => .error e
    | .ok true => lastMatchFrom rolled (some index) (index + 1) cells
    | .ok false => lastMatchFrom rolled found (index + 1) cells

/-- The row that a roll leads to, given the first cells of all rows. -/
def resolveRow (rolled : Int) (cells : List Text) : Except NumeralError (Option Nat) :=
  lastMatchFrom rolled none 0 cells

end Gamebook.Table
