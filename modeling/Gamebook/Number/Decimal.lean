import Gamebook.Text.Digit

/-!
# Whole numbers in decimal

Numbers have no bound, but their decimal form has one in both directions: a run of
more than 4300 digits is not read, and a number that needs more is not written.
Digits of any script are read; only the digits 0 to 9 are written.
-/

namespace Gamebook

/-- The most digits that are read or written as one number. -/
def digitLimit : Nat := 4300

/-- Why a decimal form was not read or written. -/
inductive NumeralError where
  /-- The run has this many digits, leading zeros included. -/
  | tooLongToRead (digits : Nat)
  | tooLongToWrite
deriving DecidableEq

namespace NumeralError

/-- The text of the error for a numeral above the limit. -/
def message : NumeralError → Text
  | tooLongToRead digits =>
    "Exceeds the limit (4300 digits) for integer string conversion: value has ".toList ++
      Nat.toDigits 10 digits ++
      " digits; use sys.set_int_max_str_digits() to increase the limit".toList
  | tooLongToWrite =>
    ("Exceeds the limit (4300 digits) for integer string conversion; " ++
      "use sys.set_int_max_str_digits() to increase the limit").toList

end NumeralError

namespace Number

/-- The number a run of digits denotes, unless the run is too long. -/
def read (ds : Text) : Except NumeralError Nat :=
  if ds.length ≤ digitLimit then .ok (Text.digitsValue ds) else .error (.tooLongToRead ds.length)

/-- The decimal form of a natural number. -/
def writeNat (n : Nat) : Text := Nat.toDigits 10 n

/-- The decimal form of an integer, whatever its length. -/
def writeInt (z : Int) : Text :=
  if z < 0 then '-' :: writeNat z.natAbs else writeNat z.natAbs

/-- The decimal form of an integer, unless it is too long. -/
def write (z : Int) : Except NumeralError Text :=
  if (writeNat z.natAbs).length ≤ digitLimit then .ok (writeInt z) else .error .tooLongToWrite

end Number

end Gamebook
