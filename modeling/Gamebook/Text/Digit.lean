import Gamebook.Text.Basic

/-!
# Decimal digits of every script

A digit of a formula, a row key or a die size may come from any script that has
decimal digits. Each script has its ten digits in one run from zero to nine, so
the table holds only where the runs begin. `digitValue?` is the one reading of a
digit; `isDigit` asks whether there is one. Where a format allows the digits of ASCII
only, `isAsciiDigit` and `isHexDigit` are asked.
-/

namespace Gamebook.Text

/-- The code points of the zeros; each is followed by the other nine digits of its script. -/
def digitZeros : List Nat :=
  [0x30, 0x660, 0x6f0, 0x7c0, 0x966, 0x9e6, 0xa66, 0xae6, 0xb66, 0xbe6, 0xc66, 0xce6, 0xd66,
    0xde6, 0xe50, 0xed0, 0xf20, 0x1040, 0x1090, 0x17e0, 0x1810, 0x1946, 0x19d0, 0x1a80, 0x1a90,
    0x1b50, 0x1bb0, 0x1c40, 0x1c50, 0xa620, 0xa8d0, 0xa900, 0xa9d0, 0xa9f0, 0xaa50, 0xabf0,
    0xff10, 0x104a0, 0x10d30, 0x11066, 0x110f0, 0x11136, 0x111d0, 0x112f0, 0x11450, 0x114d0,
    0x11650, 0x116c0, 0x11730, 0x118e0, 0x11950, 0x11c50, 0x11d50, 0x11da0, 0x16a60, 0x16ac0,
    0x16b50, 0x1d7ce, 0x1d7d8, 0x1d7e2, 0x1d7ec, 0x1d7f6, 0x1e140, 0x1e2f0, 0x1e950, 0x1fbf0]

/-- The value of a decimal digit. -/
def digitValue? (c : Char) : Option Nat :=
  if c.toNat < 0x80 then
    if c.toNat < 0x30 then none else if c.toNat < 0x3a then some (c.toNat - 0x30) else none
  else
    (digitZeros.find? fun z => z ≤ c.toNat && c.toNat < z + 10).map (c.toNat - ·)

/-- Whether a character is a decimal digit of some script. -/
def isDigit (c : Char) : Bool := (digitValue? c).isSome

/-- Whether a character is one of the ten digits of ASCII. -/
def isAsciiDigit (c : Char) : Bool := '0' ≤ c && c ≤ '9'

/-- Whether a character is a hexadecimal digit, in either case. -/
def isHexDigit (c : Char) : Bool :=
  isAsciiDigit c || ('a' ≤ c && c ≤ 'f') || ('A' ≤ c && c ≤ 'F')

/-- The value of one digit, zero for any other character. -/
def digitValue (c : Char) : Nat := (digitValue? c).getD 0

/-- The number a run of digits denotes, read from the left after what `acc` already holds. -/
def digitsValueFrom (acc : Nat) (ds : Text) : Nat :=
  ds.foldl (fun n c => 10 * n + digitValue c) acc

/-- The number a run of digits denotes. -/
def digitsValue (ds : Text) : Nat := digitsValueFrom 0 ds

/-- A nonempty run of digits at the start of a text, as long as it goes, and the rest. -/
def takeDigits? (t : Text) : Option (Text × Text) :=
  match t.span isDigit with
  | ([], _) => none
  | (ds, rest) => some (ds, rest)

end Gamebook.Text
