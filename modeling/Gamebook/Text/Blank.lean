import Gamebook.Text.Basic

/-!
# Blank characters

The characters that count as space: they are trimmed off both ends of terms, keys
and formulas, and they may stand around the sign of a formula or the dash of a row
key. The information separators and the next-line control belong to them.
-/

namespace Gamebook.Text

/-- Whether a character counts as space. -/
def isBlank (c : Char) : Bool :=
  let n := c.toNat
  (9 ≤ n && n ≤ 13) || (28 ≤ n && n ≤ 32) || n == 0x85 || n == 0xa0 || n == 0x1680 ||
    (0x2000 ≤ n && n ≤ 0x200a) || n == 0x2028 || n == 0x2029 || n == 0x202f || n == 0x205f ||
    n == 0x3000

/-- The blanks without the four information separators. -/
def isWhiteSpace (c : Char) : Bool := isBlank c && !(28 ≤ c.toNat && c.toNat ≤ 31)

/-- The text without the blanks at its start. -/
def trimStart (t : Text) : Text := t.dropWhile isBlank

/-- The text without the blanks at its end. -/
def trimEnd (t : Text) : Text := dropEndWhile isBlank t

/-- The text without the blanks at both ends. -/
def trim (t : Text) : Text := stripBy isBlank t

end Gamebook.Text
