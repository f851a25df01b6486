import Gamebook.Text.Printable

/-!
# Quoted texts

How a message shows a text: between single quotes, or between double quotes when
it holds a single quote and no double one. The quote and the backslash are escaped,
and so is every character that is not printable. Without quotes only what is no
character at all needs an escape.
-/

namespace Gamebook.Text

/-- One hexadecimal digit, in lower case. -/
def hexDigit (n : Nat) : Char := (Nat.digitChar n)

/-- The lowest `width` hexadecimal digits of a number. -/
def hexDigits : Nat → Nat → Text
  | 0, _ => []
  | width + 1, n => hexDigits width (n / 16) ++ [hexDigit (n % 16)]

/-- The shortest escape that holds a code point. -/
def escapeCode (n : Nat) : Text :=
  if n < 0x100 then '\\' :: 'x' :: hexDigits 2 n
  else if n < 0x10000 then '\\' :: 'u' :: hexDigits 4 n
  else '\\' :: 'U' :: hexDigits 8 n

/-- Code points as a text, in which one that is no character is written as its escape. -/
def ofCodePoints (codes : List Nat) : Text :=
  codes.flatMap fun n => if (Char.ofNat n).toNat == n then [Char.ofNat n] else escapeCode n

/-- How a code is written between quotes: some have escapes of their own, and `other` writes the
rest. -/
def quoteBy (other : Nat → Text) (quote : Char) (n : Nat) : Text :=
  if n == 0x5c || n == quote.toNat then ['\\', Char.ofNat n]
  else if n == 9 then "\\t".toList
  else if n == 10 then "\\n".toList
  else if n == 13 then "\\r".toList
  else other n

/-- How a code point is written between quotes; surrogates stand for themselves only here. -/
def quoteCode : Char → Nat → Text :=
  quoteBy fun n =>
    let c := Char.ofNat n
    if c.toNat == n && isPrintable c then [c] else escapeCode n

/-- The quote that surrounds a text with these code points. -/
def quoteMark (codes : List Nat) : Char :=
  if codes.contains 0x27 && !codes.contains 0x22 then '"' else '\''

/-- The quoted form of a list of code points, some of which may be no characters. -/
def quotedCodes (codes : List Nat) : Text :=
  let quote := quoteMark codes
  quote :: codes.flatMap (quoteCode quote) ++ [quote]

/-- The quoted form of a text. -/
def quoted (t : Text) : Text := quotedCodes (t.map Char.toNat)

/-- How a byte is written between quotes. -/
def quoteByte : Char → Nat → Text :=
  quoteBy fun n =>
    if 0x20 ≤ n && n < 0x7f then [Char.ofNat n] else '\\' :: 'x' :: hexDigits 2 n

/-- The quoted form of a list of bytes, marked with a leading `b`. -/
def quotedBytes (bytes : List Nat) : Text :=
  let quote := quoteMark bytes
  'b' :: quote :: bytes.flatMap (quoteByte quote) ++ [quote]

end Gamebook.Text
