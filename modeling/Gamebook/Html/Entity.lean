import Gamebook.Html.EntityTable
import Gamebook.Number.Literal

/-!
# Character references

A character reference names a character or gives its number. The four names that
every escaped text uses are looked up first, all others in the table. References
with a number follow the rules for broken numbers: some of them stand for the
characters that an old encoding had there, and some for nothing.
-/

namespace Gamebook.Html

/-- A named character. -/
structure Entity where
  name : Text
  /-- Whether the name is understood without a semicolon. -/
  bare : Bool
  characters : Text

/-- Reads one entry of the table. -/
def Entity.ofEntry (entry : Text) : Entity :=
  let (bare, entry) := match entry with
    | '!' :: rest => (true, rest)
    | _ => (false, entry)
  let codes := Text.splitOn '+' (entry.dropWhile (· != '=')).tail
  ⟨entry.takeWhile (· != '='), bare, codes.map fun c => Char.ofNat (Number.figuresValue 16 c)⟩

/-- All named characters. -/
def entities : List Entity :=
  entityLines.flatMap fun line => (Text.splitOn ' ' line.toList).map Entity.ofEntry

/-- The names that escaped texts use. -/
def commonEntity? (name : Text) : Option Text :=
  if name == "amp".toList then some ['&']
  else if name == "lt".toList then some ['<']
  else if name == "gt".toList then some ['>']
  else if name == "quot".toList then some ['"']
  else none

/-- The characters of a name. Where it is not closed by a semicolon and not taken as if it were, it
has to be one that may stand bare. -/
def entity? (closed : Bool) (name : Text) : Option Text :=
  match commonEntity? name with
  | some t => some t
  | none =>
    (entities.find? fun e => (closed || e.bare) && e.name == name).map Entity.characters

/-! ## Numbers -/

/-- What the numbers from 128 to 159 stand for. -/
def oldEncoding : List Nat :=
  [0x20ac, 0x81, 0x201a, 0x192, 0x201e, 0x2026, 0x2020, 0x2021, 0x2c6, 0x2030, 0x160, 0x2039,
    0x152, 0x8d, 0x17d, 0x8f, 0x90, 0x2018, 0x2019, 0x201c, 0x201d, 0x2022, 0x2013, 0x2014, 0x2dc,
    0x2122, 0x161, 0x203a, 0x153, 0x9d, 0x17e, 0x178]

/-- The character that stands for a broken number. -/
def replacement : Char := '\ufffd'

/-- The character of a number in running text. Half of a surrogate pair is no character and counts
as broken. -/
def numberedChar (n : Nat) : Char :=
  if 0x80 ≤ n && n < 0xa0 then Char.ofNat (oldEncoding.getD (n - 0x80) n)
  else if 0x110000 ≤ n || (0xd800 ≤ n && n < 0xe000) then replacement
  else Char.ofNat n

/-- Whether a number stands for nothing in an attribute. -/
def isVoidNumber (n : Nat) : Bool :=
  (1 ≤ n && n ≤ 8) || n == 0xb || (0xe ≤ n && n ≤ 0x1f) || n == 0x7f ||
    (0xfdd0 ≤ n && n ≤ 0xfdef) || (n % 0x10000 == 0xfffe || n % 0x10000 == 0xffff)

/-- The characters of a number in an attribute. -/
def numberedText (n : Nat) : Text :=
  if n == 0 then [replacement]
  else if isVoidNumber n && n < 0x110000 then []
  else [numberedChar n]

/-! ## References in attributes -/

/-- The number of a reference: its digits after the number sign, its value, and the digits. Digits
to base ten are bounded. -/
def takeNumber? (t : Text) : Option (Except NumeralError Nat × Nat) :=
  match t with
  | '#' :: x :: rest =>
    if x == 'x' || x == 'X' then
      let ds := rest.takeWhile Text.isHexDigit
      if ds.isEmpty then none else some (.ok (Number.figuresValue 16 ds), 2 + ds.length)
    else
      let ds := (x :: rest).takeWhile Text.isAsciiDigit
      if ds.isEmpty then none else some (Number.read ds, 1 + ds.length)
  | _ => none

/-- Whether a character ends the name of a reference. -/
def isNameEnd (c : Char) : Bool :=
  c == '\t' || c == '\n' || c == '\x0c' || c == ' ' || c == '<' || c == '&' || c == '#' ||
    c == ';'

/-- The characters of the longest bare name that the text begins with, of at most `length`
characters and at least two, and the rest of the text. -/
def longestBare? (t : Text) : Nat → Option Text
  | 0 => none
  | 1 => none
  | length + 2 =>
    match entity? false (t.take (length + 2)) with
    | some chars => some (chars ++ t.drop (length + 2))
    | none => longestBare? t (length + 1)

/-- What a name after an ampersand stands for. -/
def nameText (name : Text) (closed : Bool) : Text :=
  match entity? closed name with
  | some chars => chars
  | none =>
    let t := if closed then name ++ [';'] else name
    (longestBare? t (t.length - 1)).getD ('&' :: t)

/-- The reference after an ampersand: what it stands for and how many characters it takes. -/
def takeReference? (t : Text) : Except NumeralError (Option (Text × Nat)) :=
  match takeNumber? t with
  | some (.error e, _) => .error e
  | some (.ok n, length) =>
    let closed := (t.drop length).head? == some ';'
    .ok (some (numberedText n, if closed then length + 1 else length))
  | none =>
    let name := (t.take 32).takeWhile fun c => !isNameEnd c
    if name.isEmpty then .ok none
    else
      let closed := (t.drop name.length).head? == some ';'
      .ok (some (nameText name closed, if closed then name.length + 1 else name.length))

/-- Replaces the references in a text of which `skip` characters have been taken. -/
def unescapeFrom : Nat → Text → Except NumeralError Text
  | _, [] => .ok []
  | skip + 1, _ :: t => unescapeFrom skip t
  | 0, c :: t =>
    if c == '&' then
      match takeReference? t with
      | .error e => .error e
      | .ok none => (unescapeFrom 0 t).map (c :: ·)
      | .ok (some (chars, length)) => (unescapeFrom length t).map (chars ++ ·)
    else (unescapeFrom 0 t).map (c :: ·)

/-- The value of an attribute as it is written. -/
def unescape (t : Text) : Except NumeralError Text := unescapeFrom 0 t

end Gamebook.Html
