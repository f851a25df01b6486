import Gamebook.Text.Blank
import Gamebook.Value.Basic

/-!
# Reading JSON

Reads one JSON document into a value. Numbers without a point and an exponent are
integers, all others are floating. `NaN` and the infinities are accepted. Integers
may have a greatest number of digits; one that has more makes the document
unreadable.
-/

namespace Gamebook.Json

/-- The blanks between tokens. -/
def isSpace (c : Char) : Bool := c == ' ' || c == '\t' || c == '\n' || c == '\r'

/-- What follows the white space between two values. -/
def skipSpace (t : Text) : Text := t.dropWhile isSpace

/-- The value of a hexadecimal digit. -/
def hexValue? (c : Char) : Option Nat :=
  if '0' ≤ c && c ≤ '9' then some (c.toNat - '0'.toNat)
  else if 'a' ≤ c && c ≤ 'f' then some (c.toNat - 'a'.toNat + 10)
  else if 'A' ≤ c && c ≤ 'F' then some (c.toNat - 'A'.toNat + 10)
  else none

/-- Four hexadecimal digits. -/
def readUnit? : Text → Option (Nat × Text)
  | a :: b :: c :: d :: rest => do
    let p ← hexValue? a
    let q ← hexValue? b
    let r ← hexValue? c
    let s ← hexValue? d
    return (((p * 16 + q) * 16 + r) * 16 + s, rest)
  | _ => none

/-- The code point of a simple escape. -/
def simpleEscape? : Char → Option Nat
  | '"' => some 0x22
  | '\\' => some 0x5c
  | '/' => some 0x2f
  | 'b' => some 8
  | 'f' => some 12
  | 'n' => some 10
  | 'r' => some 13
  | 't' => some 9
  | _ => none

/-- Joins a leading and a trailing surrogate that stand next to each other. -/
def joinSurrogates : List Nat → List Nat
  | a :: b :: rest =>
    if 0xd800 ≤ a && a < 0xdc00 && 0xdc00 ≤ b && b < 0xe000 then
      (0x10000 + (a - 0xd800) * 0x400 + (b - 0xdc00)) :: joinSurrogates rest
    else a :: joinSurrogates (b :: rest)
  | codes => codes

/-- The code points of a string after its opening quote, and the text after the closing one. -/
def readString? : Nat → Text → List Nat → Option (List Nat × Text)
  | 0, _, _ => none
  | _ + 1, [], _ => none
  | _ + 1, '"' :: rest, codes => some (joinSurrogates codes.reverse, rest)
  | fuel + 1, '\\' :: 'u' :: rest, codes => do
    let (unit, rest) ← readUnit? rest
    readString? fuel rest (unit :: codes)
  | fuel + 1, '\\' :: c :: rest, codes => do
    let code ← simpleEscape? c
    readString? fuel rest (code :: codes)
  | fuel + 1, c :: rest, codes =>
    if c.toNat < 0x20 || c == '\\' then none else readString? fuel rest (c.toNat :: codes)

/-- The number that ASCII digits denote. -/
def asciiValue (ds : Text) : Nat := ds.foldl (fun n c => 10 * n + (c.toNat - '0'.toNat)) 0

/-- The digits after a point, if a point and a digit follow. -/
def readFraction (t : Text) : Text × Text :=
  match t with
  | '.' :: rest =>
    match rest.span Text.isAsciiDigit with
    | ([], _) => ([], t)
    | r => r
  | _ => ([], t)

/-- The exponent, if one follows. -/
def readExponent (t : Text) : Option Int × Text :=
  match t with
  | e :: rest =>
    if e == 'e' || e == 'E' then
      let (negative, digits) := match rest with
        | '+' :: r => (false, r)
        | '-' :: r => (true, r)
        | r => (false, r)
      match digits.span Text.isAsciiDigit with
      | ([], _) => (none, t)
      | (ds, after) =>
        -- an exponent of many digits is as good as one of seven
        let size := if (ds.dropWhile (· == '0')).length > 7 then 10000000 else asciiValue ds
        (some (if negative then -(size : Int) else size), after)
    else (none, t)
  | [] => (none, t)

/-- The number at the start of the text. -/
def readNumber? (limit : Option Nat) (t : Text) : Option (Value × Text) :=
  let (negative, t) := match t with
    | '-' :: rest => (true, rest)
    | _ => (false, t)
  let whole := match t with
    | '0' :: rest => (['0'], rest)
    | _ => t.span Text.isAsciiDigit
  match whole with
  | ([], _) => none
  | (ds, rest) =>
    let (fraction, afterFraction) := readFraction rest
    let (exponent, afterExponent) := readExponent afterFraction
    if fraction.isEmpty && exponent.isNone then
      match limit with
      | some n => if ds.length > n then none else some (.int (signed negative ds), rest)
      | none => some (.int (signed negative ds), rest)
    else
      some (.real (Binary64.ofDecimal negative (asciiValue (ds ++ fraction))
        (exponent.getD 0 - fraction.length)), afterExponent)
where
  signed (negative : Bool) (ds : Text) : Int :=
    if negative then -(asciiValue ds : Int) else asciiValue ds

/-- The named values. -/
def words : List (Text × Value) :=
  [("null".toList, .null), ("true".toList, .bool true), ("false".toList, .bool false),
    ("NaN".toList, .real .nan), ("Infinity".toList, .real (.infinite false)),
    ("-Infinity".toList, .real (.infinite true))]

/-- The named value at the start of the text. -/
def readWord? (t : Text) : Option (Value × Text) :=
  words.findSome? fun w => (Text.after? w.1 t).map (w.2, ·)

mutual

/-- The value at the start of the text, and what follows it. -/
def readValue? (limit : Option Nat) : Nat → Text → Option (Value × Text)
  | 0, _ => none
  | _ + 1, '"' :: rest => do
    let (codes, rest) ← readString? (rest.length + 1) rest []
    return (Value.ofCodes codes, rest)
  | fuel + 1, '[' :: rest =>
    match skipSpace rest with
    | ']' :: rest => some (.list [], rest)
    | rest => do
      let (items, rest) ← readItems? limit fuel rest
      return (.list items, rest)
  | fuel + 1, '\x7b' :: rest =>
    match skipSpace rest with
    | '\x7d' :: rest => some (.map [], rest)
    | rest => readEntries? limit fuel rest []
  | _ + 1, t =>
    match readWord? t with
    | some r => some r
    | none => readNumber? limit t

/-- The items of a list up to its closing bracket. -/
def readItems? (limit : Option Nat) : Nat → Text → Option (List Value × Text)
  | 0, _ => none
  | fuel + 1, t => do
    let (v, rest) ← readValue? limit fuel t
    match skipSpace rest with
    | ',' :: rest =>
      let (vs, rest) ← readItems? limit fuel (skipSpace rest)
      return (v :: vs, rest)
    | ']' :: rest => return ([v], rest)
    | _ => none

/-- The entries of a mapping up to its closing bracket, added to those before. -/
def readEntries? (limit : Option Nat) : Nat → Text → Value.Entries → Option (Value × Text)
  | 0, _, _ => none
  | fuel + 1, '"' :: t, entries => do
    let (codes, rest) ← readString? (t.length + 1) t []
    match skipSpace rest with
    | ':' :: rest =>
      let (v, rest) ← readValue? limit fuel (skipSpace rest)
      let entries := Value.insertEntry (Value.ofCodes codes) v entries
      match skipSpace rest with
      | ',' :: rest => readEntries? limit fuel (skipSpace rest) entries
      | '\x7d' :: rest => return (.map entries, rest)
      | _ => none
    | _ => none
  | _ + 1, _, _ => none

end

/-- Reads a document in which an integer has at most `limit` digits, where there is a limit. -/
def read? (limit : Option Nat) (t : Text) : Option Value :=
  match readValue? limit (2 * t.length + 2) (skipSpace t) with
  | some (v, rest) => if (skipSpace rest).isEmpty then some v else none
  | none => none

end Gamebook.Json
