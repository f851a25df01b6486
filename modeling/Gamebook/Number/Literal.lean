import Gamebook.Number.Binary64
import Gamebook.Number.Decimal
import Gamebook.Text.Blank

/-!
# Number literals

Reads texts as numbers the way an author may write them: with blanks around, a sign,
and digits of any script. Integers may have a base and the mark of that base;
floating numbers may have a point, an exponent, or be one of the named ones. The
information separators are no blanks here.
-/

namespace Gamebook.Number

/-- The value of a figure: a digit of any script, or a Latin letter from ten on. -/
def figureValue? (c : Char) : Option Nat :=
  match Text.digitValue? c with
  | some n => some n
  | none =>
    if 'a' ≤ c && c ≤ 'z' then some (c.toNat - 'a'.toNat + 10)
    else if 'A' ≤ c && c ≤ 'Z' then some (c.toNat - 'A'.toNat + 10)
    else none

/-- Whether a character is a figure of a base. -/
def isFigureOf (base : Nat) (c : Char) : Bool :=
  ((figureValue? c).map fun n => decide (n < base)).getD false

/-- The number that figures of a base denote. -/
def figuresValue (base : Nat) (ds : Text) : Nat :=
  ds.foldl (fun n c => base * n + (figureValue? c).getD 0) 0

/-- The letter that marks a base after a zero. -/
def baseLetter? : Nat → Option Char
  | 2 => some 'b'
  | 8 => some 'o'
  | 16 => some 'x'
  | _ => none

/-- Drops the mark of a base. -/
def dropBaseMark (base : Nat) (t : Text) : Text :=
  match t, baseLetter? base with
  | '0' :: c :: rest, some letter => if c == letter || c == letter.toUpper then rest else t
  | _, _ => t

/-- A literal without the blanks around it. -/
def trimLiteral (literal : Text) : Text := Text.stripBy Text.isWhiteSpace literal

/-- Whether the sign is negative, and what follows it. -/
def takeSign (t : Text) : Bool × Text :=
  match t with
  | '-' :: rest => (true, rest)
  | '+' :: rest => (false, rest)
  | _ => (false, t)

/-- The integer that a literal of a base denotes; nothing if it is none. Only to base ten is the
number of digits bounded. -/
def readLiteral (base : Nat) (literal : Text) : Except NumeralError (Option Int) :=
  let (negative, t) := takeSign (trimLiteral literal)
  let (ds, rest) := (dropBaseMark base t).span (isFigureOf base)
  if ds.isEmpty then .ok none
  else if base == 10 && ds.length > digitLimit then .error (.tooLongToRead ds.length)
  else if !rest.isEmpty then .ok none
  else
    let n : Int := figuresValue base ds
    .ok (some (if negative then -n else n))

/-- The exponent at the end of a floating literal; zero if there is none. -/
def readExponent? (t : Text) : Option Int :=
  match t with
  | [] => some 0
  | e :: rest =>
    if e == 'e' || e == 'E' then
      let (negative, ds) := takeSign rest
      if ds.isEmpty || !ds.all Text.isDigit then none
      else
        -- an exponent of many digits is as good as one of seven
        let significant := ds.dropWhile fun c => Text.digitValue c == 0
        let size : Int := if significant.length > 7 then 10000000 else Text.digitsValue significant
        some (if negative then -size else size)
    else none

/-- The floating number that a literal denotes, if it is one. -/
def readFloat? (literal : Text) : Option Binary64 :=
  let (negative, t) := takeSign (trimLiteral literal)
  let word := t.map Char.toLower
  if word == "inf".toList || word == "infinity".toList then some (.infinite negative)
  else if word == "nan".toList then some .nan
  else
    let (whole, rest) := t.span Text.isDigit
    let (fraction, rest) := match rest with
      | '.' :: rest => rest.span Text.isDigit
      | _ => ([], rest)
    if whole.isEmpty && fraction.isEmpty then none
    else
      (readExponent? rest).map fun e =>
        Binary64.ofDecimal negative (Text.digitsValue (whole ++ fraction)) (e - fraction.length)

end Gamebook.Number
