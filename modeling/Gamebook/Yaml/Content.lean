import Gamebook.Number.Literal
import Gamebook.Text.Case
import Gamebook.Value.Basic
import Gamebook.Yaml.Resolve

/-!
# What tagged scalars hold

The value of a scalar by its tag. A tag may have been given by hand to a text that
does not fit it, so each of these readings can fail.
-/

namespace Gamebook.Yaml

/-- A numeral without the underscores that group its digits. -/
def dropUnderscores (t : Text) : Text := t.filter (· != '_')

/-! ## Numbers -/

/-- The number a numeral holds, of which `magnitude` reads what follows the sign. -/
def signed {α : Type} (negate : α → α) (magnitude : Text → Reading α) (t : Text) : Reading α :=
  match t with
  | [] => .error .emptyNumber
  | c :: _ => do
    let size ← magnitude (dropSign t)
    return if c == '-' then negate size else size

/-- The integer that a numeral spells, which may not be one after all. -/
def readInteger (base : Nat) (t : Text) : Reading Int :=
  match Number.readLiteral base t with
  | .ok (some z) => .ok z
  | .ok none => .error (.notInteger base t)
  | .error e => .error (.numeral e)

/-- The number that parts to base sixty denote, the lowest first. -/
def sixtieths : List Int → Int
  | [] => 0
  | z :: zs => z + 60 * sixtieths zs

/-- The integer a scalar holds: binary, octal, hexadecimal, decimal, or to base sixty. -/
def integerContent (value : Text) : Reading Int :=
  signed (fun z => -z) magnitude (dropUnderscores value)
where
  magnitude (t : Text) : Reading Int :=
    match t with
    | [] => .error .emptyNumber
    | ['0'] => .ok 0
    | '0' :: 'b' :: ds => readInteger 2 ds
    | '0' :: 'x' :: ds => readInteger 16 ds
    | '0' :: _ => readInteger 8 t
    | _ =>
      if t.contains ':' then do
        let parts ← (Text.splitOn ':' t).mapM (readInteger 10)
        return sixtieths parts.reverse
      else readInteger 10 t

/-- The number that a numeral spells, which may not be one after all. -/
def readFloat (t : Text) : Reading Binary64 :=
  match Number.readFloat? t with
  | some x => .ok x
  | none => .error (.notFloat t)

/-- The sum of floating parts to base sixty, the lowest first, each rounded on its own. -/
def floatSixtieths (base : Nat) (sum : Binary64) : List Binary64 → Reading Binary64
  | [] => .ok sum
  | x :: xs =>
    match Binary64.ofInt base with
    | .infinite _ => .error .oversizedFloat
    | b => floatSixtieths (base * 60) (sum.add (x.mul b)) xs

/-- The floating number a scalar holds. -/
def floatContent (value : Text) : Reading Binary64 :=
  signed Binary64.neg magnitude (Text.lower (dropUnderscores value))
where
  magnitude (t : Text) : Reading Binary64 :=
    if t == ".inf".toList then .ok (.infinite false)
    else if t == ".nan".toList then .ok .nan
    else if t.contains ':' then do
      let parts ← (Text.splitOn ':' t).mapM readFloat
      floatSixtieths 1 (Binary64.ofInt 0) parts.reverse
    else readFloat t

/-! ## Truth values -/

/-- The truth value a scalar holds. -/
def truthContent (value : Text) : Reading Bool :=
  let word := Text.lower value
  if ["yes", "true", "on"].any fun w => word == w.toList then .ok true
  else if ["no", "false", "off"].any fun w => word == w.toList then .ok false
  else .error (.notTruthValue word)

/-! ## Dates and moments -/

/-- The date of a timestamp, if the calendar has it. -/
def calendarDate (f : TimestampFields) : Reading Date :=
  let year := Text.digitsValue f.year
  let month := Text.digitsValue f.month
  let day := Text.digitsValue f.day
  if year == 0 then .error (.calendar (.year year))
  else if month == 0 || 12 < month then .error (.calendar .month)
  else if day == 0 || Date.daysInMonth year month < day then .error (.calendar .day)
  else .ok ⟨year, month, day⟩

/-- The distance from universal time in seconds. -/
def zoneOffset : Option Char × Text × Text → Reading Int
  | (none, _, _) => .ok 0
  | (some sign, hours, minutes) =>
    let size : Int := Text.digitsValue hours * 3600 + Text.digitsValue minutes * 60
    let seconds := if sign == '-' then -size else size
    if size < 86400 then .ok seconds else .error (.calendar (.offset seconds))

/-- The first six digits of a fraction of a second, as a number of millionths. -/
def millionths (ds : Text) : Nat :=
  let kept := ds.take 6
  Text.digitsValue (kept ++ List.replicate (6 - kept.length) '0')

/-- The date or the moment a scalar holds. -/
def timestampContent (value : Text) : Reading Value :=
  match readTimestamp? (dropFinalBreak value) with
  | none => .error .notTimestamp
  | some f =>
    match f.clock with
    | none => (calendarDate f).map Value.date
    | some (hour, minute, second, fraction) => do
      let offset ← f.zone.mapM zoneOffset
      let date ← calendarDate f
      let h := Text.digitsValue hour
      let m := Text.digitsValue minute
      let s := Text.digitsValue second
      if 24 ≤ h then throw (.calendar .hour)
      else if 60 ≤ m then throw (.calendar .minute)
      else if 60 ≤ s then throw (.calendar .second)
      else return .moment ⟨date, h, m, s, millionths fraction, offset⟩

/-! ## Bytes -/

/-- Why a scalar holds no bytes. -/
inductive BytesFault where
  /-- Some of its characters, from a position on, are not ASCII. -/
  | notAscii (position : Nat) (codes : List Nat)
  | badPadding
  /-- The number of letters is one more than a multiple of four. -/
  | badLength (letters : Nat)

/-- The text of the error for binary data that cannot be read. -/
def BytesFault.message : BytesFault → Text
  | notAscii position codes =>
    let place := match codes with
      | [n] => "character '".toList ++ Text.escapeCode n ++ "' in position ".toList ++
          Number.writeNat position
      | ns => "characters in position ".toList ++ Number.writeNat position ++ ['-'] ++
          Number.writeNat (position + ns.length - 1)
    "failed to convert base64 data into ascii: 'ascii' codec can't encode ".toList ++ place ++
      ": ordinal not in range(128)".toList
  | badPadding => "failed to decode base64 data: Incorrect padding".toList
  | badLength letters =>
    ("failed to decode base64 data: Invalid base64-encoded string: number of data " ++
      "characters (").toList ++ Number.writeNat letters ++
      ") cannot be 1 more than a multiple of 4".toList

/-- The six bits of a letter. -/
def letterBits? (n : Nat) : Option Nat :=
  if 65 ≤ n && n ≤ 90 then some (n - 65)
  else if 97 ≤ n && n ≤ 122 then some (n - 71)
  else if 48 ≤ n && n ≤ 57 then some (n + 4)
  else if n == 43 then some 62
  else if n == 47 then some 63
  else none

/-- Reads letters of six bits each. `phase` counts the letters since the last whole three bytes,
`left` has the bits not yet used, `pads` the pads since the last letter; the bytes read so far
come last first. Other characters are passed over. -/
def readLetters (phase left pads : Nat) (read : List Nat) : List Nat → Except BytesFault (List Nat)
  | [] =>
    if phase == 0 then .ok read.reverse
    else if phase == 1 then .error (.badLength (read.length / 3 * 4 + 1))
    else .error .badPadding
  | n :: rest =>
    if n == 61 then
      if 2 ≤ phase && 4 ≤ phase + pads + 1 then .ok read.reverse
      else readLetters phase left (if 2 ≤ phase then pads + 1 else pads) read rest
    else
      match letterBits? n with
      | none => readLetters phase left pads read rest
      | some b =>
        if phase == 0 then readLetters 1 b 0 read rest
        else if phase == 1 then readLetters 2 (b % 16) 0 ((left * 4 + b / 16) :: read) rest
        else if phase == 2 then readLetters 3 (b % 4) 0 ((left * 16 + b / 4) :: read) rest
        else readLetters 0 0 0 ((left * 64 + b) :: read) rest

/-- The bytes a scalar holds. -/
def bytesContent (codes : List Nat) : Except BytesFault (List Nat) :=
  let ascii := codes.takeWhile (· < 128)
  let others := (codes.drop ascii.length).takeWhile (128 ≤ ·)
  if others.isEmpty then readLetters 0 0 0 [] codes
  else .error (.notAscii ascii.length others)

end Gamebook.Yaml
