import Gamebook.Definition.Problem
import Gamebook.Text.Blank
import Gamebook.Text.Bytes
import Gamebook.Value.Basic

/-!
# Integers in fields

A field that holds an integer takes any value that plainly is one: an integer, a
truth value, a floating number without a fraction, or a text. The text may have
zeros in front, a point with zeros behind it, and single underscores between digits.
-/

namespace Gamebook.IntegerText

/-- Drops zeros and underscores in front of the first other digit, but not the last zero of all
and not the zero before a point. Nothing else may stand there. -/
def afterZeros : Char → Text → Option Text
  | last, [] => some [last]
  | last, c :: t =>
    if c == '0' || c == '_' then afterZeros c t
    else if '1' ≤ c && c ≤ '9' then some (c :: t)
    else if c == '.' then some (last :: c :: t)
    else none

/-- Drops a plus sign and the zeros in front. -/
def dropLeadingZeros (t : Text) : Option Text :=
  let unsigned := match t with
    | '+' :: '-' :: _ => []
    | '+' :: rest => rest
    | _ => t
  match unsigned with
  | '0' :: rest => afterZeros '0' rest
  | c :: rest => if c == '-' || ('1' ≤ c && c ≤ '9') then some (c :: rest) else none
  | [] => none

/-- Drops a point with at least one zero and nothing but zeros behind it. -/
def dropPointZeros (t : Text) : Text :=
  let kept := Text.dropEndWhile (· == '0') t
  if kept.length < t.length && kept.getLast? == some '.' then kept.dropLast else t

/-- Whether no two underscores stand together. -/
def underscoresApart : Text → Bool
  | '_' :: '_' :: _ => false
  | _ :: t => underscoresApart t
  | [] => true

/-- Drops underscores, none of which may stand at an end or beside another. -/
def dropUnderscores (t : Text) : Option Text :=
  if t.head? == some '_' || t.getLast? == some '_' || !underscoresApart t then none
  else some (t.filter (· != '_'))

/-- The integer that a cleaned text denotes. -/
def ofClean (t : Text) : Except Fault Int :=
  let (negative, ds) := match t with
    | '-' :: rest => (true, rest)
    | _ => (false, t)
  if ds = [] || !ds.all Text.isAsciiDigit || (ds.head? == some '0' && ds.length > 1) then
    .error .notIntegerText
  else if ds.length > digitLimit then .error .integerTooLong
  else
    let n : Int := Text.digitsValue ds
    .ok (if negative then -n else n)

/-- The integer that a text denotes. -/
def read (t : Text) : Except Fault Int :=
  match (dropLeadingZeros (Text.stripBy Text.isWhiteSpace t)).map dropPointZeros with
  | none => .error .notIntegerText
  | some t =>
    match dropUnderscores t with
    | none => .error .notIntegerText
    | some t => ofClean t

end Gamebook.IntegerText

namespace Gamebook.Value

/-- Floating numbers up to this bound, 2 to the 63rd, are taken for integers. -/
def realBound : Int := 9223372036854775808

/-- The integer a value plainly is. -/
def asInteger : Value → Except Fault Int
  | int z => .ok z
  | bool b => .ok (if b then 1 else 0)
  | real x =>
    if !x.isFinite then .error .notFinite
    else
      match x.toInt? with
      | none => .error .fractional
      | some z => if -realBound < z && z < realBound then .ok z else .error .integerTooLong
  | text t => IntegerText.read t
  | broken _ => .error .notUnicode
  | bytes bs =>
    match Text.ofUtf8? bs with
    | some t => IntegerText.read t
    | none => .error .notIntegerText
  | _ => .error .notInteger

end Gamebook.Value
