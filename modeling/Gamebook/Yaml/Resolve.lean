import Gamebook.Yaml.Token

/-!
# The tags of plain scalars

A plain scalar that is not tagged gets its tag from its form: truth values, floating
numbers, integers, the merge key, nothing, dates, and the two reserved marks. All
other scalars are texts. A line feed at the very end does not count.
-/

namespace Gamebook.Yaml

/-- The tags that the language itself defines. -/
def coreTag (name : String) : Text := "tag:yaml.org,2002:".toList ++ name.toList

/-- The tag of texts. -/
def strTag : Text := coreTag "str"
/-- The tag of sequences. -/
def seqTag : Text := coreTag "seq"
/-- The tag of mappings. -/
def mapTag : Text := coreTag "map"
/-- The tag of a key under which other mappings are merged. -/
def mergeTag : Text := coreTag "merge"
/-- The tag of a key that stands for the value of its mapping. -/
def valueTag : Text := coreTag "value"

/-- The text without one line feed at its end. -/
def dropFinalBreak (t : Text) : Text := if t.getLast? == some '\n' then t.dropLast else t

/-- The text without a sign at its start. -/
def dropSign (t : Text) : Text :=
  match t with
  | c :: rest => if c == '+' || c == '-' then rest else t
  | [] => []

/-- Whether a character may stand in a number behind its first figure. -/
def isDigitOrUnderscore (c : Char) : Bool := Text.isAsciiDigit c || c == '_'

/-- The rest after a figure and further figures and underscores. -/
def afterFigures? (t : Text) : Option Text :=
  match t with
  | c :: rest => if Text.isAsciiDigit c then some (rest.dropWhile isDigitOrUnderscore) else none
  | [] => none

/-- Whether a text is nothing, or an exponent with a sign. -/
def isExponentOrNil (t : Text) : Bool :=
  match t with
  | [] => true
  | e :: s :: ds =>
    (e == 'e' || e == 'E') && (s == '+' || s == '-') && !ds.isEmpty && ds.all Text.isAsciiDigit
  | _ => false

/-- Whether a text is a part of a number to base sixty: one figure, or two of which the first is
at most five. -/
def isSixtieth (t : Text) : Bool :=
  match t with
  | [b] => Text.isAsciiDigit b
  | [a, b] => '0' ≤ a && a ≤ '5' && Text.isAsciiDigit b
  | _ => false

/-- The words that are read as true or false. -/
def truthWords : List Text :=
  ["yes", "Yes", "YES", "no", "No", "NO", "true", "True", "TRUE", "false", "False", "FALSE",
    "on", "On", "ON", "off", "Off", "OFF"].map String.toList

/-- Whether a text has the form of a floating number. -/
def isFloatForm (t : Text) : Bool :=
  let unsigned := dropSign t
  withPoint unsigned || pointFirst t || bySixty unsigned || infinite unsigned ||
    [".nan", ".NaN", ".NAN"].any fun w => t == w.toList
where
  withPoint (t : Text) : Bool :=
    match afterFigures? t with
    | some ('.' :: rest) => isExponentOrNil (rest.dropWhile isDigitOrUnderscore)
    | _ => false
  pointFirst (t : Text) : Bool :=
    match t with
    | '.' :: rest => ((afterFigures? rest).map isExponentOrNil).getD false
    | _ => false
  bySixty (t : Text) : Bool :=
    match Text.splitOn ':' t with
    | first :: second :: more =>
      let parts := second :: more
      let last := parts.getLastD []
      afterFigures? first == some [] && parts.dropLast.all isSixtieth &&
        isSixtieth (last.takeWhile (· != '.')) &&
        (match last.dropWhile (· != '.') with
          | '.' :: rest => rest.all isDigitOrUnderscore
          | _ => false)
    | _ => false
  infinite (t : Text) : Bool := [".inf", ".Inf", ".INF"].any fun w => t == w.toList

/-- Whether a text has the form of an integer. -/
def isIntegerForm (t : Text) : Bool :=
  match dropSign t with
  | '0' :: 'b' :: ds => !ds.isEmpty && ds.all fun c => c == '0' || c == '1' || c == '_'
  | '0' :: 'x' :: ds => !ds.isEmpty && ds.all fun c =>
      Text.isHexDigit c || c == '_'
  | '0' :: ds => ds.all fun c => ('0' ≤ c && c ≤ '7') || c == '_'
  | c :: rest =>
    '1' ≤ c && c ≤ '9' &&
      (match Text.splitOn ':' rest with
        | first :: parts => first.all isDigitOrUnderscore && parts.all isSixtieth
        | [] => false)
  | [] => false

/-- Figures from the start of the text on, at least `low` and at most `high`, and the rest. -/
def takeFigures? (low high : Nat) (t : Text) : Option (Text × Text) :=
  let ds := (t.take high).takeWhile Text.isAsciiDigit
  if ds.length < low then none else some (ds, t.drop ds.length)

/-- What follows a character. -/
def afterChar? (c : Char) (t : Text) : Option Text :=
  match t with
  | x :: rest => if x == c then some rest else none
  | [] => none

/-- The fields of a timestamp, as they are written. -/
structure TimestampFields where
  year : Text
  month : Text
  day : Text
  /-- Hour, minute, second and the digits of a fraction. -/
  clock : Option (Text × Text × Text × Text)
  /-- The sign, hours and minutes of a zone; universal time has no sign. -/
  zone : Option (Option Char × Text × Text)

/-- The zone at the end of a timestamp. -/
def readZone? (t : Text) : Option (Option (Option Char × Text × Text)) :=
  match t.dropWhile fun c => c == ' ' || c == '\t' with
  | [] => if t.isEmpty then some none else none
  | ['Z'] => some (some (none, [], []))
  | sign :: rest =>
    if sign == '+' || sign == '-' then
      match takeFigures? 1 2 rest with
      | some (hour, []) => some (some (some sign, hour, []))
      | some (hour, ':' :: rest) =>
        match takeFigures? 2 2 rest with
        | some (minute, []) => some (some (some sign, hour, minute))
        | _ => none
      | _ => none
    else none

/-- The time of day and the zone of a timestamp. -/
def readClock? (year month day t : Text) : Option TimestampFields := do
  let (hour, t) ← takeFigures? 1 2 t
  let t ← afterChar? ':' t
  let (minute, t) ← takeFigures? 2 2 t
  let t ← afterChar? ':' t
  let (second, t) ← takeFigures? 2 2 t
  let (fraction, t) := match t with
    | '.' :: rest => rest.span Text.isAsciiDigit
    | _ => ([], t)
  let zone ← readZone? t
  return ⟨year, month, day, some (hour, minute, second, fraction), zone⟩

/-- The fields of a timestamp: a date, and perhaps a time of day after a letter T or blanks. -/
def readTimestamp? (t : Text) : Option TimestampFields := do
  let (year, t) ← takeFigures? 4 4 t
  let t ← afterChar? '-' t
  let (month, t) ← takeFigures? 1 2 t
  let t ← afterChar? '-' t
  let (day, t) ← takeFigures? 1 2 t
  match t with
  | [] => return ⟨year, month, day, none, none⟩
  | c :: rest =>
    if c == 'T' || c == 't' then readClock? year month day rest
    else if c == ' ' || c == '\t' then
      readClock? year month day (rest.dropWhile fun c => c == ' ' || c == '\t')
    else none

/-- Whether a plain scalar has the form of a date or a moment. A bare date has two figures for
month and day. -/
def isTimestampForm (t : Text) : Bool :=
  match readTimestamp? t with
  | some f => f.clock.isSome || (f.month.length == 2 && f.day.length == 2)
  | none => false

/-- The tag that a plain scalar gets from its form. -/
def plainTag (value : Text) : Text :=
  let t := dropFinalBreak value
  if truthWords.contains t then coreTag "bool"
  else if isFloatForm t then coreTag "float"
  else if isIntegerForm t then coreTag "int"
  else if t == "<<".toList then mergeTag
  else if t.isEmpty || ["~", "null", "Null", "NULL"].any fun w => t == w.toList then
    coreTag "null"
  else if isTimestampForm t then coreTag "timestamp"
  else if t == ['='] then valueTag
  else if t == ['!'] || t == ['&'] || t == ['*'] then coreTag "yaml"
  else strTag

end Gamebook.Yaml
