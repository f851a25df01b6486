import Gamebook.Text.Bytes
import Gamebook.Yaml.Mark

/-!
# What is wrong with a block

The ways in which a definitions block can fail to be read. Most faults lie at a
place in the text; some of them also name the place where the thing began that
could not be finished. The others come from the contents of a scalar whose tag
promised more than it holds.
-/

namespace Gamebook.Yaml

/-- The stage of reading that met a fault. -/
inductive Stage where
  | scanning
  | parsing
  | composing
  | constructing
deriving DecidableEq

/-- A fault at a place. -/
structure PlacedFault where
  stage : Stage
  /-- What was being read, and the place where it began, if that is told. -/
  context : Option (Text × Mark)
  problem : Text
  mark : Mark

/-- A calendar field that no date or moment can have. -/
inductive CalendarFault where
  | year (n : Nat)
  | month
  | day
  | hour
  | minute
  | second
  /-- A distance from universal time, in seconds, of a day or more. -/
  | offset (seconds : Int)
deriving DecidableEq

/-- Why a block cannot be read. -/
inductive Fault where
  /-- A character that may not stand in a block. -/
  | unacceptable (code position : Nat)
  | placed (f : PlacedFault)
  | numeral (e : NumeralError)
  /-- Digits that are none in the base. -/
  | notInteger (base : Nat) (digits : Text)
  | notFloat (digits : Text)
  /-- A number with no characters. -/
  | emptyNumber
  | notTruthValue (word : Text)
  | notTimestamp
  /-- A timestamp tag on something that is no text. -/
  | timestampOfMapping
  | calendar (f : CalendarFault)
  /-- An escape beyond the last character. -/
  | notCharacter
  /-- An escape too large to be a character number at all. -/
  | oversizedCharacter
  /-- A number of sixtieths too large for floating numbers. -/
  | oversizedFloat

/-- The text of the error for a date or a time that there is not. -/
def CalendarFault.message : CalendarFault → Text
  | year n => "year ".toList ++ Number.writeNat n ++ " is out of range".toList
  | month => "month must be in 1..12".toList
  | day => "day is out of range for month".toList
  | hour => "hour must be in 0..23".toList
  | minute => "minute must be in 0..59".toList
  | second => "second must be in 0..59".toList
  | offset seconds =>
    let days := seconds.fdiv 86400
    let rest := seconds.fmod 86400
    let parts := (if days == 0 then [] else ["days=".toList ++ Number.writeInt days]) ++
      (if rest == 0 then [] else ["seconds=".toList ++ Number.writeInt rest])
    ("offset must be a timedelta strictly between -timedelta(hours=24) and " ++
      "timedelta(hours=24), not datetime.timedelta(").toList ++
      Text.joinWith ", ".toList parts ++ ").".toList

/-- The message of a fault at a place. The place where it began is left out when it is the same. -/
def PlacedFault.message (source : Text) (f : PlacedFault) : Text :=
  let context := match f.context with
    | none => []
    | some (what, began) =>
      what :: (if began.line == f.mark.line && began.column == f.mark.column then []
        else [began.describe source])
  Text.joinWith ['\n'] (context ++ [f.problem, f.mark.describe source])

namespace Fault

/-- The text of a fault in a block, which is quoted at the place of the fault. -/
def message (source : Text) : Fault → Text
  | unacceptable code position =>
    let width := if code < 0x10000 then 4 else if code < 0x100000 then 5 else 6
    "unacceptable character #x".toList ++ Text.hexDigits width code ++
      ": special characters are not allowed\n  in \"<unicode string>\", position ".toList ++
      Number.writeNat position
  | placed f => f.message source
  | numeral e => e.message
  | notInteger base digits =>
    "invalid literal for int() with base ".toList ++ Number.writeNat base ++ ": ".toList ++
      (Text.quoted digits).take 200
  | notFloat digits => "could not convert string to float: ".toList ++ Text.quoted digits
  | emptyNumber => "string index out of range".toList
  | notTruthValue word => Text.quoted word
  | notTimestamp => "'NoneType' object has no attribute 'groupdict'".toList
  | timestampOfMapping => "expected string or bytes-like object, got 'list'".toList
  | calendar f => f.message
  | notCharacter => "chr() arg not in range(0x110000)".toList
  | oversizedCharacter => "Python int too large to convert to C int".toList
  | oversizedFloat => "int too large to convert to float".toList

end Fault

end Gamebook.Yaml
