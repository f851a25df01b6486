import Gamebook.Number.Decimal

/-!
# What is wrong with a definition

A definition that does not fit is refused with all its problems. A problem says
where in the definition it lies and what is wrong there; `report` is the text a
reader of the cartridge gets to see.
-/

namespace Gamebook

/-- What is wrong with one value. -/
inductive Fault where
  | missing
  | notMapping
  | notList
  | notText
  | notUnicode
  | notInteger
  | notIntegerText
  | fractional
  | notFinite
  | integerTooLong
  | unknownKind (kind : Text) (expected : List Text)
  | refused (reason : NumeralError)
  | notAllowed
deriving DecidableEq

namespace Fault

/-- The text of a fault, without the value it is about. -/
def message : Fault → Text
  | missing => "Field required".toList
  | notMapping => "Input should be a valid dictionary or object to extract fields from".toList
  | notList => "Input should be a valid list".toList
  | notText => "Input should be a valid string".toList
  | notUnicode =>
    "Input should be a valid string, unable to parse raw data as a unicode string".toList
  | notInteger => "Input should be a valid integer".toList
  | notIntegerText =>
    "Input should be a valid integer, unable to parse string as an integer".toList
  | fractional => "Input should be a valid integer, got a number with a fractional part".toList
  | notFinite => "Input should be a finite number".toList
  | integerTooLong =>
    "Unable to parse input string as an integer, exceeded maximum size".toList
  | unknownKind kind expected =>
    "Input tag '".toList ++ kind ++
      "' found using 'type' does not match any of the expected tags: ".toList ++
      Text.joinWith ", ".toList (expected.map fun e => '\'' :: e ++ ['\''])
  | refused reason => "Value error, ".toList ++ reason.message
  | notAllowed => "Extra inputs are not permitted".toList

/-- The short name of a fault. -/
def code : Fault → Text
  | missing => "missing".toList
  | notMapping => "model_attributes_type".toList
  | notList => "list_type".toList
  | notText => "string_type".toList
  | notUnicode => "string_unicode".toList
  | notInteger => "int_type".toList
  | notIntegerText => "int_parsing".toList
  | fractional => "int_from_float".toList
  | notFinite => "finite_number".toList
  | integerTooLong => "int_parsing_size".toList
  | unknownKind .. => "union_tag_invalid".toList
  | refused _ => "value_error".toList
  | notAllowed => "extra_forbidden".toList

end Fault

/-- A fault and the way to it, from the outermost field inwards. -/
structure Problem where
  path : List Text
  fault : Fault
deriving DecidableEq

namespace Problem

/-- The same problem seen from one step further out. -/
def within (step : Text) (p : Problem) : Problem := { p with path := step :: p.path }

/-- A step as it is named: one that has points in it stands between grave accents. -/
def nameStep (step : Text) : Text :=
  if step.contains '.' then '\x60' :: step ++ ['\x60'] else step

/-- The line that names the place, none at the outermost level, and the line that names the
fault. -/
def lines (p : Problem) : List Text :=
  (if p.path = [] then [] else [Text.joinWith ['.'] (p.path.map nameStep)]) ++
    ["  ".toList ++ p.fault.message ++ " [type=".toList ++ p.fault.code ++ [']']]

/-- The report on all problems of one `subject`. -/
def report (subject : Text) (ps : List Problem) : Text :=
  let count := Number.writeNat ps.length
  let noun := if ps.length = 1 then " validation error for " else " validation errors for "
  Text.joinWith ['\n'] ((count ++ noun.toList ++ subject) :: ps.flatMap lines)

end Problem

/-- What definitions are called in a report. -/
def Definition.subject : Text := "tagged-union[EntityDefinition,LoreDefinition]".toList

end Gamebook
