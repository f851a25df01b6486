import Gamebook.Number.Shortest
import Gamebook.Text.Quoted
import Gamebook.Value.Basic

/-!
# How values are spelled

A value that stands where a text is expected is spelled out. On its own a text is
spelled as it is, its code points that are no characters as escapes; inside a
container it is quoted. A container that holds itself shows dots where it comes
back. Only an integer too long to be written makes a spelling fail.
-/

namespace Gamebook.Value

/-- What a container shows in the place of itself. -/
def dots (isMap : Bool) : Text := (if isMap then "\x7b...\x7d" else "[...]").toList

/-- Whether a value is a map. -/
def isMap : Value → Bool
  | map _ => true
  | _ => false

mutual

/-- The form of a value inside a container, while the knots in `untied` are being shown. -/
def inspectWithin (untied : List Nat) : Value → Except NumeralError Text
  | null => .ok "None".toList
  | bool b => .ok (if b then "True" else "False").toList
  | int z => Number.write z
  | real x => .ok x.write
  | text t => .ok (Text.quoted t)
  | broken codes => .ok (Text.quotedCodes codes)
  | bytes bs => .ok (Text.quotedBytes bs)
  | date d => .ok d.inspect
  | moment m => .ok m.inspect
  | list items => do
    let parts ← inspectItems untied items
    return '[' :: Text.joinWith ", ".toList parts ++ [']']
  | pair a b => do
    let first ← inspectWithin untied a
    let second ← inspectWithin untied b
    return '(' :: first ++ ", ".toList ++ second ++ [')']
  | map entries => do
    let parts ← inspectEntries untied entries
    return '\x7b' :: Text.joinWith ", ".toList parts ++ ['\x7d']
  | set items => do
    let parts ← inspectItems untied items
    return if parts.isEmpty then "set()".toList
      else '\x7b' :: Text.joinWith ", ".toList parts ++ ['\x7d']
  | knot label content =>
    if untied.contains label then .ok (dots content.isMap)
    else inspectWithin (label :: untied) content
  | loop _ isMap => .ok (dots isMap)

/-- The items of a list, spelled out one by one. -/
def inspectItems (untied : List Nat) : List Value → Except NumeralError (List Text)
  | [] => .ok []
  | v :: vs => do
    let first ← inspectWithin untied v
    let rest ← inspectItems untied vs
    return first :: rest

/-- The entries of a map, spelled out one by one. -/
def inspectEntries (untied : List Nat) : List (Value × Value) → Except NumeralError (List Text)
  | [] => .ok []
  | (k, v) :: es => do
    let key ← inspectWithin untied k
    let value ← inspectWithin untied v
    let rest ← inspectEntries untied es
    return (key ++ ": ".toList ++ value) :: rest

end

/-- The form of a value inside a container. -/
def inspect (v : Value) : Except NumeralError Text := inspectWithin [] v

/-- The spelling of a value on its own. -/
def spell : Value → Except NumeralError Text
  | text t => .ok t
  | broken codes => .ok (Text.ofCodePoints codes)
  | date d => .ok d.write
  | moment m => .ok m.write
  | v => v.inspect

/-- The name of a value's kind. -/
def kindName : Value → Text
  | null => "NoneType".toList
  | bool _ => "bool".toList
  | int _ => "int".toList
  | real _ => "float".toList
  | text _ | broken _ => "str".toList
  | bytes _ => "bytes".toList
  | date _ => "date".toList
  | moment _ => "datetime".toList
  | list _ => "list".toList
  | pair .. => "tuple".toList
  | map _ => "dict".toList
  | set _ => "set".toList
  | knot _ content => if content.isMap then "dict".toList else "list".toList
  | loop _ isMap => if isMap then "dict".toList else "list".toList

end Gamebook.Value
