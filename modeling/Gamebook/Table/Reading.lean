import Gamebook.Html.Tree
import Gamebook.Table.DieSize

/-!
# Reading tables back

Finds the tables that can be rolled in a fragment, with the keys of their rows. A
row is keyed by the text of its first cell. Rows of a head are passed over where the
table has a body; where it has none, rows without a data cell are.
-/

namespace Gamebook

/-- A table that can be rolled: its identifier, its die, and the first cells of its rows. -/
structure RollTable where
  id : Text
  die : Int
  rows : List Text
deriving DecidableEq

/-- The name of a table's die. -/
def RollTable.dice (t : RollTable) : Text := 'd' :: Number.writeInt t.die

namespace Table

open Html (Node)

/-- The rows of a table. -/
def rowsOf (table : Node) : List Node :=
  match table.find? ["tbody".toList] with
  | some body => body.findAll ["tr".toList]
  | none =>
    (table.findAll ["tr".toList]).filter fun row => (row.find? ["td".toList]).isSome

/-- The text of a row's first cell, nothing if it has no cell. -/
def keyOf (row : Node) : Text :=
  match row.find? ["td".toList, "th".toList] with
  | some cell => cell.trimmedText
  | none => []

/-- The row keys of a table. -/
def rowKeys (table : Node) : List Text := (rowsOf table).map keyOf

/-- The row keys of the first table of a fragment. -/
def rowKeysOf (fragment : Text) : Except Html.HtmlError (List Text) := do
  let nodes ← Html.parse fragment
  match (Node.descendantsOf nodes).find? (Node.isNamed ["table".toList]) with
  | some table => return rowKeys table
  | none => return []

/-- The table in a container; nothing if it lacks its button, its wrapper, its die or its
identifier. -/
def rollTable? (container : Node) : Except NumeralError (Option RollTable) := do
  let button :=
    (container.findAll ["button".toList]).find? (Node.hasClass "roll-table-button".toList)
  let wrapper := (container.findAll ["div".toList]).find? (Node.hasClass "rollable-table".toList)
  match button, wrapper with
  | some button, some wrapper =>
    let die ← dieSize? ((button.attribute? "data-dice".toList).getD [])
    match die, button.attribute? "data-table-id".toList with
    | some n, some id => return if id = [] then none else some ⟨id, n, rowKeys wrapper⟩
    | _, _ => return none
  | _, _ => return none

/-- The tables of several containers. -/
def rollTablesIn : List Node → Except NumeralError (List RollTable)
  | [] => .ok []
  | c :: cs => do
    let found ← rollTable? c
    let rest ← rollTablesIn cs
    return found.toList ++ rest

/-- The tables of a fragment that can be rolled, in order. -/
def rollTablesOf (fragment : Text) : Except Html.HtmlError (List RollTable) := do
  let nodes ← Html.parse fragment
  let containers := (Node.descendantsOf nodes).filter fun n =>
    n.isNamed ["div".toList] && n.hasClass "rollable-table-container".toList
  match rollTablesIn containers with
  | .ok ts => return ts
  | .error e => throw (.numeral e)

end Table

end Gamebook
