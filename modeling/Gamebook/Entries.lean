import Gamebook.Text.Basic

/-!
# Entries

A list of keys with their values, in the order in which the keys first came. A key
comes once: a new value for it takes the place of the old one.
-/

namespace Gamebook

/-- Puts a value under a key: a known key keeps its place, a new one goes last. -/
def putEntry {α : Type} (key : Text) (value : α) : List (Text × α) → List (Text × α)
  | [] => [(key, value)]
  | (k, v) :: rest => if k = key then (k, value) :: rest else (k, v) :: putEntry key value rest

/-- What stands under a key. -/
def entryOf? {α : Type} (key : Text) (entries : List (Text × α)) : Option α :=
  (entries.find? fun e => e.1 == key).map (·.2)

end Gamebook
