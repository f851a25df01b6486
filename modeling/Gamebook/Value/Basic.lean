import Gamebook.Number.Binary64
import Gamebook.Value.Calendar

/-!
# Values of a definitions block

What a definitions block denotes before it is checked: scalars of several kinds,
lists, mappings and sets. A container may hold itself. Such a container is a `knot`
with a label, and `loop` with that label stands for it inside; `head` unties the
outermost knot, so that a reader meets ordinary containers only.
-/

namespace Gamebook

/-- A value of a block of definitions. -/
inductive Value where
  | null
  | bool (b : Bool)
  | int (z : Int)
  | real (x : Binary64)
  | text (t : Text)
  /-- A text with code points that are no characters. -/
  | broken (codes : List Nat)
  | bytes (bs : List Nat)
  | date (d : Date)
  | moment (m : Moment)
  | list (items : List Value)
  | pair (a b : Value)
  | map (entries : List (Value × Value))
  | set (items : List Value)
  | knot (label : Nat) (content : Value)
  | loop (label : Nat) (isMap : Bool)

namespace Value

/-- The mapping entries of a value's fields. -/
abbrev Entries := List (Value × Value)

mutual

/-- Puts `whole` in the place of every loop with the label. -/
def untie (label : Nat) (whole : Value) : Value → Value
  | list items => list (untieItems label whole items)
  | pair a b => pair (untie label whole a) (untie label whole b)
  | map entries => map (untieEntries label whole entries)
  | set items => set (untieItems label whole items)
  | knot l content => if l == label then knot l content else knot l (untie label whole content)
  | loop l isMap => if l == label then whole else loop l isMap
  | v => v

/-- The items of a list with a value untied in each. -/
def untieItems (label : Nat) (whole : Value) : List Value → List Value
  | [] => []
  | v :: vs => untie label whole v :: untieItems label whole vs

/-- The entries of a map with a value untied in each. -/
def untieEntries (label : Nat) (whole : Value) : List (Value × Value) → List (Value × Value)
  | [] => []
  | (k, v) :: es => (untie label whole k, untie label whole v) :: untieEntries label whole es

end

/-- The value with its outermost knot untied. -/
def head : Value → Value
  | knot label content => untie label (knot label content) content
  | v => v

/-- A text, kept as code points when one of them is no character. -/
def ofCodes (codes : List Nat) : Value :=
  let t := codes.map Char.ofNat
  if t.map Char.toNat == codes then text t else broken codes

/-- The number that a truth value, an integer or a floating number is as a key. -/
def keyNumber? : Value → Option (Int ⊕ Binary64)
  | bool b => some (.inl (if b then 1 else 0))
  | int z => some (.inl z)
  | real x => some (match x.toInt? with
    | some z => .inl z
    | none => .inr x)
  | _ => none

/-- Whether two scalars are one key of a mapping: numbers by value, whatever their kind. -/
def sameKey (a b : Value) : Bool :=
  match a.keyNumber?, b.keyNumber? with
  | some x, some y => x == y
  | none, none =>
    match a, b with
    | null, null => true
    | text s, text t => s == t
    | broken s, broken t => s == t
    | bytes s, bytes t => s == t
    | date d, date e => d == e
    | moment m, moment n => m.equals n
    | _, _ => false
  | _, _ => false

/-- Sets an entry: an existing key keeps its place and its first form, a new one goes last. -/
def insertEntry (key value : Value) : Entries → Entries
  | [] => [(key, value)]
  | (k, v) :: es =>
    if k.sameKey key then (k, value) :: es else (k, v) :: insertEntry key value es

/-- The value of a field. -/
def field? (name : Text) (entries : Entries) : Option Value :=
  (entries.find? fun e => e.1.sameKey (text name)).map (·.2)

/-- Whether a mapping has a field. -/
def hasField (name : Text) (entries : Entries) : Bool := (field? name entries).isSome

end Value

end Gamebook
