import Gamebook.Cartridge
import Gamebook.Dice.Roll
import Gamebook.Table.RowKey
import Gamebook.Text.Quoted

/-!
# Sessions

A session is what one reader does with a cartridge: the card that is open, the rolls
that were made, the rows that they lit up, and the bars that were changed. The
cartridge itself never changes.

Each roll is recorded with the time of a clock that counts its readings. The records
are kept newest first, and the oldest go when there are too many.
-/

namespace Gamebook

/-- A roll with its label and its time. -/
structure Record where
  roll : Dice.Roll
  label : Option Text
  tick : Nat
deriving DecidableEq

/-- A roll of a table and the row that it hit. -/
structure TableRoll where
  table : Text
  record : Record
  row : Option Nat
deriving DecidableEq

/-- The definition of a term, as it is shown. -/
structure Card where
  term : Text
  definition : Definition
deriving DecidableEq

/-- A cartridge that is played: what was rolled, what is shown and how the bars stand. -/
structure Session where
  cartridge : Cartridge
  source : Dice.Source
  /-- How often the clock was read. -/
  clock : Nat
  /-- The greatest number of records that are kept; nothing for no bound. -/
  limit : Option Nat
  /-- The records, newest first. -/
  history : List Record
  card : Option Card
  /-- The row that each table hit last. -/
  highlights : List (Text × Nat)
  /-- The values that bars were set to, by term and by index as it was given. -/
  bars : List ((Text × Int) × Int)

/-- Why an action fails, or a session does not begin. -/
inductive SessionError where
  | unknownTerm (term : Text)
  | notEntity (term : Text)
  /-- The term has no stat with this index. -/
  | noStat
  /-- The index is more than any list can be long, or as much less. -/
  | oversizedIndex
  | notRollStat (term : Text) (index : Int)
  | notBar (term : Text) (index : Int)
  | numeral (e : NumeralError)
  | negativeLimit
  /-- The limit is more than a list can be long, or as much less. -/
  | oversizedLimit
deriving DecidableEq

/-- The text of the error for an action that failed. -/
def SessionError.message : SessionError → Text
  | unknownTerm term => Text.quoted term
  | notEntity term => Text.quoted term ++ " is not an entity".toList
  | noStat => "list index out of range".toList
  | oversizedIndex => "cannot fit 'int' into an index-sized integer".toList
  | notRollStat term index => statIs term index "not a roll stat"
  | notBar term index => statIs term index "not a bar stat"
  | numeral e => e.message
  | negativeLimit => "maxlen must be non-negative".toList
  | oversizedLimit => "Python int too large to convert to C ssize_t".toList
where
  statIs (term : Text) (index : Int) (what : String) : Text :=
    "Stat ".toList ++ Number.writeInt index ++ " of ".toList ++ Text.quoted term ++
      " is ".toList ++ what.toList

namespace Session

/-- One more than a list can be long: 2 to the 63rd. -/
def lengthBound : Int := 9223372036854775808

/-- Whether an integer is too large or too small for the length of a list. -/
def isOversized (z : Int) : Bool := z < -lengthBound || lengthBound ≤ z

/-- The limit that an integer stands for. -/
def limitOf : Option Int → Except SessionError (Option Nat)
  | none => .ok none
  | some z =>
    if isOversized z then .error .oversizedLimit
    else if z < 0 then .error .negativeLimit
    else .ok (some z.toNat)

/-- A session in which nothing has happened. -/
def start (cartridge : Cartridge) (source : Dice.Source) (limit : Option Int) :
    Except SessionError Session :=
  (limitOf limit).map fun limit => ⟨cartridge, source, 0, limit, [], none, [], []⟩

/-- A session in which nothing has happened, with the limit of the settings where none is given. -/
def startUnder (settings : Settings) (cartridge : Cartridge) (source : Dice.Source)
    (limit : Option Int) : Except SessionError Session :=
  start cartridge source (limit.or settings.historyLimit)

/-- Keeps the newest records. -/
def trimHistory (limit : Option Nat) (records : List Record) : List Record :=
  match limit with
  | some n => records.take n
  | none => records

/-- Puts a roll into the history. -/
def record (roll : Dice.Roll) (label : Option Text) (s : Session) : Record × Session :=
  let new : Record := ⟨roll, label, s.clock + 1⟩
  (new, { s with clock := s.clock + 1, history := trimHistory s.limit (new :: s.history) })

/-- The totals of the history, newest first. -/
def totals (s : Session) : List Int := s.history.map fun r => r.roll.total

/-! ## Cards -/

/-- The definition of a term. -/
def definition? (term : Text) (s : Session) : Option Definition :=
  entryOf? term s.cartridge.glossary

/-- Opens the card of a term; a term without a definition leaves the open card as it is. -/
def select (term : Text) (s : Session) : Option Card × Session :=
  match s.definition? term with
  | some d => (some ⟨term, d⟩, { s with card := some ⟨term, d⟩ })
  | none => (none, s)

/-- The heading that a term leads to. -/
def jumpTarget (term : Text) (s : Session) : Option Text :=
  (s.definition? term).bind Definition.jumpTarget

/-! ## Stats -/

/-- The entry of a list with an index; negative indexes count from the end. -/
def indexed? {α : Type} (xs : List α) (index : Int) : Option α :=
  if 0 ≤ index then xs[index.toNat]?
  else if -index ≤ xs.length then xs[(xs.length + index).toNat]?
  else none

/-- A stat of a term. -/
def stat (term : Text) (index : Int) (s : Session) : Except SessionError Stat :=
  match s.definition? term with
  | none => .error (.unknownTerm term)
  | some (.lore ..) => .error (.notEntity term)
  | some (.entity stats) =>
    if isOversized index then .error .oversizedIndex
    else
      match indexed? stats index with
      | some stat => .ok stat
      | none => .error .noStat

/-- The current and the greatest value of a bar, as the cartridge has them. -/
def bar (term : Text) (index : Int) (s : Session) : Except SessionError (Int × Int) := do
  match ← s.stat term index with
  | .bar _ current maximum => return (current, maximum)
  | _ => .error (.notBar term index)

/-- The value that a bar was set to. -/
def setValue? (term : Text) (index : Int) (s : Session) : Option Int :=
  (s.bars.find? fun b => b.1 == (term, index)).map (·.2)

/-- The value of a bar. -/
def barCurrent (term : Text) (index : Int) (s : Session) : Except SessionError Int := do
  let (current, _) ← s.bar term index
  return (s.setValue? term index).getD current

/-- A value within the bounds of a bar. -/
def clamp (maximum value : Int) : Int := max 0 (min value maximum)

/-- Sets a bar to a value, within its bounds. -/
def setBar (term : Text) (index value : Int) (s : Session) :
    Except SessionError (Int × Session) := do
  let (_, maximum) ← s.bar term index
  let value := clamp maximum value
  let others := s.bars.filter fun b => b.1 != (term, index)
  return (value, { s with bars := ((term, index), value) :: others })

/-- Adds to the value of a bar, within its bounds. -/
def adjustBar (term : Text) (index delta : Int) (s : Session) :
    Except SessionError (Int × Session) := do
  s.setBar term index ((← s.barCurrent term index) + delta)

/-- A number in decimal form. -/
def writeNumber (z : Int) : Except SessionError Text :=
  (Number.write z).mapError SessionError.numeral

/-- What a stat shows. -/
def statValue (term : Text) (index : Int) (s : Session) : Except SessionError Text := do
  match ← s.stat term index with
  | .static _ value => return value
  | .roll _ formula => return formula
  | .bar _ _ maximum =>
    let current ← writeNumber (← s.barCurrent term index)
    return current ++ '/' :: (← writeNumber maximum)

/-! ## Rolls -/

/-- Rolls a formula and records it; a text that is no formula changes nothing. -/
def rollFormula (formula : Text) (label : Option Text) (s : Session) : Option Record × Session :=
  match Dice.roll? formula s.source with
  | (none, source) => (none, { s with source := source })
  | (some roll, source) =>
    let (new, s) := { s with source := source }.record roll label
    (some new, s)

/-- Rolls the formula of a stat. -/
def rollStat (term : Text) (index : Int) (s : Session) :
    Except SessionError (Option Record × Session) := do
  match ← s.stat term index with
  | .roll label formula => return s.rollFormula formula (some (term ++ ": ".toList ++ label))
  | _ => .error (.notRollStat term index)

/-- Lights up a row of a table. -/
def highlight (id : Text) (row : Nat) (s : Session) : Session :=
  { s with highlights := putEntry id row s.highlights }

/-- The row of a table that lights up. -/
def highlighted (id : Text) (s : Session) : Option Nat := entryOf? id s.highlights

/-- Rolls the die of a table and lights up the row that it hits. A roll that hits no row leaves the
last row lit. A row key that cannot be read fails the action, but the roll has been made. -/
def rollTable (id : Text) (s : Session) : Except SessionError (Option TableRoll) × Session :=
  match s.cartridge.table? id with
  | none => (.ok none, s)
  | some table =>
    match writeNumber table.die with
    | .error e => (.error e, s)
    | .ok die =>
      match s.rollFormula ('1' :: 'd' :: die) (some ("Table ".toList ++ id)) with
      | (none, s) => (.ok none, s)
      | (some new, s) =>
        match Table.resolveRow new.roll.total table.rows with
        | .error e => (.error (.numeral e), s)
        | .ok none => (.ok (some ⟨id, new, none⟩), s)
        | .ok (some row) => (.ok (some ⟨id, new, some row⟩), s.highlight id row)

end Session

end Gamebook
