import Gamebook.Proofs.Annotation.RegionScan
import Gamebook.Proofs.Annotation.TableBlock
import Gamebook.Proofs.Session.CompleteTable
import Gamebook.Proofs.Table.Collected
import Gamebook.Proofs.Table.FirstDie

/-!
# The die of a header is the die that is rolled

Between the header of a table and a roll of it the size of the die changes hands several times.
It is read off the header, written into the mark before the table, taken from the mark to the
button of the container, read off the button, and written once more into the formula that is
rolled. A header has its die among other words and numbers, in digits of any script and with
zeros in front; from there on only the decimal form is written.

A size that was read has a decimal form that is read back, because it is less than the first
power of ten that is too long (`Number.lt_of_read`). So each hand gets what the one before has
read (`isCarried_of_read`), and what is rolled in the end is one die with as many sides as the
header says (`rolled_die_of_header`). A die without sides gets as far as the cartridge and is
never rolled.
-/

namespace Gamebook

open Html (Node Reads)
open TableBlock (headerOf joinLines openMark tagBlock)
open TableRegion (closing container containerEnd containerTags tableId take?)

/-! ## From the header to the cartridge -/

/-- The die of a header, as it is carried to the cartridge, has `n` sides. -/
structure IsCarried (header : Text) (n : Nat) : Prop where
  /-- A table with this header is put between marks for the die. -/
  tagged : ∀ ls, headerOf (joinLines ls) = header →
    tagBlock ls = .ok (TableBlock.tagged ⟨n, joinLines ls⟩)
  /-- The mark begins a region that has the decimal form of the size. -/
  region : ∀ behind, closing <:+: behind → ∃ content rest,
    take? (openMark n ++ behind) = some (⟨Number.writeNat n, content⟩, rest)
  /-- A reader of the container of such a region meets a button that names the die. -/
  shown : ∀ idStem k content rest tags,
    Reads ('\n' :: (Text.trim content ++ (containerEnd ++ rest))) tags →
    Reads (container (tableId idStem k) ⟨Number.writeNat n, content⟩ ++ rest)
      (containerTags (Rendered.idOf idStem k) (Number.writeNat n) ++ tags)
  /-- A container with such a button gives a table with the die, whatever else is in it. -/
  collected : ∀ container button wrapper id,
    (container.findAll ["button".toList]).find? (Node.hasClass "roll-table-button".toList)
      = some button →
    (container.findAll ["div".toList]).find? (Node.hasClass "rollable-table".toList)
      = some wrapper →
    button.attribute? "data-dice".toList = some ('d' :: Number.writeNat n) →
    button.attribute? "data-table-id".toList = some id → id ≠ [] →
    Table.rollTable? container = .ok (some ⟨id, n, Table.rowKeys wrapper⟩)

theorem TableBlock.tagBlock_of_die {ls : List Text} {n : Nat}
    (h : Table.dieSize? (headerOf (joinLines ls)) = .ok (some n)) :
    tagBlock ls = .ok (tagged ⟨n, joinLines ls⟩) := by
  rw [tagBlock, h]
  rfl

/-- The mark before a table begins a region with the digits that were written into it. -/
theorem TableBlock.exists_take?_openMark {behind : Text} (n : Nat) (h : closing <:+: behind) :
    ∃ content rest, take? (openMark n ++ behind) = some (⟨Number.writeNat n, content⟩, rest) := by
  have hmark : openMark n ++ behind
      = TableRegion.opening ++ (Number.writeNat n ++ (TableRegion.openingEnd ++ behind)) := by
    show TableRegion.opening ++ Number.writeNat n ++ TableRegion.openingEnd ++ behind = _
    simp only [List.append_assoc]
  rw [hmark]
  exact TableRegion.exists_take? (Number.writeNat_ne_nil n)
    (fun c hc => Number.isDigit_of_mem_writeNat hc) h

/-- **A size that is read off a header gets to the cartridge as it is.** -/
theorem isCarried_of_read {header : Text} {n : Nat} (h : Table.dieSize? header = .ok (some n))
    (hshort : (Number.writeNat n).length ≤ digitLimit) : IsCarried header n where
  tagged ls hheader := TableBlock.tagBlock_of_die (by rw [hheader, h])
  region _ hclosing := TableBlock.exists_take?_openMark n hclosing
  shown idStem k _ _ _ hreads :=
    TableRegion.reads_container (Reference.isDigits_writeNat n) idStem k hreads
  collected _ _ _ _ hbutton hwrapper hdice htableId hid :=
    Rendered.rollTable?_of_button hbutton hwrapper hdice hshort htableId hid

namespace Session

/-! ## From the cartridge to the roll -/

/-- A die without sides can be written, and what is written is no formula. -/
theorem rollTable_of_noSides {id : Text} {s : Session} {table : RollTable}
    (ht : s.cartridge.table? id = some table) (hdie : table.die = 0) :
    s.rollTable id = (.ok none, s) := by
  have hwrite : writeNumber table.die = .ok ['0'] := by
    rw [hdie]
    rfl
  have hread : Dice.Formula.read ['1', 'd', '0'] = .error (.noSides ['1', 'd', '0']) := by decide
  rw [rollTable_eq ht hwrite, rollFormula_error _ _ hread]

/-- What a roll of a table asks for and records does not hang on the keys of its rows. -/
theorem rolled_of_die {id : Text} {s : Session} {table : RollTable} {size : Nat}
    (ht : s.cartridge.table? id = some table) (hdie : table.die = size) (hpos : size ≠ 0)
    (hshort : size < 10 ^ digitLimit) :
    (s.rollTable id).2.source = (s.rollDie id size).source
      ∧ (s.rollTable id).2.history = (s.rollDie id size).history := by
  rw [rollTable_of_die ht hdie hpos hshort]
  cases Table.resolveRow (s.source.draw 1 size).1 table.rows with
  | error e => exact ⟨rfl, rfl⟩
  | ok row => cases row <;> exact ⟨rfl, rfl⟩

/--
**The die that a header names is the die that is rolled.**

The first die of a header stands behind its first letter d, small or large, that follows no Latin
letter and is followed by a digit; it has all the digits from there on, and the pattern of a die
finds just these. Unless they are too many to be read, their value is the size that is read off
the header, the size that is carried to the cartridge, and the size that is read again off the
name on a button. If it is one at least, then the formula of one such die has a count of one, that
many sides and no modifier, and a roll of a table with that die asks the source for one number
from one to the size, and for nothing else. That number is what is recorded, and if the keys of the
rows can be read, also what is replied. If the size is zero, a roll of the table replies with
nothing, and the session stays as it is.
-/
theorem rolled_die_of_header {header ds : Text} {n : Nat} (hfirst : Table.IsFirstDie header ds)
    (hshort : ds.length ≤ digitLimit) (hvalue : Text.digitsValue ds = n) :
    (Table.diePattern.search? none header).map (fun r => r.2.groups) = some [ds]
      ∧ Table.dieSize? header = .ok (some n)
      ∧ IsCarried header n
      ∧ Table.dieSize? ('d' :: Number.writeNat n) = .ok (some n)
      ∧ (1 ≤ n → Dice.Formula.read ('1' :: 'd' :: Number.writeNat n)
          = .ok ⟨'1' :: 'd' :: Number.writeNat n, 1, n, 0⟩)
      ∧ ∀ (s : Session) id table, s.cartridge.table? id = some table → table.die = n →
          (1 ≤ n → ∃ rolled,
            s.source.draw 1 n = (rolled, (s.rollTable id).2.source)
            ∧ (s.rollTable id).2.source.asked = s.source.asked ++ [(1, (n : Int))]
            ∧ (s.rollTable id).2.history
              = trimHistory s.limit (tableRecord id n rolled (s.clock + 1) :: s.history)
            ∧ ∀ row, Table.resolveRow rolled table.rows = .ok row →
              (s.rollTable id).1
                = .ok (some ⟨id, tableRecord id n rolled (s.clock + 1), row⟩))
          ∧ (n = 0 → s.rollTable id = (.ok none, s)) := by
  have hdigits : Table.dieDigits? header = some ds := Table.dieDigits?_eq_some_iff.mpr hfirst
  have hread : Number.read ds = .ok n := by rw [Number.read_of_length hshort, hvalue]
  -- whatever the script and the zeros in front, the decimal form is not too long either
  have hless : n < 10 ^ digitLimit := Number.lt_of_read hread
  have hwritten : (Number.writeNat n).length ≤ digitLimit :=
    (Number.length_writeNat_le_iff n).mpr hless
  have hsize : Table.dieSize? header = .ok (some n) := by
    rw [Table.dieSize?_of_digits hdigits hshort, hvalue]
  have hpattern : (Table.diePattern.search? none header).map (fun r => r.2.groups)
      = (Table.dieDigits? header).map fun ds => [ds] := Table.search?_diePattern none header
  refine ⟨by rw [hpattern, hdigits]; rfl, hsize, isCarried_of_read hsize hwritten,
    Rendered.dieSize?_button hwritten, fun hpos => Dice.Formula.read_oneDie (by omega) hwritten,
    fun s id table ht hdie => ⟨fun hpos => ?_, fun hzero => ?_⟩⟩
  · obtain ⟨hsource, hhistory⟩ := rolled_of_die ht hdie (by omega) hless
    refine ⟨(s.source.draw 1 n).1, by rw [hsource]; rfl, ?_, hhistory, fun row hrow => ?_⟩
    · rw [hsource, rollDie, Dice.Source.draw_eq]
    · rw [rollTable_of_die ht hdie (by omega) hless, hrow]
  · exact rollTable_of_noSides ht (by rw [hdie, hzero]; rfl)

/-- A header with a letter before one d, another die behind the first, and digits of two scripts. -/
def goblinHeader : Text := "| Bad9 | (D\u0660\u06620) | d8 |".toList

/-- A table under that header, with a single row for all faces. -/
def goblinLines : List Text :=
  [goblinHeader, "|---|---|---|".toList, "| 1-20 | - | - |".toList]

/-- A header that names a die without sides. -/
def voidHeader : Text := "|d00|".toList

/-- What is collected of the table under the first header. -/
def goblinTable : RollTable := ⟨"t-1".toList, 20, ["1-20".toList]⟩

/-- What is collected of a table under the second header. -/
def voidTable : RollTable := ⟨"t-2".toList, 0, ["0".toList]⟩

/-- A session with a table for each of the two headers. -/
def goblinSession : Session :=
  ⟨Cartridge.ofParts [] [goblinTable, voidTable], Dice.Source.ofList [17, 3], 0, none, [], none,
    [], []⟩

theorem rolled_die_of_header_goblinAndVoid :
    Table.IsFirstDie goblinHeader "\u0660\u06620".toList
      ∧ Text.digitsValue "\u0660\u06620".toList = 20
      ∧ Table.IsFirstDie voidHeader "00".toList ∧ Text.digitsValue "00".toList = 0
      ∧ Table.dieSize? goblinHeader = .ok (some 20) ∧ Table.dieSize? voidHeader = .ok (some 0)
      ∧ tagBlock goblinLines = .ok (TableBlock.tagged ⟨20, joinLines goblinLines⟩)
      ∧ goblinSession.cartridge.table? "t-1".toList = some goblinTable
      ∧ goblinSession.cartridge.table? "t-2".toList = some voidTable
      ∧ (goblinSession.rollTable "t-1".toList).2.source.asked = [(1, 20)]
      ∧ goblinSession.rollTable "t-2".toList = (.ok none, goblinSession) := by
  have hgoblin : Table.IsFirstDie goblinHeader "\u0660\u06620".toList :=
    Table.dieDigits?_eq_some_iff.mp (by decide)
  have hvoid : Table.IsFirstDie voidHeader "00".toList :=
    Table.dieDigits?_eq_some_iff.mp (by decide)
  have htwenty : Text.digitsValue "\u0660\u06620".toList = 20 := by decide
  have hzero : Text.digitsValue "00".toList = 0 := by decide
  have htable : goblinSession.cartridge.table? "t-1".toList = some goblinTable := rfl
  have htable' : goblinSession.cartridge.table? "t-2".toList = some voidTable := rfl
  have hheader : headerOf (joinLines goblinLines) = goblinHeader := by decide
  obtain ⟨-, hsize, hcarried, -, -, hroll⟩ := rolled_die_of_header hgoblin (by decide) htwenty
  obtain ⟨-, hsize', -, -, -, hroll'⟩ := rolled_die_of_header hvoid (by decide) hzero
  obtain ⟨rolled, -, hasked, -⟩ := (hroll _ _ _ htable rfl).1 (by decide)
  exact ⟨hgoblin, htwenty, hvoid, hzero, hsize, hsize', hcarried.tagged _ hheader, htable,
    htable', hasked, (hroll' _ _ _ htable' rfl).2 rfl⟩

end Session

end Gamebook
