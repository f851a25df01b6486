import Gamebook.Proofs.Dice.Draw
import Gamebook.Proofs.Dice.Formula
import Gamebook.Proofs.Session.Highlight
import Gamebook.Proofs.Table.Interval

/-!
# Rolls of a complete table

A table whose row keys leave no roll of its die out is rolled without a surprise: its size
is written as a formula, the formula is read back as one die of that size, one number is
asked for, and the row whose interval has the number lights up.
-/

namespace Gamebook.Session

open Table (IsKey Tiles)

/-- A size that can be written is the formula of one die of that size. -/
theorem read_formula_of_size {size : Nat} (hpos : size ≠ 0) (hshort : size < 10 ^ digitLimit) :
    writeNumber size = .ok (Number.writeNat size)
      ∧ Dice.Formula.read ('1' :: 'd' :: Number.writeNat size)
        = .ok ⟨'1' :: 'd' :: Number.writeNat size, 1, size, 0⟩ := by
  have hlength : (Number.writeNat size).length ≤ digitLimit :=
    (Number.length_writeNat_le_iff size).mpr hshort
  refine ⟨?_, Dice.Formula.read_oneDie hpos hlength⟩
  have hwrite : Number.write size = .ok (Number.writeNat size) := by
    rw [Number.write, Int.natAbs_natCast, if_pos hlength, Number.writeInt,
      if_neg (by omega), Int.natAbs_natCast]
  rw [writeNumber, hwrite]
  rfl

/-- One die is rolled by drawing one number. -/
theorem roll_oneDie (written : Text) (sides : Int) (source : Dice.Source) :
    Dice.Formula.roll ⟨written, 1, sides, 0⟩ source
      = (⟨written, [(source.draw 1 sides).1], 0, (source.draw 1 sides).1⟩,
        (source.draw 1 sides).2) := by
  simp [Dice.Formula.roll, Dice.Source.drawMany]

/-- The record of a roll of a table that came to one number. -/
def tableRecord (id : Text) (size : Nat) (rolled : Int) (tick : Nat) : Record :=
  ⟨⟨'1' :: 'd' :: Number.writeNat size, [rolled], 0, rolled⟩, some ("Table ".toList ++ id), tick⟩

/-- A session once the die of a table is rolled and recorded, before the row is looked up. -/
def rollDie (id : Text) (size : Nat) (s : Session) : Session :=
  { s with
    source := (s.source.draw 1 size).2
    clock := s.clock + 1
    history := trimHistory s.limit
      (tableRecord id size (s.source.draw 1 size).1 (s.clock + 1) :: s.history) }

/-- A roll of a table whose size can be written draws one number and looks its row up. -/
theorem rollTable_of_die {id : Text} {s : Session} {table : RollTable} {size : Nat}
    (ht : s.cartridge.table? id = some table) (hdie : table.die = size) (hpos : size ≠ 0)
    (hshort : size < 10 ^ digitLimit) :
    s.rollTable id
      = match Table.resolveRow (s.source.draw 1 size).1 table.rows with
        | .error e => (.error (.numeral e), s.rollDie id size)
        | .ok row =>
          (.ok (some ⟨id, tableRecord id size (s.source.draw 1 size).1 (s.clock + 1), row⟩),
            row.elim (s.rollDie id size) fun row => (s.rollDie id size).highlight id row) := by
  obtain ⟨hwrite, hread⟩ := read_formula_of_size hpos hshort
  have hrecord : recordRoll ⟨'1' :: 'd' :: Number.writeNat size, 1, size, 0⟩
      (some ("Table ".toList ++ id)) s = s.rollDie id size := by
    simp only [recordRoll, roll_oneDie, rollDie, tableRecord]
  rw [rollTable_eq ht (hdie ▸ hwrite), rollFormula_ok _ _ hread, hrecord]
  simp only [roll_oneDie]
  cases Table.resolveRow (s.source.draw 1 size).1 table.rows with
  | error e => rfl
  | ok row => cases row <;> rfl

/-- The row that the number leads to lights up. -/
theorem rollTable_of_size {id : Text} {s : Session} {table : RollTable} {size row : Nat}
    (ht : s.cartridge.table? id = some table) (hdie : table.die = size) (hpos : size ≠ 0)
    (hshort : size < 10 ^ digitLimit)
    (hrow : Table.resolveRow (s.source.draw 1 size).1 table.rows = .ok (some row)) :
    s.rollTable id
      = (.ok (some ⟨id, tableRecord id size (s.source.draw 1 size).1 (s.clock + 1), some row⟩),
        { s with
          source := (s.source.draw 1 size).2
          clock := s.clock + 1
          history := trimHistory s.limit
            (tableRecord id size (s.source.draw 1 size).1 (s.clock + 1) :: s.history)
          highlights := putEntry id row s.highlights }) := by
  rw [rollTable_of_die ht hdie hpos hshort, hrow]
  rfl

/--
**A complete table always yields a row.**

The keys of the table stand for intervals that follow each other from one to the size of its
die. Whatever was done before, if the next number of the source is one of the die, a roll of
the table asks for that number and no other, makes one record of it, and replies with the
one row whose interval has it. That row lights up.
-/
theorem rollTable_of_complete {settings : Settings} {cartridge : Cartridge}
    {source : Dice.Source} {limit : Option Int} {begun : Session}
    (h : startUnder settings cartridge source limit = .ok begun) (actions : List Action)
    {id : Text} {table : RollTable} (ht : cartridge.table? id = some table) {size : Nat}
    (hdie : table.die = size) (hshort : size < 10 ^ digitLimit) {parts : List (Nat × Nat)}
    (hparts : Tiles 1 size parts)
    (hkeys : List.Forall₂ (fun p key => IsKey p.1 p.2 key) parts table.rows) {rolled : Int}
    (hnext : ((run actions begun).source.draw 1 size).1 = rolled) (hlow : 1 ≤ rolled)
    (hhigh : rolled ≤ size) :
    ∃ row record s', (run actions begun).perform (.rollTable id)
          = (.ok (.tableRoll (some ⟨id, record, some row⟩)), s')
      ∧ (∃ p : Nat × Nat, parts[row]? = some p ∧ p.1 ≤ rolled ∧ rolled ≤ p.2)
      ∧ (∀ (other : Nat) (p : Nat × Nat), parts[other]? = some p → p.1 ≤ rolled →
          rolled ≤ p.2 → other = row)
      ∧ record.roll = ⟨'1' :: 'd' :: Number.writeNat size, [rolled], 0, rolled⟩
      ∧ s'.history = trimHistory begun.limit (record :: (run actions begun).history)
      ∧ s'.source.asked = (run actions begun).source.asked ++ [(1, (size : Int))]
      ∧ s'.source.upcoming = (run actions begun).source.upcoming.drop 1
      ∧ s'.highlighted id = some row := by
  obtain ⟨hcartridge, hlimit⟩ := run_fixed actions begun
  rw [(highlights_start h).1] at hcartridge
  rw [← hlimit]
  generalize run actions begun = s at hcartridge hnext
  subst hnext
  obtain ⟨row, hrow, hin, hunique⟩ := Table.resolveRow_of_tiles hparts hkeys hshort hlow hhigh
  have hroll := rollTable_of_size (by rw [hcartridge, ht]) hdie (by omega) hshort hrow
  refine ⟨row, _, _, by rw [perform, hroll]; rfl, hin, hunique, rfl, rfl, ?_, ?_, ?_⟩
  · rw [Dice.Source.draw_eq]
  · rw [Dice.Source.draw_eq]
  · show entryOf? id (putEntry id row s.highlights) = some row
    rw [entryOf?_putEntry, if_pos rfl]

/-- A table for a die of six, its keys written in three ways. -/
def lootTable : RollTable := ⟨"loot".toList, 6, [" 1 - 3".toList, "4".toList, "5–06".toList]⟩

theorem rollTable_of_complete_lootTable :
    ∃ begun, startUnder Settings.standard (Cartridge.ofParts [] [lootTable])
        (Dice.Source.ofList [2, 4]) none = .ok begun
      ∧ ((run [.rollTable "loot".toList, .clearHistory] begun).source.draw 1 6).1 = 4
      ∧ ∃ row record s',
        (run [.rollTable "loot".toList, .clearHistory] begun).perform (.rollTable "loot".toList)
            = (.ok (.tableRoll (some ⟨"loot".toList, record, some row⟩)), s')
          ∧ s'.highlighted "loot".toList = some row := by
  have hkeys : List.Forall₂ (fun p key => IsKey p.1 p.2 key) [(1, 3), (4, 4), (5, 6)]
      lootTable.rows := by
    -- The blanks and the figures of each key are checked by evaluating `List.all`.
    refine .cons ?_ (.cons ?_ (.cons ?_ .nil))
    · exact @IsKey.range 1 3 [' '] ['1'] [' '] [' '] ['3'] [] '-' (List.all_eq_true.mp rfl)
        (by decide) .plain .plain
    · exact @IsKey.single 4 4 [] ['4'] [] rfl (List.all_eq_true.mp rfl) .plain
    · exact @IsKey.range 5 6 [] ['5'] [] [] ['0', '6'] [] '–' (List.all_eq_true.mp rfl)
        (by decide) .plain (.other (by simp) (List.all_eq_true.mp rfl) (by decide) (by decide))
  obtain ⟨row, record, s', hperform, -, -, -, -, -, -, hlit⟩ :=
    @rollTable_of_complete Settings.standard (Cartridge.ofParts [] [lootTable])
      (Dice.Source.ofList [2, 4]) none _ rfl [.rollTable "loot".toList, .clearHistory]
      "loot".toList lootTable rfl 6 rfl ((Number.length_writeNat_le_iff 6).mp (by decide))
      _ (by decide) hkeys 4 rfl (by decide) (by decide)
  exact ⟨_, rfl, rfl, row, record, s', hperform, hlit⟩

end Gamebook.Session
