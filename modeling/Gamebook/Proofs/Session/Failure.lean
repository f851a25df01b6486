import Gamebook.Proofs.Session.Bars

/-!
# What a failing action leaves behind

An action can fail in many ways: an unknown term, lore in the place of an entity, a stat of
the wrong kind, an index that is out of bounds, a number that is too long to be written. All
of these are found before anything is done, and the session stays as it was.

One failure comes late. The keys of a table's rows are read only once its die has been
rolled, so a key with too many digits fails an action whose roll is already in the history.
-/

namespace Gamebook.Session

/-- A roll of a stat rolls its formula, or it fails before anything is done. -/
theorem rollStat_error {term : Text} {index : Int} {s : Session} {e : SessionError}
    (h : (s.perform (.rollStat term index)).1 = .error e) :
    (s.perform (.rollStat term index)).2 = s := by
  simp only [perform, rollStat_eq] at h ⊢
  cases hstat : s.stat term index with
  | error e' => rfl
  | ok stat =>
      cases stat with
      | static label value => rfl
      | bar label current maximum => rfl
      | roll label formula => simp [hstat] at h

/-- An action that sets a bar fails before anything is done. -/
theorem setsBar_error {term : Text} {index : Int} {action : Action}
    (hset : action.setsBar term index = true) {s : Session} {e : SessionError}
    (h : (s.perform action).1 = .error e) : (s.perform action).2 = s := by
  rcases perform_of_setsBar hset s with ⟨e', hp⟩ | ⟨_, _, _, _, hp⟩
  · rw [hp]
  · rw [hp] at h
    exact absurd h (by simp)

/-- A roll of a table fails before anything is done, or for the key of a row, and then the roll is
in the history. -/
theorem rollTable_error {id : Text} {s : Session} {e : SessionError}
    (h : (s.rollTable id).1 = .error e) :
    (s.rollTable id).2 = s
      ∨ ∃ table formula label f cell e', s.cartridge.table? id = some table
        ∧ evaluation? (.rollTable id) s = some (formula, label)
        ∧ Dice.Formula.read formula = .ok f ∧ cell ∈ table.rows
        ∧ Table.rowMatches (f.roll s.source).1.total cell = .error e' ∧ e = .numeral e'
        ∧ (s.rollTable id).2 = recordRoll f label s := by
  rcases rollTable_cases id s with ⟨-, hs, -⟩ | ⟨table, formula, label, f, ht, he, hf, hs⟩
  · exact .inl hs
  · right
    rw [hs] at h ⊢
    cases hrow : Table.resolveRow (f.roll s.source).1.total table.rows with
    | ok row => rw [hrow] at h; exact absurd h (by simp)
    | error e' =>
        rw [hrow] at h
        obtain ⟨cell, hcell, hmatch⟩ := Table.resolveRow_eq_error hrow
        exact ⟨table, formula, label, f, cell, e', ht, he, hf, hcell, hmatch,
          (Except.error.inj h).symm, rfl⟩

/--
**An action that fails changes nothing, or it is a roll of a table with an overlong key.**

The card, the history, the lit rows, the bars, the source of numbers and the clock are what
they were. The exception is a roll of a table one of whose keys has more digits than are
read: the roll of the table's die has been made and recorded then, the source and the clock
have moved on by it, and all else is what it was.
-/
theorem session_after_failure {action : Action} {s : Session} {e : SessionError}
    (h : (s.perform action).1 = .error e) :
    (s.perform action).2 = s
      ∨ ∃ id table cell ds formula label f,
          action = .rollTable id ∧ s.cartridge.table? id = some table ∧ cell ∈ table.rows
          ∧ ds ∈ (Table.RowKey.read cell).numbers ∧ digitLimit < ds.length
          ∧ e = .numeral (.tooLongToRead ds.length)
          ∧ evaluation? action s = some (formula, label) ∧ Dice.Formula.read formula = .ok f
          ∧ (s.perform action).2
            = { s with
                source := (f.roll s.source).2
                clock := s.clock + 1
                history := trimHistory s.limit
                  (⟨(f.roll s.source).1, label, s.clock + 1⟩ :: s.history) } := by
  cases action with
  | rollTable id =>
      rcases rollTable_error (Fallible.map_eq_error_iff.mp h) with
        hs | ⟨table, formula, label, f, cell, e', ht, he, hf, hcell, hmatch, rfl, hs⟩
      · exact .inl hs
      · obtain ⟨ds, hds, hlong, rfl⟩ := Table.rowMatches_eq_error hmatch
        exact .inr ⟨id, table, cell, ds, formula, label, f, rfl, ht, hcell, hds, hlong, rfl, he,
          hf, hs⟩
  | rollStat term index => exact .inl (rollStat_error h)
  | setBar term index value =>
      have hset : (Action.setBar term index value).setsBar term index = true := by
        simp [Action.setsBar]
      exact .inl (setsBar_error hset h)
  | adjustBar term index delta =>
      have hset : (Action.adjustBar term index delta).setsBar term index = true := by
        simp [Action.setsBar]
      exact .inl (setsBar_error hset h)
  -- the actions that only look leave the session alone, and the others do not fail
  | statValue term index => exact .inl rfl
  | barCurrent term index => exact .inl rfl
  | select term => exact absurd h (by simp [perform])
  | jump term => exact absurd h (by simp [perform])
  | roll formula label => exact absurd h (by simp [perform])
  | highlighted id => exact absurd h (by simp [perform])
  | resetBars => exact absurd h (by simp [perform])
  | clearHistory => exact absurd h (by simp [perform])
  | history => exact absurd h (by simp [perform])
  | findTable id => exact absurd h (by simp [perform])

/-- Lore has no bars, and a session in which a bar of it was to be set is what it was. -/
theorem session_after_setBar_of_lore :
    ∃ begun, startUnder Settings.standard
        (Cartridge.ofParts [("Map".toList, .lore [] none)] []) (Dice.Source.ofList [4]) none
          = .ok begun
      ∧ ((run [.roll "1d6".toList none] begun).perform (.setBar "Map".toList 0 3)).1
        = .error (.notEntity "Map".toList)
      ∧ ((run [.roll "1d6".toList none] begun).perform (.setBar "Map".toList 0 3)).2
        = run [.roll "1d6".toList none] begun := by
  have hsame {s : Session} {e : SessionError}
      (h : (s.perform (.setBar "Map".toList 0 3)).1 = .error e) :
      (s.perform (.setBar "Map".toList 0 3)).2 = s := by
    rcases session_after_failure h with hs | ⟨_, _, _, _, _, _, _, ha, _⟩
    · exact hs
    · exact absurd ha (by simp)
  exact ⟨_, rfl, rfl, hsame rfl⟩

/-- A roll of a table that no roll is resolved by fails with its record made. -/
theorem rollTable_of_unresolved {id die : Text} {s : Session} {table : RollTable} {f : Dice.Formula}
    {e : NumeralError} (ht : s.cartridge.table? id = some table)
    (hdie : writeNumber table.die = .ok die) (hf : Dice.Formula.read ('1' :: 'd' :: die) = .ok f)
    (hrows : ∀ rolled, Table.resolveRow rolled table.rows = .error e) :
    s.rollTable id
      = (.error (.numeral e), recordRoll f (some ("Table ".toList ++ id)) s) := by
  rw [rollTable_eq ht hdie, rollFormula_ok _ _ hf]
  simp only [hrows]

/-- A table for a die of one whose only key has one digit more than is read. -/
def overlongPit : RollTable := ⟨"pit".toList, 1, [List.replicate (digitLimit + 1) '1']⟩

/-- The roll of a table with an overlong key fails, and yet it is in the history. -/
theorem session_changed_by_overlongPit :
    ∃ begun, startUnder Settings.standard (Cartridge.ofParts [] [overlongPit])
        (Dice.Source.ofList [1]) none = .ok begun
      ∧ (begun.perform (.rollTable "pit".toList)).1
        = .error (.numeral (.tooLongToRead (digitLimit + 1)))
      ∧ (begun.perform (.rollTable "pit".toList)).2 ≠ begun := by
  have hdie : writeNumber overlongPit.die = .ok ['1'] := rfl
  have hf : Dice.Formula.read ('1' :: 'd' :: ['1']) = .ok ⟨"1d1".toList, 1, 1, 0⟩ := by decide
  have hrows (rolled : Int) : Table.resolveRow rolled overlongPit.rows
      = .error (.tooLongToRead (digitLimit + 1)) :=
    Table.resolveRow_overlong (Nat.lt_succ_self digitLimit) rolled
  refine ⟨_, rfl, ?_, fun h => ?_⟩
  · rw [perform, rollTable_of_unresolved rfl hdie hf hrows]
    rfl
  · rw [perform, rollTable_of_unresolved rfl hdie hf hrows] at h
    exact absurd (congrArg Session.clock h) (by simp [recordRoll])

end Gamebook.Session
