import Gamebook.Proofs.Entries
import Gamebook.Proofs.Session.Run
import Gamebook.Proofs.Table.RowKey

/-!
# The row that lights up

A session remembers one row for each table. Beside it this file puts the full account of a
run: `hits` lists every roll of a table that hit a row, with its total, oldest first. The
row that lights up is that of the newest hit, and no other roll or action touches it.

A hit says more than its row. The total of the roll leads to that row and to no later one,
which is what `Table.IsLastMatch` says.
-/

namespace Gamebook.Session

/-- The total of a roll of a table and the row it hit, as the reply tells them. -/
def hit? (id : Text) (action : Action) (s : Session) : Option (Int × Nat) :=
  if action = .rollTable id then
    match (s.perform action).1 with
    | .ok (.tableRoll (some roll)) => roll.row.map fun row => (roll.record.roll.total, row)
    | _ => none
  else none

/-- The rolls of a table that hit a row, oldest first. -/
def hits (id : Text) (actions : List Action) (s : Session) : List (Int × Nat) :=
  account (hit? id) actions s

/-- Only a roll of the table hits a row of it. -/
theorem hit?_of_ne {id : Text} {action : Action} (h : action ≠ .rollTable id) (s : Session) :
    hit? id action s = none := if_neg h

theorem hit?_rollTable (id : Text) (s : Session) :
    hit? id (.rollTable id) s
      = match (s.rollTable id).1 with
        | .ok (some roll) => roll.row.map fun row => (roll.record.roll.total, row)
        | _ => none := by
  rw [hit?, if_pos rfl]
  show (match (s.rollTable id).1.map Reply.tableRoll with
    | .ok (.tableRoll (some roll)) => roll.row.map fun row => (roll.record.roll.total, row)
    | _ => none) = _
  cases (s.rollTable id).1 with
  | error e => rfl
  | ok roll => cases roll <;> rfl

/-- A hit leads to the last row that matches its total. -/
theorem hit?_eq_some {id : Text} {action : Action} {s : Session} {total : Int} {row : Nat}
    (h : hit? id action s = some (total, row)) :
    ∃ table, s.cartridge.table? id = some table ∧ Table.IsLastMatch total table.rows row := by
  by_cases ha : action = .rollTable id
  · subst ha
    rw [hit?_rollTable] at h
    rcases rollTable_cases id s with ⟨-, -, hnone⟩ | ⟨table, formula, label, f, ht, he, hf, hs⟩
    · split at h
      · rename_i roll hroll
        exact absurd hroll (hnone roll)
      · exact absurd h (by simp)
    · refine ⟨table, ht, ?_⟩
      rw [hs] at h
      cases hrow : Table.resolveRow (f.roll s.source).1.total table.rows with
      | error e => simp [hrow] at h
      | ok found =>
          simp only [hrow] at h
          obtain ⟨row', hfound, heq⟩ := Option.map_eq_some_iff.mp h
          injection heq with htotal hsame
          subst htotal; subst hsame
          exact (Table.resolveRow_eq_iff hrow row').mp hfound
  · rw [hit?_of_ne ha] at h
    exact absurd h (by simp)

/-- A roll lights no row of another table. -/
theorem entryOf?_litAfter {id : Text} {action : Action} (h : action ≠ .rollTable id) (total : Int)
    (s : Session) : entryOf? id (litAfter action total s) = entryOf? id s.highlights := by
  unfold litAfter
  split
  · rename_i id'
    have hne : id' ≠ id := fun he => h (by rw [he])
    split
    · rw [entryOf?_putEntry, if_neg hne]
    · rfl
  · rfl

/-- **One step.** A hit lights its row, and nothing else changes the row that is lit. -/
theorem highlighted_perform (id : Text) (action : Action) (s : Session) :
    (s.perform action).2.highlighted id
      = ((hit? id action s).map Prod.snd).or (s.highlighted id) := by
  by_cases ha : action = .rollTable id
  · subst ha
    show entryOf? id (s.rollTable id).2.highlights = _
    rw [hit?_rollTable]
    rcases rollTable_cases id s with ⟨-, hsame, hnone⟩ | ⟨table, formula, label, f, -, -, -, hs⟩
    · rw [hsame]
      split
      · rename_i roll hroll
        exact absurd hroll (hnone roll)
      · rfl
    · rw [hs]
      cases Table.resolveRow (f.roll s.source).1.total table.rows with
      | error e => rfl
      | ok found =>
          cases found with
          | none => rfl
          | some row =>
              show entryOf? id (putEntry id row s.highlights) = some row
              rw [entryOf?_putEntry, if_pos rfl]
  · rw [hit?_of_ne ha]
    have heffect := perform_effect action s
    generalize (s.perform action).2 = s' at heffect
    cases heffect with
    | clears hc => rfl
    | quiet card bars hne hq => rfl
    | @rolls formula label f hne he hf => exact entryOf?_litAfter ha _ s

/-- **A whole run.** The row that lights up is that of the newest hit. -/
theorem highlighted_run (id : Text) {s : Session} (hnone : s.highlighted id = none)
    (actions : List Action) :
    (run actions s).highlighted id = (hits id actions s).getLast?.map Prod.snd := by
  induction actions using List.reverseRecOn with
  | nil => exact hnone
  | append_singleton actions action ih =>
      rw [run_snoc, highlighted_perform, ih, hits, hits, account_snoc]
      cases hit? id action (run actions s) with
      | none => simp
      | some h => simp

/-- Every hit of a run leads to the last row that matches its total, in the table that the
cartridge has under that name. -/
theorem isLastMatch_of_mem_hits {id : Text} {actions : List Action} {s : Session} {total : Int}
    {row : Nat} (h : (total, row) ∈ hits id actions s) :
    ∃ table, s.cartridge.table? id = some table ∧ Table.IsLastMatch total table.rows row := by
  induction actions using List.reverseRecOn with
  | nil => exact absurd h (by simp [hits])
  | append_singleton actions action ih =>
      rw [hits, account_snoc, List.mem_append, Option.mem_toList] at h
      rcases h with h | h
      · exact ih h
      · obtain ⟨table, ht, hlast⟩ := hit?_eq_some h
        rw [(run_fixed actions s).1] at ht
        exact ⟨table, ht, hlast⟩

theorem highlights_start {settings : Settings} {cartridge : Cartridge} {source : Dice.Source}
    {limit : Option Int} {begun : Session}
    (h : startUnder settings cartridge source limit = .ok begun) :
    begun.cartridge = cartridge ∧ begun.highlights = [] := by
  rw [eq_of_start h]
  exact ⟨rfl, rfl⟩

/--
**The row of a table that lights up, after any actions.**

It is the row of the newest roll of that table that hit one, and no row if none did. The
row is one of the table that the cartridge has under that name, its key matches the total
of that roll, and no later key does. An action that is no hit of the table leaves the row
as it is.
-/
theorem highlighted_after_actions {settings : Settings} {cartridge : Cartridge}
    {source : Dice.Source} {limit : Option Int} {begun : Session}
    (h : startUnder settings cartridge source limit = .ok begun) (actions : List Action)
    (id : Text) :
    (run actions begun).highlighted id = (hits id actions begun).getLast?.map Prod.snd
      ∧ (∀ total row, (hits id actions begun).getLast? = some (total, row) →
          ∃ table, cartridge.table? id = some table ∧ row < table.rows.length
            ∧ (∃ key, table.rows[row]? = some key ∧ Table.rowMatches total key = .ok true)
            ∧ ∀ later key, row < later → table.rows[later]? = some key →
                Table.rowMatches total key = .ok false)
      ∧ ∀ action, hit? id action (run actions begun) = none →
          ((run actions begun).perform action).2.highlighted id
            = (run actions begun).highlighted id := by
  obtain ⟨hcartridge, hempty⟩ := highlights_start h
  have hnone : begun.highlighted id = none := by rw [highlighted, hempty]; rfl
  refine ⟨highlighted_run id hnone actions, ?_, ?_⟩
  · intro total row hlast
    obtain ⟨table, ht, hmatch⟩ := isLastMatch_of_mem_hits (List.mem_of_getLast? hlast)
    rw [hcartridge] at ht
    exact ⟨table, ht, hmatch.lt, hmatch.matched, hmatch.last⟩
  · intro action hmiss
    rw [highlighted_perform, hmiss]
    rfl

/-- Two tables rolled in turn: the second roll of the pit hits no row, and its first row stays. -/
def tableRolls : List Action :=
  [.rollTable "pit".toList, .rollTable "cellar".toList, .rollTable "pit".toList, .clearHistory,
    .rollTable "attic".toList]

theorem highlighted_after_tableRolls :
    ∃ begun, startUnder Settings.standard
        (Cartridge.ofParts []
          [⟨"pit".toList, 6, ["1-3".toList, "2".toList]⟩, ⟨"cellar".toList, 4, ["4".toList]⟩])
        (Dice.Source.ofList [2, 4, 6]) none = .ok begun
      ∧ (run tableRolls begun).highlighted "pit".toList
        = (hits "pit".toList tableRolls begun).getLast?.map Prod.snd
      ∧ hits "pit".toList tableRolls begun = [(2, 1)] :=
  ⟨_, rfl,
    (@highlighted_after_actions Settings.standard _ _ none _ rfl tableRolls "pit".toList).1,
    by decide +kernel⟩

end Gamebook.Session
