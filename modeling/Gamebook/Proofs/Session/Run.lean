import Gamebook.Proofs.Fallible
import Gamebook.Session.Action
import Mathlib.Data.List.Induction

/-!
# Runs of a session

`Session.perform` has fourteen actions, and several of them share what they do to
the session: three of them roll a formula, and the rest leave the dice alone. This
file says once what an action can do, so that a statement about all runs needs one
case for each *kind* of action and not one for each action.

* `evaluation?` names the formula that an action hands to the dice, with the label
  its record will carry. Only rolls of a formula, of a stat and of a table have one.
* `newRecord?` is the record that comes of it, if the formula can be read.
* `perform_effect` is the inversion of a step: the history is cleared, or a formula
  is rolled and recorded, or the dice, the clock and the history are left alone.

A session forgets; the `account` of a run does not. What it lists is for the file that
uses it to say.
-/

namespace Gamebook

/-- The record that a reply tells of. -/
def Reply.record? : Reply → Option Record
  | record r => r
  | tableRoll r => r.map TableRoll.record
  | _ => none

namespace Session

/-! ## How a session begins -/

theorem limitOf_ok {limit : Option Int} {n : Option Nat} (h : limitOf limit = .ok n) :
    n = limit.map Int.toNat := by
  unfold limitOf at h
  cases limit with
  | none => injection h with h; exact h.symm
  | some z =>
      dsimp only at h
      split at h
      · exact absurd h (by simp)
      · split at h
        · exact absurd h (by simp)
        · injection h with h; exact h.symm

/-- A session begins with what it is given, and nothing has happened in it. -/
theorem eq_of_start {cartridge : Cartridge} {source : Dice.Source} {limit : Option Int}
    {s : Session} (h : start cartridge source limit = .ok s) :
    s = ⟨cartridge, source, 0, limit.map Int.toNat, [], none, [], []⟩ := by
  rw [start] at h
  obtain ⟨n, hn, hs⟩ := Fallible.map_eq_ok_iff.mp h
  rw [← hs, limitOf_ok hn]

/-! ## Many actions -/

/-- The session after some actions, whatever they reply. -/
def run (actions : List Action) (s : Session) : Session :=
  actions.foldl (fun s action => (s.perform action).2) s

@[simp] theorem run_nil (s : Session) : run [] s = s := rfl

theorem run_cons (action : Action) (actions : List Action) (s : Session) :
    run (action :: actions) s = run actions (s.perform action).2 := rfl

@[simp] theorem run_snoc (actions : List Action) (action : Action) (s : Session) :
    run (actions ++ [action]) s = ((run actions s).perform action).2 := by
  rw [run, List.foldl_append]
  rfl

/-- The account of a run: what its actions bring about, oldest first, where an action on a session
brings about what `event?` tells. -/
def account {ε : Type} (event? : Action → Session → Option ε) : List Action → Session → List ε
  | [], _ => []
  | action :: actions, s =>
    (event? action s).toList ++ account event? actions (s.perform action).2

@[simp] theorem account_nil {ε : Type} (event? : Action → Session → Option ε) (s : Session) :
    account event? [] s = [] := rfl

theorem account_snoc {ε : Type} (event? : Action → Session → Option ε) (actions : List Action)
    (action : Action) (s : Session) :
    account event? (actions ++ [action]) s
      = account event? actions s ++ (event? action (run actions s)).toList := by
  induction actions generalizing s with
  | nil => simp [account]
  | cons a actions ih =>
      show (event? a s).toList ++ account event? (actions ++ [action]) (s.perform a).2 = _
      rw [ih, ← List.append_assoc]
      rfl

/-! ## What an action rolls -/

/-- The formula that an action evaluates and the label of its record. -/
def evaluation? (action : Action) (s : Session) : Option (Text × Option Text) :=
  match action with
  | .roll formula label => some (formula, label)
  | .rollStat term index =>
    match s.stat term index with
    | .ok (.roll label formula) => some (formula, some (term ++ ": ".toList ++ label))
    | _ => none
  | .rollTable id =>
    match s.cartridge.table? id with
    | none => none
    | some table =>
      match writeNumber table.die with
      | .ok die => some ('1' :: 'd' :: die, some ("Table ".toList ++ id))
      | .error _ => none
  | _ => none

/-- The record that an action makes: one for each evaluation of a formula that can be read. -/
def newRecord? (action : Action) (s : Session) : Option Record :=
  match evaluation? action s with
  | none => none
  | some (formula, label) =>
    match Dice.Formula.read formula with
    | .error _ => none
    | .ok f => some ⟨(f.roll s.source).1, label, s.clock + 1⟩

/-- The session once a formula has been rolled and recorded. -/
def recordRoll (f : Dice.Formula) (label : Option Text) (s : Session) : Session :=
  { s with
    source := (f.roll s.source).2
    clock := s.clock + 1
    history := trimHistory s.limit (⟨(f.roll s.source).1, label, s.clock + 1⟩ :: s.history) }

theorem rollFormula_ok {formula : Text} {f : Dice.Formula} (label : Option Text) (s : Session)
    (h : Dice.Formula.read formula = .ok f) :
    s.rollFormula formula label
      = (some ⟨(f.roll s.source).1, label, s.clock + 1⟩, recordRoll f label s) := by
  unfold rollFormula Dice.roll?
  rw [h]
  rfl

theorem rollFormula_error {formula : Text} {e : Dice.FormulaError} (label : Option Text)
    (s : Session) (h : Dice.Formula.read formula = .error e) :
    s.rollFormula formula label = (none, s) := by
  unfold rollFormula Dice.roll?
  rw [h]

/-! ## What an action can do -/

theorem rollStat_eq (term : Text) (index : Int) (s : Session) :
    s.rollStat term index
      = match s.stat term index with
        | .error e => .error e
        | .ok (.roll label formula) =>
          .ok (s.rollFormula formula (some (term ++ ": ".toList ++ label)))
        | .ok _ => .error (.notRollStat term index) := by
  unfold rollStat
  cases s.stat term index with
  | error e => rfl
  | ok stat => cases stat <;> rfl

theorem setBar_error_or (term : Text) (index value : Int) (s : Session) :
    (∃ e, s.setBar term index value = .error e)
      ∨ ∃ v bars, s.setBar term index value = .ok (v, { s with bars := bars }) := by
  unfold setBar
  cases s.bar term index with
  | error e => exact .inl ⟨e, rfl⟩
  | ok b => exact .inr ⟨_, _, rfl⟩

theorem adjustBar_error_or (term : Text) (index delta : Int) (s : Session) :
    (∃ e, s.adjustBar term index delta = .error e)
      ∨ ∃ v bars, s.adjustBar term index delta = .ok (v, { s with bars := bars }) := by
  unfold adjustBar
  cases s.barCurrent term index with
  | error e => exact .inl ⟨e, rfl⟩
  | ok current => exact setBar_error_or term index (current + delta) s

theorem newRecord?_eq_none {action : Action} {s : Session} (h : evaluation? action s = none) :
    newRecord? action s = none := by
  unfold newRecord?
  rw [h]

theorem newRecord?_readable {action : Action} {s : Session} {formula : Text}
    {label : Option Text} {f : Dice.Formula} (h : evaluation? action s = some (formula, label))
    (hf : Dice.Formula.read formula = .ok f) :
    newRecord? action s = some ⟨(f.roll s.source).1, label, s.clock + 1⟩ := by
  unfold newRecord?
  rw [h]
  simp only [hf]

theorem newRecord?_unreadable {action : Action} {s : Session} {formula : Text}
    {label : Option Text} {e : Dice.FormulaError}
    (h : evaluation? action s = some (formula, label))
    (hf : Dice.Formula.read formula = .error e) : newRecord? action s = none := by
  unfold newRecord?
  rw [h]
  simp only [hf]

theorem rollTable_eq {id die : Text} {table : RollTable} {s : Session}
    (ht : s.cartridge.table? id = some table) (hd : writeNumber table.die = .ok die) :
    s.rollTable id
      = match s.rollFormula ('1' :: 'd' :: die) (some ("Table ".toList ++ id)) with
        | (none, s) => (.ok none, s)
        | (some new, s) =>
          match Table.resolveRow new.roll.total table.rows with
          | .error e => (.error (.numeral e), s)
          | .ok none => (.ok (some ⟨id, new, none⟩), s)
          | .ok (some row) => (.ok (some ⟨id, new, some row⟩), s.highlight id row) := by
  unfold rollTable
  rw [ht]
  dsimp only
  generalize writeNumber table.die = written at hd
  subst hd
  rfl

/-- A roll of a table either makes no record and changes nothing, or it rolls the die of the table,
and the rest hangs on the row that the total leads to. The record stays even if a row key cannot be
read. -/
theorem rollTable_cases (id : Text) (s : Session) :
    (newRecord? (.rollTable id) s = none ∧ (s.rollTable id).2 = s
        ∧ ∀ roll, (s.rollTable id).1 ≠ .ok (some roll))
      ∨ ∃ table formula label f, s.cartridge.table? id = some table
        ∧ evaluation? (.rollTable id) s = some (formula, label)
        ∧ Dice.Formula.read formula = .ok f
        ∧ s.rollTable id
          = match Table.resolveRow (f.roll s.source).1.total table.rows with
            | .error e => (.error (.numeral e), recordRoll f label s)
            | .ok row =>
              (.ok (some ⟨id, ⟨(f.roll s.source).1, label, s.clock + 1⟩, row⟩),
                row.elim (recordRoll f label s) fun row =>
                  (recordRoll f label s).highlight id row) := by
  cases ht : s.cartridge.table? id with
  | none =>
      have he : evaluation? (.rollTable id) s = none := by simp [evaluation?, ht]
      have hs : s.rollTable id = (.ok none, s) := by simp [rollTable, ht]
      exact .inl ⟨newRecord?_eq_none he, by rw [hs], by simp [hs]⟩
  | some table =>
      cases hd : writeNumber table.die with
      | error e =>
          have he : evaluation? (.rollTable id) s = none := by simp [evaluation?, ht, hd]
          have hs : s.rollTable id = (.error e, s) := by simp only [rollTable, ht, hd]
          exact .inl ⟨newRecord?_eq_none he, by rw [hs], by simp [hs]⟩
      | ok die =>
          have he : evaluation? (.rollTable id) s
              = some ('1' :: 'd' :: die, some ("Table ".toList ++ id)) := by
            simp [evaluation?, ht, hd]
          cases hf : Dice.Formula.read ('1' :: 'd' :: die) with
          | error e =>
              have hs : s.rollTable id = (.ok none, s) := by
                rw [rollTable_eq ht hd, rollFormula_error _ _ hf]
              exact .inl ⟨newRecord?_unreadable he hf, by rw [hs], by simp [hs]⟩
          | ok f =>
              refine .inr ⟨table, _, _, f, rfl, he, hf, ?_⟩
              rw [rollTable_eq ht hd, rollFormula_ok _ _ hf]
              dsimp only
              cases Table.resolveRow (f.roll s.source).1.total table.rows with
              | error e => rfl
              | ok row => cases row <;> rfl

/-- A roll of a formula keeps the open card and the bars. -/
theorem rollFormula_keeps (formula : Text) (label : Option Text) (s : Session) :
    (s.rollFormula formula label).2.card = s.card
      ∧ (s.rollFormula formula label).2.bars = s.bars := by
  cases hf : Dice.Formula.read formula with
  | error e =>
      rw [rollFormula_error label s hf]
      exact ⟨rfl, rfl⟩
  | ok f =>
      rw [rollFormula_ok label s hf]
      exact ⟨rfl, rfl⟩

theorem rollStat_keeps (term : Text) (index : Int) (s : Session) :
    (s.perform (.rollStat term index)).2.card = s.card
      ∧ (s.perform (.rollStat term index)).2.bars = s.bars := by
  simp only [perform]
  rw [rollStat_eq]
  cases s.stat term index with
  | error e => exact ⟨rfl, rfl⟩
  | ok stat =>
      cases stat with
      | static label value => exact ⟨rfl, rfl⟩
      | bar label current maximum => exact ⟨rfl, rfl⟩
      | roll label formula => exact rollFormula_keeps formula _ s

theorem rollTable_keeps (id : Text) (s : Session) :
    (s.rollTable id).2.card = s.card ∧ (s.rollTable id).2.bars = s.bars := by
  rcases rollTable_cases id s with ⟨-, hs, -⟩ | ⟨table, formula, label, f, -, -, -, hs⟩
  · rw [hs]
    exact ⟨rfl, rfl⟩
  · rw [hs]
    cases Table.resolveRow (f.roll s.source).1.total table.rows with
    | error e => exact ⟨rfl, rfl⟩
    | ok row => cases row <;> exact ⟨rfl, rfl⟩

/-- The rows that are lit after a roll with a total: only a roll of a table lights one, the last row
that the total leads to. -/
def litAfter (action : Action) (total : Int) (s : Session) : List (Text × Nat) :=
  match action with
  | .rollTable id =>
    match (s.cartridge.table? id).map fun table => Table.resolveRow total table.rows with
    | some (.ok (some row)) => putEntry id row s.highlights
    | _ => s.highlights
  | _ => s.highlights

/-- What an action does to a session, apart from what it replies. -/
inductive Effect (action : Action) (s : Session) : Session → Prop where
  /-- The history is forgotten. -/
  | clears : action = .clearHistory → Effect action s { s with history := [] }
  /-- A formula is rolled and recorded. A roll of a table may light a row afterwards. -/
  | rolls {formula : Text} {label : Option Text} {f : Dice.Formula} :
      action ≠ .clearHistory → evaluation? action s = some (formula, label) →
      Dice.Formula.read formula = .ok f →
      Effect action s
        { recordRoll f label s with highlights := litAfter action (f.roll s.source).1.total s }
  /-- The dice, the clock, the history and the lit rows stay as they are. -/
  | quiet (card : Option Card) (bars : List ((Text × Int) × Int)) :
      action ≠ .clearHistory → newRecord? action s = none →
      Effect action s { s with card := card, bars := bars }

/-- **The inversion of a step.** Every action has one of the three effects. -/
theorem perform_effect (action : Action) (s : Session) :
    Effect action s (s.perform action).2 := by
  have none_of {a : Action} (h : evaluation? a s = none) (hne : a ≠ .clearHistory) :
      Effect a s s := .quiet s.card s.bars hne (newRecord?_eq_none h)
  cases action with
  | clearHistory => exact .clears rfl
  | roll formula label =>
      show Effect _ s (s.rollFormula formula label).2
      cases hf : Dice.Formula.read formula with
      | error e =>
          rw [rollFormula_error label s hf]
          exact .quiet s.card s.bars (by simp) (newRecord?_unreadable rfl hf)
      | ok f =>
          rw [rollFormula_ok label s hf]
          exact .rolls (by simp) rfl hf
  | rollStat term index =>
      have he : evaluation? (.rollStat term index) s
          = match s.stat term index with
            | .ok (.roll label formula) => some (formula, some (term ++ ": ".toList ++ label))
            | _ => none := rfl
      -- only a stat of the rolling kind evaluates a formula
      simp only [perform]
      rw [rollStat_eq]
      cases hstat : s.stat term index with
      | error e => exact none_of (by rw [he, hstat]) (by simp)
      | ok stat =>
          rw [hstat] at he
          cases stat with
          | static label value => exact none_of he (by simp)
          | bar label current maximum => exact none_of he (by simp)
          | roll label formula =>
              dsimp only
              cases hf : Dice.Formula.read formula with
              | error e =>
                  rw [rollFormula_error _ s hf]
                  exact .quiet s.card s.bars (by simp) (newRecord?_unreadable he hf)
              | ok f =>
                  rw [rollFormula_ok _ s hf]
                  exact .rolls (by simp) he hf
  | rollTable id =>
      show Effect _ s (s.rollTable id).2
      rcases rollTable_cases id s with ⟨hnone, hs, -⟩ | ⟨table, formula, label, f, ht, he, hf, hs⟩
      · rw [hs]
        exact .quiet s.card s.bars (by simp) hnone
      · have heffect : Effect (.rollTable id) s _ := .rolls (by simp) he hf
        simp only [litAfter, ht, Option.map_some] at heffect
        rw [hs]
        cases hrow : Table.resolveRow (f.roll s.source).1.total table.rows with
        | error e => rwa [hrow] at heffect
        | ok row =>
            rw [hrow] at heffect
            cases row <;> exact heffect
  | select term =>
      show Effect _ s (s.select term).2
      unfold select
      split
      · exact .quiet _ s.bars (by simp) rfl
      · exact none_of rfl (by simp)
  | setBar term index value =>
      unfold perform
      rcases setBar_error_or term index value s with ⟨e, h⟩ | ⟨v, bars, h⟩
      · simp only [h]
        exact none_of rfl (by simp)
      · simp only [h]
        exact .quiet s.card bars (by simp) rfl
  | adjustBar term index delta =>
      unfold perform
      rcases adjustBar_error_or term index delta s with ⟨e, h⟩ | ⟨v, bars, h⟩
      · simp only [h]
        exact none_of rfl (by simp)
      · simp only [h]
        exact .quiet s.card bars (by simp) rfl
  | resetBars => exact .quiet s.card [] (by simp) rfl
  | jump term => exact none_of rfl (by simp)
  | highlighted id => exact none_of rfl (by simp)
  | statValue term index => exact none_of rfl (by simp)
  | barCurrent term index => exact none_of rfl (by simp)
  | history => exact none_of rfl (by simp)
  | findTable id => exact none_of rfl (by simp)

/-- **A reply tells of the record that was made.** An action that replies with no record made
none. -/
theorem record?_reply {action : Action} {s : Session} {reply : Reply}
    (h : (s.perform action).1 = .ok reply) : reply.record? = newRecord? action s := by
  have told {formula : Text} {label : Option Text}
      (he : evaluation? action s = some (formula, label)) :
      (s.rollFormula formula label).1 = newRecord? action s := by
    cases hf : Dice.Formula.read formula with
    | error e => rw [rollFormula_error _ _ hf, newRecord?_unreadable he hf]
    | ok f => rw [rollFormula_ok _ _ hf, newRecord?_readable he hf]
  cases action with
  | roll formula label =>
      injection h with h
      subst h
      exact told rfl
  | rollStat term index =>
      simp only [perform] at h
      rw [rollStat_eq] at h
      cases hstat : s.stat term index with
      | error e => simp [hstat] at h
      | ok stat =>
          cases stat with
          | static label value => simp [hstat] at h
          | bar label current maximum => simp [hstat] at h
          | roll label formula =>
              simp only [hstat] at h
              injection h with h
              subst h
              exact told (by simp only [evaluation?, hstat])
  | rollTable id =>
      simp only [perform] at h
      rcases rollTable_cases id s with
        ⟨hnone, -, hreply⟩ | ⟨table, formula, label, f, -, he, hf, hs⟩
      · rw [hnone]
        obtain ⟨r, hr, rfl⟩ := Fallible.map_eq_ok_iff.mp h
        cases r with
        | none => rfl
        | some roll => exact absurd hr (hreply roll)
      · rw [newRecord?_readable he hf]
        rw [hs] at h
        split at h
        · simp [Except.map] at h
        · simp [Except.map] at h; subst h; rfl
  | select term => injection h with h; subst h; rfl
  | jump term => injection h with h; subst h; rfl
  | highlighted id => injection h with h; subst h; rfl
  | resetBars => injection h with h; subst h; rfl
  | clearHistory => injection h with h; subst h; rfl
  | history => injection h with h; subst h; rfl
  | findTable id => injection h with h; subst h; rfl
  | statValue term index =>
      obtain ⟨t, -, rfl⟩ := Fallible.map_eq_ok_iff.mp h
      rfl
  | barCurrent term index =>
      obtain ⟨z, -, rfl⟩ := Fallible.map_eq_ok_iff.mp h
      rfl
  | setBar term index value =>
      simp only [perform] at h
      rcases setBar_error_or term index value s with ⟨e, hv⟩ | ⟨v, bars, hv⟩
      · simp [hv] at h
      · rw [hv] at h; injection h with h; subst h; rfl
  | adjustBar term index delta =>
      simp only [perform] at h
      rcases adjustBar_error_or term index delta s with ⟨e, hv⟩ | ⟨v, bars, hv⟩
      · simp [hv] at h
      · rw [hv] at h; injection h with h; subst h; rfl

theorem Effect.fixed {action : Action} {s s' : Session} (h : Effect action s s') :
    s'.cartridge = s.cartridge ∧ s'.limit = s.limit := by
  cases h <;> exact ⟨rfl, rfl⟩

/-- No action changes the cartridge or the limit. -/
theorem run_fixed (actions : List Action) (s : Session) :
    (run actions s).cartridge = s.cartridge ∧ (run actions s).limit = s.limit := by
  induction actions using List.reverseRecOn with
  | nil => exact ⟨rfl, rfl⟩
  | append_singleton actions action ih =>
      obtain ⟨hc, hl⟩ := (perform_effect action (run actions s)).fixed
      rw [run_snoc]
      exact ⟨hc.trans ih.1, hl.trans ih.2⟩

end Session

end Gamebook
