import Gamebook.Proofs.Dice.Draw
import Gamebook.Proofs.Dice.Formula
import Gamebook.Proofs.Session.History

/-!
# Every number drawn is in the history

The source of numbers is shared by all rolls of a session, so a number could be lost by a
roll that fails, or asked for by an action that does not roll. Neither happens. As long as
nothing is dropped from the history, the rolls of its records are, oldest first, just what
the source handed out, and the source was asked what the formulas of the records ask for.

The step lemma is `Conserves.step`: an action either makes a record, and then source and
history grow by the same roll, or it leaves both alone.
-/

namespace Gamebook.Session

open Dice (Formula Source)

/-- The numbers that were rolled, oldest first. -/
def rolledNumbers (history : List Record) : List Int :=
  history.reverse.flatMap fun r => r.roll.rolls

/-- The formulas of the records, oldest first, as they are read again. -/
def rereadFormulas (history : List Record) : List (Except Dice.FormulaError Formula) :=
  history.reverse.map fun r => Formula.read r.roll.formula

@[simp] theorem rolledNumbers_cons (r : Record) (history : List Record) :
    rolledNumbers (r :: history) = rolledNumbers history ++ r.roll.rolls := by
  simp [rolledNumbers]

@[simp] theorem rereadFormulas_cons (r : Record) (history : List Record) :
    rereadFormulas (r :: history) = rereadFormulas history ++ [Formula.read r.roll.formula] := by
  simp [rereadFormulas]

/-- What a session without a limit, its history and a source of some numbers have to do with each
other: the bounds that were asked for are those of the formulas, the numbers that were rolled are
the answers to them, and the others are still to come. -/
structure Conserves (numbers : List Int) (s : Session) : Prop where
  unlimited : s.limit = none
  asked : ∃ formulas : List Formula,
    rereadFormulas s.history = formulas.map .ok ∧ s.source.asked = formulas.flatMap Formula.bounds
  rolled : rolledNumbers s.history = Source.answers numbers s.source.asked
  upcoming : s.source.upcoming = numbers.drop s.source.asked.length

/-- **One step keeps the numbers**, unless it clears the history. -/
theorem Conserves.step {numbers : List Int} {s s' : Session} {action : Action}
    (h : Conserves numbers s) (hs : Effect action s s') (hclear : action ≠ .clearHistory) :
    Conserves numbers s' := by
  cases hs with
  | clears hc => exact absurd hc hclear
  | quiet card bars hne hnone => exact ⟨h.unlimited, h.asked, h.rolled, h.upcoming⟩
  | @rolls formula label f hne he hf =>
      obtain ⟨formulas, hread, hasked⟩ := h.asked
      have hwritten := Formula.written_of_read hf
      -- the session grows by the roll of `f`, and the source by the questions for its dice
      have hhistory : (recordRoll f label s).history
          = ⟨(f.roll s.source).1, label, s.clock + 1⟩ :: s.history := by
        rw [recordRoll, h.unlimited]
        rfl
      have hsource : (recordRoll f label s).source
          = ⟨s.source.upcoming.drop f.bounds.length, s.source.asked ++ f.bounds⟩ := by
        rw [recordRoll, Formula.roll_eq]
      have hrolls : (f.roll s.source).1.rolls = Source.answers s.source.upcoming f.bounds := by
        rw [Formula.roll_eq]
      have hformula : (f.roll s.source).1.formula = formula := by rw [Formula.roll_eq, hwritten]
      exact
        { unlimited := h.unlimited
          asked := by
            refine ⟨formulas ++ [f], ?_, ?_⟩
            · show rereadFormulas (recordRoll f label s).history = _
              rw [hhistory, rereadFormulas_cons, hread, hformula, hf, List.map_append]
              rfl
            · show (recordRoll f label s).source.asked = _
              rw [hsource, hasked, List.flatMap_append, List.flatMap_singleton]
          rolled := by
            show rolledNumbers (recordRoll f label s).history
              = Source.answers numbers (recordRoll f label s).source.asked
            rw [hhistory, rolledNumbers_cons, hsource, Source.answers_append, h.rolled, hrolls,
              h.upcoming]
          upcoming := by
            show (recordRoll f label s).source.upcoming
              = numbers.drop (recordRoll f label s).source.asked.length
            rw [hsource, h.upcoming, List.drop_drop, List.length_append] }

/-- **A whole run keeps the numbers**, as long as nothing clears the history. -/
theorem Conserves.run {numbers : List Int} {s : Session} (h : Conserves numbers s)
    {actions : List Action} (hclear : .clearHistory ∉ actions) :
    Conserves numbers (run actions s) := by
  induction actions using List.reverseRecOn with
  | nil => exact h
  | append_singleton actions action ih =>
      rw [List.mem_append, not_or, List.mem_singleton] at hclear
      rw [run_snoc]
      exact (ih hclear.1).step (perform_effect action _) (Ne.symm hclear.2)

theorem conserves_start {settings : Settings} {cartridge : Cartridge} {numbers : List Int}
    {limit : Option Int} {begun : Session}
    (h : startUnder settings cartridge (Source.ofList numbers) limit = .ok begun)
    (hlimit : limit.or settings.historyLimit = none) : Conserves numbers begun := by
  rw [startUnder, hlimit] at h
  injection h with h
  subst h
  exact ⟨rfl, ⟨[], rfl, rfl⟩, by simp [rolledNumbers, Source.ofList], rfl⟩

/-- An action that makes no record asks the source for nothing. -/
theorem source_of_no_record {action : Action} {s : Session} (h : newRecord? action s = none) :
    (s.perform action).2.source = s.source := by
  have heffect := perform_effect action s
  generalize (s.perform action).2 = s' at heffect
  cases heffect with
  | clears hc => rfl
  | quiet card bars hne hnone => rfl
  | rolls hne he hf => exact absurd (newRecord?_readable he hf) (by simp [h])

/-- Without a limit a record makes the history longer. -/
theorem no_record_of_history_eq {action : Action} {s : Session} (hlimit : s.limit = none)
    (h : (s.perform action).2.history = s.history) : newRecord? action s = none := by
  have heffect := perform_effect action s
  generalize (s.perform action).2 = s' at h heffect
  cases heffect with
  | clears hc =>
      subst hc
      rfl
  | quiet card bars hne hnone => exact hnone
  | rolls hne he hf =>
      rw [recordRoll, hlimit] at h
      exact absurd (congrArg List.length h) (by simp [trimHistory])

/--
**No number is lost, used twice or out of order.**

In a session that keeps all its records and never clears them, the rolls of the records
are, oldest first, the answers of the source to all it was asked: as long as it is not used
up, just its first numbers, and the others are still to come. What it was asked is one
question for each die of each record's formula. An action that replies without a record, or
that leaves the history as it is, asks nothing.
-/
theorem rolledNumbers_after_actions {settings : Settings} {cartridge : Cartridge}
    {numbers : List Int} {limit : Option Int} {begun : Session}
    (h : startUnder settings cartridge (Source.ofList numbers) limit = .ok begun)
    (hlimit : limit.or settings.historyLimit = none) {actions : List Action}
    (hclear : .clearHistory ∉ actions) :
    rolledNumbers (run actions begun).history
        = Source.answers numbers (run actions begun).source.asked
      ∧ ((run actions begun).source.asked.length ≤ numbers.length →
          rolledNumbers (run actions begun).history ++ (run actions begun).source.upcoming
            = numbers)
      ∧ (∃ formulas : List Formula,
          rereadFormulas (run actions begun).history = formulas.map .ok
            ∧ (run actions begun).source.asked = formulas.flatMap Formula.bounds)
      ∧ ∀ action,
          ((∃ reply, ((run actions begun).perform action).1 = .ok reply ∧ reply.record? = none)
              ∨ ((run actions begun).perform action).2.history = (run actions begun).history) →
            ((run actions begun).perform action).2.source = (run actions begun).source := by
  have conserved := (conserves_start h hlimit).run hclear
  refine ⟨conserved.rolled, ?_, conserved.asked, ?_⟩
  · intro henough
    rw [conserved.rolled, conserved.upcoming, Source.answers_eq_take henough, List.take_append_drop]
  · rintro action (⟨reply, hreply, hnone⟩ | hsame)
    · exact source_of_no_record ((record?_reply hreply).symm.trans hnone)
    · exact source_of_no_record (no_record_of_history_eq conserved.unlimited hsame)

/-- Rolls of every kind, one of them of no dice at all and some that roll nothing. -/
def mixedRolls : List Action :=
  [.roll "2d6+1".toList none, .roll "d6".toList none, .rollTable "pit".toList,
    .rollStat "Ghoul".toList 0, .roll "0d4+2".toList none, .rollTable "cellar".toList]

theorem rolledNumbers_after_mixedRolls :
    ∃ begun, startUnder Settings.standard
        (Cartridge.ofParts [] [⟨"pit".toList, 6, ["1-5".toList]⟩])
        (Source.ofList [3, 1, 6, 2]) none = .ok begun
      ∧ Action.clearHistory ∉ mixedRolls
      ∧ rolledNumbers (run mixedRolls begun).history
        = Source.answers [3, 1, 6, 2] (run mixedRolls begun).source.asked
      ∧ (run mixedRolls begun).source.asked = [(1, 6), (1, 6), (1, 6)] :=
  ⟨_, rfl, by decide,
    (@rolledNumbers_after_actions Settings.standard _ _ none _ rfl rfl mixedRolls (by decide)).1,
    by decide +kernel⟩

end Gamebook.Session
