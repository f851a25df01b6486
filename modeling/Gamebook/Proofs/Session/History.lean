import Gamebook.Proofs.Session.Run
import Mathlib.Algebra.Ring.Int.Defs

/-!
# What the history of a session holds

A session keeps a bounded list of records and forgets it on request. Beside it this
file puts the full account: the `trace` of a run lists, oldest first, every record
that was made and every time the history was cleared, and nothing is ever dropped
from it. The history is then a plain function of the trace and the limit.

Two facts about the records themselves come along. A record gets the time of its own
reading of the clock, so the times of a trace are 1, 2, 3 and so on; and its total is
the sum of its rolls and its modifier.
-/

namespace Gamebook.Session

/-! ## The full account of a run -/

/-- Something that happens to the history. -/
inductive HistoryEvent where
  | recorded (r : Record)
  | cleared

/-- What an action does to the history, if it does anything. -/
def historyEvent? (action : Action) (s : Session) : Option HistoryEvent :=
  if action = .clearHistory then some .cleared else (newRecord? action s).map .recorded

/-- What happens to the history in a run, oldest first. -/
def trace (actions : List Action) (s : Session) : List HistoryEvent :=
  account historyEvent? actions s

/-- The record of an event. -/
def HistoryEvent.record? : HistoryEvent → Option Record
  | recorded r => some r
  | cleared => none

/-- All records that were ever made, oldest first. -/
def recordsOf (events : List HistoryEvent) : List Record :=
  events.filterMap HistoryEvent.record?

/-- The records made since the last clearing, newest first. -/
def sinceCleared (events : List HistoryEvent) : List Record :=
  recordsOf (events.reverse.takeWhile fun e => e.record?.isSome)

@[simp] theorem sinceCleared_recorded (events : List HistoryEvent) (r : Record) :
    sinceCleared (events ++ [.recorded r]) = r :: sinceCleared events := by
  simp [sinceCleared, recordsOf, HistoryEvent.record?]

@[simp] theorem sinceCleared_cleared (events : List HistoryEvent) :
    sinceCleared (events ++ [.cleared]) = [] := by
  simp [sinceCleared, recordsOf, HistoryEvent.record?]

@[simp] theorem recordsOf_recorded (events : List HistoryEvent) (r : Record) :
    recordsOf (events ++ [.recorded r]) = recordsOf events ++ [r] := by
  simp [recordsOf, HistoryEvent.record?]

@[simp] theorem recordsOf_cleared (events : List HistoryEvent) :
    recordsOf (events ++ [.cleared]) = recordsOf events := by
  simp [recordsOf, HistoryEvent.record?]

/-- Clearing only takes records away: what is left is the newest part of all records. -/
theorem sinceCleared_sublist (events : List HistoryEvent) :
    (sinceCleared events).Sublist (recordsOf events).reverse := by
  unfold sinceCleared recordsOf
  rw [← List.filterMap_reverse]
  exact (List.takeWhile_sublist _).filterMap _

/-! ## The history is what is left of the account -/

/-- The first elements of a list up to a limit, all of them if there is none. -/
theorem trimHistory_cons (limit : Option Nat) (r : Record) (records : List Record) :
    trimHistory limit (r :: trimHistory limit records) = trimHistory limit (r :: records) := by
  cases limit with
  | none => rfl
  | some n =>
      cases n with
      | zero => rfl
      | succ n => simp [trimHistory, List.take_take]

/--
What a session and the account of its run have to do with each other. The account
has everything; the session keeps the newest records up to the limit, and counts its
readings of the clock.
-/
structure Accounts (limit : Option Nat) (events : List HistoryEvent) (s : Session) : Prop where
  limit_eq : s.limit = limit
  history : s.history = trimHistory limit (sinceCleared events)
  /-- One reading of the clock for each record. -/
  ticks : (recordsOf events).map Record.tick = List.range' 1 s.clock
  totals : ∀ r ∈ recordsOf events, r.roll.total = r.roll.modifier + r.roll.rolls.sum

theorem Accounts.length {limit : Option Nat} {events : List HistoryEvent} {s : Session}
    (h : Accounts limit events s) : (recordsOf events).length = s.clock := by
  have := congrArg List.length h.ticks
  simpa using this

/-- The total of a roll, whatever numbers the source hands out. -/
theorem roll_total (f : Dice.Formula) (source : Dice.Source) :
    (f.roll source).1.total = (f.roll source).1.modifier + (f.roll source).1.rolls.sum := by
  unfold Dice.Formula.roll
  rfl

/-- **One step keeps the account.** -/
theorem Accounts.step {limit : Option Nat} {events : List HistoryEvent} {s s' : Session}
    {action : Action} (h : Accounts limit events s) (hs : Effect action s s') :
    Accounts limit (events ++ (historyEvent? action s).toList) s' := by
  cases hs with
  | clears hc =>
      have he : historyEvent? action s = some .cleared := if_pos hc
      rw [he, Option.toList_some]
      exact
        { limit_eq := h.limit_eq
          history := by rw [sinceCleared_cleared]; cases limit <;> simp [trimHistory]
          ticks := by rw [recordsOf_cleared]; exact h.ticks
          totals := by rw [recordsOf_cleared]; exact h.totals }
  | @rolls formula label f hne he hf =>
      have he : historyEvent? action s
          = some (.recorded ⟨(f.roll s.source).1, label, s.clock + 1⟩) := by
        rw [historyEvent?, if_neg hne, newRecord?_readable he hf, Option.map_some]
      rw [he, Option.toList_some]
      exact
        { limit_eq := h.limit_eq
          -- the session puts the record in front of a history that was trimmed before
          history := by
            rw [sinceCleared_recorded, ← trimHistory_cons, ← h.history, ← h.limit_eq]
            rfl
          ticks := by
            rw [recordsOf_recorded, List.map_append, h.ticks]
            show _ = List.range' 1 (s.clock + 1)
            rw [List.range'_concat]
            simp [Nat.add_comm]
          totals := by
            intro r hr
            rw [recordsOf_recorded] at hr
            rcases List.mem_append.mp hr with hr | hr
            · exact h.totals r hr
            · rw [List.mem_singleton.mp hr]
              exact roll_total f s.source }
  | quiet card bars hne hnone =>
      have he : historyEvent? action s = none := by
        rw [historyEvent?, if_neg hne, hnone, Option.map_none]
      rw [he, Option.toList_none, List.append_nil]
      exact ⟨h.limit_eq, h.history, h.ticks, h.totals⟩

/-- **A whole run keeps the account.** -/
theorem Accounts.run {limit : Option Nat} {s : Session} (h : Accounts limit [] s)
    (actions : List Action) : Accounts limit (trace actions s) (run actions s) := by
  induction actions using List.reverseRecOn with
  | nil => exact h
  | append_singleton actions action ih =>
      rw [trace, account_snoc, run_snoc]
      exact ih.step (perform_effect action _)

/-! ## From the beginning of a session -/

/-- A session begins with an empty account. -/
theorem accounts_start {cartridge : Cartridge} {source : Dice.Source} {limit : Option Int}
    {s : Session} (h : start cartridge source limit = .ok s) :
    Accounts (limit.map Int.toNat) [] s := by
  have hempty : ([] : List Record) = trimHistory (limit.map Int.toNat) (sinceCleared []) := by
    cases limit <;> simp [sinceCleared, recordsOf, trimHistory]
  rw [eq_of_start h]
  exact ⟨rfl, hempty, rfl, by simp [recordsOf]⟩

/-- The times of the records fall from one to the next. -/
theorem Accounts.ticks_decrease {limit : Option Nat} {events : List HistoryEvent} {s : Session}
    (h : Accounts limit events s) : (s.history.map Record.tick).Pairwise (· > ·) := by
  have hall : ((recordsOf events).reverse.map Record.tick).Pairwise (· > ·) := by
    rw [List.map_reverse, h.ticks, List.pairwise_reverse]
    exact List.pairwise_lt_range'
  have hsub : s.history.Sublist (recordsOf events).reverse := by
    rw [h.history]
    cases limit with
    | none => exact sinceCleared_sublist events
    | some n => exact (List.take_sublist n _).trans (sinceCleared_sublist events)
  exact hall.sublist (hsub.map _)

theorem Accounts.mem_history {limit : Option Nat} {events : List HistoryEvent} {s : Session}
    (h : Accounts limit events s) {r : Record} (hr : r ∈ s.history) : r ∈ recordsOf events := by
  rw [h.history] at hr
  refine List.mem_reverse.mp ((sinceCleared_sublist events).subset ?_)
  cases limit with
  | none => exact hr
  | some n => exact List.mem_of_mem_take hr

/--
**The history of a session, after any actions.**

It holds the newest records since the last clearing, as many as the limit allows,
where every evaluation of a readable formula made one record and nothing else made
any. The clock was read once for each record, so the times fall along the history,
and every total is that of its rolls.
-/
theorem history_after_actions {settings : Settings} {cartridge : Cartridge}
    {source : Dice.Source} {limit : Option Int} {begun : Session}
    (h : startUnder settings cartridge source limit = .ok begun) (actions : List Action) :
    (run actions begun).history
        = ((limit.or settings.historyLimit).map Int.toNat).elim
            (sinceCleared (trace actions begun))
            (fun n => (sinceCleared (trace actions begun)).take n)
      ∧ (run actions begun).clock = (recordsOf (trace actions begun)).length
      ∧ ((run actions begun).history.map Record.tick).Pairwise (· > ·)
      ∧ ∀ r ∈ (run actions begun).history,
          r.roll.total = r.roll.modifier + r.roll.rolls.sum := by
  have account := (accounts_start h).run actions
  refine ⟨?_, account.length.symm, account.ticks_decrease, fun r hr => ?_⟩
  · rw [account.history]
    cases limit.or settings.historyLimit <;> rfl
  · exact account.totals r (account.mem_history hr)

/-- Rolls of every kind: one that is cleared away, one of a table, and one of a text that is no
formula. -/
def variedRolls : List Action :=
  [.roll "1d6".toList none, .clearHistory, .roll "1d6+1".toList none, .rollTable "pit".toList,
    .roll "d6".toList none, .roll "1d4".toList none]

theorem history_after_variedRolls :
    ∃ begun, startUnder Settings.standard
        (Cartridge.ofParts [] [⟨"pit".toList, 6, ["1-5".toList]⟩])
        (Dice.Source.ofList [3, 1, 6, 2]) (some 2) = .ok begun
      ∧ (run variedRolls begun).history = (sinceCleared (trace variedRolls begun)).take 2
      ∧ (run variedRolls begun).totals = [2, 6] :=
  ⟨_, rfl, (@history_after_actions Settings.standard _ _ (some 2) _ rfl variedRolls).1,
    by decide +kernel⟩

end Gamebook.Session
