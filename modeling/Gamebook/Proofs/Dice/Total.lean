import Gamebook.Proofs.Dice.Draw
import Gamebook.Proofs.Dice.Formula
import Mathlib.Algebra.Order.BigOperators.Group.List
import Mathlib.Algebra.Order.Ring.Int
import Mathlib.Data.Nat.Cast.Basic

/-!
# Which totals a formula has

As long as a source keeps to the bounds it is asked for, each die adds a number from one to
the number of its sides. So a total is never below that of ones on all dice and never above
that of the highest side on all of them (`sum_mem_range`), and every number in between is the
sum of some dice (`exists_rolls_of_sum`): the first die takes as much as it can and leaves at
least one for each of the others.
-/

namespace Gamebook.Dice

namespace Source

@[simp] theorem length_answers (numbers : List Int) (asked : List (Int × Int)) :
    (answers numbers asked).length = asked.length := by
  fun_induction answers numbers asked with
  | case1 numbers => rfl
  | case2 low high asked ih => rw [List.length_cons, ih, List.length_cons]
  | case3 n numbers bounds asked ih => rw [List.length_cons, ih, List.length_cons]

/-- Asked the same again and again, a source hands out its first numbers, and the lower bound when
it has no more. -/
theorem mem_answers_replicate {numbers : List Int} {low high n : Int} {count : Nat}
    (h : n ∈ answers numbers (List.replicate count (low, high))) :
    n ∈ numbers.take count ∨ n = low := by
  induction count generalizing numbers with
  | zero => exact absurd h (by simp)
  | succ count ih =>
      rw [List.replicate_succ] at h
      cases numbers with
      | nil =>
          rcases List.mem_cons.mp h with rfl | h
          · exact .inr rfl
          · exact ih h |>.imp_left fun hm => absurd hm (by simp)
      | cons m numbers =>
          rw [List.take_succ_cons]
          rcases List.mem_cons.mp h with rfl | h
          · exact .inl (List.mem_cons_self ..)
          · exact (ih h).imp_left (List.mem_cons_of_mem m)

end Source

/-! ## Sums of dice -/

/-- Some dice show at least one each and at most all of their sides. -/
theorem sum_mem_range {rolls : List Int} {sides : Int} (h : ∀ n ∈ rolls, 1 ≤ n ∧ n ≤ sides) :
    (rolls.length : Int) ≤ rolls.sum ∧ rolls.sum ≤ rolls.length * sides := by
  have hlow := List.card_nsmul_le_sum rolls 1 fun n hn => (h n hn).1
  have hhigh := List.sum_le_card_nsmul rolls sides fun n hn => (h n hn).2
  rw [nsmul_eq_mul] at hlow hhigh
  exact ⟨by simpa using hlow, by simpa using hhigh⟩

/-- Every number between the lowest and the highest sum is the sum of some dice. -/
theorem exists_rolls_of_sum {count : Nat} {sides sum : Int} (hsides : 1 ≤ sides)
    (hlow : (count : Int) ≤ sum) (hhigh : sum ≤ count * sides) :
    ∃ rolls : List Int, rolls.length = count ∧ (∀ n ∈ rolls, 1 ≤ n ∧ n ≤ sides)
      ∧ rolls.sum = sum := by
  induction count generalizing sum with
  | zero =>
      refine ⟨[], rfl, by simp, ?_⟩
      rw [Nat.cast_zero, zero_mul] at hhigh
      rw [List.sum_nil]
      exact le_antisymm hlow hhigh
  | succ count ih =>
      -- as much as the die can show, but at least one is left for each of the others
      obtain ⟨first, hfirst⟩ : ∃ first, first = min sides (sum - count) := ⟨_, rfl⟩
      have hsplit : ((count + 1 : Nat) : Int) * sides = count * sides + sides := by
        rw [Nat.cast_succ, add_mul, one_mul]
      have hall : (count : Int) ≤ count * sides := le_mul_of_one_le_right (by omega) hsides
      obtain ⟨rolls, hlength, hrange, hsum⟩ := @ih (sum - first) (by omega) (by omega)
      refine ⟨first :: rolls, by rw [List.length_cons, hlength], fun n hn => ?_, ?_⟩
      · rcases List.mem_cons.mp hn with rfl | hn
        · omega
        · exact hrange n hn
      · rw [List.sum_cons, hsum]
        omega

/-! ## Totals of a formula -/

namespace Formula

/-- A formula that was read asks for a number of dice and has a die with a side. -/
theorem exists_count_of_read {t : Text} {f : Formula} (h : Formula.read t = .ok f) :
    (∃ count : Nat, f.count = count) ∧ 1 ≤ f.sides := by
  obtain ⟨parts, count, sides, modifier, -, -, -, hpos, -, rfl⟩ := read_eq_ok.mp h
  exact ⟨⟨count, rfl⟩, Int.ofNat_le.mpr (Nat.one_le_iff_ne_zero.mpr hpos)⟩

/-- Rolling a text that is a formula. -/
theorem roll?_of_read {t : Text} {f : Formula} (h : Formula.read t = .ok f) (s : Source) :
    roll? t s
      = (some ⟨t, Source.answers s.upcoming f.bounds, f.modifier,
          f.modifier + (Source.answers s.upcoming f.bounds).sum⟩,
        ⟨s.upcoming.drop f.bounds.length, s.asked ++ f.bounds⟩) := by
  rw [roll?, h]
  dsimp only
  rw [roll_eq, written_of_read h]
  rfl

/--
**The totals of a formula fill an interval.**

Take a formula that can be read, and a source whose next numbers, one for each die, lie between
one and the number of sides. A roll asks the source once for each die and for nothing else. It
has one number for each of them, in the order in which the source hands them out, and its total
is at least the number of dice and at most that number times the sides, each with the modifier.
Conversely every number between the two is the total for such a source. Without dice the total is
the modifier, and the source stays as it is.
-/
theorem totals_of_read {t : Text} {f : Formula} (h : Formula.read t = .ok f) :
    (∀ s : Source, (∀ n ∈ s.upcoming.take f.count.toNat, 1 ≤ n ∧ n ≤ f.sides) →
      ∃ r, roll? t s = (some r, ⟨s.upcoming.drop f.count.toNat,
            s.asked ++ List.replicate f.count.toNat (1, f.sides)⟩)
        ∧ r.rolls = Source.answers s.upcoming (List.replicate f.count.toNat (1, f.sides))
        ∧ (r.rolls.length : Int) = f.count ∧ (∀ n ∈ r.rolls, 1 ≤ n ∧ n ≤ f.sides)
        ∧ f.count + f.modifier ≤ r.total ∧ r.total ≤ f.count * f.sides + f.modifier)
      ∧ (∀ total, f.count + f.modifier ≤ total → total ≤ f.count * f.sides + f.modifier →
        ∃ s : Source, s.upcoming.length = f.count.toNat
          ∧ (∀ n ∈ s.upcoming, 1 ≤ n ∧ n ≤ f.sides)
          ∧ ∃ r s', roll? t s = (some r, s') ∧ r.rolls = s.upcoming ∧ r.total = total)
      ∧ (f.count = 0 → ∀ s, roll? t s = (some ⟨t, [], f.modifier, f.modifier⟩, s)) := by
  obtain ⟨⟨count, hcount⟩, hsides⟩ := exists_count_of_read h
  have hbounds : f.bounds = List.replicate count (1, f.sides) := by
    rw [bounds, hcount, Int.toNat_natCast]
  have hroll := roll?_of_read h
  rw [hbounds, List.length_replicate] at hroll
  rw [hcount, Int.toNat_natCast]
  refine ⟨fun s hs => ?_, fun total hlow hhigh => ?_, fun hzero s => ?_⟩
  · have hrange : ∀ n ∈ Source.answers s.upcoming (List.replicate count (1, f.sides)),
        1 ≤ n ∧ n ≤ f.sides := by
      intro n hn
      rcases Source.mem_answers_replicate hn with hn | rfl
      · exact hs n hn
      · exact ⟨le_rfl, hsides⟩
    have hsum := sum_mem_range hrange
    rw [Source.length_answers, List.length_replicate] at hsum
    refine ⟨_, hroll s, rfl, by simp, hrange, ?_, ?_⟩
    · dsimp only
      omega
    · dsimp only
      omega
  · obtain ⟨rolls, hlength, hrange, hsum⟩ :=
      @exists_rolls_of_sum count f.sides (total - f.modifier) hsides (by omega) (by omega)
    have hanswers : Source.answers rolls (List.replicate count (1, f.sides)) = rolls := by
      rw [Source.answers_eq_take (by rw [List.length_replicate, hlength]), List.length_replicate,
        ← hlength, List.take_length]
    refine ⟨Source.ofList rolls, hlength, hrange, _, _, hroll _, hanswers, ?_⟩
    dsimp only
    rw [Source.ofList, hanswers, hsum]
    omega
  · obtain rfl : count = 0 := by exact_mod_cast hzero
    simp [hroll s]

/-- Three dice with two taken off show every total from one to sixteen, and a source that has run
out shows ones. -/
theorem totals_of_read_threeDice :
    Formula.read "3d6-2".toList = .ok ⟨"3d6-2".toList, 3, 6, -2⟩
      ∧ (∀ n ∈ [6, 2], 1 ≤ n ∧ n ≤ (6 : Int))
      ∧ (∃ r, roll? "3d6-2".toList (Source.ofList [6, 2]) = (some r, ⟨[], List.replicate 3 (1, 6)⟩)
        ∧ r.rolls = [6, 2, 1] ∧ 1 ≤ r.total ∧ r.total ≤ 16)
      ∧ (∀ total : Int, 1 ≤ total → total ≤ 16 →
        ∃ s : Source, s.upcoming.length = 3 ∧ (∀ n ∈ s.upcoming, 1 ≤ n ∧ n ≤ 6)
          ∧ ∃ r s', roll? "3d6-2".toList s = (some r, s') ∧ r.rolls = s.upcoming
            ∧ r.total = total) := by
  have hread : Formula.read "3d6-2".toList = .ok ⟨"3d6-2".toList, 3, 6, -2⟩ := by decide
  have hrange : ∀ n ∈ [6, 2], 1 ≤ n ∧ n ≤ (6 : Int) := by decide
  obtain ⟨hinside, hattained, -⟩ := totals_of_read hread
  obtain ⟨r, hroll, hrolls, -, -, hlow, hhigh⟩ := hinside (Source.ofList [6, 2]) hrange
  exact ⟨hread, hrange, ⟨r, hroll, hrolls, hlow, hhigh⟩, hattained⟩

end Formula

end Gamebook.Dice
