import Gamebook.Dice.Roll

/-!
# What a source hands out

A source is asked for numbers one after the other. `answers` says what it replies to any
questions: its numbers in their order, and the lower bound once they are used up. A roll
of dice is then a stretch of questions, one for each die, and the numbers that are left
are those behind the ones that were handed out.
-/

namespace Gamebook.Dice

namespace Source

/-- What a source of some numbers replies to the bounds it is asked for. -/
def answers : List Int → List (Int × Int) → List Int
  | _, [] => []
  | [], (low, _) :: asked => low :: answers [] asked
  | n :: numbers, _ :: asked => n :: answers numbers asked

@[simp] theorem answers_nil (numbers : List Int) : answers numbers [] = [] := by
  cases numbers <;> rfl

/-- Later questions are answered by the numbers behind those already handed out. -/
theorem answers_append (numbers : List Int) (asked more : List (Int × Int)) :
    answers numbers (asked ++ more)
      = answers numbers asked ++ answers (numbers.drop asked.length) more := by
  fun_induction answers numbers asked with
  | case1 numbers => rfl
  | case2 low high asked ih => simpa [answers] using ih
  | case3 n numbers bounds asked ih => simpa [answers] using ih

/-- As long as there are enough numbers, the answers are the first of them. -/
theorem answers_eq_take {numbers : List Int} {asked : List (Int × Int)}
    (h : asked.length ≤ numbers.length) : answers numbers asked = numbers.take asked.length := by
  fun_induction answers numbers asked with
  | case1 numbers => rfl
  | case2 low high asked ih => exact absurd h (by simp)
  | case3 n numbers bounds asked ih =>
      rw [List.length_cons, List.take_succ_cons, ih (by simpa using h)]

theorem draw_eq (low high : Int) (s : Source) :
    s.draw low high
      = (s.upcoming.headD low, ⟨s.upcoming.drop 1, s.asked ++ [(low, high)]⟩) := by
  unfold draw
  cases s.upcoming <;> rfl

/-- Many numbers are drawn by as many questions. -/
theorem drawMany_eq (low high : Int) (count : Nat) (s : Source) :
    s.drawMany low high count
      = (answers s.upcoming (List.replicate count (low, high)),
        ⟨s.upcoming.drop count, s.asked ++ List.replicate count (low, high)⟩) := by
  induction count generalizing s with
  | zero => simp [drawMany]
  | succ count ih =>
      rw [drawMany, draw_eq]
      dsimp only
      rw [ih]
      cases s.upcoming <;> simp [answers, List.replicate_succ]

end Source

namespace Formula

/-- The bounds that a roll of a formula asks for: one question for each die. -/
def bounds (f : Formula) : List (Int × Int) := List.replicate f.count.toNat (1, f.sides)

theorem roll_eq (f : Formula) (s : Source) :
    f.roll s
      = (⟨f.written, Source.answers s.upcoming f.bounds, f.modifier,
          f.modifier + (Source.answers s.upcoming f.bounds).foldr (· + ·) 0⟩,
        ⟨s.upcoming.drop f.bounds.length, s.asked ++ f.bounds⟩) := by
  unfold roll
  rw [Source.drawMany_eq, bounds, List.length_replicate]

end Formula

end Gamebook.Dice
