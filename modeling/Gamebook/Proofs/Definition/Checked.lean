import Gamebook.Definition.Reading

/-!
# Checks that are put together

A check ends in one of three ways: with a value, with a list of problems, or with a number that is
too long to be written, which cuts it short. Checks are put together by going a step further in
(`within`), by changing the value (`map`) and by taking two of them (`both`). This file says for
each when the whole has a value, when it is cut short, and which problems it has. Two checks that
are not cut short have the problems of the first and then those of the second (`problems_both`).
-/

namespace Gamebook

namespace Checked

variable {α β γ : Type} {e : NumeralError}

/-- The problems that a check ends with. -/
def problems : Checked α → List Problem
  | .ok (.error ps) => ps
  | _ => []

theorem within_eq_value_iff {step : Text} {x : Checked α} {a : α} :
    x.within step = .ok (.ok a) ↔ x = .ok (.ok a) := by
  rcases x with e | qs | b <;> simp [within]

theorem within_eq_numeral_iff {step : Text} {x : Checked α} :
    x.within step = .error e ↔ x = .error e := by
  rcases x with e' | qs | b <;> simp [within]

theorem problems_within (step : Text) (x : Checked α) :
    (x.within step).problems = x.problems.map (Problem.within step) := by
  rcases x with e | qs | a <;> rfl

theorem map_eq_value_iff {f : α → β} {x : Checked α} {b : β} :
    x.map f = .ok (.ok b) ↔ ∃ a, x = .ok (.ok a) ∧ f a = b := by
  rcases x with e | qs | a <;> simp [Checked.map]

theorem map_eq_numeral_iff {f : α → β} {x : Checked α} :
    x.map f = .error e ↔ x = .error e := by
  rcases x with e' | qs | a <;> simp [Checked.map]

theorem problems_map (f : α → β) (x : Checked α) : (x.map f).problems = x.problems := by
  rcases x with e | qs | a <;> rfl

/-- Two checks have a value together exactly if each of them has one. -/
theorem both_eq_value_iff {f : α → β → γ} {x : Checked α} {y : Checked β} {c : γ} :
    both f x y = .ok (.ok c) ↔ ∃ a b, x = .ok (.ok a) ∧ y = .ok (.ok b) ∧ f a b = c := by
  rcases x with e | ps | a <;> rcases y with e' | qs | b <;> simp [both]

/-- Two checks are cut short by the first of them that is. -/
theorem both_eq_numeral_iff {f : α → β → γ} {x : Checked α} {y : Checked β} :
    both f x y = .error e ↔ x = .error e ∨ (∀ e', x ≠ .error e') ∧ y = .error e := by
  rcases x with e' | ps | a <;> rcases y with e'' | qs | b <;> simp [both]

/-- **Two checks that are not cut short have the problems of both**, those of the first before
those of the second. -/
theorem problems_both {f : α → β → γ} {x : Checked α} {y : Checked β} (hx : ∀ e, x ≠ .error e)
    (hy : ∀ e, y ≠ .error e) : (both f x y).problems = x.problems ++ y.problems := by
  rcases x with e | ps | a
  · exact absurd rfl (hx e)
  · rcases y with e | qs | b
    · exact absurd rfl (hy e)
    · rfl
    · exact (List.append_nil ps).symm
  · rcases y with e | qs | b
    · exact absurd rfl (hy e)
    · rfl
    · rfl

end Checked

namespace Definition

/-! ## The outcome for a definition -/

variable {v : Value}

theorem read_eq_ok_iff {d : Definition} : read v = .ok d ↔ check v = .ok (.ok d) := by
  unfold read
  rcases check v with e | ps | d' <;> simp

theorem read_eq_numeral_iff {e : NumeralError} :
    read v = .error (.numeral e) ↔ check v = .error e := by
  unfold read
  rcases check v with e' | ps | d <;> simp

end Definition

end Gamebook
