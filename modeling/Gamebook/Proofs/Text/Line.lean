import Gamebook.Proofs.Text.Words
import Gamebook.Text.Line

/-!
# Lines and their boundaries

`LinesOf` says what the lines of a text are without cutting it: lines and boundaries in turn
make up the text, a carriage return and the line feed behind it are one boundary, and a last
line is not empty. Every text has exactly one such list of lines, and it is what `lines` gives
(`linesOf_iff`).

Whether two characters are one boundary or two only makes a difference of an empty line. So
whatever does not care for empty lines sees a text that is cut at every single boundary
character (`filterMap_lines`).
-/

namespace Gamebook.Text

/-- A text inside of one line. -/
def IsInLine (t : Text) : Prop := ∀ c ∈ t, isLineBreak c = false

/-- Decided by a look at each character. -/
instance (t : Text) : Decidable (IsInLine t) :=
  decidable_of_iff (t.all (!isLineBreak ·) = true) (by simp [IsInLine])

/-- A boundary in front of a text. The carriage return of a pair is no boundary alone. -/
inductive IsBreakBefore : Text → Text → Prop where
  | pair (t : Text) : IsBreakBefore ['\r', '\n'] t
  | single {c : Char} {t : Text} : isLineBreak c = true → ¬(c = '\r' ∧ t.head? = some '\n') →
      IsBreakBefore [c] t

/-- The lines of a text. -/
inductive LinesOf : Text → List Text → Prop where
  | none : LinesOf [] []
  | last {line : Text} : line ≠ [] → IsInLine line → LinesOf line [line]
  | cons {line boundary t : Text} {ls : List Text} : IsInLine line → IsBreakBefore boundary t →
      LinesOf t ls → LinesOf (line ++ (boundary ++ t)) (line :: ls)

variable {t line boundary : Text} {ls : List Text} {c : Char}

theorem isInLine_cons : IsInLine (c :: t) ↔ isLineBreak c = false ∧ IsInLine t :=
  List.forall_mem_cons

theorem ne_return_of_inLine (h : isLineBreak c = false) : c ≠ '\r' := by
  rintro rfl
  exact absurd h (by decide)

/-! ## Cutting into lines -/

theorem lines_cons_inLine (hc : isLineBreak c = false) (t : Text) :
    lines (c :: t) = consToFirst c (lines t) := by
  rw [lines]
  · exact if_neg (by simp [hc])
  · exact fun u he _ => absurd he (ne_return_of_inLine hc)

theorem lines_break (h : IsBreakBefore boundary t) : lines (boundary ++ t) = [] :: lines t := by
  cases h with
  | pair => rfl
  | single hc hpair =>
      rw [List.singleton_append, lines]
      · exact if_pos hc
      · rintro u rfl rfl
        exact hpair ⟨rfl, rfl⟩

/-- A text that stands before the first boundary belongs to the first line. -/
theorem lines_inLine_append (hline : IsInLine line) {first : Text} (ht : lines t = first :: ls) :
    lines (line ++ t) = (line ++ first) :: ls := by
  induction line with
  | nil => exact ht
  | cons c line ih =>
      obtain ⟨hc, hline⟩ := isInLine_cons.mp hline
      rw [List.cons_append, lines_cons_inLine hc, ih hline]
      rfl

theorem lines_eq_singleton (hne : line ≠ []) (hline : IsInLine line) : lines line = [line] := by
  induction line with
  | nil => exact absurd rfl hne
  | cons c line ih =>
      obtain ⟨hc, hline⟩ := isInLine_cons.mp hline
      rw [lines_cons_inLine hc]
      cases line with
      | nil => rfl
      | cons d line =>
          rw [ih (List.cons_ne_nil d line) hline]
          rfl

/-- A character in front of a text belongs to its first line, or it is a line of its own. -/
theorem LinesOf.consToFirst (hc : isLineBreak c = false) (h : LinesOf t ls) :
    LinesOf (c :: t) (consToFirst c ls) := by
  cases h with
  | none => exact .last (List.cons_ne_nil c []) (isInLine_cons.mpr ⟨hc, by simp [IsInLine]⟩)
  | last hne hline => exact .last (List.cons_ne_nil c t) (isInLine_cons.mpr ⟨hc, hline⟩)
  | cons hline hbreak hrest => exact .cons (isInLine_cons.mpr ⟨hc, hline⟩) hbreak hrest

theorem linesOf_lines (t : Text) : LinesOf t (lines t) := by
  have hempty : IsInLine [] := fun c hc => absurd hc List.not_mem_nil
  induction t using lines.induct with
  | case1 => exact .none
  | case2 t ih => exact .cons hempty (.pair t) ih
  | case3 c t hpair hc ih =>
      have hbreak : IsBreakBefore [c] t := by
        refine .single hc ?_
        rintro ⟨rfl, hhead⟩
        obtain ⟨u, rfl⟩ := List.head?_eq_some_iff.mp hhead
        exact hpair u rfl rfl
      have hlines := lines_break hbreak
      rw [List.singleton_append] at hlines
      rw [hlines]
      exact .cons hempty hbreak ih
  | case4 c t _ hc ih =>
      have hinside : isLineBreak c = false := by simpa using hc
      rw [lines_cons_inLine hinside]
      exact ih.consToFirst hinside

/-- **The lines of a text are what it is cut into.** -/
theorem linesOf_iff : LinesOf t ls ↔ ls = lines t := by
  constructor
  · intro h
    induction h with
    | none => rfl
    | last hne hline => exact (lines_eq_singleton hne hline).symm
    | cons hline hbreak _ ih =>
        rw [lines_inLine_append hline (lines_break hbreak), List.append_nil, ih]
  · rintro rfl
    exact linesOf_lines t

/-- No boundary stands in a line. -/
theorem isInLine_of_mem_lines (h : line ∈ lines t) : IsInLine line := by
  have hlines := linesOf_lines t
  generalize lines t = ls at h hlines
  induction hlines with
  | none => exact absurd h List.not_mem_nil
  | last _ hline => exact (List.mem_singleton.mp h) ▸ hline
  | cons hline _ _ ih =>
      rcases List.mem_cons.mp h with rfl | h
      · exact hline
      · exact ih h

/-! ## Empty lines -/

/-- **Only empty lines tell whether boundaries are counted one by one or in pairs.** -/
theorem filterMap_lines {α : Type} {f : Text → Option α} (hf : f [] = none) (t : Text) :
    (lines t).filterMap f = (splitBy isLineBreak t).filterMap f := by
  have hlines := linesOf_lines t
  generalize lines t = ls at hlines
  induction hlines with
  | none => simp [splitBy, hf]
  | last _ hline => rw [splitBy_eq_singleton hline]
  | @cons line _ rest _ hline hbreak _ ih =>
      cases hbreak with
      | single hc _ =>
          rw [List.singleton_append, splitBy_append_cons hc, splitBy_eq_singleton hline,
            List.singleton_append, List.filterMap_cons, List.filterMap_cons, ih]
      | pair =>
          -- the pair is cut twice, and the piece between is empty
          have hpair : splitBy isLineBreak ('\n' :: rest) = [] :: splitBy isLineBreak rest :=
            splitBy_append_cons (by decide) [] rest
          rw [List.cons_append, splitBy_append_cons (by decide), splitBy_eq_singleton hline,
            List.singleton_append, List.singleton_append, hpair, List.filterMap_cons,
            List.filterMap_cons, List.filterMap_cons, hf, ih]

end Gamebook.Text
