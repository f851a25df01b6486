import Gamebook.Yaml.Mark

/-!
# Where a cursor can go

A cursor only moves on, so the text that is left after a move is a suffix of the text that
was left before it. This is the one thing that callers need to know about most moves.
-/

namespace Gamebook.Yaml

/-- A break is never part of a run of other characters, nor is a blank. -/
theorem isBlankOrEnd_of_isBreak {x : Char} (h : isBreak x = true) :
    Cursor.isBlankOrEnd x = true := by
  simp [Cursor.isBlankOrEnd, Cursor.isSpaceOrEnd, Cursor.isBreakOrEnd, h]

namespace Cursor

/-- The second cursor stands at or behind the first one. -/
def Leads (c c' : Cursor) : Prop := c'.rest <:+ c.rest

/-- The second cursor stands behind the first one. -/
def Passes (c c' : Cursor) : Prop := c'.rest <:+ c.rest ∧ c'.rest.length < c.rest.length

theorem Leads.refl (c : Cursor) : Leads c c := List.suffix_refl c.rest

theorem Leads.trans {a b c : Cursor} (hab : Leads a b) (hbc : Leads b c) : Leads a c :=
  List.IsSuffix.trans hbc hab

theorem Passes.leads {a b : Cursor} (h : Passes a b) : Leads a b := h.1

theorem Passes.trans_leads {a b c : Cursor} (hab : Passes a b) (hbc : Leads b c) : Passes a c :=
  ⟨hab.leads.trans hbc, Nat.lt_of_le_of_lt (List.IsSuffix.length_le hbc) hab.2⟩

theorem Leads.trans_passes {a b c : Cursor} (hab : Leads a b) (hbc : Passes b c) : Passes a c :=
  ⟨hab.trans hbc.leads, Nat.lt_of_lt_of_le hbc.2 (List.IsSuffix.length_le hab)⟩

@[simp] theorem next_rest (c : Cursor) : c.next.rest = c.rest.tail := by
  unfold next
  split
  · rename_i h
    rw [h]
    rfl
  · rename_i x rest h
    rw [h]
    dsimp only
    split
    · rfl
    · split <;> rfl

@[simp] theorem forward_rest (n : Nat) (c : Cursor) : (c.forward n).rest = c.rest.drop n := by
  induction n generalizing c with
  | zero => rfl
  | succ n ih => rw [forward, ih, next_rest, List.drop_tail]

theorem peekAt_eq (n : Nat) (c : Cursor) : c.peekAt n = (c.forward n).peek := by
  rw [peek, forward_rest, peekAt]

theorem leads_next (c : Cursor) : Leads c c.next := by
  rw [Leads, next_rest]
  exact List.tail_suffix c.rest

theorem leads_forward (n : Nat) (c : Cursor) : Leads c (c.forward n) := by
  rw [Leads, forward_rest]
  exact List.drop_suffix n c.rest

theorem leads_takeWhile (p : Char → Bool) (c : Cursor) : Leads c (c.takeWhile p).2 :=
  leads_forward _ c

theorem leads_skipWhile (p : Char → Bool) (c : Cursor) : Leads c (c.skipWhile p) :=
  leads_takeWhile p c

theorem skipWhile_rest (p : Char → Bool) (c : Cursor) :
    (c.skipWhile p).rest = c.rest.dropWhile p := by
  show (c.forward (c.rest.takeWhile p).length).rest = _
  rw [forward_rest]
  have hdrop := @List.drop_left _ (c.rest.takeWhile p) (c.rest.dropWhile p)
  rwa [List.takeWhile_append_dropWhile] at hdrop

theorem skipWhile_of_not {p : Char → Bool} {c : Cursor} (h : p c.peek = false) :
    c.skipWhile p = c := by
  rw [peek] at h
  show c.forward (c.rest.takeWhile p).length = c
  cases hrest : c.rest with
  | nil => rfl
  | cons x t =>
      rw [hrest, List.headD_cons] at h
      rw [List.takeWhile_cons, h]
      rfl

theorem leads_ite {p : Prop} [Decidable p] {c c' : Cursor} (h : Leads c c') :
    Leads c (if p then c' else c) := by
  split
  · exact h
  · exact .refl c

theorem passes_forward {n : Nat} {c : Cursor} (hn : n ≠ 0) (hc : c.rest ≠ []) :
    Passes c (c.forward n) := by
  refine ⟨leads_forward n c, ?_⟩
  rw [forward_rest, List.length_drop]
  have hlength := List.length_pos_iff.mpr hc
  omega

theorem passes_skipWhile {p : Char → Bool} {c : Cursor} (hc : c.rest ≠ [])
    (hp : p c.peek = true) : Passes c (c.skipWhile p) := by
  refine passes_forward ?_ hc
  rw [peek] at hp
  cases hrest : c.rest with
  | nil => exact absurd hrest hc
  | cons x t =>
      rw [hrest, List.headD_cons] at hp
      simp [hp]

theorem passes_next {c : Cursor} (hc : c.rest ≠ []) : Passes c c.next :=
  passes_forward (n := 1) (by decide) hc

/-- A line break is kept as characters that break lines, and the cursor moves on over it. -/
theorem lineBreak_spec {c c' : Cursor} {b : Text} (h : c.lineBreak = (b, c')) :
    Leads c c' ∧ (∀ x ∈ b, isBreak x = true) := by
  unfold lineBreak at h
  split at h
  · injection h with h1 h2
    subst h1; subst h2
    exact ⟨leads_forward 2 c, by simp [isBreak]⟩
  · rename_i x _ _ _
    split at h
    · injection h with h1 h2
      subst h1; subst h2
      exact ⟨leads_next c, by simp [isBreak]⟩
    · split at h
      · rename_i hx
        injection h with h1 h2
        subst h1; subst h2
        exact ⟨leads_next c, by simpa using hx⟩
      · injection h with h1 h2
        subst h1; subst h2
        exact ⟨.refl c, by simp⟩
  · injection h with h1 h2
    subst h1; subst h2
    exact ⟨.refl c, by simp⟩

/-- Where a line breaks, there is a break to keep, and the cursor moves on. -/
theorem lineBreak_passes {c c' : Cursor} {b : Text} (h : c.lineBreak = (b, c'))
    (hbreak : isBreak c.peek = true) : b ≠ [] ∧ Passes c c' := by
  unfold lineBreak at h
  unfold peek at hbreak
  split at h
  · rename_i hrest
    injection h with h1 h2
    subst h1; subst h2
    exact ⟨by simp, passes_forward (by decide) (by rw [hrest]; simp)⟩
  · rename_i x _ _ hrest
    rw [hrest] at hbreak
    have hpass : Passes c c.next := passes_next (by rw [hrest]; simp)
    split at h
    · injection h with h1 h2
      subst h1; subst h2
      exact ⟨by simp, hpass⟩
    · split at h
      · injection h with h1 h2
        subst h1; subst h2
        exact ⟨by simp, hpass⟩
      · rename_i hnone
        exact absurd hbreak hnone
  · rename_i hrest
    rw [hrest] at hbreak
    exact absurd hbreak (by decide)

theorem leads_lineBreak (c : Cursor) : Leads c c.lineBreak.2 := (lineBreak_spec rfl).1

/-- The character at a place that is not the end is the next one. -/
theorem rest_of_peek {c : Cursor} (h : c.rest ≠ []) : c.rest = c.peek :: c.next.rest := by
  rw [next_rest, peek]
  cases hc : c.rest with
  | nil => exact absurd hc h
  | cons x rest => rfl

/-- A place with another character than the end mark is not the end. -/
theorem rest_ne_nil_of_peek {c : Cursor} (h : c.peek ≠ endMark) : c.rest ≠ [] := by
  intro hnil
  rw [peek, hnil] at h
  exact h rfl

end Cursor

end Gamebook.Yaml
