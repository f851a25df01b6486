import Gamebook.Proofs.Yaml.Tame
import Mathlib.Data.List.Basic
import Mathlib.Data.List.TakeWhile

/-!
# Plain scalars

A plain scalar ends with a character that is no blank. If it has no blank in it at all, it
is one run of characters and stands in the block as it is; otherwise the blanks between its
runs are in its text. A run takes exclamation marks along, so no tag begins behind it.
-/

namespace Gamebook.Yaml

open Cursor (Leads Passes)

/-- What can be the text of a plain scalar of a block. -/
structure PlainText (block t : Text) : Prop where
  solid : (∀ x ∈ t, Cursor.isBlankOrEnd x = false) → t <:+: block
  last : ∀ x ∈ t.getLast?, Cursor.isBlankOrEnd x = false

theorem PlainText.nil (block : Text) : PlainText block [] :=
  ⟨fun _ => List.nil_infix, by simp⟩

/-- A run has no blanks. -/
theorem isBlankOrEnd_of_mem_run {inFlow : Bool} {t : Text} {x : Char}
    (h : x ∈ t.take (plainRunLength inFlow t)) : Cursor.isBlankOrEnd x = false := by
  induction t with
  | nil => exact absurd h (by simp)
  | cons y t ih =>
      rw [plainRunLength] at h
      split at h
      · exact absurd h (by simp)
      · rename_i hgoes
        rw [List.take_succ_cons] at h
        rcases List.mem_cons.mp h with rfl | h
        · refine Bool.eq_false_iff.mpr fun hblank => hgoes ?_
          rw [hblank]
          rfl
        · exact ih h

/-- A run does not end before an exclamation mark. -/
theorem untagged_of_run (inFlow : Bool) (c : Cursor) :
    Untagged (c.forward (plainRunLength inFlow c.rest)) := by
  rw [Untagged, Cursor.peek, Cursor.forward_rest]
  generalize c.rest = t
  induction t with
  | nil =>
      rw [List.drop_nil]
      decide
  | cons x t ih =>
      rw [plainRunLength]
      split
      · rename_i hends
        rintro (rfl : x = '!')
        revert hends
        have hbang : Cursor.isBlankOrEnd '!' = false ∧ isFlowIndicator '!' = false := by decide
        simp [hbang]
      · exact ih

theorem plainBreaks_spec {block : Text} (ht : Tame block) {fuel : Nat} {c c' : Cursor}
    {more : Option Text} (h : plainBreaks fuel c = (more, c')) :
    Keeps block c c' ∧ ∀ t ∈ more, ∀ x ∈ t, isBreak x = true := by
  induction fuel generalizing c c' more with
  | zero =>
      injection h with h1 h2
      subst h1; subst h2
      exact ⟨.refl block c, by simp⟩
  | succ fuel ih =>
      have hskip := ht.keeps_skipWhile (p := (· == ' ')) (by simp; decide) c
      unfold plainBreaks at h
      dsimp only at h
      split at h
      · injection h with h1 h2
        subst h1; subst h2
        exact ⟨hskip, by simp⟩
      · rename_i b c₁ _ hbreak
        have hkeep := ht.keeps_lineBreak hbreak
        have hb := (Cursor.lineBreak_spec hbreak).2
        split at h
        · injection h with h1 h2
          subst h1; subst h2
          exact ⟨hskip.trans hkeep, by simp⟩
        · injection h with h1 h2
          subst h1; subst h2
          obtain ⟨hmore, hbreaks⟩ := @ih c₁ _ _ rfl
          refine ⟨hskip.trans (hkeep.trans hmore), ?_⟩
          intro t hmem x hx
          obtain ⟨t', ht', rfl⟩ := Option.map_eq_some_iff.mp hmem
          rcases List.mem_append.mp hx with hx | hx
          · exact hb x hx
          · exact hbreaks t' ht' x hx

/-- Folded breaks are never without a blank. -/
theorem exists_blank_foldBreaks {b more : Text} (hne : b ≠ []) (hb : ∀ x ∈ b, isBreak x = true)
    (hmore : ∀ x ∈ more, isBreak x = true) :
    ∃ x ∈ foldBreaks b more, Cursor.isBlankOrEnd x = true := by
  unfold foldBreaks
  split
  · obtain ⟨x, hx⟩ := List.exists_mem_of_ne_nil b hne
    exact ⟨x, by simp [hx], isBlankOrEnd_of_isBreak (hb x hx)⟩
  · split
    · exact ⟨' ', by simp, by decide⟩
    · rename_i hmoreNe
      obtain ⟨x, hx⟩ := List.exists_mem_of_ne_nil more (by simpa using hmoreNe)
      exact ⟨x, hx, isBlankOrEnd_of_isBreak (hmore x hx)⟩

/-- What is put between two runs has a blank. -/
theorem plainSpaces_spec {block : Text} (ht : Tame block) {c c' : Cursor} {spaces : Option Text}
    {broke : Bool} (h : plainSpaces c = (spaces, broke, c')) :
    Keeps block c c' ∧ ∀ t ∈ spaces, ∃ x ∈ t, Cursor.isBlankOrEnd x = true := by
  have htake : Keeps block c (c.takeWhile (· == ' ')).2 :=
    ht.keeps_skipWhile (p := (· == ' ')) (by simp; decide) c
  unfold plainSpaces at h
  dsimp only at h
  split at h
  · injection h with h1 h2
    injection h2 with h2 h3
    subst h1; subst h3
    refine ⟨htake, ?_⟩
    intro t hmem
    split at hmem
    · exact absurd hmem (by simp)
    · rename_i hne
      injection hmem with hmem
      subst hmem
      obtain ⟨x, hx⟩ := List.exists_mem_of_ne_nil _ (by simpa using hne)
      have hspace := List.mem_takeWhile_imp (p := (· == ' ')) hx
      exact ⟨x, hx, by rw [eq_of_beq hspace]; decide⟩
  · rename_i b c₁ hne hbreak
    have hkeep := ht.keeps_lineBreak hbreak
    have hb := (Cursor.lineBreak_spec hbreak).2
    split at h
    · injection h with h1 h2
      injection h2 with h2 h3
      subst h1; subst h3
      exact ⟨htake.trans hkeep, by simp⟩
    · split at h
      · rename_i c₂ hbreaks
        injection h with h1 h2
        injection h2 with h2 h3
        subst h1; subst h3
        exact ⟨htake.trans (hkeep.trans (plainBreaks_spec ht hbreaks).1), by simp⟩
      · rename_i more c₂ hbreaks
        obtain ⟨hmore, hall⟩ := plainBreaks_spec ht hbreaks
        injection h with h1 h2
        injection h2 with h2 h3
        subst h1; subst h3
        refine ⟨htake.trans (hkeep.trans hmore), ?_⟩
        intro t hmem
        injection hmem with hmem
        subst hmem
        exact exists_blank_foldBreaks hne hb (hall more rfl)

/-- A run that follows the text so far keeps it the text of a plain scalar. -/
theorem PlainText.append_run {block text spaces run : Text} (hrun : run ≠ [])
    (hdense : ∀ x ∈ run, Cursor.isBlankOrEnd x = false) (hin : run <:+: block)
    (hspaces : (text = [] ∧ spaces = []) ∨ ∃ x ∈ spaces, Cursor.isBlankOrEnd x = true) :
    PlainText block (text ++ spaces ++ run) := by
  constructor
  · intro hall
    rcases hspaces with ⟨rfl, rfl⟩ | ⟨x, hx, hblank⟩
    · exact hin
    · have hdenseX := hall x (by simp [hx])
      rw [hblank] at hdenseX
      exact absurd hdenseX (by decide)
  · intro x hx
    rw [List.getLast?_append_of_ne_nil _ hrun] at hx
    exact hdense x (List.mem_of_getLast? hx)

theorem plainRuns_spec {block : Text} (ht : Tame block) (inFlow : Bool) (indent : Int)
    (fuel : Nat) {spaces : Text} {p : PlainRun} (hc : p.cursor.rest <:+ block)
    (htext : PlainText block p.text)
    (hspaces : (p.text = [] ∧ spaces = []) ∨ ∃ x ∈ spaces, Cursor.isBlankOrEnd x = true) :
    PlainText block (plainRuns inFlow indent spaces fuel p).text
      ∧ Keeps block p.cursor (plainRuns inFlow indent spaces fuel p).cursor
      ∧ (fuel ≠ 0 → p.cursor.peek ≠ '#' → plainRunLength inFlow p.cursor.rest ≠ 0 →
          Passes p.cursor (plainRuns inFlow indent spaces fuel p).cursor) := by
  induction fuel generalizing spaces p with
  | zero => exact ⟨htext, .refl block _, fun h => absurd rfl h⟩
  | succ fuel ih =>
      unfold plainRuns
      extract_lets c length run c₁ text
      split
      · rename_i hcomment
        exact ⟨htext, .refl block _, fun _ h => absurd (eq_of_beq hcomment) h⟩
      · split
        · rename_i hnone
          exact ⟨htext, .refl block _, fun _ _ h => absurd (eq_of_beq hnone) h⟩
        · rename_i hsome
          have hlength : length ≠ 0 := by simpa using hsome
          have hne : c.rest ≠ [] := by
            intro hnil
            exact hlength (by simp only [length, hnil, plainRunLength])
          have hpass : Passes c c₁ := Cursor.passes_forward hlength hne
          have hkeep : Keeps block c c₁ := .of_untagged hpass.leads (untagged_of_run inFlow c)
          have hrunNe : run ≠ [] := by simp [run, List.take_eq_nil_iff, hlength, hne]
          have hdense : ∀ x ∈ run, Cursor.isBlankOrEnd x = false :=
            fun x hx => isBlankOrEnd_of_mem_run hx
          have hin : run <:+: block := (List.take_prefix length c.rest).isInfix.trans hc.isInfix
          have htext' : PlainText block text := .append_run hrunNe hdense hin hspaces
          split
          · rename_i hspace
            have hafter := (plainSpaces_spec ht hspace).1
            exact ⟨htext', hkeep.trans hafter, fun _ _ _ => hpass.trans_leads hafter.leads⟩
          · rename_i more broke after hspace
            obtain ⟨hafter, hblank⟩ := plainSpaces_spec ht hspace
            have hafter' := hkeep.trans hafter
            have hpass' := hpass.trans_leads hafter.leads
            dsimp only
            split
            · exact ⟨htext', hafter', fun _ _ _ => hpass'⟩
            · have hrest : after.rest <:+ block := List.IsSuffix.trans hpass'.leads hc
              obtain ⟨htext'', hgoes, -⟩ := @ih more ⟨text, c₁.mark, after, broke⟩ hrest htext'
                (.inr (hblank more rfl))
              exact ⟨htext'', hafter'.trans hgoes, fun _ _ _ => hpass'.trans_leads hgoes.leads⟩

/-- A plain scalar of a block is read as one, and the cursor moves on if it begins at the place. -/
theorem plainScalar_spec {block : Text} (ht : Tame block) (inFlow : Bool) (indent : Int)
    {c : Cursor} (hc : c.rest <:+ block) :
    (∃ t, (plainScalar inFlow indent c).1.kind = .scalar (codesOf t) .plain ∧ PlainText block t)
      ∧ Keeps block c (plainScalar inFlow indent c).2.1
      ∧ (c.peek ≠ '#' → plainRunLength inFlow c.rest ≠ 0 →
          Passes c (plainScalar inFlow indent c).2.1) := by
  obtain ⟨htext, hkeep, hpass⟩ := @plainRuns_spec block ht inFlow (indent + 1)
    (c.rest.length + 1) [] ⟨[], c.mark, c, false⟩ hc (.nil block) (.inl ⟨rfl, rfl⟩)
  exact ⟨⟨_, rfl, htext⟩, hkeep, hpass (by omega)⟩

end Gamebook.Yaml
