import Gamebook.Proofs.Yaml.Outcome
import Gamebook.Proofs.Yaml.Tame
import Mathlib.Algebra.Group.Nat.Defs
import Mathlib.Data.List.Induction
import Mathlib.Data.List.TakeWhile

/-!
# Quoted scalars

Between double quotes an escape may name a character by its number. In a legible block that
number is never out of all bounds, so whatever is wrong with a quoted scalar is told of at
its place. A quoted scalar that is read ends at its closing quote: each of its parts takes a
character at least, so the steps do not run out before (`quotedRuns_yields`).
-/

namespace Gamebook.Yaml

open Cursor (Leads Passes)

/-! ## Escapes -/

theorem hexDigitValue_lt {x : Char} (h : Text.isHexDigit x = true) : hexDigitValue x < 16 := by
  have hcode {a b : Char} : a ≤ b ↔ a.toNat ≤ b.toNat := Iff.rfl
  simp only [Text.isHexDigit, Text.isAsciiDigit, Bool.or_eq_true, Bool.and_eq_true,
    decide_eq_true_eq, hcode] at h
  unfold hexDigitValue
  simp only [Bool.and_eq_true, decide_eq_true_eq, hcode]
  have h0 : '0'.toNat = 48 ∧ '9'.toNat = 57 ∧ 'a'.toNat = 97 ∧ 'f'.toNat = 102 ∧ 'A'.toNat = 65
      ∧ 'F'.toNat = 70 := by decide
  split
  · omega
  · split <;> omega

/-- Figures to base sixteen denote a number with as many places. -/
theorem hexValue_lt {digits : Text} (h : ∀ x ∈ digits, Text.isHexDigit x = true) :
    hexValue digits < 16 ^ digits.length := by
  induction digits using List.reverseRecOn with
  | nil => decide
  | append_singleton digits x ih =>
      have hdigits := ih fun y hy => h y (by simp [hy])
      have hx := hexDigitValue_lt (h x (by simp))
      rw [hexValue] at hdigits
      rw [hexValue, List.foldl_append, List.length_append, List.length_singleton, Nat.pow_succ]
      simp only [List.foldl_cons, List.foldl_nil]
      omega

theorem escapeWidth?_cases {x : Char} {width : Nat} (h : escapeWidth? x = some width) :
    width ≤ 4 ∨ x = 'U' ∧ width = 8 := by
  unfold escapeWidth? at h
  split at h
  · injection h with h
    omega
  · injection h with h
    omega
  · injection h with h
    exact .inr ⟨rfl, h.symm⟩
  · exact absurd h (by simp)

/-- An escape whose figures denote no number out of all bounds. -/
theorem hexEscape_yields (began : Mark) {width : Nat} {c : Cursor}
    (h : ∀ digits : Text, digits <+: c.rest → digits.length = width →
      (∀ x ∈ digits, Text.isHexDigit x = true) → hexValue digits < 0x80000000) :
    Yields (fun r => Leads c r.2) (hexEscape began width c) := by
  unfold hexEscape
  extract_lets digits good
  split
  · exact .placed _
  · rename_i hgood
    have hlength : digits.length ≤ width := List.length_take_le width c.rest
    have hshort : good.length ≤ digits.length := (List.takeWhile_prefix Text.isHexDigit).length_le
    -- all that was taken are figures
    have hall : good = digits := by
      refine (List.takeWhile_prefix Text.isHexDigit).eq_of_length_le ?_
      show digits.length ≤ good.length
      omega
    have hfigures : ∀ x ∈ digits, Text.isHexDigit x = true := by
      intro x hx
      rw [← hall] at hx
      exact List.mem_takeWhile_imp hx
    have hvalue := h digits (List.take_prefix width c.rest) (by omega) hfigures
    refine .ite (fun hover => ?_) fun _ => .ite (fun _ => rfl) fun _ => ?_
    · exact absurd hvalue (Nat.not_lt_of_le hover)
    · exact Cursor.leads_forward width c

/-- The escapes of a tame block. -/
theorem Tame.hexEscape_yields {block : Text} (ht : Tame block) (began : Mark) {c : Cursor}
    (hc : c.rest <:+ block) (hslash : c.peek = '\\') {width : Nat}
    (hwidth : escapeWidth? c.next.peek = some width) :
    Yields (fun r => Leads c.next.next r.2) (hexEscape began width c.next.next) := by
  refine Yaml.hexEscape_yields began fun digits hin hlength hfigures => ?_
  rcases escapeWidth?_cases hwidth with hshort | ⟨hU, hlong⟩
  · have hvalue := hexValue_lt hfigures
    have hbound : 16 ^ digits.length ≤ 16 ^ 4 := Nat.pow_le_pow_right (by decide) (by omega)
    omega
  · refine ht.escapes digits (by omega) hfigures ?_
    have hrest := Cursor.rest_of_peek (Cursor.rest_ne_nil_of_peek (c := c) (by rw [hslash]; decide))
    have hnext := Cursor.rest_of_peek
      (Cursor.rest_ne_nil_of_peek (c := c.next) (by rw [hU]; decide))
    rw [hnext, hslash, hU] at hrest
    have hprefix : '\\' :: 'U' :: digits <+: c.rest := by
      rw [hrest, List.prefix_cons_inj, List.prefix_cons_inj]
      exact hin
    exact hprefix.isInfix.trans hc.isInfix

/-! ## The parts of a quoted scalar -/

theorem quotedBreaks_yields (began : Mark) (fuel : Nat) (c : Cursor) :
    Yields (fun r => Leads c r.2) (quotedBreaks began fuel c) := by
  induction fuel generalizing c with
  | zero => exact Leads.refl c
  | succ fuel ih =>
      unfold quotedBreaks
      split
      · exact .placed _
      · have hblanks := Cursor.leads_skipWhile (fun x => x == ' ' || x == '\t') c
        dsimp only
        split
        · exact hblanks
        · rename_i b c' _ hbreak
          refine (ih c').bind ?_
          rintro ⟨more, c''⟩ hmore
          exact hblanks.trans ((Cursor.lineBreak_spec hbreak).1.trans hmore)

/-- Where a run between quotes ends: at the closing quote, or at a blank. -/
def EndsRun (double : Bool) (c : Cursor) : Prop :=
  c.peek = (if double then '"' else '\'') ∨ Cursor.isBlankOrEnd c.peek = true

theorem endsQuotedRun_peek_takeWhile (c : Cursor) :
    endsQuotedRun (c.takeWhile fun x => !endsQuotedRun x).2.peek = true := by
  show endsQuotedRun (c.skipWhile fun x => !endsQuotedRun x).peek = true
  rw [Cursor.peek, Cursor.skipWhile_rest]
  cases hrest : c.rest.dropWhile fun x => !endsQuotedRun x with
  | nil => decide
  | cons x t =>
      have hhead := @List.head_dropWhile_not _ (fun x => !endsQuotedRun x) c.rest
        (by rw [hrest]; simp)
      simpa [hrest] using hhead

theorem quotedRun_yields {block : Text} (ht : Tame block) (double : Bool) (began : Mark)
    (fuel : Nat) {c : Cursor} (hc : c.rest <:+ block) :
    Yields (fun r => Leads c r.2 ∧ (c.rest.length < fuel → EndsRun double r.2))
      (quotedRun double began fuel c) := by
  induction fuel generalizing c with
  | zero => exact ⟨.refl c, fun h => absurd h (by omega)⟩
  | succ fuel ih =>
      unfold quotedRun
      have hrun := Cursor.leads_takeWhile (fun x => !endsQuotedRun x) c
      have hends := endsQuotedRun_peek_takeWhile c
      revert hrun hends
      generalize Cursor.takeWhile (fun x => !endsQuotedRun x) c = r
      obtain ⟨run, c₁⟩ := r
      intro hrun hends
      dsimp -zeta only at hrun hends ⊢
      extract_lets x next
      -- what is no blank and no closing quote is read, and the reading goes on behind it
      have hnext (codes : List Nat) {c' : Cursor} (hpass : Passes c c') :
          Yields (fun r => Leads c r.2 ∧ (c.rest.length < fuel + 1 → EndsRun double r.2))
            (next (codes, c', true)) := by
        have hlength := hpass.2
        refine (ih (List.IsSuffix.trans hpass.leads hc)).bind ?_
        rintro ⟨more, c''⟩ ⟨hmore, hend⟩
        exact ⟨hpass.leads.trans hmore, fun h => hend (by omega)⟩
      have hlast (h : EndsRun double c₁) :
          Yields (fun r => Leads c r.2 ∧ (c.rest.length < fuel + 1 → EndsRun double r.2))
            (next ([], c₁, false)) := ⟨hrun, fun _ => h⟩
      clear_value next
      have hpass {x : Char} (hx : c₁.peek = x) (hne : x ≠ Cursor.endMark) : Passes c c₁.next :=
        hrun.trans_passes (Cursor.passes_next (Cursor.rest_ne_nil_of_peek (hx ▸ hne)))
      split
      · rename_i hdouble
        have hquote : c₁.peek = '\'' := by simp [x] at hdouble; exact hdouble.1.2
        exact hnext _ ((hpass hquote (by decide)).trans_leads (Cursor.leads_next c₁.next))
      · split
        · rename_i hother
          have hne : c₁.peek ≠ Cursor.endMark := by
            intro hend
            simp only [x, hend] at hother
            revert hother
            cases double <;> decide
          exact hnext _ (hpass rfl hne)
        · split
          · rename_i c₂ letter _ _ hslash
            have hslash' : c₁.peek = '\\' := eq_of_beq (Bool.and_eq_true_iff.mp hslash).2
            have hc₂ : Passes c c₂ := hpass hslash' (by decide)
            split
            · exact hnext _ (hc₂.trans_leads (Cursor.leads_next c₂))
            · split
              · rename_i width hwidth
                refine (ht.hexEscape_yields began (List.IsSuffix.trans hrun hc) hslash'
                  hwidth).bind ?_
                rintro ⟨code, c₃⟩ hcode
                exact hnext _ ((hc₂.trans_leads (Cursor.leads_next c₂)).trans_leads hcode)
              · split
                · refine (quotedBreaks_yields began _ _).bind ?_
                  rintro ⟨more, c₃⟩ hmore
                  exact hnext _ ((hc₂.trans_leads (Cursor.leads_lineBreak c₂)).trans_leads hmore)
                · exact .placed _
          · rename_i hother hslash
            refine hlast ?_
            unfold EndsRun
            simp only [endsQuotedRun, x] at hends hother hslash
            cases double
            · simp at hends hother ⊢
              tauto
            · simp at hends hother hslash ⊢
              tauto

/-- Between two runs stands something, unless the text is at its end. -/
theorem quotedSpaces_yields {block : Text} (hb : Legible block) (began : Mark) {c : Cursor}
    (hc : c.rest <:+ block) :
    Yields (fun r => Leads c r.2 ∧ (Cursor.isBlankOrEnd c.peek = true → Passes c r.2))
      (quotedSpaces began c) := by
  unfold quotedSpaces
  -- what stands there is a space that is skipped, or a line breaks
  have hmoves (hblank : Cursor.isBlankOrEnd c.peek = true) (hne : c.rest ≠ []) :
      Passes c (c.skipWhile fun x => x == ' ' || x == '\t')
        ∨ c.skipWhile (fun x => x == ' ' || x == '\t') = c ∧ isBreak c.peek = true := by
    by_cases hspace : (c.peek == ' ' || c.peek == '\t') = true
    · exact .inl (Cursor.passes_skipWhile hne hspace)
    · rw [Bool.not_eq_true] at hspace
      refine .inr ⟨Cursor.skipWhile_of_not hspace, ?_⟩
      have hend : c.peek ≠ Cursor.endMark := by
        intro hend
        have hmem : Cursor.endMark ∈ c.rest := by
          rw [Cursor.rest_of_peek hne, hend]
          exact List.mem_cons_self
        exact hb.unended (hc.subset hmem)
      simp [Cursor.isBlankOrEnd, Cursor.isSpaceOrEnd, Cursor.isBreakOrEnd, hend] at hblank hspace
      tauto
  have hspaces := Cursor.leads_skipWhile (fun x => x == ' ' || x == '\t') c
  rw [Cursor.skipWhile] at hmoves hspaces
  generalize c.takeWhile (fun x => x == ' ' || x == '\t') = r at hmoves hspaces
  obtain ⟨spaces, c₁⟩ := r
  dsimp only at hmoves hspaces ⊢
  split
  · exact .placed _
  · rename_i hne
    have hne' : c.rest ≠ [] := by
      intro hnil
      rw [Leads, hnil, List.suffix_nil] at hspaces
      exact hne (by rw [hspaces]; rfl)
    split
    · rename_i hbreak
      refine ⟨hspaces, fun hblank => ?_⟩
      rcases hmoves hblank hne' with hpass | ⟨rfl, hbreaks⟩
      · exact hpass
      · exact absurd rfl (Cursor.lineBreak_passes hbreak hbreaks).1
    · rename_i b c₂ _ hbreak
      refine (quotedBreaks_yields began _ c₂).bind ?_
      rintro ⟨more, c₃⟩ hmore
      have hlead := (Cursor.lineBreak_spec hbreak).1
      refine ⟨hspaces.trans (hlead.trans hmore), fun hblank => ?_⟩
      rcases hmoves hblank hne' with hpass | ⟨rfl, hbreaks⟩
      · exact hpass.trans_leads (hlead.trans hmore)
      · exact (Cursor.lineBreak_passes hbreak hbreaks).2.trans_leads hmore

theorem quotedRuns_yields {block : Text} (hb : Legible block) {quote : Char}
    (hquote : quote = '\'' ∨ quote = '"') (began : Mark) (fuel : Nat) {c : Cursor}
    (hc : c.rest <:+ block) :
    Yields (fun r => Leads c r.2 ∧ (c.rest.length < fuel → r.2.peek = quote))
      (quotedRuns quote began fuel c) := by
  induction fuel generalizing c with
  | zero => exact ⟨.refl c, fun h => absurd h (by omega)⟩
  | succ fuel ih =>
      unfold quotedRuns
      refine (quotedRun_yields hb.toTame _ began _ hc).bind ?_
      rintro ⟨codes, c₁⟩ ⟨hrun, hends⟩
      have hc₁ := List.IsSuffix.trans hrun hc
      dsimp only
      split
      · rename_i hdone
        exact ⟨hrun, fun _ => eq_of_beq hdone⟩
      · rename_i hgoes
        have hblank : Cursor.isBlankOrEnd c₁.peek = true := by
          rcases hends (by omega) with hend | hend
          · rcases hquote with rfl | rfl <;> exact absurd (beq_iff_eq.mpr hend) hgoes
          · exact hend
        refine (quotedSpaces_yields hb began hc₁).bind ?_
        rintro ⟨spaces, c₂⟩ ⟨-, hspaces⟩
        have hpass := (hrun.trans_passes (hspaces hblank))
        have hlength := hpass.2
        refine (ih (List.IsSuffix.trans hpass.leads hc)).bind ?_
        rintro ⟨more, c₃⟩ ⟨hmore, hend⟩
        exact ⟨hpass.leads.trans hmore, fun h => hend (by omega)⟩

end Gamebook.Yaml
