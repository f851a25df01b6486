import Gamebook.Proofs.Yaml.Plain
import Gamebook.Proofs.Yaml.Quoted
import Gamebook.Yaml.Property

/-!
# The readers of single tokens

Each reader of a token moves the cursor on, to a place where no tag begins, and its faults
are told of at their place.
-/

namespace Gamebook.Yaml

open Cursor (Leads Passes)

/-- The tokens that a tame block can have: no tags, and plain scalars with its own text. -/
def TameToken (block : Text) : TokenKind → Prop
  | .tag _ _ => False
  | .scalar codes .plain => ∃ t, codes = codesOf t ∧ PlainText block t
  | _ => True

/-- What a reader of a token does: it makes a token that the block can have, and moves on to a
place where no tag begins. -/
def ReadsToken (block : Text) (c : Cursor) : Reading (Token × Cursor) → Prop :=
  Yields fun r => TameToken block r.1.kind ∧ Passes c r.2 ∧ Untagged r.2

theorem unexpected_yields {α : Type} {post : α → Prop} (what : Text) (began : Mark)
    (expected : Text) (c : Cursor) : Yields post (unexpected what began expected c) :=
  .placed _

/-! ## Quoted scalars -/

theorem quotedScalar_reads {block : Text} (hb : Legible block) {quote : Char}
    (hquote : quote = '\'' ∨ quote = '"') {c : Cursor} (hc : c.rest <:+ block)
    (hne : c.rest ≠ []) : ReadsToken block c (quotedScalar quote c) := by
  have hnext := Cursor.passes_next hne
  have hlength := hnext.2
  unfold quotedScalar
  refine (quotedRuns_yields hb hquote _ _ (List.IsSuffix.trans hnext.leads hc)).bind ?_
  rintro ⟨codes, c₁⟩ ⟨hruns, hend⟩
  have hc₁ : c₁.rest <:+ block := List.IsSuffix.trans (hnext.leads.trans hruns) hc
  have hpeek : c₁.peek = quote := hend (by omega)
  refine ⟨trivial, hnext.trans_leads (hruns.trans (Cursor.leads_next c₁)), ?_⟩
  rcases hquote with rfl | rfl
  · exact hb.untagged_next hc₁ (Cursor.rest_ne_nil_of_peek (by rw [hpeek]; decide))
      (by rw [hpeek]; decide)
  · exact hb.untagged_next hc₁ (Cursor.rest_ne_nil_of_peek (by rw [hpeek]; decide))
      (by rw [hpeek]; decide)

/-! ## Block scalars -/

theorem takeChomping_leads (c : Cursor) : Leads c (takeChomping c).2 := by
  unfold takeChomping
  split
  · exact Cursor.leads_next c
  · split
    · exact Cursor.leads_next c
    · exact .refl c

theorem takeIncrement_yields (began : Mark) (c : Cursor) :
    Yields (fun r => Leads c r.2) (takeIncrement began c) := by
  unfold takeIncrement
  dsimp only
  split
  · exact .placed _
  · split
    · exact Cursor.leads_next c
    · exact Leads.refl c

theorem blockIndicators_yields (began : Mark) (c : Cursor) :
    Yields (fun r => Leads c r.2.2) (blockIndicators began c) := by
  unfold blockIndicators
  have hfirst := takeChomping_leads c
  generalize takeChomping c = r at hfirst
  obtain ⟨first, c₁⟩ := r
  refine (takeIncrement_yields began c₁).bind ?_
  rintro ⟨increment, c₂⟩ hincrement
  have hc₂ : Leads c c₂ := Leads.trans hfirst hincrement
  have hend (r : Option Chomping × Cursor) (hr : Leads c r.2) :
      Yields (fun r => Leads c r.2.2)
        (if Cursor.isSpaceOrEnd r.2.peek then Except.ok (r.1.getD .clip, increment, r.2)
          else unexpected blockName began "chomping or indentation indicators".toList r.2) := by
    split
    · exact hr
    · exact unexpected_yields _ _ _ _
  cases first with
  | some chomping => exact hend (some chomping, c₂) hc₂
  | none =>
      cases increment with
      | none => exact hend (none, c₂) hc₂
      | some n => exact hend _ (hc₂.trans (takeChomping_leads c₂))

theorem ignoredLine_yields {block : Text} (ht : Tame block) (what : Text) (began : Mark)
    {c : Cursor} (hc : c.rest <:+ block) :
    Yields (fun c' => Leads c c' ∧ Untagged c') (ignoredLine what began c) := by
  unfold ignoredLine
  extract_lets c₁ c₂
  have hc₁ : Leads c c₁ := Cursor.leads_skipWhile _ c
  have hc₂ : Leads c c₂ := hc₁.trans (Cursor.leads_ite (Cursor.leads_skipWhile _ c₁))
  split
  · rename_i hend
    obtain ⟨hlead, hkeep⟩ := @Tame.keeps_lineBreak _ c₂ _ ht _ rfl
    exact ⟨hc₂.trans hlead,
      hkeep (List.IsSuffix.trans hc₂ hc) (untagged_of_test (by decide) hend)⟩
  · exact unexpected_yields _ _ _ _

theorem Tame.keeps_space {block : Text} (ht : Tame block) {c : Cursor}
    (h : (c.peek == ' ') = true) : Keeps block c c.next :=
  ht.keeps_next (by rw [eq_of_beq h]; decide)

theorem blockIndentation_keeps {block : Text} (ht : Tame block) (widest : Nat) (stop : Mark)
    (fuel : Nat) (c : Cursor) : Keeps block c (blockIndentation widest stop fuel c).2.2.2 := by
  induction fuel generalizing widest stop c with
  | zero => exact .refl block c
  | succ fuel ih =>
      unfold blockIndentation
      split
      · rename_i hspace
        exact (ht.keeps_space hspace).trans (ih _ _ _)
      · split
        · exact .refl block c
        · rename_i b c₁ _ hbreak
          exact (ht.keeps_lineBreak hbreak).trans (ih _ _ _)

theorem skipIndent_keeps {block : Text} (ht : Tame block) (indent : Int) (fuel : Nat)
    (c : Cursor) : Keeps block c (skipIndent indent fuel c) := by
  induction fuel generalizing c with
  | zero => exact .refl block c
  | succ fuel ih =>
      unfold skipIndent
      split
      · rename_i hspace
        exact (ht.keeps_space (Bool.and_eq_true_iff.mp hspace).2).trans (ih _)
      · exact .refl block c

theorem blockBreaks_keeps {block : Text} (ht : Tame block) (indent : Int) (stop : Mark)
    (fuel : Nat) (c : Cursor) : Keeps block c (blockBreaks indent stop fuel c).2.2 := by
  induction fuel generalizing stop c with
  | zero => exact .refl block c
  | succ fuel ih =>
      have hskip := skipIndent_keeps ht indent (c.rest.length + 1) c
      unfold blockBreaks
      dsimp only
      split
      · exact hskip
      · rename_i b c₁ _ hbreak
        exact hskip.trans ((ht.keeps_lineBreak hbreak).trans (ih _ _))

theorem blockLines_keeps {block : Text} (ht : Tame block) (folded : Bool) (indent : Int)
    (fuel : Nat) (b : BlockRun) :
    Keeps block b.cursor (blockLines folded indent fuel b).cursor := by
  induction fuel generalizing b with
  | zero => exact .refl block _
  | succ fuel ih =>
      unfold blockLines
      dsimp only
      split
      · -- a line goes on to its end, whatever stands in it
        have hline : Keeps block b.cursor (b.cursor.takeWhile fun x => !isBreak x).2 :=
          .of_untagged (Cursor.leads_takeWhile _ _) (untagged_skipWhile (by decide) b.cursor)
        have hbreak := hline.trans (ht.keeps_lineBreak rfl)
        have hbreaks := hbreak.trans (blockBreaks_keeps ht indent
          (b.cursor.takeWhile fun x => !isBreak x).2.lineBreak.2.mark
          ((b.cursor.takeWhile fun x => !isBreak x).2.lineBreak.2.rest.length + 1) _)
        split
        · exact hbreaks.trans (ih _)
        · exact hbreaks
      · exact .refl block _

theorem blockScalar_reads {block : Text} (ht : Tame block) (folded : Bool) (outer : Int)
    {c : Cursor} (hc : c.rest <:+ block) (hne : c.rest ≠ []) :
    ReadsToken block c (blockScalar folded outer c) := by
  unfold blockScalar
  refine (blockIndicators_yields c.mark c.next).bind ?_
  rintro ⟨chomping, increment, c₁⟩ hindicators
  have hc₁ : Passes c c₁ := (Cursor.passes_next hne).trans_leads hindicators
  refine (ignoredLine_yields ht _ _ (List.IsSuffix.trans hc₁.leads hc)).bind ?_
  rintro c₂ ⟨hline, hclear⟩
  have hc₂ : Passes c c₂ := hc₁.trans_leads hline
  -- behind the line of the indicators the contents are followed to their end
  have hends {c₃ : Cursor} (hkeep : Keeps block c₂ c₃) (b : BlockRun) (hb : b.cursor = c₃)
      (indent : Int) (fuel : Nat) :
      Passes c (blockLines folded indent fuel b).cursor
        ∧ Untagged (blockLines folded indent fuel b).cursor := by
    subst hb
    obtain ⟨hlead, hkeeps⟩ := hkeep.trans (blockLines_keeps ht folded indent fuel b)
    exact ⟨hc₂.trans_leads hlead, hkeeps (List.IsSuffix.trans hc₂.leads hc) hclear⟩
  cases increment with
  | none =>
      have hkeep := blockIndentation_keeps ht 0 c₂.mark (c₂.rest.length + 1) c₂
      dsimp only
      generalize blockIndentation 0 c₂.mark (c₂.rest.length + 1) c₂ = r at hkeep ⊢
      exact ⟨trivial, hends hkeep _ rfl _ _⟩
  | some n =>
      have hkeep :=
        blockBreaks_keeps ht (max (outer + 1) 1 + n - 1) c₂.mark (c₂.rest.length + 1) c₂
      dsimp only
      generalize blockBreaks (max (outer + 1) 1 + n - 1) c₂.mark (c₂.rest.length + 1) c₂ = r
        at hkeep ⊢
      exact ⟨trivial, hends hkeep _ rfl _ _⟩

/-! ## Anchors and directives -/

theorem anchorName_yields (name : Text) {c : Cursor} (hne : c.rest ≠ []) :
    Yields (fun r => Passes c r.2 ∧ Untagged r.2) (anchorName name c) := by
  unfold anchorName
  have hname : Passes c (c.next.takeWhile isNameChar).2 :=
    (Cursor.passes_next hne).trans_leads (Cursor.leads_takeWhile _ _)
  dsimp only
  split
  · exact unexpected_yields _ _ _ _
  · rename_i hends
    refine ⟨hname, fun hbang => hends ?_⟩
    have hno : (Cursor.isBlankOrEnd '!' || "?:,]\x7d%@\x60".toList.contains '!') = false := by
      decide
    rw [hbang, hno, Bool.not_false, Bool.or_true]

theorem anchorToken_reads {block : Text} {c : Cursor} (hne : c.rest ≠ []) (what : Text)
    {kind : Text → TokenKind} (hkind : ∀ name, TameToken block (kind name)) :
    ReadsToken block c (anchorToken what kind c) := by
  unfold anchorToken
  refine (anchorName_yields _ hne).bind ?_
  rintro ⟨name, after⟩ hname
  exact ⟨hkind name, hname⟩

theorem versionNumber_yields (began : Mark) (c : Cursor) :
    Yields (fun r => Leads c r.2) (versionNumber began c) := by
  unfold versionNumber
  have hdigits := Cursor.leads_takeWhile Text.isAsciiDigit c
  dsimp only
  split
  · exact unexpected_yields _ _ _ _
  · split
    · exact hdigits
    · exact rfl

theorem versionDirective_yields (began : Mark) (c : Cursor) :
    Yields (fun r => Leads c r.2) (versionDirective began c) := by
  unfold versionDirective
  refine (versionNumber_yields began (skipSpaces c)).bind ?_
  rintro ⟨major, c₁⟩ hmajor
  have hc₁ : Leads c c₁ := (Cursor.leads_skipWhile _ c).trans hmajor
  dsimp only
  split
  · exact unexpected_yields _ _ _ _
  · refine (versionNumber_yields began c₁.next).bind ?_
    rintro ⟨minor, c₂⟩ hminor
    dsimp only
    split
    · exact hc₁.trans ((Cursor.leads_next c₁).trans hminor)
    · exact unexpected_yields _ _ _ _

/-- There is no handle where there is no exclamation mark. -/
theorem tagHandle_yields (name : Text) (began : Mark) {c : Cursor} (h : Untagged c) :
    Yields (fun _ => False) (tagHandle name began c) := by
  unfold tagHandle
  rw [if_pos (bne_iff_ne.mpr h)]
  exact unexpected_yields _ _ _ _

theorem handleDirective_yields {block : Text} (ht : Tame block) (began : Mark) {c : Cursor}
    (hc : c.rest <:+ block) (h : Untagged c) :
    Yields (fun _ => False) (handleDirective began c) := by
  unfold handleDirective
  refine (tagHandle_yields _ began ?_).bind fun _ => False.elim
  exact (ht.keeps_skipWhile (p := (· == ' ')) (by simp; decide) c).2 hc h

theorem directive_reads {block : Text} (ht : Tame block) {c : Cursor} (hc : c.rest <:+ block)
    (hne : c.rest ≠ []) : ReadsToken block c (directive c) := by
  unfold directive
  have hname : Passes c (c.next.takeWhile isNameChar).2 :=
    (Cursor.passes_next hne).trans_leads (Cursor.leads_takeWhile _ _)
  revert hname
  generalize Cursor.takeWhile isNameChar c.next = r
  obtain ⟨name, c₁⟩ := r
  intro hname
  dsimp -zeta only at hname ⊢
  extract_lets began
  have hc₁ : c₁.rest <:+ block := List.IsSuffix.trans hname.leads hc
  split
  · exact unexpected_yields _ _ _ _
  · rename_i next hends
    have hclear : Untagged c₁ := by
      intro hbang
      have hno : Cursor.isSpaceOrEnd '!' = false := by decide
      rw [hbang, hno, Bool.not_false, Bool.or_true] at hends
      exact hends rfl
    have hnext (found : Directive × Mark × Cursor) (hfound : Leads c₁ found.2.2) :
        ReadsToken block c (next found) := by
      obtain ⟨d, stop, c₂⟩ := found
      refine (ignoredLine_yields ht _ began (List.IsSuffix.trans hfound hc₁)).bind ?_
      rintro c₃ ⟨hline, hclear'⟩
      exact ⟨trivial, hname.trans_leads (Leads.trans hfound hline), hclear'⟩
    clear_value next
    split
    · refine (versionDirective_yields began c₁).bind ?_
      rintro ⟨d, c₂⟩ hd
      exact hnext _ hd
    · split
      · exact (handleDirective_yields ht began hc₁ hclear).bind fun _ => False.elim
      · exact hnext _ (Cursor.leads_skipWhile _ c₁)

end Gamebook.Yaml
