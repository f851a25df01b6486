import Gamebook.Proofs.Annotation.Reference
import Gamebook.Proofs.Fallible
import Mathlib.Data.Bool.AllAny
import Mathlib.Data.List.Infix

/-!
# Placeholders in any text

A rendered text can hold placeholders that no reference was written for: authors may type
them, and a renderer may add its own. So this file takes any text at all. `IsCut ps` says
that `ps` are the pieces that the scan for placeholders makes of a text, and every text is
cut so in one way (`isCut_scan`, `IsCut.scan`).

What becomes of a placeholder depends on its digits alone. Hence the links of a text are
written piece by piece, unless the number of some placeholder is too long to be read.
-/

namespace Gamebook.Reference

open Text (Piece scan)

/-! ## What stands in a placeholder -/

theorem not_mem_placeholderOf {ds : Text} (h : IsDigits ds) {c : Char}
    (hdigit : Text.isDigit c = false) (hfixed : c ∉ opening ++ closing) : c ∉ placeholderOf ds := by
  have hds : c ∉ ds := by
    intro hm
    rw [h.isDigit c hm] at hdigit
    exact absurd hdigit (by decide)
  simp only [placeholderOf, List.mem_append, not_or] at hfixed ⊢
  exact ⟨⟨hfixed.1, hds⟩, hfixed.2⟩

/-- No blank and no angle bracket stands in a placeholder. -/
theorem not_mem_placeholderOf_of_stop {ds : Text} (h : IsDigits ds) {c : Char}
    (hc : Text.isBlank c = true ∨ c = '<') : c ∉ placeholderOf ds := by
  have hall : ∀ x ∈ opening ++ closing, Text.isBlank x = false ∧ x ≠ '<' :=
    List.all_iff_forall_prop.mp (by decide)
  rcases hc with hc | rfl
  · refine not_mem_placeholderOf h ?_ fun hm => ?_
    · refine Bool.eq_false_iff.mpr fun hd => ?_
      rw [Text.isBlank_of_isDigit hd] at hc
      exact absurd hc (by decide)
    · rw [(hall c hm).1] at hc
      exact absurd hc (by decide)
  · exact not_mem_placeholderOf h (by decide) fun hm => (hall _ hm).2 rfl

/-! ## How a text is cut -/

/-- The pieces of a text: no placeholder begins at a character that is passed over. -/
inductive IsCut : List (Piece Text) → Prop where
  | done : IsCut []
  | placeholder {ds : Text} {ps : List (Piece Text)} :
      IsDigits ds → IsCut ps → IsCut (.found ds :: ps)
  | passed {c : Char} {ps : List (Piece Text)} :
      recognisePlaceholder none (c :: Piece.render placeholderOf ps) = none → IsCut ps →
      IsCut (.plain c :: ps)

/-- The scan finds the pieces again. -/
theorem IsCut.scan {ps : List (Piece Text)} (h : IsCut ps) :
    scan recognisePlaceholder (Piece.render placeholderOf ps) = ps := by
  induction h with
  | done => rfl
  | @placeholder ds ps hds _ ih =>
      show Text.scan recognisePlaceholder (placeholderOf ds ++ Piece.render placeholderOf ps) = _
      rw [Text.scan_found forgets_recognisePlaceholder (placeholderOf_ne_nil ds)
        (recognisePlaceholder_eq_some.mpr ⟨hds, rfl, _, rfl⟩), ih]
  | @passed c ps hnone _ ih =>
      show Text.scan recognisePlaceholder (c :: Piece.render placeholderOf ps) = _
      rw [Text.scan_passed forgets_recognisePlaceholder hnone, ih]

theorem render_scan (t : Text) :
    Piece.render placeholderOf (scan recognisePlaceholder t) = t := by
  rw [scan, Text.render_scanFrom, List.drop_zero]
  intro b t ds n hfind
  obtain ⟨_, rfl, rest, rfl⟩ := recognisePlaceholder_eq_some.mp hfind
  exact ⟨List.length_pos_iff.mpr (placeholderOf_ne_nil ds) |>.ne', List.take_left ..⟩

/-- **Every text is cut into its placeholders and the characters outside of them.** -/
theorem isCut_scan (t : Text) : IsCut (scan recognisePlaceholder t) := by
  -- on the length, since a placeholder takes many characters at once
  induction hn : t.length using Nat.strongRecOn generalizing t with
  | ind n ih =>
    subst hn
    cases t with
    | nil => exact .done
    | cons c t =>
        cases hfind : recognisePlaceholder none (c :: t) with
        | none =>
            rw [Text.scan_passed forgets_recognisePlaceholder hfind]
            exact .passed (by rwa [render_scan]) (ih t.length (by simp) t rfl)
        | some found =>
            obtain ⟨ds, n⟩ := found
            obtain ⟨hds, rfl, rest, ht⟩ := recognisePlaceholder_eq_some.mp hfind
            have hpos := List.length_pos_iff.mpr (placeholderOf_ne_nil ds)
            have hlength := congrArg List.length ht
            rw [List.length_append] at hlength
            rw [ht] at hfind ⊢
            rw [Text.scan_found forgets_recognisePlaceholder (placeholderOf_ne_nil ds) hfind]
            exact .placeholder hds (ih rest.length (by omega) rest rfl)

theorem IsCut.of_append {us vs : List (Piece Text)} (h : IsCut (us ++ vs)) : IsCut vs := by
  induction us with
  | nil => exact h
  | cons u us ih =>
      cases h with
      | placeholder _ h => exact ih h
      | passed _ h => exact ih h

theorem IsCut.isDigits {ps : List (Piece Text)} {ds : Text} (h : IsCut ps)
    (hds : .found ds ∈ ps) : IsDigits ds := by
  induction h with
  | done => exact absurd hds (by simp)
  | placeholder hdigits _ ih =>
      rcases List.mem_cons.mp hds with he | hds
      · injection he with he
        rw [he]
        exact hdigits
      · exact ih hds
  | passed _ _ ih =>
      rcases List.mem_cons.mp hds with he | hds
      · exact absurd he (by simp)
      · exact ih hds

/-- No placeholder begins in characters without a brace. -/
theorem IsCut.plain_append {u : Text} {ps : List (Piece Text)} (hu : '\x7b' ∉ u) (h : IsCut ps) :
    IsCut (u.map .plain ++ ps) := by
  induction u with
  | nil => exact h
  | cons c u ih =>
      have hc : c ≠ '\x7b' := fun he => hu (by simp [he])
      exact .passed (recognisePlaceholder_eq_none hc _) (ih fun hm => hu (by simp [hm]))

/-- Another end may take the place of the end of some pieces, if it begins with a character that
stands in no placeholder: then no placeholder reaches into it. -/
theorem IsCut.append {us vs vs' : List (Piece Text)} (h : IsCut (us ++ vs)) (h' : IsCut vs')
    (hstop : ∀ c ∈ (Piece.render placeholderOf vs').head?, Text.isBlank c = true ∨ c = '<') :
    IsCut (us ++ vs') := by
  induction us with
  | nil => exact h'
  | cons u us ih =>
      cases h with
      | placeholder hds h => exact .placeholder hds (ih h)
      | @passed c _ hnone h =>
          refine .passed (Option.eq_none_iff_forall_ne_some.mpr ?_) (ih h)
          rintro ⟨ds, n⟩ hfind
          obtain ⟨hds, -, rest, ht⟩ := recognisePlaceholder_eq_some.mp hfind
          have happend (ps : List (Piece Text)) : c :: Piece.render placeholderOf (us.append ps)
              = (c :: Piece.render placeholderOf us) ++ Piece.render placeholderOf ps := by
            rw [List.append_eq, Piece.render_append, List.cons_append]
          rw [happend] at hnone ht
          -- the placeholder ends before the new end begins, so it was there before
          obtain ⟨more, hmore, -⟩ := Text.eq_append_of_stop ht fun d hd =>
            not_mem_placeholderOf_of_stop hds (hstop d hd)
          have hthere := @recognisePlaceholder_eq_some none
            (placeholderOf ds ++ (more ++ Piece.render placeholderOf vs)) ds _ |>.mpr
              ⟨hds, rfl, _, rfl⟩
          rw [hmore, List.append_assoc, hthere] at hnone
          exact absurd hnone (by simp)

/-! ## What becomes of placeholders -/

/-- A placeholder becomes the link of a term that a number of readable length names, or it stays
what it is. -/
theorem linkOf_eq_ok {terms : List Text} {ds l : Text} (h : linkOf terms ds = .ok l) :
    l = placeholderOf ds ∨ ∃ term ∈ terms.take (10 ^ digitLimit), l = link term := by
  obtain ⟨n, hread, h⟩ := Fallible.bind_eq_ok_iff.mp h
  have hn : n < 10 ^ digitLimit := Number.lt_of_read hread
  split at h
  · rename_i term hterm
    injection h with h
    rw [← List.getElem?_take_of_lt hn] at hterm
    exact .inr ⟨term, List.mem_of_getElem? hterm, h.symm⟩
  · injection h with h
    exact .inl h.symm

/-- What is written for a placeholder; one whose number is too long to be read is kept here. -/
def shownOf (terms : List Text) (ds : Text) : Text :=
  match linkOf terms ds with
  | .ok l => l
  | .error _ => placeholderOf ds

/-- **Placeholders are replaced one by one**, if the number of each can be read. -/
theorem materializePieces_eq (terms : List Text) (ps : List (Piece Text)) :
    materializePieces terms ps
      = ((Piece.findings ps).mapM (linkOf terms)).map
        fun _ => Piece.render (shownOf terms) ps := by
  induction ps with
  | nil => rfl
  | cons p ps ih =>
      cases p with
      | plain c =>
          show (materializePieces terms ps).map (c :: ·)
            = ((Piece.findings ps).mapM (linkOf terms)).map _
          rw [ih]
          cases (Piece.findings ps).mapM (linkOf terms) <;> rfl
      | found ds =>
          have hfindings : Piece.findings (.found ds :: ps) = ds :: Piece.findings ps := rfl
          rw [materializePieces, ih, hfindings, List.mapM_cons]
          cases hl : linkOf terms ds with
          | error e => rfl
          | ok l =>
              have hshown : Piece.render (shownOf terms) (.found ds :: ps)
                  = l ++ Piece.render (shownOf terms) ps := by
                show shownOf terms ds ++ _ = _
                rw [shownOf, hl]
                rfl
              rw [hshown]
              cases (Piece.findings ps).mapM (linkOf terms) <;> rfl

/-- A word in which no placeholder begins. -/
def IsBare (u : Text) : Prop :=
  ∀ v, v ≠ [] → v <:+ u → ∀ t, recognisePlaceholder none (v ++ t) = none

theorem isBare_of_tails {u : Text}
    (h : ∀ v ∈ u.tails, v ≠ [] → ¬opening <+: v ∧ ¬v <+: opening) : IsBare u := by
  intro v hne hv t
  obtain ⟨hle, hge⟩ := h v ((List.mem_tails v u).mpr hv) hne
  rw [recognisePlaceholder, Text.after?_eq_none_of_start List.prefix_rfl hle hge t]

/-- Between two such words a placeholder becomes its link. -/
theorem materialize_between {terms : List Text} {u v ds l : Text} (hu : IsBare u) (hv : IsBare v)
    (hds : IsDigits ds) (hl : linkOf terms ds = .ok l) :
    materialize (u ++ (placeholderOf ds ++ v)) terms = .ok (u ++ (l ++ v)) := by
  have hend : scan recognisePlaceholder v = v.map .plain ++ [] := by
    have hscan := Text.scan_passed_word forgets_recognisePlaceholder [] fun x hne hx =>
      hv x hne hx []
    rwa [List.append_nil] at hscan
  have hstart := Text.scan_passed_word forgets_recognisePlaceholder (placeholderOf ds ++ v)
    fun x hne hx => hu x hne hx (placeholderOf ds ++ v)
  rw [materialize, hstart, Text.scan_found forgets_recognisePlaceholder (placeholderOf_ne_nil ds)
      (recognisePlaceholder_eq_some.mpr ⟨hds, rfl, _, rfl⟩), hend, materializePieces_plain,
    materializePieces_found _ hl, materializePieces_plain]
  show Except.ok (u ++ (l ++ (v ++ []))) = _
  rw [List.append_nil]

end Gamebook.Reference
