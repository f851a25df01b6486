import Gamebook.Proofs.Yaml.Cursor
import Gamebook.Yaml.Resolve
import Mathlib.Data.List.TakeWhile

/-!
# The forms of plain scalars

A plain scalar gets its tag from its form. Here is what a form tells of the text: a number
has a character other than an underscore behind its sign, and a floating number is written
in visible ASCII characters only.
-/

namespace Gamebook.Yaml

/-- The tags whose contents are read without being checked first. -/
def uncheckedTags : List Text := ["bool", "float", "int", "timestamp"].map coreTag

/-- A plain scalar gets one of these tags only for its form. -/
theorem plainTag_cases (t : Text) :
    (plainTag t = coreTag "bool" ∧ dropFinalBreak t ∈ truthWords)
      ∨ (plainTag t = coreTag "float" ∧ isFloatForm (dropFinalBreak t) = true)
      ∨ (plainTag t = coreTag "int" ∧ isIntegerForm (dropFinalBreak t) = true)
      ∨ (plainTag t = coreTag "timestamp" ∧ isTimestampForm (dropFinalBreak t) = true)
      ∨ plainTag t ∉ uncheckedTags := by
  unfold plainTag
  extract_lets u
  split
  · rename_i hbool
    exact .inl ⟨rfl, List.contains_iff_mem.mp hbool⟩
  split
  · rename_i hfloat
    exact .inr (.inl ⟨rfl, hfloat⟩)
  split
  · rename_i hint
    exact .inr (.inr (.inl ⟨rfl, hint⟩))
  split
  · exact .inr (.inr (.inr (.inr (by decide))))
  split
  · exact .inr (.inr (.inr (.inr (by decide))))
  split
  · rename_i htimestamp
    exact .inr (.inr (.inr (.inl ⟨rfl, htimestamp⟩)))
  refine .inr (.inr (.inr (.inr ?_)))
  split
  · decide
  split
  · decide
  · decide

/-! ## Signs and underscores -/

/-- Behind the sign of a text with an integer form comes a figure. -/
theorem head_of_isIntegerForm {t : Text} (h : isIntegerForm t = true) :
    ∃ c rest, dropSign t = c :: rest ∧ c ≠ '_' := by
  unfold isIntegerForm at h
  split at h
  · rename_i ds hsign
    exact ⟨'0', 'b' :: ds, hsign, by decide⟩
  · rename_i ds hsign
    exact ⟨'0', 'x' :: ds, hsign, by decide⟩
  · rename_i ds _ _ hsign
    exact ⟨'0', ds, hsign, by decide⟩
  · rename_i c rest _ _ _ hsign
    refine ⟨c, rest, hsign, ?_⟩
    rintro rfl
    exact absurd (Bool.and_eq_true_iff.mp (Bool.and_eq_true_iff.mp h).1).2 (by decide)
  · exact absurd h (by simp)

/-- A text with the form of a floating number does not begin with an underscore. -/
theorem head_of_isFloatForm {t : Text} (h : isFloatForm t = true) :
    ∃ c rest, t = c :: rest ∧ c ≠ '_' := by
  cases t with
  | nil => exact absurd h (by decide)
  | cons c rest =>
      refine ⟨c, rest, rfl, ?_⟩
      rintro rfl
      have hsign : dropSign ('_' :: rest) = '_' :: rest := rfl
      have hsixty : isFloatForm.bySixty ('_' :: rest) = false := by
        unfold isFloatForm.bySixty
        rw [Text.splitOn, Text.splitBy]
        cases Text.splitBy (· == ':') rest with
        | nil => rfl
        | cons piece pieces =>
            cases pieces with
            | nil => rfl
            | cons second more => rfl
      unfold isFloatForm at h
      rw [hsign] at h
      dsimp only at h
      rw [hsixty] at h
      exact absurd h (by simp [isFloatForm.withPoint, afterFigures?, isFloatForm.pointFirst,
        isFloatForm.infinite, Text.isAsciiDigit])

/-! ## Characters -/

/-- Whether a character is a visible ASCII character. -/
def isVisible (c : Char) : Bool := decide (0x20 < c.toNat) && decide (c.toNat < 0x7f)

theorem isVisible_of_isAsciiDigit {c : Char} (h : Text.isAsciiDigit c = true) :
    isVisible c = true := by
  have hcode {a b : Char} : a ≤ b ↔ a.toNat ≤ b.toNat := Iff.rfl
  have hends : '0'.toNat = 48 ∧ '9'.toNat = 57 := by decide
  simp only [Text.isAsciiDigit, Bool.and_eq_true, decide_eq_true_eq, hcode] at h
  simp only [isVisible, Bool.and_eq_true, decide_eq_true_eq]
  omega

theorem isVisible_of_isDigitOrUnderscore {c : Char} (h : isDigitOrUnderscore c = true) :
    isVisible c = true := by
  rcases Bool.or_eq_true_iff.mp h with hdigit | hunder
  · exact isVisible_of_isAsciiDigit hdigit
  · rw [eq_of_beq hunder]
    decide

/-- Visible characters are no blanks. -/
theorem isBlankOrEnd_of_isVisible {c : Char} (h : isVisible c = true) :
    Cursor.isBlankOrEnd c = false := by
  refine Bool.eq_false_iff.mpr ?_
  intro hblank
  simp only [Cursor.isBlankOrEnd, Cursor.isSpaceOrEnd, Cursor.isBreakOrEnd, isBreak,
    Bool.or_eq_true, beq_iff_eq] at hblank
  rcases hblank with rfl | rfl | ((((rfl | rfl) | rfl) | rfl) | rfl) | rfl <;>
    exact absurd h (by decide)

/-- A text of visible characters only. -/
def AllVisible (t : Text) : Prop := ∀ c ∈ t, isVisible c = true

theorem AllVisible.cons {c : Char} {t : Text} (hc : isVisible c = true) (ht : AllVisible t) :
    AllVisible (c :: t) := by
  intro x hx
  rcases List.mem_cons.mp hx with rfl | hx
  · exact hc
  · exact ht x hx

theorem AllVisible.append {t u : Text} (ht : AllVisible t) (hu : AllVisible u) :
    AllVisible (t ++ u) := by
  intro x hx
  rcases List.mem_append.mp hx with hx | hx
  · exact ht x hx
  · exact hu x hx

/-- A run of visible characters may be put back in front. -/
theorem AllVisible.of_dropWhile {p : Char → Bool} (hp : ∀ c, p c = true → isVisible c = true)
    {t : Text} (h : AllVisible (t.dropWhile p)) : AllVisible t := by
  rw [← List.takeWhile_append_dropWhile (p := p) (l := t)]
  exact .append (fun c hc => hp c (List.mem_takeWhile_imp hc)) h

theorem allVisible_of_all {p : Char → Bool} (hp : ∀ c, p c = true → isVisible c = true) {t : Text}
    (h : t.all p = true) : AllVisible t :=
  fun c hc => hp c (List.all_eq_true.mp h c hc)

theorem allVisible_of_word {words : List String}
    (hwords : ∀ w ∈ words, w.toList.all isVisible = true) {t : Text}
    (h : (words.any fun w => t == w.toList) = true) : AllVisible t := by
  obtain ⟨w, hw, ht⟩ := List.any_eq_true.mp h
  rw [eq_of_beq ht]
  exact List.all_eq_true.mp (hwords w hw)

theorem AllVisible.of_dropSign {t : Text} (h : AllVisible (dropSign t)) : AllVisible t := by
  unfold dropSign at h
  split at h
  · split at h
    · rename_i hsign
      refine .cons ?_ h
      simp only [Bool.or_eq_true, beq_iff_eq] at hsign
      rcases hsign with rfl | rfl <;> decide
    · exact h
  · exact h

theorem AllVisible.of_afterFigures? {t rest : Text} (ht : afterFigures? t = some rest)
    (h : AllVisible rest) : AllVisible t := by
  unfold afterFigures? at ht
  split at ht
  · split at ht
    · rename_i hfigure
      injection ht with ht
      subst ht
      exact .cons (isVisible_of_isAsciiDigit hfigure)
        (.of_dropWhile (fun _ => isVisible_of_isDigitOrUnderscore) h)
    · exact absurd ht (by simp)
  · exact absurd ht (by simp)

theorem allVisible_of_isExponentOrNil {t : Text} (h : isExponentOrNil t = true) : AllVisible t := by
  unfold isExponentOrNil at h
  split at h
  · exact fun c hc => absurd hc (by simp)
  · simp only [Bool.and_eq_true, Bool.or_eq_true, beq_iff_eq] at h
    obtain ⟨⟨⟨he, hs⟩, -⟩, hds⟩ := h
    refine .cons ?_ (.cons ?_ (allVisible_of_all (fun _ => isVisible_of_isAsciiDigit) hds))
    · rcases he with rfl | rfl <;> decide
    · rcases hs with rfl | rfl <;> decide
  · exact absurd h (by simp)

theorem allVisible_of_isSixtieth {t : Text} (h : isSixtieth t = true) : AllVisible t := by
  have hnil : AllVisible [] := fun c hc => absurd hc (by simp)
  unfold isSixtieth at h
  split at h
  · exact .cons (isVisible_of_isAsciiDigit h) hnil
  · rename_i a b
    simp only [Bool.and_eq_true, decide_eq_true_eq] at h
    obtain ⟨⟨hlow, hhigh⟩, hb⟩ := h
    refine .cons (isVisible_of_isAsciiDigit ?_) (.cons (isVisible_of_isAsciiDigit hb) hnil)
    simp only [Text.isAsciiDigit, Bool.and_eq_true, decide_eq_true_eq]
    exact ⟨hlow, Char.le_trans hhigh (by decide)⟩
  · exact absurd h (by simp)

/-- Every character of a text is one of a piece, or stands between two. -/
theorem mem_splitBy {p : Char → Bool} {t : Text} {c : Char} (h : c ∈ t) :
    p c = true ∨ ∃ piece ∈ Text.splitBy p t, c ∈ piece := by
  induction t with
  | nil => exact absurd h (by simp)
  | cons x t ih =>
      rw [Text.splitBy]
      split
      · rename_i hnil
        rcases List.mem_cons.mp h with rfl | h
        · exact .inr ⟨[c], by simp, by simp⟩
        · rcases ih h with hp | ⟨piece, hpiece, -⟩
          · exact .inl hp
          · rw [hnil] at hpiece
            exact absurd hpiece (by simp)
      · rename_i piece pieces hpieces
        rcases List.mem_cons.mp h with rfl | h
        · by_cases hp : p c = true
          · exact .inl hp
          · rw [if_neg hp]
            exact .inr ⟨c :: piece, by simp, by simp⟩
        · rcases ih h with hp | ⟨q, hq, hc⟩
          · exact .inl hp
          · rw [hpieces] at hq
            refine .inr ?_
            split
            · exact ⟨q, List.mem_cons_of_mem _ hq, hc⟩
            · rcases List.mem_cons.mp hq with rfl | hq
              · exact ⟨x :: q, by simp, List.mem_cons_of_mem _ hc⟩
              · exact ⟨q, List.mem_cons_of_mem _ hq, hc⟩

theorem allVisible_of_bySixty {t : Text} (h : isFloatForm.bySixty t = true) : AllVisible t := by
  unfold isFloatForm.bySixty at h
  split at h
  · rename_i first second more hsplit
    dsimp only at h
    simp only [Bool.and_eq_true] at h
    obtain ⟨⟨⟨hfirst, hinner⟩, hwhole⟩, hfraction⟩ := h
    generalize hlast : (second :: more).getLastD [] = last at hwhole hfraction
    have hlastVisible : AllVisible last := by
      rw [← List.takeWhile_append_dropWhile (p := (· != '.')) (l := last)]
      refine .append (allVisible_of_isSixtieth hwhole) ?_
      split at hfraction
      · rename_i hdot
        rw [hdot]
        exact .cons (by decide) (allVisible_of_all (fun _ => isVisible_of_isDigitOrUnderscore)
          hfraction)
      · exact absurd hfraction (by simp)
    intro c hc
    rcases mem_splitBy (p := (· == ':')) hc with hcolon | ⟨piece, hpiece, hc⟩
    · rw [eq_of_beq hcolon]
      decide
    · rw [show Text.splitBy (· == ':') t = first :: second :: more from hsplit] at hpiece
      rcases List.mem_cons.mp hpiece with rfl | hpiece
      · exact AllVisible.of_afterFigures? (eq_of_beq hfirst) (fun c hc => absurd hc (by simp)) c hc
      · have hparts : second :: more = (second :: more).dropLast ++ [last] := by
          rw [← hlast, List.getLastD_eq_getLast?, List.getLast?_eq_some_getLast (by simp)]
          exact (List.dropLast_concat_getLast _).symm
        rw [hparts, List.mem_append, List.mem_singleton] at hpiece
        rcases hpiece with hpiece | rfl
        · exact allVisible_of_isSixtieth (List.all_eq_true.mp hinner piece hpiece) c hc
        · exact hlastVisible c hc
  · exact absurd h (by simp)

/-- **A floating number is written in visible characters.** -/
theorem allVisible_of_isFloatForm {t : Text} (h : isFloatForm t = true) : AllVisible t := by
  unfold isFloatForm at h
  simp only [Bool.or_eq_true] at h
  rcases h with (((hpoint | hfirst) | hsixty) | hinfinite) | hnan
  · refine .of_dropSign ?_
    unfold isFloatForm.withPoint at hpoint
    split at hpoint
    · rename_i rest hfigures
      exact .of_afterFigures? hfigures (.cons (by decide)
        (.of_dropWhile (fun _ => isVisible_of_isDigitOrUnderscore)
          (allVisible_of_isExponentOrNil hpoint)))
    · exact absurd hpoint (by simp)
  · unfold isFloatForm.pointFirst at hfirst
    split at hfirst
    · rename_i rest
      cases hfigures : afterFigures? rest with
      | none => exact absurd hfirst (by simp [hfigures])
      | some after =>
          rw [hfigures] at hfirst
          have hafter := allVisible_of_isExponentOrNil hfirst
          exact .cons (by decide) (.of_afterFigures? hfigures hafter)
    · exact absurd hfirst (by simp)
  · exact .of_dropSign (allVisible_of_bySixty hsixty)
  · exact .of_dropSign (allVisible_of_word (by decide) hinfinite)
  · exact allVisible_of_word (by decide) hnan

end Gamebook.Yaml
