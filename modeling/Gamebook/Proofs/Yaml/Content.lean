import Gamebook.Proofs.Text.Words
import Gamebook.Proofs.Yaml.Form
import Gamebook.Proofs.Yaml.Outcome
import Gamebook.Proofs.Yaml.Plain
import Gamebook.Proofs.Yaml.Quoted
import Gamebook.Yaml.Content
import Mathlib.Algebra.Group.Nat.Defs

/-!
# Contents that fit their tag

A scalar with a tag of the author's can hold what the tag does not allow, and then some of
the readings fail in ways that nobody expects. A plain scalar has the tag that its form
gave it, so what it holds is read, or is refused with a contained fault.
-/

namespace Gamebook.Yaml

/-- A final line feed would be a blank at the end of a plain scalar. -/
theorem PlainText.dropFinalBreak {block t : Text} (h : PlainText block t) :
    dropFinalBreak t = t := by
  unfold Yaml.dropFinalBreak
  refine if_neg ?_
  intro hbreak
  have hblank := h.last '\n' (eq_of_beq hbreak)
  exact absurd hblank (by decide)

/-! ## Truth values -/

theorem truthContent_yields {t : Text} (h : t ∈ truthWords) :
    Yields (fun _ => True) (truthContent t) := by
  have hall : ∀ w ∈ truthWords, (truthContent w).toBool = true := by decide
  have hread := hall t h
  cases hcontent : truthContent t with
  | ok b => trivial
  | error f =>
      rw [hcontent] at hread
      exact absurd hread (by simp [Except.toBool])

/-! ## Integers -/

theorem readInteger_yields (base : Nat) (t : Text) :
    Yields (fun _ => True) (readInteger base t) := by
  unfold readInteger
  cases Number.readLiteral base t with
  | ok z => cases z <;> trivial
  | error e => rfl

theorem mapM_yields {α : Type} {read : Text → Reading α}
    (h : ∀ t, Yields (fun _ => True) (read t)) (ts : List Text) :
    Yields (fun xs => xs.length = ts.length) (ts.mapM read) := by
  induction ts with
  | nil => exact rfl
  | cons t ts ih =>
      rw [List.mapM_cons]
      refine (h t).bind fun x _ => ih.bind ?_
      intro xs hxs
      show (x :: xs).length = (t :: ts).length
      rw [List.length_cons, List.length_cons, hxs]

theorem signed_yields {α : Type} {negate : α → α} {magnitude : Text → Reading α} {t : Text}
    (ht : t ≠ []) (h : Yields (fun _ => True) (magnitude (dropSign t))) :
    Yields (fun _ => True) (signed negate magnitude t) := by
  unfold signed
  split
  · exact absurd rfl ht
  · exact h.bind fun _ _ => trivial

theorem integerMagnitude_yields {t : Text} (h : t ≠ []) :
    Yields (fun _ => True) (integerContent.magnitude t) := by
  unfold integerContent.magnitude
  split
  · exact absurd rfl h
  · trivial
  · exact readInteger_yields 2 _
  · exact readInteger_yields 16 _
  · exact readInteger_yields 8 _
  · refine .ite (fun _ => ?_) fun _ => readInteger_yields 10 _
    exact (mapM_yields (readInteger_yields 10) _).bind fun _ _ => trivial

/-- The sign and the first character behind it stay when the underscores go. -/
theorem dropSign_dropUnderscores {t rest : Text} {c : Char} (h : dropSign t = c :: rest)
    (hc : c ≠ '_') : dropSign (dropUnderscores t) = c :: dropUnderscores rest := by
  have hkeep {x : Char} {u : Text} (hx : x ≠ '_') :
      dropUnderscores (x :: u) = x :: dropUnderscores u :=
    List.filter_cons_of_pos (by simpa using hx)
  cases t with
  | nil => exact absurd h (by simp [dropSign])
  | cons x u =>
      rw [dropSign] at h
      split at h
      · rename_i hsign
        have hx : x ≠ '_' := by
          rintro rfl
          exact absurd hsign (by decide)
        rw [hkeep hx, dropSign, if_pos hsign, h, hkeep hc]
      · rename_i hsign
        injection h with h1 h2
        subst h1; subst h2
        rw [hkeep hc, dropSign, if_neg hsign]

theorem integerContent_yields {t : Text} (h : isIntegerForm t = true) :
    Yields (fun _ => True) (integerContent t) := by
  obtain ⟨c, rest, hsign, hc⟩ := head_of_isIntegerForm h
  have hdrop := dropSign_dropUnderscores hsign hc
  refine signed_yields (fun hnil => ?_) ?_
  · rw [hnil] at hdrop
    exact absurd hdrop (by simp [dropSign])
  · rw [hdrop]
    exact integerMagnitude_yields (List.cons_ne_nil _ _)

/-! ## Floating numbers -/

theorem lower_of_allVisible {t : Text} (h : AllVisible t) : Text.lower t = t.map Char.toLower := by
  refine Text.lower_of_ascii fun c hc => ?_
  have hvisible := h c hc
  simp only [isVisible, Bool.and_eq_true, decide_eq_true_eq] at hvisible
  omega

/-- No letter is lowered to a colon. -/
theorem count_colon_lower {t : Text} (h : AllVisible t) :
    (Text.lower t).count ':' = t.count ':' := by
  have hcode : ∀ n < 0x7f, (Char.ofNat n).toLower = ':' ↔ Char.ofNat n = ':' := by decide
  rw [lower_of_allVisible h, List.count_eq_countP, List.count_eq_countP, List.countP_map]
  refine List.countP_congr ?_
  intro c hc
  have hvisible := h c hc
  simp only [isVisible, Bool.and_eq_true, decide_eq_true_eq] at hvisible
  have hcolon := hcode c.toNat hvisible.2
  rw [Char.ofNat_toNat] at hcolon
  simpa using hcolon

theorem length_splitBy (p : Char → Bool) (t : Text) :
    (Text.splitBy p t).length = t.countP p + 1 := by
  induction t with
  | nil => rfl
  | cons c t ih =>
      rw [Text.splitBy, List.countP_cons]
      split
      · rename_i hnil
        rw [hnil] at ih
        exact absurd ih (by simp)
      · rename_i piece pieces hpieces
        rw [hpieces, List.length_cons] at ih
        by_cases hp : p c = true
        · rw [if_pos hp, if_pos hp, List.length_cons, List.length_cons, ih]
        · rw [if_neg hp, if_neg hp, List.length_cons, ih]

theorem readFloat_yields (t : Text) : Yields (fun _ => True) (readFloat t) := by
  unfold readFloat
  cases Number.readFloat? t with
  | none => rfl
  | some x => trivial

/-- The powers of sixty up to the last one that is no more than the greatest floating number. -/
theorem isFinite_ofInt_pow {n : Nat} (h : n < 174) :
    (Binary64.ofInt ((60 ^ n : Nat) : Int)).isFinite = true := by
  have hall : ∀ n < 174, (Binary64.ofInt ((60 ^ n : Nat) : Int)).isFinite = true := by
    decide +kernel
  exact hall n h

theorem floatSixtieths_yields (xs : List Binary64) {n : Nat} (h : n + xs.length ≤ 174)
    (sum : Binary64) : Yields (fun _ => True) (floatSixtieths (60 ^ n) sum xs) := by
  induction xs generalizing n sum with
  | nil => trivial
  | cons x xs ih =>
      rw [List.length_cons] at h
      have hfinite := isFinite_ofInt_pow (n := n) (by omega)
      unfold floatSixtieths
      split
      · rename_i hinfinite
        rw [hinfinite] at hfinite
        exact absurd hfinite (by simp [Binary64.isFinite])
      · rw [← Nat.pow_succ]
        exact ih (by omega) _

theorem floatMagnitude_yields {t : Text} (h : t.count ':' < 174) :
    Yields (fun _ => True) (floatContent.magnitude t) := by
  unfold floatContent.magnitude
  refine .ite (fun _ => trivial) fun _ => .ite (fun _ => trivial) fun _ => ?_
  refine .ite (fun _ => ?_) fun _ => readFloat_yields t
  refine (mapM_yields readFloat_yields _).bind ?_
  intro parts hparts
  have hlength : (Text.splitOn ':' t).length = t.count ':' + 1 := length_splitBy _ t
  refine floatSixtieths_yields (n := 0) _ ?_ _
  rw [List.length_reverse, hparts, hlength]
  omega

theorem floatContent_yields {t : Text} (h : isFloatForm t = true) (hcount : t.count ':' < 174) :
    Yields (fun _ => True) (floatContent t) := by
  obtain ⟨c, rest, rfl, hc⟩ := head_of_isFloatForm h
  have hvisible : AllVisible (dropUnderscores (c :: rest)) :=
    fun x hx => allVisible_of_isFloatForm h x (List.mem_of_mem_filter hx)
  have hcolons : (dropSign (Text.lower (dropUnderscores (c :: rest)))).count ':' < 174 := by
    have hsign (u : Text) : (dropSign u).Sublist u := by
      unfold dropSign
      split
      · split
        · exact List.sublist_cons_self _ _
        · exact List.Sublist.refl _
      · exact List.Sublist.refl _
    have hlower := (hsign (Text.lower (dropUnderscores (c :: rest)))).count_le ':'
    rw [count_colon_lower hvisible] at hlower
    have hdrop : (dropUnderscores (c :: rest)).count ':' ≤ (c :: rest).count ':' :=
      List.filter_sublist.count_le ':'
    omega
  refine signed_yields (fun hlower => ?_) (floatMagnitude_yields hcolons)
  have hmem : c ∈ dropUnderscores (c :: rest) := List.mem_filter.mpr ⟨by simp, by simpa using hc⟩
  rw [lower_of_allVisible hvisible, List.map_eq_nil_iff] at hlower
  rw [hlower] at hmem
  exact absurd hmem (by simp)

/-! ## Dates and moments -/

theorem calendarDate_yields (f : TimestampFields) : Yields (fun _ => True) (calendarDate f) := by
  unfold calendarDate
  dsimp only
  refine .ite (fun _ => rfl) fun _ => .ite (fun _ => rfl) fun _ => ?_
  exact .ite (fun _ => rfl) fun _ => trivial

theorem zoneOffset_yields (zone : Option Char × Text × Text) :
    Yields (fun _ => True) (zoneOffset zone) := by
  obtain ⟨sign, hours, minutes⟩ := zone
  cases sign with
  | none => trivial
  | some sign =>
      unfold zoneOffset
      dsimp -zeta only
      extract_lets size seconds
      clear_value size
      by_cases hsize : size < 86400
      · rw [if_pos hsize]
        trivial
      · rw [if_neg hsize]
        exact rfl

theorem timestampContent_yields {t : Text} (h : isTimestampForm (dropFinalBreak t) = true) :
    Yields (fun _ => True) (timestampContent t) := by
  unfold isTimestampForm at h
  unfold timestampContent
  cases hread : readTimestamp? (dropFinalBreak t) with
  | none => exact absurd h (by simp [hread])
  | some f =>
      dsimp only
      have hdate := calendarDate_yields f
      have hzone : Yields (fun _ => True) (f.zone.mapM zoneOffset) := by
        cases f.zone with
        | none => trivial
        | some zone => exact (zoneOffset_yields zone).bind fun _ _ => trivial
      cases f.clock with
      | none =>
          dsimp only
          cases hday : calendarDate f with
          | ok date => trivial
          | error e => exact hdate.of_error hday
      | some clock =>
          obtain ⟨hour, minute, second, fraction⟩ := clock
          refine hzone.bind fun offset _ => hdate.bind fun date _ => ?_
          split
          · exact rfl
          split
          · exact rfl
          split
          · exact rfl
          · trivial

end Gamebook.Yaml
