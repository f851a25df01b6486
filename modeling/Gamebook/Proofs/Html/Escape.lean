import Gamebook.Html.Entity
import Gamebook.Html.Escape

/-!
# Escaped text is read back

`unescape` undoes `escape`. An escaped text has an ampersand only where a character
was escaped, and each of the five references that stand there is read as that
character and nothing behind it, so the reading falls apart into one step per
character. The same five references keep angle brackets and quotes out of the text,
which is why it may stand between the quotes of an attribute.
-/

namespace Gamebook.Html

/-- Characters that were taken as part of a reference are skipped. -/
theorem unescapeFrom_length_append (u t : Text) :
    unescapeFrom u.length (u ++ t) = unescapeFrom 0 t := by
  induction u with
  | nil => rfl
  | cons c u ih => exact ih

/-- What is read of a character that is written in escaped text. -/
theorem unescapeFrom_escapeChar (c : Char) (t : Text) :
    unescapeFrom 0 (escapeChar c ++ t) = (unescapeFrom 0 t).map (c :: ·) := by
  have reference {u : Text} (h : takeReference? (u ++ t) = .ok (some ([c], u.length))) :
      unescapeFrom 0 ('&' :: (u ++ t)) = (unescapeFrom 0 t).map (c :: ·) := by
    rw [unescapeFrom, if_pos (beq_self_eq_true '&'), h]
    dsimp only
    rw [unescapeFrom_length_append]
    rfl
  unfold escapeChar
  split
  · exact @reference "amp;".toList rfl
  · exact @reference "lt;".toList rfl
  · exact @reference "gt;".toList rfl
  · exact @reference "quot;".toList rfl
  · exact @reference "#x27;".toList rfl
  · rename_i hamp _ _ _ _
    show unescapeFrom 0 (c :: t) = _
    rw [unescapeFrom, if_neg (by simpa using hamp)]

/-- **Escaping is undone.** -/
theorem unescape_escape (t : Text) : unescape (escape t) = .ok t := by
  induction t with
  | nil => rfl
  | cons c t ih =>
      show unescapeFrom 0 (escapeChar c ++ escape t) = _
      rw [unescapeFrom_escapeChar]
      rw [unescape] at ih
      rw [ih]
      rfl

/-- Escaped text has no quotes and no angle brackets. -/
theorem not_mem_escape {x : Char} (hx : x ∈ ['"', '\'', '<', '>']) (t : Text) :
    x ∉ escape t := by
  have hreference {u : Text} (h : ['"', '\'', '<', '>'].all (!u.contains ·) = true) : x ∉ u := by
    simpa using List.all_eq_true.mp h x hx
  have hchar (c : Char) : x ∉ escapeChar c := by
    unfold escapeChar
    split
    · exact hreference (by decide)
    · exact hreference (by decide)
    · exact hreference (by decide)
    · exact hreference (by decide)
    · exact hreference (by decide)
    · rintro hc
      rw [List.mem_singleton] at hc
      subst hc
      simp_all
  intro h
  obtain ⟨c, _, hc⟩ := List.mem_flatMap.mp h
  exact hchar c hc

theorem escape_append (s t : Text) : escape (s ++ t) = escape s ++ escape t :=
  List.flatMap_append

/-- A character of a kind without special characters is written as it is. -/
theorem escapeChar_eq_self {p : Char → Bool}
    (hp : ['&', '<', '>', '"', '\''].all (!p ·) = true) {c : Char} (h : p c = true) :
    escapeChar c = [c] := by
  have hspecial : c ∉ ['&', '<', '>', '"', '\''] := by
    intro hmem
    have hfree := List.all_eq_true.mp hp c hmem
    rw [h] at hfree
    exact absurd hfree (by decide)
  unfold escapeChar
  split
  · exact absurd (by decide) hspecial
  · exact absurd (by decide) hspecial
  · exact absurd (by decide) hspecial
  · exact absurd (by decide) hspecial
  · exact absurd (by decide) hspecial
  · rfl

/-- A text without special characters is its own escaped form. -/
theorem escape_eq_self {t : Text} (h : ∀ c ∈ t, escapeChar c = [c]) : escape t = t := by
  induction t with
  | nil => rfl
  | cons c t ih =>
      show escapeChar c ++ escape t = c :: t
      rw [h c (by simp), ih fun x hx => h x (by simp [hx])]
      rfl

end Gamebook.Html
