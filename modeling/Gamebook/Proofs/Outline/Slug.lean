import Gamebook.Proofs.Outline.Heading
import Gamebook.Session.Action

/-!
# Identifiers of headings

An identifier is a *slug*: small Latin letters, digits and hyphens, and no two hyphens next to
each other. Collapsing writes such texts only, whatever it is given, and leaves them as they
are; lower case letters are their own lower case. So the identifiers are the texts that are
their own identifier (`slug_eq_self_iff`).

No number sign stands in an identifier. A definition may therefore name a heading with signs
in front of the identifier or without, and leads to it all the same.
-/

namespace Gamebook.Outline

/-- A text of small Latin letters, digits and hyphens, with no two hyphens in a row. -/
structure IsSlug (t : Text) : Prop where
  chars : ∀ c ∈ t, isSlugChar c = true ∨ c = '-'
  apart : ¬['-', '-'] <:+: t

variable {t : Text} {c : Char} {inRun : Bool}

theorem isSlugChar_iff : isSlugChar c = true
    ↔ 97 ≤ c.toNat ∧ c.toNat ≤ 122 ∨ 48 ≤ c.toNat ∧ c.toNat ≤ 57 := by
  simp only [isSlugChar, Bool.or_eq_true, Bool.and_eq_true, decide_eq_true_eq]
  exact Iff.rfl

theorem ne_hyphen_of_isSlugChar (hc : isSlugChar c = true) : c ≠ '-' := by
  rintro rfl
  exact absurd hc (by decide)

theorem isSlug_nil : IsSlug [] :=
  ⟨fun c hc => absurd hc List.not_mem_nil, by simp⟩

/-- Slugs are made character by character: a hyphen comes in front of anything but a hyphen. -/
theorem isSlug_cons : IsSlug (c :: t)
    ↔ (isSlugChar c = true ∨ c = '-' ∧ t.head? ≠ some '-') ∧ IsSlug t := by
  have hprefix : ['-', '-'] <+: c :: t ↔ c = '-' ∧ t.head? = some '-' := by
    cases t with
    | nil => simp
    | cons d t => simp [eq_comm]
  constructor
  · intro h
    have hapart := h.apart
    rw [List.infix_cons_iff, hprefix, not_or] at hapart
    refine ⟨?_, fun d hd => h.chars d (List.mem_cons_of_mem c hd), hapart.2⟩
    exact (h.chars c (List.mem_cons_self ..)).imp_right fun hc =>
      ⟨hc, fun hhead => hapart.1 ⟨hc, hhead⟩⟩
  · rintro ⟨hc, ht⟩
    refine ⟨List.forall_mem_cons.mpr ⟨hc.imp_right And.left, ht.chars⟩, ?_⟩
    rw [List.infix_cons_iff, hprefix]
    rintro (⟨rfl, hhead⟩ | hlater)
    · exact hc.elim (by decide) fun hc => hc.2 hhead
    · exact ht.apart hlater

/-! ## Collapsing -/

/-- **Collapsing writes slugs only**, and in a run of other characters it does not begin with
another hyphen. -/
theorem isSlug_collapse (inRun : Bool) (t : Text) :
    IsSlug (collapse inRun t) ∧ (inRun = true → (collapse inRun t).head? ≠ some '-') := by
  induction t generalizing inRun with
  | nil => exact ⟨isSlug_nil, fun _ => by simp [collapse]⟩
  | cons c t ih =>
      rw [collapse]
      cases hc : isSlugChar c with
      | true =>
          rw [if_pos rfl]
          exact ⟨isSlug_cons.mpr ⟨.inl hc, (ih false).1⟩, fun _ he =>
            ne_hyphen_of_isSlugChar hc (Option.some.inj he)⟩
      | false =>
          rw [if_neg (by decide)]
          cases inRun with
          | true => exact ih true
          | false =>
              rw [if_neg (by decide)]
              obtain ⟨hslug, hhead⟩ := ih true
              exact ⟨isSlug_cons.mpr ⟨.inr ⟨rfl, hhead rfl⟩, hslug⟩, fun h => absurd h (by decide)⟩

/-- A slug has nothing to collapse. -/
theorem collapse_eq_self (ht : IsSlug t) (hrun : inRun = true → t.head? ≠ some '-') :
    collapse inRun t = t := by
  induction t generalizing inRun with
  | nil => rfl
  | cons c t ih =>
      obtain ⟨hc, hlater⟩ := isSlug_cons.mp ht
      rw [collapse]
      rcases hc with hc | ⟨rfl, hhead⟩
      · rw [if_pos hc, ih hlater fun h => absurd h (by decide)]
      · have hout : ¬inRun = true := fun h => hrun h rfl
        rw [if_neg (by decide), if_neg hout, ih hlater fun _ => hhead]

theorem collapse_ne_nil (ht : t ≠ []) : collapse false t ≠ [] := by
  obtain ⟨c, t, rfl⟩ := List.exists_cons_of_ne_nil ht
  rw [collapse]
  split
  · exact List.cons_ne_nil _ _
  · exact List.cons_ne_nil _ _

/-! ## Identifiers -/

theorem toLower_of_isSlugChar (hc : isSlugChar c = true) : c.toLower = c := by
  have hrange := isSlugChar_iff.mp hc
  refine dif_neg fun hupper => ?_
  have hlow : 65 ≤ c.toNat := UInt32.le_iff_toNat_le.mp hupper.1
  have hhigh : c.toNat ≤ 90 := UInt32.le_iff_toNat_le.mp hupper.2
  omega

theorem lower_of_isSlug (ht : IsSlug t) : Text.lower t = t := by
  have hchar (c : Char) (hc : c ∈ t) : c.toNat < 0x80 ∧ c.toLower = c := by
    rcases ht.chars c hc with hc | rfl
    · have hrange := isSlugChar_iff.mp hc
      exact ⟨by omega, toLower_of_isSlugChar hc⟩
    · exact ⟨by decide, rfl⟩
  rw [Text.lower_of_ascii fun c hc => (hchar c hc).1]
  exact (List.map_congr_left fun c hc => (hchar c hc).2).trans (List.map_id t)

/-- Lower case takes no character away. -/
theorem lower_ne_nil (ht : t ≠ []) : Text.lower t ≠ [] := by
  obtain ⟨c, t, rfl⟩ := List.exists_cons_of_ne_nil ht
  have hchar : Text.lowerChar c ≠ [] := by
    unfold Text.lowerChar
    split
    · exact List.cons_ne_nil _ _
    · split <;> exact List.cons_ne_nil _ _
  rw [Text.lower, Text.lowerAfter]
  refine List.append_ne_nil_of_left_ne_nil ?_ _
  split
  · split <;> exact List.cons_ne_nil _ _
  · exact hchar

theorem isSlug_slug (t : Text) : IsSlug (slug t) := (isSlug_collapse false (Text.lower t)).1

/-- **The identifiers are the texts that are their own identifier.** -/
theorem slug_eq_self_iff : slug t = t ↔ IsSlug t := by
  constructor
  · intro h
    rw [← h]
    exact isSlug_slug t
  · intro h
    rw [slug, lower_of_isSlug h]
    exact collapse_eq_self h fun h => absurd h (by decide)

theorem slug_ne_nil (ht : t ≠ []) : slug t ≠ [] := collapse_ne_nil (lower_ne_nil ht)

theorem id_of_mem_ofNarrative {narrative : Text} {h : Heading} (hh : h ∈ ofNarrative narrative) :
    IsSlug h.id ∧ h.id ≠ [] := by
  obtain ⟨line, -, hread⟩ := List.mem_filterMap.mp hh
  have hheading := heading?_eq_some_iff.mp hread
  rw [hheading.id]
  exact ⟨isSlug_slug h.text, slug_ne_nil hheading.text_trimmed.1⟩

/-! ## Jumps -/

/-- A jump loses its number signs, and an identifier has none. -/
theorem jumpTarget_signs {id : Text} (hslug : IsSlug id) (hne : id ≠ []) (k : Nat)
    (description : Text) :
    (Definition.lore description (some (List.replicate k '#' ++ id))).jumpTarget = some id := by
  have hsigns : (List.replicate k '#').filter (· != '#') = [] := by
    rw [List.filter_eq_nil_iff]
    intro c hc
    simp [List.eq_of_mem_replicate hc]
  have hkept : id.filter (· != '#') = id := by
    rw [List.filter_eq_self]
    intro c hc
    rw [bne_iff_ne]
    rintro rfl
    exact absurd (hslug.chars '#' hc) (by decide)
  rw [Definition.jumpTarget, if_neg (List.append_ne_nil_of_right_ne_nil _ hne),
    List.filter_append, hsigns, hkept, List.nil_append]

/--
**Identifiers are stable, and they can be jumped to.**

Whatever a text is, its identifier is a slug, its own identifier, and the text itself exactly if
that is a slug. So every heading of an outline has an identifier with something in it, and lore
that names it, behind any number of signs, leads to it, in a definition and in a session.
-/
theorem slug_links (t narrative : Text) :
    (IsSlug (slug t) ∧ slug (slug t) = slug t ∧ (slug t = t ↔ IsSlug t))
      ∧ ∀ h ∈ ofNarrative narrative, h.id ≠ []
        ∧ ∀ (k : Nat) (description jump : Text), jump = List.replicate k '#' ++ h.id →
          (Definition.lore description (some jump)).jumpTarget = some h.id
            ∧ ∀ (s : Session) (term : Text),
              s.definition? term = some (.lore description (some jump)) →
                s.perform (.jump term) = (.ok (.target (some h.id)), s) := by
  refine ⟨⟨isSlug_slug t, slug_eq_self_iff.mpr (isSlug_slug t), slug_eq_self_iff⟩, ?_⟩
  intro h hh
  obtain ⟨hslug, hne⟩ := id_of_mem_ofNarrative hh
  refine ⟨hne, ?_⟩
  rintro k description _ rfl
  have htarget := jumpTarget_signs hslug hne k description
  refine ⟨htarget, fun s term hdefined => ?_⟩
  rw [Session.perform, Session.jumpTarget, hdefined, Option.bind_some, htarget]

/-- The first letter of the city has a lower case of two characters. -/
def roadAndCity : Text := "# Act I: The Road!\n### İzmir".toList

theorem slug_links_roadAndCity :
    ⟨3, "İzmir".toList, "i-zmir".toList⟩ ∈ ofNarrative roadAndCity
      ∧ "#i-zmir".toList = List.replicate 1 '#' ++ "i-zmir".toList
      ∧ ∃ begun, Session.startUnder Settings.standard
          (Cartridge.ofParts [("City".toList, .lore [] (some "#i-zmir".toList))] [])
          (Dice.Source.ofList []) none = .ok begun
        ∧ begun.definition? "City".toList = some (.lore [] (some "#i-zmir".toList))
        ∧ begun.perform (.jump "City".toList) = (.ok (.target (some "i-zmir".toList)), begun) := by
  have hmem : ⟨3, "İzmir".toList, "i-zmir".toList⟩ ∈ ofNarrative roadAndCity := by decide +kernel
  have hlinks := ((slug_links [] roadAndCity).2 _ hmem).2 1 [] "#i-zmir".toList rfl
  exact ⟨hmem, rfl, _, rfl, rfl, hlinks.2 _ _ rfl⟩

end Gamebook.Outline
