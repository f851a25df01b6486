import Gamebook.Proofs.Annotation.TableRegion

/-!
# Words that regions take no notice of

The regions of a text are found by the words of their marks. A word is *inert* if none of
those words can be read in it or across one of its ends. Then it does not matter which inert
word stands in a place: a text that is written with any of them has its regions in the same
places, and they become containers around the same contents.

A text with such places is a list of pieces, and `Piece.render w` writes it with the word
`w a` for the piece `a`. Every statement here is about all ways to write the same pieces at
once: what is read of them is either nothing, whatever is written, or again some pieces.
-/

namespace Gamebook.TableRegion

open Text (Piece scan)

/-- The words that the marks of a region are made of. -/
def markWords : List Text := [opening, openingEnd, closing, paragraph, paragraphEnd]

/-- A word in which no region and no closing mark begins, whatever follows. -/
def Quiet (x : Text) : Prop :=
  ∀ u, u ≠ [] → u <:+ x → ∀ t, take? (u ++ t) = none ∧ Text.after? closing (u ++ t) = none

/-- A quiet word that neither continues nor begins with the rest of a mark's word, and after which
no paragraph has begun. -/
structure Inert (x : Text) : Prop where
  ne_nil : x ≠ []
  first : ∀ c ∈ x.head?, Text.isDigit c = false ∧ Text.isBlank c = false
  last : ∀ c ∈ x.getLast?, Text.isBlank c = false
  quiet : Quiet x
  stops : ∀ word ∈ markWords, ∀ q, q ≠ [] → q <:+ word → ∀ t, Text.after? q (x ++ t) = none
  ends : ∀ q, q ≠ [] → q <+: paragraph → ∀ t, ¬q <:+ t ++ x

variable {α : Type}

/-- A way to write pieces that writes inert words for what was found. -/
def Inertly (w : α → Text) (ps : List (Piece α)) : Prop := ∀ a, .found a ∈ ps → Inert (w a)

theorem Inertly.of_subset {w : α → Text} {ps qs : List (Piece α)} (h : Inertly w ps)
    (hsub : qs ⊆ ps) : Inertly w qs := fun a ha => h a (hsub ha)

theorem Inertly.left {w : α → Text} {ps qs : List (Piece α)} (h : Inertly w (ps ++ qs)) :
    Inertly w ps := h.of_subset (List.subset_append_left ps qs)

theorem Inertly.right {w : α → Text} {ps qs : List (Piece α)} (h : Inertly w (ps ++ qs)) :
    Inertly w qs := h.of_subset (List.subset_append_right ps qs)

theorem Inertly.tail {w : α → Text} {p : Piece α} {ps : List (Piece α)}
    (h : Inertly w (p :: ps)) : Inertly w ps := h.of_subset (List.subset_cons_self p ps)

theorem Inertly.head {w : α → Text} {a : α} {ps : List (Piece α)}
    (h : Inertly w (.found a :: ps)) : Inert (w a) := h a (by simp)

/-! ## Words at the start -/

/-- The word of a mark is read off plain characters, or it is not read at all. -/
theorem after?_render {word : Text} (hword : ∃ m ∈ markWords, word <:+ m) (ps : List (Piece α)) :
    (∃ qs, ps = word.map .plain ++ qs)
      ∨ ∀ w, Inertly w ps → Text.after? word (Piece.render w ps) = none := by
  induction word generalizing ps with
  | nil => exact .inl ⟨ps, rfl⟩
  | cons c word ih =>
      obtain ⟨m, hm, hsuffix⟩ := hword
      cases ps with
      | nil => exact .inr fun w _ => rfl
      | cons p ps =>
          cases p with
          | found a =>
              exact .inr fun w hw => hw.head.stops m hm _ (by simp) hsuffix (Piece.render w ps)
          | plain d =>
              by_cases hcd : c = d
              · subst hcd
                rcases ih ⟨m, hm, (List.suffix_cons c word).trans hsuffix⟩ ps with ⟨qs, rfl⟩ | hnone
                · exact .inl ⟨qs, rfl⟩
                · refine .inr fun w hw => ?_
                  show Text.after? (c :: word) (c :: Piece.render w ps) = none
                  rw [Text.after?, if_pos rfl, hnone w hw.tail]
              · exact .inr fun w _ => Text.after?_cons_of_ne hcd word (Piece.render w ps)

theorem dropOptional_render {word : Text} (hword : word ∈ markWords) (ps : List (Piece α)) :
    ∃ (us : Text) (qs : List (Piece α)), ps = us.map .plain ++ qs
      ∧ ∀ w, Inertly w ps → dropOptional word (Piece.render w ps) = Piece.render w qs := by
  rcases after?_render ⟨word, hword, List.suffix_rfl⟩ ps with ⟨qs, rfl⟩ | hnone
  · refine ⟨word, qs, rfl, fun w _ => ?_⟩
    rw [Piece.render_append, Piece.render_plain, dropOptional_append]
  · refine ⟨[], ps, rfl, fun w hw => ?_⟩
    rw [dropOptional, hnone w hw]
    rfl

/-! ## Runs of characters -/

/-- The plain characters of a kind at the start, up to a piece that begins with no such one. -/
theorem exists_run {p : Char → Bool} (hp : ∀ x, Inert x → ∀ c ∈ x.head?, p c = false)
    (ps : List (Piece α)) :
    ∃ (us : Text) (qs : List (Piece α)), ps = us.map .plain ++ qs ∧ (∀ c ∈ us, p c = true)
      ∧ ∀ w, Inertly w ps → ∀ c ∈ (Piece.render w qs).head?, p c = false := by
  induction ps with
  | nil => exact ⟨[], [], rfl, by simp, fun w _ c hc => absurd hc (by simp [Piece.render])⟩
  | cons q ps ih =>
      cases q with
      | found a =>
          refine ⟨[], .found a :: ps, rfl, by simp, fun w hw c hc => ?_⟩
          rw [Piece.render_cons_found, List.head?_append_of_ne_nil _ hw.head.ne_nil] at hc
          exact hp _ hw.head c hc
      | plain d =>
          by_cases hd : p d = true
          · obtain ⟨us, qs, rfl, hus, hqs⟩ := ih
            refine ⟨d :: us, qs, rfl, by simp [hd]; exact hus, fun w hw => hqs w hw.tail⟩
          · refine ⟨[], .plain d :: ps, rfl, by simp, fun w _ c hc => ?_⟩
            obtain rfl := Option.some.inj hc
            simpa using hd

/-- Digits are read off plain characters, or none are read. -/
theorem takeDigits?_render (ps : List (Piece α)) :
    (∃ ds qs, ps = ds.map .plain ++ qs ∧ (∀ c ∈ ds, Text.isDigit c = true)
        ∧ ∀ w, Inertly w ps → Text.takeDigits? (Piece.render w ps) = some (ds, Piece.render w qs))
      ∨ ∀ w, Inertly w ps → Text.takeDigits? (Piece.render w ps) = none := by
  obtain ⟨ds, qs, rfl, hds, hqs⟩ := exists_run (fun x hx c hc => (hx.first c hc).1) ps
  have hspan {w : α → Text} (hw : Inertly w (ds.map .plain ++ qs)) :
      (Piece.render w (ds.map .plain ++ qs)).span Text.isDigit = (ds, Piece.render w qs) := by
    rw [Piece.render_append, Piece.render_plain]
    exact Text.span_append hds (hqs w hw)
  cases ds with
  | nil => exact .inr fun w hw => by rw [Text.takeDigits?, hspan hw]
  | cons d ds =>
      exact .inl ⟨d :: ds, qs, rfl, hds, fun w hw => by rw [Text.takeDigits?, hspan hw]⟩

/-! ## The closing mark -/

/-- A closing mark is not found in a quiet word. -/
theorem cutAt?_quiet {x : Text} (h : Quiet x) (t : Text) :
    Text.cutAt? closing (x ++ t) = (Text.cutAt? closing t).map fun r => (x ++ r.1, r.2) := by
  induction x with
  | nil =>
      rw [List.nil_append]
      cases Text.cutAt? closing t <;> rfl
  | cons c x ih =>
      have hnone : Text.after? closing (c :: x ++ t) = none :=
        (h (c :: x) (by simp) List.suffix_rfl t).2
      rw [List.cons_append] at hnone ⊢
      rw [Text.cutAt?, hnone, ih fun u hne hu => h u hne (hu.trans (List.suffix_cons c x))]
      cases Text.cutAt? closing t <;> rfl

theorem cutAt?_render (ps : List (Piece α)) :
    (∃ cs qs, ps = cs ++ (closing.map .plain ++ qs)
        ∧ ∀ w, Inertly w ps →
          Text.cutAt? closing (Piece.render w ps) = some (Piece.render w cs, Piece.render w qs))
      ∨ ∀ w, Inertly w ps → Text.cutAt? closing (Piece.render w ps) = none := by
  induction ps with
  | nil => exact .inr fun w _ => rfl
  | cons p ps ih =>
      cases p with
      | found a =>
          have hcut {w : α → Text} (hw : Inertly w (.found a :: ps)) :
              Text.cutAt? closing (Piece.render w (.found a :: ps))
                = (Text.cutAt? closing (Piece.render w ps)).map fun r => (w a ++ r.1, r.2) :=
            cutAt?_quiet hw.head.quiet (Piece.render w ps)
          rcases ih with ⟨cs, qs, rfl, hsome⟩ | hnone
          · refine .inl ⟨.found a :: cs, qs, rfl, fun w hw => ?_⟩
            rw [hcut hw, hsome w hw.tail]
            rfl
          · exact .inr fun w hw => by rw [hcut hw, hnone w hw.tail]; rfl
      | plain c =>
          rcases after?_render ⟨closing, by simp [markWords], List.suffix_rfl⟩ (.plain c :: ps) with
            ⟨qs, hqs⟩ | hno
          · refine .inl ⟨[], qs, hqs, fun w _ => ?_⟩
            rw [hqs, Piece.render_append, Piece.render_plain]
            exact Text.cutAt?_append (u := []) (by simp) closing.tail (Piece.render w qs)
          · have hcut {w : α → Text} (hw : Inertly w (.plain c :: ps)) :
                Text.cutAt? closing (Piece.render w (.plain c :: ps))
                  = (Text.cutAt? closing (Piece.render w ps)).map fun r => (c :: r.1, r.2) := by
              show Text.cutAt? closing (c :: Piece.render w ps) = _
              have hno : Text.after? closing (c :: Piece.render w ps) = none := hno w hw
              rw [Text.cutAt?, hno]
            rcases ih with ⟨cs, qs, rfl, hsome⟩ | hnone
            · refine .inl ⟨.plain c :: cs, qs, rfl, fun w hw => ?_⟩
              rw [hcut hw, hsome w hw.tail]
              rfl
            · exact .inr fun w hw => by rw [hcut hw, hnone w hw.tail]; rfl

/-! ## Words and runs at the end -/

/-- A part of a paragraph tag at the end stands in plain characters, or it is not there. -/
theorem suffix_render {q : Text} (hq : q <+: paragraph) (ps : List (Piece α)) :
    (∃ qs, ps = qs ++ q.map .plain)
      ∨ ∀ w, Inertly w ps → ¬q <:+ Piece.render w ps := by
  -- both are taken apart from the end
  induction q using List.reverseRecOn generalizing ps with
  | nil => exact .inl ⟨ps, by simp⟩
  | append_singleton q c ih =>
      rcases List.eq_nil_or_concat ps with rfl | ⟨ps, p, rfl⟩
      · refine .inr fun w _ h => ?_
        have hnil := List.suffix_nil.mp h
        exact absurd hnil (by simp)
      · cases p with
        | found a =>
            refine .inr fun w hw => ?_
            rw [List.concat_eq_append, Piece.render_concat_found]
            exact (hw a (by simp)).ends _ (by simp) hq (Piece.render w ps)
        | plain d =>
            have hends {w : α → Text} (h : q ++ [c] <:+ Piece.render w (ps.concat (.plain d))) :
                c = d ∧ q <:+ Piece.render w ps := by
              rw [List.concat_eq_append, Piece.render_concat_plain, List.suffix_concat_iff] at h
              rcases h with h | ⟨t, ht, hsuffix⟩
              · exact absurd h (by simp)
              · obtain ⟨rfl, hcd⟩ := List.append_inj' ht rfl
                exact ⟨List.singleton_injective hcd, hsuffix⟩
            by_cases hcd : c = d
            · subst hcd
              rcases ih ((List.prefix_append q [c]).trans hq) ps with ⟨qs, rfl⟩ | hnone
              · exact .inl ⟨qs, by simp⟩
              · refine .inr fun w hw h => hnone w (hw.of_subset ?_) (hends h).2
                simp
            · exact .inr fun w _ h => hcd (hends h).1

theorem dropOptionalEnd_render (ps : List (Piece α)) :
    ∃ (qs : List (Piece α)) (us : Text), ps = qs ++ us.map .plain
      ∧ ∀ w, Inertly w ps →
        dropOptionalEnd paragraph (Piece.render w ps) = Piece.render w qs := by
  rcases suffix_render List.prefix_rfl ps with ⟨qs, rfl⟩ | hnone
  · refine ⟨qs, paragraph, rfl, fun w _ => ?_⟩
    have hplain : Piece.render w (paragraph.map .plain) = paragraph :=
      Piece.render_plain w paragraph
    rw [Piece.render_append, hplain, dropOptionalEnd_append]
  · refine ⟨ps, [], by simp, fun w hw => ?_⟩
    have hnot : ¬paragraph <:+ Piece.render w ps := hnone w hw
    rw [dropOptionalEnd, if_neg]
    intro hdrop
    rw [← hdrop] at hnot
    exact hnot (List.drop_suffix ..)

/-- The plain blanks at the end, down to a piece that ends with none. -/
theorem exists_blanks_end (ps : List (Piece α)) :
    ∃ (qs : List (Piece α)) (vs : Text), ps = qs ++ vs.map .plain
      ∧ (∀ c ∈ vs, Text.isBlank c = true)
      ∧ ∀ w, Inertly w ps → ∀ c ∈ (Piece.render w qs).getLast?, Text.isBlank c = false := by
  induction ps using List.reverseRecOn with
  | nil => exact ⟨[], [], rfl, by simp, fun w _ c hc => absurd hc (by simp [Piece.render])⟩
  | append_singleton ps p ih =>
      cases p with
      | found a =>
          refine ⟨ps ++ [.found a], [], by simp, by simp, fun w hw c hc => ?_⟩
          have ha := hw a (by simp)
          rw [Piece.render_concat_found, List.getLast?_append_of_ne_nil _ ha.ne_nil] at hc
          exact ha.last c hc
      | plain d =>
          by_cases hd : Text.isBlank d = true
          · obtain ⟨qs, vs, rfl, hvs, hqs⟩ := ih
            refine ⟨qs, vs ++ [d], by simp, ?_, fun w hw => hqs w hw.left⟩
            intro c hc
            rcases List.mem_append.mp hc with hc | hc
            · exact hvs c hc
            · exact List.mem_singleton.mp hc ▸ hd
          · refine ⟨ps ++ [.plain d], [], by simp, by simp, fun w _ c hc => ?_⟩
            rw [Piece.render_concat_plain, List.getLast?_append_of_ne_nil _ (by simp)] at hc
            obtain rfl := Option.some.inj hc
            simpa using hd

/-- Only plain blanks are trimmed. -/
theorem trim_render (ps : List (Piece α)) :
    ∃ (us : Text) (qs : List (Piece α)) (vs : Text), ps = us.map .plain ++ (qs ++ vs.map .plain)
      ∧ (∀ c ∈ vs, Text.isBlank c = true)
      ∧ ∀ w, Inertly w ps → Text.trim (Piece.render w ps) = Piece.render w qs := by
  obtain ⟨us, rest, rfl, hus, hfirst⟩ := exists_run (fun x hx c hc => (hx.first c hc).2) ps
  obtain ⟨qs, vs, rfl, hvs, hlast⟩ := exists_blanks_end rest
  refine ⟨us, qs, vs, rfl, hvs, fun w hw => ?_⟩
  rw [Piece.render_append, Piece.render_plain, Text.trim_blanks_append hus, Piece.render_append,
    Piece.render_plain, Text.trim_append_blanks hvs]
  refine Text.trim_eq_self (fun c hc => hfirst w hw c ?_) (hlast w hw.right)
  rw [Piece.render_append, List.head?_append, Option.mem_def.mp hc]
  rfl

/-! ## Regions -/

/-- **A region is read off some pieces, or none is read**, whatever is written for what they hold.
Its marks stand in plain characters. -/
theorem take?_render (ps : List (Piece α)) :
    (∃ (die us : Text) (cs : List (Piece α)) (vs : Text) (qs : List (Piece α)),
        us ≠ [] ∧ (∀ c ∈ die, Text.isDigit c = true)
        ∧ ps = us.map .plain ++ (cs ++ (vs.map .plain ++ qs))
        ∧ ∀ w, Inertly w ps →
          take? (Piece.render w ps) = some (⟨die, Piece.render w cs⟩, Piece.render w qs))
      ∨ ∀ w, Inertly w ps → take? (Piece.render w ps) = none := by
  have hmem {word : Text} (h : word ∈ markWords) : ∃ m ∈ markWords, word <:+ m :=
    ⟨word, h, List.suffix_rfl⟩
  have hread (word : Text) (qs : List (Piece α)) (w : α → Text) :
      Text.after? word (Piece.render w (word.map .plain ++ qs)) = some (Piece.render w qs) := by
    rw [Piece.render_append, Piece.render_plain, Text.after?_append]
  -- the reading goes from the left, and any of its steps may be the one that fails
  obtain ⟨before, ps, rfl, hbefore⟩ :=
    dropOptional_render (show paragraph ∈ markWords by simp [markWords]) ps
  rcases after?_render (hmem (show opening ∈ markWords by simp [markWords])) ps with
    ⟨ps, rfl⟩ | hnone
  case inr =>
    refine .inr fun w hw => ?_
    rw [take?, hbefore w hw, hnone w hw.right]
    rfl
  rcases takeDigits?_render ps with ⟨die, ps, rfl, hdie, hdigits⟩ | hnone
  case inr =>
    refine .inr fun w hw => ?_
    rw [take?, hbefore w hw, hread]
    simp only [bind, Option.bind, hnone w hw.right.right]
  rcases after?_render (hmem (show openingEnd ∈ markWords by simp [markWords])) ps with
    ⟨ps, rfl⟩ | hnone
  case inr =>
    refine .inr fun w hw => ?_
    rw [take?, hbefore w hw, hread]
    simp only [bind, Option.bind, hdigits w hw.right.right, hnone w hw.right.right.right]
  obtain ⟨behind, ps, rfl, hbehind⟩ :=
    dropOptional_render (show paragraphEnd ∈ markWords by simp [markWords]) ps
  rcases cutAt?_render ps with ⟨body, ps, rfl, hcut⟩ | hnone
  case inr =>
    refine .inr fun w hw => ?_
    have hrest := hw.right.right.right.right
    rw [take?, hbefore w hw, hread]
    simp only [bind, Option.bind, hdigits w hw.right.right, hread, hbehind w hrest,
      hnone w hrest.right]
  obtain ⟨cs, before', rfl, hbefore'⟩ := dropOptionalEnd_render body
  obtain ⟨behind', qs, rfl, hbehind'⟩ :=
    dropOptional_render (show paragraphEnd ∈ markWords by simp [markWords]) ps
  have hne : before ++ (opening ++ (die ++ (openingEnd ++ behind))) ≠ [] :=
    List.append_ne_nil_of_right_ne_nil _ (List.cons_ne_nil _ _)
  refine .inl ⟨die, before ++ (opening ++ (die ++ (openingEnd ++ behind))), cs,
    before' ++ (closing ++ behind'), qs, hne, hdie, ?_, fun w hw => ?_⟩
  · simp only [List.map_append, List.append_assoc]
  have hrest := hw.right.right.right.right
  rw [take?, hbefore w hw, hread]
  simp only [bind, Option.bind, hdigits w hw.right.right, hread, hbehind w hrest,
    hcut w hrest.right, hbefore' w hrest.right.left, hbehind' w hrest.right.right.right]
  rfl

end Gamebook.TableRegion
