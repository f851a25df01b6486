import Gamebook.Proofs.Annotation.Enhance

/-!
# What is no reference

A placeholder can stand in a narrative that no reference was written for. Its author may have
typed it, and it can come about when the reference to an unknown term loses its brackets. The
list of terms does not know about it, yet it names a term of the list if its number is small
enough. So the round trip of a narrative without braces is here told for any narrative.

The narrative is cut at its references to known terms. A placeholder cannot reach into one
that follows it (`IsCut.append_placeholder`), so each of those references gets its link, and
the stretches between them are gone through one by one. Links and text stay apart exactly if
the placeholders in the stretches name no term.
-/

namespace Gamebook.Reference

open Text (Piece scan)

/-! ## Placeholders side by side -/

/-- A placeholder has two opening braces at its start, with a letter behind them. -/
theorem placeholderOf_eq_cons (ds : Text) :
    placeholderOf ds = '\x7b' :: '\x7b' :: 'W' :: ("IKILINK::".toList ++ ds ++ closing) := rfl

theorem not_mem_letters {ds : Text} (h : IsDigits ds) :
    '\x7b' ∉ 'W' :: ("IKILINK::".toList ++ ds ++ closing) := by
  have hds : '\x7b' ∉ ds := fun hm => absurd (h.isDigit _ hm) (by decide)
  rw [List.mem_cons, List.mem_append, List.mem_append, not_or, not_or, not_or]
  exact ⟨by decide, ⟨by decide, hds⟩, by decide⟩

/-- The end of a placeholder does not look like the beginning of one. -/
theorem placeholderOf_append_ne {v z ds es t rest : Text} (hv : v ≠ []) (hz : z ≠ [])
    (hes : IsDigits es) (hends : placeholderOf es = v ++ z) :
    placeholderOf ds ++ t ≠ z ++ rest := by
  intro hbegins
  obtain ⟨c, v, rfl⟩ := List.exists_cons_of_ne_nil hv
  obtain ⟨d, z, rfl⟩ := List.exists_cons_of_ne_nil hz
  have hletters := not_mem_letters hes
  rw [placeholderOf_eq_cons] at hends hbegins
  obtain ⟨rfl, hsecond⟩ := List.cons.inj hbegins
  obtain ⟨-, hlast⟩ := List.cons.inj hends
  cases v with
  | nil =>
      -- only one brace is left of the two
      obtain ⟨-, rfl⟩ := List.cons.inj hlast
      exact absurd (List.cons.inj hsecond).1 (by decide)
  | cons e v =>
      -- none is left
      rw [(List.cons.inj hlast).2] at hletters
      exact hletters (by simp)

/-- Where no placeholder begins, none begins if another one follows. -/
theorem recognisePlaceholder_append_eq_none {v ds : Text} (hv : v ≠ [])
    (hnone : recognisePlaceholder none v = none) (t : Text) :
    recognisePlaceholder none (v ++ (placeholderOf ds ++ t)) = none := by
  refine Option.eq_none_iff_forall_ne_some.mpr ?_
  rintro ⟨es, n⟩ hfind
  obtain ⟨hes, -, rest, hrest⟩ := recognisePlaceholder_eq_some.mp hfind
  have hthere {more : Text} (hmore : v = placeholderOf es ++ more) : False := by
    have := @recognisePlaceholder_eq_some none v es _ |>.mpr ⟨hes, rfl, more, hmore⟩
    rw [hnone] at this
    exact absurd this (by simp)
  rcases List.append_eq_append_iff.mp hrest with ⟨z, hends, hbegins⟩ | ⟨more, hmore, -⟩
  · by_cases hz : z = []
    · have hwhole : v = placeholderOf es ++ [] := by
        rw [hends, hz, List.append_nil, List.append_nil]
      exact hthere hwhole
    · exact placeholderOf_append_ne hv hz hes hends hbegins
  · exact hthere hmore

/-- **A placeholder does not reach into one that follows it.** -/
theorem IsCut.append_placeholder {us vs : List (Piece Text)} {ds : Text} (hus : IsCut us)
    (hds : IsDigits ds) (hvs : IsCut vs) : IsCut (us ++ .found ds :: vs) := by
  induction hus with
  | done => exact .placeholder hds hvs
  | placeholder hes _ ih => exact .placeholder hes ih
  | @passed c us hnone _ ih =>
      refine .passed ?_ ih
      have happend : c :: Piece.render placeholderOf (us.append (.found ds :: vs))
          = (c :: Piece.render placeholderOf us)
            ++ (placeholderOf ds ++ Piece.render placeholderOf vs) := by
        rw [List.append_eq, Piece.render_append, Piece.render_cons_found, List.cons_append]
      rw [happend]
      exact recognisePlaceholder_append_eq_none (by simp) hnone _

theorem scan_append_placeholder (u t : Text) {ds : Text} (hds : IsDigits ds) :
    scan recognisePlaceholder (u ++ (placeholderOf ds ++ t))
      = scan recognisePlaceholder u ++ .found ds :: scan recognisePlaceholder t := by
  have hcut := ((isCut_scan u).append_placeholder hds (isCut_scan t)).scan
  rwa [Piece.render_append, Piece.render_cons_found, render_scan, render_scan] at hcut

/-- The pieces before a place and those from there on are gone through one after the other. -/
theorem materializePieces_append (terms : List Text) (ps qs : List (Piece Text)) :
    materializePieces terms (ps ++ qs) = (do
      let t ← materializePieces terms ps
      let u ← materializePieces terms qs
      return t ++ u) := by
  induction ps with
  | nil =>
      rw [List.nil_append]
      cases materializePieces terms qs <;> rfl
  | cons p ps ih =>
      cases p with
      | plain c =>
          show (materializePieces terms (ps ++ qs)).map (c :: ·) = _
          rw [ih, materializePieces]
          cases materializePieces terms ps <;> cases materializePieces terms qs <;> rfl
      | found ds =>
          rw [List.cons_append, materializePieces, materializePieces, ih]
          cases linkOf terms ds with
          | error e => rfl
          | ok l =>
              cases materializePieces terms ps with
              | error e => rfl
              | ok t =>
                  cases materializePieces terms qs with
                  | error e => rfl
                  | ok u => exact congrArg Except.ok (List.append_assoc l t u).symm

/-- A text with a placeholder in it is gone through before the placeholder and behind it. -/
theorem materialize_append_placeholder_eq_ok {u t ds x : Text} {terms : List Text}
    (hds : IsDigits ds) :
    materialize (u ++ (placeholderOf ds ++ t)) terms = .ok x
      ↔ ∃ a l b, materialize u terms = .ok a ∧ linkOf terms ds = .ok l
        ∧ materialize t terms = .ok b ∧ x = a ++ (l ++ b) := by
  rw [materialize, scan_append_placeholder u t hds, materializePieces_append, materializePieces]
  simp only [Fallible.bind_eq_ok_iff, pure, Except.pure, Except.ok.injEq]
  constructor
  · rintro ⟨a, ha, _, ⟨l, hl, b, hb, rfl⟩, rfl⟩
    exact ⟨a, l, b, ha, hl, hb, rfl⟩
  · rintro ⟨a, l, b, ha, hl, hb, rfl⟩
    exact ⟨a, ha, _, ⟨l, hl, b, hb, rfl⟩, rfl⟩

/-! ## Between the references -/

/-- The texts before, between and behind the references to known terms. Those to unknown ones have
lost their brackets; `u` is what came before. -/
def stretchesFrom (isKnown : Text → Bool) (u : Text) : List (Piece Text) → List Text
  | [] => [u]
  | .plain c :: ps => stretchesFrom isKnown (u ++ [c]) ps
  | .found content :: ps =>
    if isKnown (Text.trim content) then u :: stretchesFrom isKnown [] ps
    else stretchesFrom isKnown (u ++ Text.trim content) ps

/-- The text of a narrative outside of its references to known terms. -/
def stretches (isKnown : Text → Bool) (ps : List (Piece Text)) : List Text :=
  stretchesFrom isKnown [] ps

theorem length_stretchesFrom (isKnown : Text → Bool) (u : Text) (ps : List (Piece Text)) :
    (stretchesFrom isKnown u ps).length = (knownTerms isKnown ps).length + 1 := by
  induction ps generalizing u with
  | nil => rfl
  | cons p ps ih =>
      cases p with
      | plain c => exact ih (u ++ [c])
      | found content =>
          rw [stretchesFrom, knownTerms_found]
          by_cases hk : isKnown (Text.trim content)
          · rw [if_pos hk, if_pos hk, List.length_cons, List.length_cons, ih]
          · rw [if_neg hk, if_neg hk, ih]

/-- Texts with links between them. -/
def weave : List Text → List Text → Text
  | [], _ => []
  | u :: us, [] => u ++ weave us []
  | u :: us, l :: ls => u ++ (l ++ weave us ls)

/-- A narrative in the end is its stretches with the links of its known terms. -/
theorem render_shown_eq_weave (isKnown : Text → Bool) (u : Text) (ps : List (Piece Text)) :
    u ++ Piece.render (shown isKnown) ps
      = weave (stretchesFrom isKnown u ps) ((knownTerms isKnown ps).map link) := by
  induction ps generalizing u with
  | nil => rfl
  | cons p ps ih =>
      cases p with
      | plain c =>
          rw [Piece.render_cons_plain, List.append_cons, ih]
          rfl
      | found content =>
          rw [Piece.render_cons_found, knownTerms_found, stretchesFrom, shown]
          by_cases hk : isKnown (Text.trim content)
          · rw [if_pos hk, if_pos hk, if_pos hk, List.map_cons, weave, ← ih, List.nil_append]
          · rw [if_neg hk, if_neg hk, if_neg hk, ← ih, List.append_assoc]

theorem linkOf_writeNat_eq_ok {terms : List Text} {n : Nat} {term l : Text}
    (h : terms[n]? = some term) :
    linkOf terms (Number.writeNat n) = .ok l ↔ n < 10 ^ digitLimit ∧ l = link term := by
  constructor
  · intro hl
    obtain ⟨m, hread, -⟩ := Fallible.bind_eq_ok_iff.mp hl
    have hn : n < 10 ^ digitLimit := by
      rw [← Number.length_writeNat_le_iff]
      by_contra hlong
      rw [Number.read_eq_error_iff.mpr ⟨Nat.lt_of_not_le hlong, rfl⟩] at hread
      exact absurd hread (by simp)
    rw [linkOf_writeNat hn h, Except.ok.injEq] at hl
    exact ⟨hn, hl.symm⟩
  · rintro ⟨hn, rfl⟩
    exact linkOf_writeNat hn h

/-- **Each reference to a known term gets its link, and the rest is gone through in stretches.** -/
theorem materialize_protectFrom_eq_ok {isKnown : Text → Bool} {terms : List Text} {x : Text}
    (ps : List (Piece Text)) (u : Text) (next : Nat) (hnext : next ≤ 10 ^ digitLimit)
    (hterms : terms.drop next = knownTerms isKnown ps) :
    materialize (u ++ (protectFrom isKnown next ps).1) terms = .ok x
      ↔ terms.length ≤ 10 ^ digitLimit
        ∧ ∃ texts, (stretchesFrom isKnown u ps).mapM (materialize · terms) = .ok texts
          ∧ x = weave texts ((knownTerms isKnown ps).map link) := by
  -- `u` is the stretch up to here; from `next` on, the list holds the terms still to come
  induction ps generalizing u next x with
  | nil =>
      have hlimit : terms.length ≤ 10 ^ digitLimit :=
        (List.drop_eq_nil_iff.mp hterms).trans hnext
      rw [protectFrom, List.append_nil, stretchesFrom]
      constructor
      · intro hx
        refine ⟨hlimit, [x], Fallible.mapM_cons_eq_ok_iff.mpr ⟨x, [], hx, rfl, rfl⟩, ?_⟩
        exact (List.append_nil x).symm
      · rintro ⟨-, texts, htexts, rfl⟩
        obtain ⟨a, rest, ha, hrest, rfl⟩ := Fallible.mapM_cons_eq_ok_iff.mp htexts
        obtain rfl := Fallible.mapM_nil_eq_ok_iff.mp hrest
        rw [ha]
        exact congrArg Except.ok (List.append_nil a).symm
  | cons p ps ih =>
      cases p with
      | plain c =>
          rw [protectFrom, List.append_cons, ih _ _ hnext hterms]
          rfl
      | found content =>
          rw [knownTerms_found] at hterms ⊢
          rw [protectFrom, stretchesFrom]
          by_cases hk : isKnown (Text.trim content)
          · rw [if_pos hk] at hterms
            obtain ⟨hterm, hrest⟩ := getElem?_of_drop hterms
            simp only [hk, if_true]
            have hplaceholder : placeholder next = placeholderOf (Number.writeNat next) := rfl
            rw [List.map_cons, hplaceholder,
              materialize_append_placeholder_eq_ok (isDigits_writeNat next)]
            constructor
            · rintro ⟨a, l, b, ha, hl, hb, rfl⟩
              obtain ⟨hn, rfl⟩ := (linkOf_writeNat_eq_ok hterm).mp hl
              obtain ⟨hlimit, texts, htexts, rfl⟩ := (ih [] (next + 1) hn hrest).mp hb
              exact ⟨hlimit, a :: texts, Fallible.mapM_cons_eq_ok_iff.mpr ⟨_, _, ha, htexts, rfl⟩,
                rfl⟩
            · rintro ⟨hlimit, texts, htexts, rfl⟩
              obtain ⟨a, rest, ha, hrests, rfl⟩ := Fallible.mapM_cons_eq_ok_iff.mp htexts
              have hn : next < 10 ^ digitLimit :=
                (List.getElem?_eq_some_iff.mp hterm).1.trans_le hlimit
              exact ⟨a, _, _, ha, (linkOf_writeNat_eq_ok hterm).mpr ⟨hn, rfl⟩,
                (ih [] (next + 1) hn hrest).mpr ⟨hlimit, rest, hrests, rfl⟩, rfl⟩
          · rw [if_neg hk] at hterms
            simp only [hk, if_false, Bool.false_eq_true]
            rw [← List.append_assoc]
            exact ih _ next hnext hterms

/-! ## Text that stays text -/

/-- A link and a placeholder begin with different characters. -/
theorem link_append_ne (term ds : Text) (v w : Text) : link term ++ v ≠ placeholderOf ds ++ w := by
  intro h
  exact absurd (List.cons.inj h).1 (by decide)

/-- A placeholder stays what it is exactly if its number can be read and no term has it. -/
theorem linkOf_eq_placeholderOf_iff {terms : List Text} {ds : Text} :
    linkOf terms ds = .ok (placeholderOf ds)
      ↔ ds.length ≤ digitLimit ∧ terms.length ≤ Text.digitsValue ds := by
  rw [linkOf, Number.read]
  by_cases hshort : ds.length ≤ digitLimit
  · rw [if_pos hshort]
    simp only [bind, Except.bind]
    cases hterm : terms[Text.digitsValue ds]? with
    | none => exact ⟨fun _ => ⟨hshort, List.getElem?_eq_none_iff.mp hterm⟩, fun _ => rfl⟩
    | some term =>
        refine ⟨fun h => ?_, fun h => ?_⟩
        · exact absurd (congrArg (· ++ []) (Except.ok.inj h)) (link_append_ne term ds [] [])
        · rw [List.getElem?_eq_none_iff.mpr h.2] at hterm
          exact absurd hterm (by simp)
  · rw [if_neg hshort]
    exact ⟨fun h => absurd h (by simp [bind, Except.bind]), fun h => absurd h.1 hshort⟩

theorem shownOf_eq_or (terms : List Text) (ds : Text) :
    shownOf terms ds = placeholderOf ds ∨ ∀ v w, shownOf terms ds ++ v ≠ placeholderOf ds ++ w := by
  rw [shownOf]
  cases hl : linkOf terms ds with
  | error e => exact .inl rfl
  | ok l =>
      rcases linkOf_eq_ok hl with rfl | ⟨term, -, rfl⟩
      · exact .inl rfl
      · exact .inr (link_append_ne term ds)

/-- What comes out for a text can be told from what it was, wherever it ends: at the first
placeholder that becomes a link the two are different. -/
theorem eq_of_materialize_append {u a x y : Text} {terms : List Text}
    (h : materialize u terms = .ok a) (he : a ++ x = u ++ y) :
    (∀ ds ∈ placeholders u, linkOf terms ds = .ok (placeholderOf ds)) ∧ a = u ∧ x = y := by
  rw [materialize_eq_map, Fallible.map_eq_ok_iff] at h
  obtain ⟨ls, hls, rfl⟩ := h
  have hrender : Piece.render (shownOf terms) (scan recognisePlaceholder u) ++ x
      = Piece.render placeholderOf (scan recognisePlaceholder u) ++ y := by
    rw [render_scan]
    exact he
  obtain ⟨hsame, hxy⟩ := Piece.eq_of_render_append (fun ds _ => shownOf_eq_or terms ds) hrender
  refine ⟨fun ds hds => ?_, (Piece.render_congr hsame).trans (render_scan u), hxy⟩
  obtain ⟨l, hl⟩ := Fallible.exists_mapM_iff.mp ⟨ls, hls⟩ ds hds
  have hshown := hsame ds hds
  rw [shownOf, hl] at hshown
  rw [hl, ← hshown]

/-- A text stays as it is exactly if none of its placeholders names a term. -/
theorem materialize_eq_self_iff {u : Text} {terms : List Text} :
    materialize u terms = .ok u
      ↔ ∀ ds ∈ placeholders u, ds.length ≤ digitLimit ∧ terms.length ≤ Text.digitsValue ds := by
  simp only [← linkOf_eq_placeholderOf_iff]
  constructor
  · exact fun h => (eq_of_materialize_append h (x := []) rfl).1
  · intro h
    have hshown : ∀ ds ∈ placeholders u, shownOf terms ds = placeholderOf ds := by
      intro ds hds
      rw [shownOf, h ds hds]
    rw [materialize_eq_map, Fallible.mapM_ok h]
    exact congrArg Except.ok ((Piece.render_congr hshown).trans (render_scan u))

theorem mapM_materialize_eq_self_iff {us terms : List Text} :
    us.mapM (materialize · terms) = .ok us ↔ ∀ u ∈ us, materialize u terms = .ok u := by
  induction us with
  | nil => exact ⟨fun _ u hu => absurd hu List.not_mem_nil, fun _ => rfl⟩
  | cons u us ih =>
      rw [List.forall_mem_cons, ← ih, Fallible.mapM_cons_eq_ok_iff]
      constructor
      · rintro ⟨a, rest, ha, hrest, he⟩
        obtain ⟨rfl, rfl⟩ := List.cons.inj he
        exact ⟨ha, hrest⟩
      · exact fun h => ⟨u, us, h.1, h.2, rfl⟩

/-- Of texts between links, too, what comes out tells whether one of them was changed. -/
theorem eq_of_weave_eq {terms us texts ls : List Text}
    (h : us.mapM (materialize · terms) = .ok texts) (he : weave texts ls = weave us ls) :
    texts = us := by
  induction us generalizing texts ls with
  | nil => exact Fallible.mapM_nil_eq_ok_iff.mp h
  | cons u us ih =>
      obtain ⟨a, rest, ha, hrest, rfl⟩ := Fallible.mapM_cons_eq_ok_iff.mp h
      cases ls with
      | nil =>
          obtain ⟨-, rfl, hweave⟩ := eq_of_materialize_append ha he
          rw [ih hrest hweave]
      | cons l ls =>
          obtain ⟨-, rfl, hweave⟩ := eq_of_materialize_append ha he
          rw [ih hrest (List.append_cancel_left hweave)]

/--
**Which links a narrative gets.**

Take the references of any narrative, from the left. The terms on the list are those of the known
ones, in order. When the links are put in, each of those references gets the link of its term at
its place, and no other link comes about in between but from the placeholders that stand in the
stretches of text there. So the narrative comes out with one link for each known reference and
with all else as text exactly if the numbers of these placeholders can be read and none of them is
that of a term. Only more references than there are numbers of readable length would be too many.
-/
theorem materialize_protect_iff (isKnown : Text → Bool) (narrative : Text) :
    ∃ ps text terms, Cut narrative ps
      ∧ protect isKnown narrative = (text, terms) ∧ terms = knownTerms isKnown ps
      ∧ (stretches isKnown ps).length = terms.length + 1
      ∧ (∀ linked, materialize text terms = .ok linked
          ↔ terms.length ≤ 10 ^ digitLimit
            ∧ ∃ texts, (stretches isKnown ps).mapM (materialize · terms) = .ok texts
              ∧ linked = weave texts (terms.map link))
      ∧ (materialize text terms = .ok (Piece.render (shown isKnown) ps)
          ↔ terms.length ≤ 10 ^ digitLimit
            ∧ ∀ u ∈ stretches isKnown ps, ∀ ds ∈ placeholders u,
              ds.length ≤ digitLimit ∧ terms.length ≤ Text.digitsValue ds) := by
  have hterms : (protect isKnown narrative).2 = knownTerms isKnown (pieces narrative) :=
    protectFrom_terms isKnown 0 (pieces narrative)
  have hlinked (linked : Text) : materialize (protect isKnown narrative).1
        (protect isKnown narrative).2 = .ok linked ↔ _ :=
    materialize_protectFrom_eq_ok (pieces narrative) [] 0 (Nat.zero_le _)
      (by rw [List.drop_zero, hterms])
  have hshown : Piece.render (shown isKnown) (pieces narrative)
      = weave (stretches isKnown (pieces narrative))
        ((knownTerms isKnown (pieces narrative)).map link) :=
    render_shown_eq_weave isKnown [] (pieces narrative)
  have hlength : (stretches isKnown (pieces narrative)).length
      = (knownTerms isKnown (pieces narrative)).length + 1 :=
    length_stretchesFrom isKnown [] (pieces narrative)
  rw [← hterms] at hlinked hshown hlength
  refine ⟨pieces narrative, _, _, cut_iff.mpr rfl, rfl, hterms, hlength, hlinked,
    (hlinked _).trans (and_congr_right fun _ => ?_)⟩
  simp only [← materialize_eq_self_iff]
  rw [← mapM_materialize_eq_self_iff, hshown]
  constructor
  · rintro ⟨texts, htexts, he⟩
    rwa [eq_of_weave_eq htexts he.symm] at htexts
  · exact fun h => ⟨_, h, rfl⟩

/-- An unknown term that looks like a placeholder becomes a second link of the one known term. -/
theorem two_links_of_one_reference :
    (protect (· == "A".toList) "[[A]] and [[\x7b\x7bWIKILINK::0\x7d\x7d]]".toList).2
        = ["A".toList]
      ∧ materialize
          (protect (· == "A".toList) "[[A]] and [[\x7b\x7bWIKILINK::0\x7d\x7d]]".toList).1
          ["A".toList]
        = .ok (link "A".toList ++ " and ".toList ++ link "A".toList)
      ∧ link "A".toList ++ " and ".toList ++ link "A".toList
        ≠ Piece.render (shown (· == "A".toList))
          (pieces "[[A]] and [[\x7b\x7bWIKILINK::0\x7d\x7d]]".toList) := by
  decide

end Gamebook.Reference
