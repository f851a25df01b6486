import Gamebook.Proofs.Annotation.TermMark

/-!
# Links and containers

The last two goes over a rendered text put links in the place of placeholders and
containers in the place of regions. They may be done in either order as long as no link
shows a mark of a region: then the regions are the same with and without the links, and
a container has the placeholders of its region in it.

A term that does hold a mark is shown between the marks of the text, where its own mark is
taken for one of them. So the two orders agree on all texts exactly if no term that a
placeholder can name holds a mark (`materialize_comm_iff`).
-/

namespace Gamebook.TableRegion

open Text (Piece scan)
open Reference (IsBare IsCut IsDigits placeholderOf recognisePlaceholder shownOf link linkOf)

/-! ## Placeholders in containers -/

theorem not_mem_tableId {idStem : Text} (h : '\x7b' ∉ idStem) (k : Nat) :
    '\x7b' ∉ tableId idStem k := by
  have hescape : '\x7b' ∉ Html.escape idStem := by
    intro hm
    obtain ⟨c, hc, hbrace⟩ := List.mem_flatMap.mp hm
    rcases escapeChar_eq c with he | ⟨u, he, hno⟩
    · rw [he, List.mem_singleton] at hbrace
      exact h (hbrace ▸ hc)
    · rw [he] at hbrace
      exact hno hbrace
  have hnumber : '\x7b' ∉ Number.writeNat k := fun hm =>
    absurd (Number.isDigit_of_mem_writeNat hm) (by decide)
  simp [tableId, hescape, hnumber]

/-- What a container opens with, before what it shows of its region. -/
def containerStart (id die : Text) : Text :=
  "<div class=\"rollable-table-container\" data-table-id=\"".toList ++ id ++ "\">\n".toList ++
    "<button class=\"roll-table-button\" data-dice=\"d".toList ++ die ++
    "\" data-table-id=\"".toList ++ id ++ "\">Roll Table (d".toList ++ die ++
    ")</button>\n".toList ++
    "<div class=\"rollable-table\" data-table-id=\"".toList ++ id ++ "\">\n".toList

/-- What a container closes with. -/
def containerEnd : Text := "\n</div>\n</div>".toList

theorem container_eq (id : Text) (r : Region) :
    container id r = containerStart id r.die ++ (Text.trim r.content ++ containerEnd) :=
  List.append_assoc (containerStart id r.die) (Text.trim r.content) containerEnd

theorem not_mem_containerStart {id die : Text} (hid : '\x7b' ∉ id)
    (hdie : ∀ c ∈ die, Text.isDigit c = true) : '\x7b' ∉ containerStart id die := by
  have hbrace : '\x7b' ∉ die := fun hm => absurd (hdie _ hm) (by decide)
  unfold containerStart
  simp only [List.mem_append, not_or]
  refine ⟨⟨⟨⟨⟨⟨⟨⟨⟨⟨⟨⟨?_, hid⟩, ?_⟩, ?_⟩, hbrace⟩, ?_⟩, hid⟩, ?_⟩, hbrace⟩, ?_⟩, ?_⟩, hid⟩, ?_⟩
  all_goals decide

/-- The identifier stands behind the same word in every container. -/
theorem container_begins (id : Text) (r : Region) : ∃ rest, container id r
    = "<div class=\"rollable-table-container\" data-table-id=\"".toList ++ (id ++ rest) := by
  refine ⟨?rest, ?eq⟩
  case eq =>
    unfold container
    simp only [List.append_assoc]
    rfl

theorem head?_container (id : Text) (r : Region) : (container id r).head? = some '<' := by
  obtain ⟨rest, hrest⟩ := container_begins id r
  rw [hrest]
  rfl

/-- A text with containers for its regions, numbered from `k`. -/
def materializeFrom (idStem : Text) (k : Nat) (t : Text) : Text :=
  Piece.renderFrom (fun k r => container (tableId idStem k) r) k (scan recognise t)

/-- The pieces `qs` are those of `ps` with the words of containers between them: whatever is
written for what they hold, the one text is the other with containers. -/
structure Contained (idStem : Text) (k : Nat) (ps qs : List (Piece Text)) : Prop where
  findings : Piece.findings qs = Piece.findings ps
  isCut : IsCut qs
  render : ∀ w, Inertly w ps → materializeFrom idStem k (Piece.render w ps) = Piece.render w qs

theorem contained_region {idStem die us vs : Text} {k : Nat} {cs ps qs : List (Piece Text)}
    (hstem : '\x7b' ∉ idStem) (hne : us ≠ []) (hdie : ∀ c ∈ die, Text.isDigit c = true)
    (hcut : IsCut (us.map .plain ++ (cs ++ (vs.map .plain ++ ps))))
    (htake : ∀ w, Inertly w (us.map .plain ++ (cs ++ (vs.map .plain ++ ps))) →
      take? (Piece.render w (us.map .plain ++ (cs ++ (vs.map .plain ++ ps))))
        = some (⟨die, Piece.render w cs⟩, Piece.render w ps))
    (h : Contained idStem (k + 1) ps qs) :
    ∃ qs, Contained idStem k (us.map .plain ++ (cs ++ (vs.map .plain ++ ps))) qs := by
  obtain ⟨blanks, shown, blanks', rfl, -, htrim⟩ := trim_render cs
  have hstart := not_mem_containerStart (not_mem_tableId hstem k) hdie
  have hend : '\x7b' ∉ containerEnd := by decide
  refine ⟨(containerStart (tableId idStem k) die).map .plain
    ++ (shown ++ (containerEnd.map .plain ++ qs)), ?_, ?_, fun w hw => ?_⟩
  · simp [h.findings]
  · -- what is shown is cut as before, up to the line feed that ends it
    have hbody := hcut.of_append
    rw [List.append_assoc, List.append_assoc] at hbody
    refine .plain_append hstart (hbody.of_append.append (.plain_append hend h.isCut) fun c hc => ?_)
    obtain rfl := Option.some.inj hc
    exact .inl rfl
  · have hinner : Inertly w (blanks.map .plain ++ (shown ++ blanks'.map .plain)) := hw.right.left
    have hps : Inertly w ps := hw.right.right.right
    generalize hcs : blanks.map .plain ++ (shown ++ blanks'.map .plain) = cs at *
    have hshape : Piece.render w (us.map .plain ++ (cs ++ (vs.map .plain ++ ps)))
        = (us ++ (Piece.render w cs ++ vs)) ++ Piece.render w ps := by
      simp only [Piece.render_append, Piece.render_plain, List.append_assoc]
    have hregion := htake w hw
    rw [hshape] at hregion ⊢
    rw [materializeFrom, scan_region (by simp [hne]) hregion, Piece.renderFrom, container_eq,
      htrim w hinner]
    simp only [Piece.render_append, Piece.render_plain, List.append_assoc]
    rw [← h.render w hps]
    rfl

theorem contained_passed {idStem : Text} {k : Nat} {c : Char} {ps qs : List (Piece Text)}
    (hnone : ∀ w, Inertly w (.plain c :: ps) → take? (c :: Piece.render w ps) = none)
    (hcut : IsCut (.plain c :: ps)) (h : Contained idStem k ps qs) :
    Contained idStem k (.plain c :: ps) (.plain c :: qs) := by
  have hinert : Inertly placeholderOf (.plain c :: ps) := fun ds hds =>
    inert_placeholderOf (hcut.isDigits hds)
  refine ⟨h.findings, .passed ?_ h.isCut, fun w hw => ?_⟩
  · -- a placeholder that begins here holds nothing of a container, so it was there before
    cases hcut with
    | passed hpassed _ =>
      refine Option.eq_none_iff_forall_ne_some.mpr fun ⟨ds, n⟩ hfind => ?_
      obtain ⟨hds, rfl, rest, hrest⟩ := Reference.recognisePlaceholder_eq_some.mp hfind
      obtain ⟨d, u, hword⟩ := List.exists_cons_of_ne_nil (Reference.placeholderOf_ne_nil ds)
      have hangle : '<' ∉ u := by
        have hno := Reference.not_mem_placeholderOf_of_stop hds (.inr rfl)
        rw [hword] at hno
        exact fun hm => hno (List.mem_cons_of_mem d hm)
      rw [hword, List.cons_append] at hrest
      injection hrest with hcd hrest
      have hlater : u <+: materializeFrom idStem k (Piece.render placeholderOf ps) := by
        rw [h.render _ hinert.tail]
        exact ⟨rest, hrest.symm⟩
      obtain ⟨more, hbefore⟩ := Text.prefix_of_prefix_renderFrom forgets_recognise
        (fun k r => head?_container (tableId idStem k) r) hangle hlater
      have hthere : recognisePlaceholder none (c :: Piece.render placeholderOf ps)
          = some (ds, (placeholderOf ds).length) := by
        refine Reference.recognisePlaceholder_eq_some.mpr ⟨hds, rfl, more, ?_⟩
        rw [hword, ← hbefore, hcd]
        rfl
      rw [hthere] at hpassed
      exact absurd hpassed (by simp)
  · show materializeFrom idStem k (c :: Piece.render w ps) = c :: Piece.render w qs
    rw [materializeFrom, scan_of_take?_eq_none (hnone w hw), ← h.render w hw.tail]
    rfl

theorem contained_found {idStem ds : Text} {k : Nat} {ps qs : List (Piece Text)}
    (hds : IsDigits ds) (h : Contained idStem k ps qs) :
    Contained idStem k (.found ds :: ps) (.found ds :: qs) := by
  refine ⟨?_, .placeholder hds h.isCut, fun w hw => ?_⟩
  · show ds :: Piece.findings qs = ds :: Piece.findings ps
    rw [h.findings]
  · have hquiet : ∀ u, u ≠ [] → u <:+ w ds → recognise none (u ++ Piece.render w ps) = none := by
      intro u hne hu
      rw [recognise, (hw.head.quiet u hne hu _).1]
      rfl
    show materializeFrom idStem k (w ds ++ Piece.render w ps) = w ds ++ Piece.render w qs
    rw [materializeFrom, Text.scan_passed_word forgets_recognise _ hquiet, Piece.renderFrom_plain,
      ← h.render w hw.tail]
    rfl

/-- **Containers are put around pieces.** -/
theorem exists_contained {idStem : Text} (hstem : '\x7b' ∉ idStem) (k : Nat)
    {ps : List (Piece Text)} (hps : IsCut ps) : ∃ qs, Contained idStem k ps qs := by
  -- on the number of pieces, since a region takes many of them at once
  induction hn : ps.length using Nat.strongRecOn generalizing k ps with
  | ind n ih =>
    subst hn
    rcases take?_render ps with ⟨die, us, cs, vs, rest, hne, hdie, rfl, htake⟩ | hnone
    · have hpos := List.length_pos_iff.mpr hne
      have hlength : rest.length
          < (us.map Piece.plain ++ (cs ++ (vs.map Piece.plain ++ rest))).length := by
        simp only [List.length_append, List.length_map]
        omega
      obtain ⟨qs, hqs⟩ := ih rest.length hlength (k + 1) hps.of_append.of_append.of_append rfl
      exact contained_region hstem hne hdie hps htake hqs
    · cases ps with
      | nil => exact ⟨[], rfl, .done, fun w _ => rfl⟩
      | cons p ps =>
          cases p with
          | found ds =>
              obtain ⟨qs, hqs⟩ := ih ps.length (by simp) k (@IsCut.of_append [_] ps hps) rfl
              exact ⟨.found ds :: qs, contained_found (hps.isDigits (by simp)) hqs⟩
          | plain c =>
              obtain ⟨qs, hqs⟩ := ih ps.length (by simp) k (@IsCut.of_append [_] ps hps) rfl
              exact ⟨.plain c :: qs, contained_passed hnone hps hqs⟩

/-! ## Terms without marks -/

/-- What is written for a placeholder, as long as none of the terms that it can name holds a
mark. -/
theorem inert_shownOf {terms : List Text}
    (hterms : ∀ term ∈ terms.take (10 ^ digitLimit), ¬HoldsMark term) {ds : Text}
    (hds : IsDigits ds) : Inert (shownOf terms ds) := by
  unfold shownOf
  split
  · rename_i l hl
    rcases Reference.linkOf_eq_ok hl with rfl | ⟨term, hterm, rfl⟩
    · exact inert_placeholderOf hds
    · exact inert_link (hterms term hterm)
  · exact inert_placeholderOf hds

/-- Links and containers may be put into any text in either order, with the same outcome. -/
def Commute (terms : List Text) : Prop :=
  ∀ rendered idStem, '\x7b' ∉ idStem →
    (Reference.materialize rendered terms).map (materialize · idStem)
      = Reference.materialize (materialize rendered idStem) terms

/-- **Links and containers may be put into a text in either order**, if no term holds a mark. -/
theorem materialize_comm {terms : List Text}
    (hterms : ∀ term ∈ terms.take (10 ^ digitLimit), ¬HoldsMark term) : Commute terms := by
  intro rendered idStem hstem
  have hcut := Reference.isCut_scan rendered
  obtain ⟨qs, hqs⟩ := exists_contained hstem 1 hcut
  have hplaceholders : Inertly placeholderOf (scan recognisePlaceholder rendered) :=
    fun ds hds => inert_placeholderOf (hcut.isDigits hds)
  have hlinks : Inertly (shownOf terms) (scan recognisePlaceholder rendered) :=
    fun ds hds => inert_shownOf hterms (hcut.isDigits hds)
  have hrendered : materialize rendered idStem = Piece.render placeholderOf qs := by
    have hrender := hqs.render placeholderOf hplaceholders
    rw [Reference.render_scan] at hrender
    exact hrender
  have hlinked : Piece.render (shownOf terms) qs
      = materialize (Piece.render (shownOf terms) (scan recognisePlaceholder rendered)) idStem :=
    (hqs.render (shownOf terms) hlinks).symm
  rw [hrendered, Reference.materialize, Reference.materialize, hqs.isCut.scan,
    Reference.materializePieces_eq, Reference.materializePieces_eq, hqs.findings, hlinked]
  cases (Piece.findings (scan recognisePlaceholder rendered)).mapM (linkOf terms) <;> rfl

/-! ## Terms with marks -/

/-- Without one of the two marks there is no region. -/
theorem materialize_eq_self {t : Text} (h : ¬opening <:+: t ∨ ¬closing <:+: t) (idStem : Text) :
    materialize t idStem = t := by
  have hnone : ∀ u, u ≠ [] → u <:+ t → recognise none u = none := by
    intro u _ hu
    have htake : take? u = none := by
      refine Option.eq_none_iff_forall_ne_some.mpr fun ⟨r, rest⟩ htake => ?_
      obtain ⟨ds, behind, -, -, hshape, hclosing⟩ := marks_of_take? htake
      have hinside : opening ++ ds ++ openingEnd ++ behind <:+: t := by
        rw [← hshape]
        exact ((dropOptional_suffix paragraph u).trans hu).isInfix
      rcases h with h | h
      · refine h (List.IsInfix.trans ?_ hinside)
        rw [List.append_assoc, List.append_assoc]
        exact (List.prefix_append ..).isInfix
      · exact h (hclosing.trans ((List.suffix_append ..).isInfix.trans hinside))
    rw [recognise, htake]
    rfl
  have hscan : scan recognise t = t.map .plain := Text.scan_eq_map_plain forgets_recognise hnone
  have hrender := Piece.renderFrom_plain (fun k r => container (tableId idStem k) r) 1 t []
  rw [List.append_nil] at hrender
  rw [materialize, hscan, hrender]
  exact List.append_nil t

/-- Where a region can be read, the text has one. -/
theorem exists_region {u t : Text} (h : (take? t).isSome) :
    ∃ r, .found r ∈ scan recognise (u ++ t) := by
  have hne : t ≠ [] := by
    rintro rfl
    exact absurd h (by decide)
  exact Text.exists_found forgets_recognise hne (by rw [recognise, Option.isSome_map]; exact h)

/-- A text with a region depends on the identifiers of its tables. -/
theorem materialize_ne {t : Text} (h : ∃ r, .found r ∈ scan recognise t) :
    materialize t ['a'] ≠ materialize t ['b'] := by
  obtain ⟨r, hr⟩ := h
  refine Piece.renderFrom_ne (fun k r u v he => ?_) hr 1
  have hid (c : Char) (hc : Html.escape [c] = [c]) (u : Text) :
      ∃ rest, container (tableId [c] k) r ++ u
        = "<div class=\"rollable-table-container\" data-table-id=\"".toList ++ c :: rest := by
    obtain ⟨rest, hrest⟩ := container_begins (tableId [c] k) r
    rw [hrest, tableId, hc, List.append_assoc]
    exact ⟨_, rfl⟩
  obtain ⟨rest, ha⟩ := hid 'a' (by decide) u
  obtain ⟨rest', hb⟩ := hid 'b' (by decide) v
  rw [ha, hb] at he
  injection List.append_cancel_left he with hab
  exact absurd hab (by decide)

/-- The two orders differ where a link brings a region that was not there before. -/
theorem not_comm_of_found {terms : List Text} {u v ds l : Text} (hu : IsBare u) (hv : IsBare v)
    (hds : IsDigits ds) (hl : linkOf terms ds = .ok l)
    (hbefore : ¬opening <:+: u ++ (placeholderOf ds ++ v)
      ∨ ¬closing <:+: u ++ (placeholderOf ds ++ v))
    (hafter : ∃ r, .found r ∈ scan recognise (u ++ (l ++ v))) : ¬Commute terms := by
  intro hcomm
  have hlinked := Reference.materialize_between hu hv hds hl
  -- no identifier is written before the links are there, so none could be written after them
  have hsame {idStem : Text} (hstem : '\x7b' ∉ idStem) :
      materialize (u ++ (l ++ v)) idStem = u ++ (l ++ v) := by
    have h := hcomm (u ++ (placeholderOf ds ++ v)) idStem hstem
    rw [materialize_eq_self hbefore, hlinked] at h
    exact Except.ok.inj h
  refine materialize_ne hafter ?_
  rw [hsame (by decide), hsame (by decide)]

/-- A link closes what an opening mark before its placeholder has opened. -/
theorem not_comm_of_closing {terms : List Text} {ds l : Text} (hds : IsDigits ds)
    (hl : linkOf terms ds = .ok l) (h : closing <:+: l) : ¬Commute terms := by
  have hu : IsBare (opening ++ (['6'] ++ openingEnd)) :=
    Reference.isBare_of_tails (by decide +kernel)
  have hv : IsBare [] := Reference.isBare_of_tails (by decide)
  refine not_comm_of_found hu hv hds hl (.inr fun hclosing => ?_) ?_
  · have hslash : '/' ∈ opening ++ (['6'] ++ openingEnd) ++ (placeholderOf ds ++ []) :=
      hclosing.subset (by decide)
    have hword : '/' ∉ opening ++ (['6'] ++ openingEnd) := by decide
    have hplaceholder : '/' ∉ placeholderOf ds :=
      Reference.not_mem_placeholderOf hds (by decide) (by decide)
    rw [List.append_nil] at hslash
    exact (List.mem_append.mp hslash).elim hword hplaceholder
  · have hread := @isSome_take? ['6'] l (by simp) (List.forall_mem_singleton.mpr (by decide)) h
    rw [List.append_nil, List.append_assoc, List.append_assoc]
    exact @exists_region [] _ hread

/-- A link opens what a closing mark behind its placeholder closes. -/
theorem not_comm_of_opening {terms : List Text} {ds l digits : Text} (hds : IsDigits ds)
    (hl : linkOf terms ds = .ok l) (hdigits : IsDigits digits)
    (h : opening ++ digits ++ openingEnd <:+: l) : ¬Commute terms := by
  have hu : IsBare [] := Reference.isBare_of_tails (by decide)
  have hv : IsBare closing := Reference.isBare_of_tails (by decide +kernel)
  refine not_comm_of_found hu hv hds hl (.inl fun hopening => ?_) ?_
  · have hletter : 'd' ∈ [] ++ (placeholderOf ds ++ closing) := hopening.subset (by decide)
    have hword : 'd' ∉ closing := by decide
    have hplaceholder : 'd' ∉ placeholderOf ds :=
      Reference.not_mem_placeholderOf hds (by decide) (by decide)
    rw [List.nil_append] at hletter
    exact (List.mem_append.mp hletter).elim hplaceholder hword
  · obtain ⟨before, behind, rfl⟩ := h
    have hread := isSome_take? hdigits.ne_nil hdigits.isDigit
      (List.suffix_append behind closing).isInfix
    have hshape : before ++ (opening ++ digits ++ openingEnd) ++ behind ++ closing
        = before ++ (opening ++ (digits ++ (openingEnd ++ (behind ++ closing)))) := by
      simp only [List.append_assoc]
    rw [List.nil_append, hshape]
    exact exists_region hread

/--
**Links and containers commute exactly if no term holds a mark.**

Take the terms that a placeholder with a number of readable length can name. If none of them
holds an opening mark or the word of a closing one, then on every rendered text the two goes give
the same in either order, and refuse the same texts. If one of them does, there is a text on
which they differ.
-/
theorem materialize_comm_iff (terms : List Text) :
    Commute terms ↔ ∀ term ∈ terms.take (10 ^ digitLimit), ¬HoldsMark term := by
  constructor
  · intro hcomm term hterm hmark
    obtain ⟨n, hn, hget⟩ := List.mem_take_iff_getElem.mp hterm
    have hreadable : n < 10 ^ digitLimit := Nat.lt_of_lt_of_le hn (Nat.min_le_left _ _)
    have hl : linkOf terms (Number.writeNat n) = .ok (link term) := by
      refine Reference.linkOf_writeNat hreadable ?_
      rw [← hget]
      exact List.getElem?_eq_getElem _
    have hds : IsDigits (Number.writeNat n) := Reference.isDigits_writeNat n
    rcases holdsMark_escape_iff.mpr hmark with h | ⟨digits, hdigits, h⟩
    · exact not_comm_of_closing hds hl (h.trans (escape_infix_link term)) hcomm
    · exact not_comm_of_opening hds hl hdigits (h.trans (escape_infix_link term)) hcomm
  · exact materialize_comm

/-- A table has a reference to a term that is the word of a closing mark. With its link in, the
table ends in the middle of the link. -/
theorem not_commute_closingMark : ¬Commute ["\x7b\x7b/ROLLTABLE\x7d\x7d".toList] := by
  intro hcomm
  have h := hcomm ("\n\n\x7b\x7bROLLTABLE::d6\x7d\x7d\n\n| d6 | Loot |\n|---|---|\n".toList
    ++ "| 1-6 | \x7b\x7bWIKILINK::0\x7d\x7d |\n\n\x7b\x7b/ROLLTABLE\x7d\x7d\n\n".toList)
    "table".toList (by decide)
  exact absurd h (by decide +kernel)

end Gamebook.TableRegion
