import Gamebook.Proofs.Annotation.DiceCut
import Gamebook.Proofs.Html.Source

/-!
# The start tags of a highlighted fragment

The highlighting writes new start tags, those of its spans, into the texts of a fragment. All other
start tags are read as before, if each of them stays as it is (`startTags_mark`). A tag without
a closing bracket inside does. In a tag with one the highlighting takes what follows that bracket
for text, and then a formula in a value makes another tag of it (`startTags_mark_bracketInValue`).

The proof goes from the end of the fragment to its beginning. Between two formulas the text is
still text for a reader (`RunningPieces.reads`), and what stands between texts is still what it
was (`reads_markedPart`).
-/

namespace Gamebook.DiceSpan

open Html (IsReference HoldsLongNumber IsRunning Part Reads Source StartTag startTags Tag)
open Text (Piece)

variable {t u w f rest : Text} {ps qs rs : List (Piece Text)} {ts : List StartTag}

/-- The start tag of a span as a reader meets it. -/
def spanTag (f : Text) : StartTag :=
  ⟨"span".toList, [("class".toList, "dice-roll".toList), ("data-formula".toList, f)], false⟩

/-! ## Spans -/

/-- **A reader meets the tag of a span**, and no other in it. -/
theorem reads_span (hf : Dice.IsMention f) (h : Reads rest ts) :
    Reads (span f ++ rest) (spanTag f :: ts) := by
  have hstop : (Tag.stop "span".toList).IsOrdinary := by
    rw [Tag.IsOrdinary]
    decide
  have hstart : (Tag.start "span".toList
      [("class".toList, "dice-roll".toList), ("data-formula".toList, f)]).IsOrdinary :=
    isOrdinary_spanNode f
  have htext : IsRunning f := Html.isRunning_of_not_mem
    (Dice.not_mem_of_isMention (by decide) hf) (Dice.not_mem_of_isMention (by decide) hf)
  -- from behind: the end tag, the formula as text, and the start tag
  have hclose := htext.reads (by simp [Tag.write]) (h.tag hstop)
  have hopen := hclose.tag hstart
  rw [span_eq_write (Dice.isFormula_of_isMention hf), List.append_assoc, List.append_assoc]
  exact hopen

/-! ## Texts -/

/-- The pieces of a text: every formula is one that is mentioned, and all of a reference with a
number is passed over. -/
structure RunningPieces (ps : List (Piece Text)) : Prop where
  mentions : ∀ f, .found f ∈ ps → Dice.IsMention f
  angle : '<' ∉ Piece.render id ps
  numbered : ∀ qs rs, ps = qs ++ .plain '&' :: .plain '#' :: rs →
    ∃ w rs', IsReference ('&' :: '#' :: w) ∧ rs = w.map .plain ++ rs'
  short : ∀ e, ¬HoldsLongNumber (Piece.render id ps) e

theorem RunningPieces.of_append (h : RunningPieces (qs ++ ps)) : RunningPieces ps := by
  refine ⟨fun f hf => h.mentions f (List.mem_append_right qs hf), fun hm => h.angle ?_,
    fun as bs he => h.numbered (qs ++ as) bs (by rw [he, List.append_assoc]),
    fun e he => h.short e (he.mono ?_)⟩
  · rw [Piece.render_append]
    exact List.mem_append_right _ hm
  · rw [Piece.render_append]
    exact (List.suffix_append _ _).isInfix

/-- How far a list of pieces reaches in the text tells where it ends. -/
theorem eq_of_append_of_render {qs' rs' : List (Piece Text)}
    (hps : ∀ f, .found f ∈ qs ++ rs → f ≠ []) (h : qs ++ rs = qs' ++ rs')
    (hrender : Piece.render id qs = Piece.render id qs') : qs = qs' ∧ rs = rs' := by
  -- every piece has a character, so only an empty list reaches nowhere
  have hnil {as : List (Piece Text)} (has : ∀ f, .found f ∈ as → f ≠ [])
      (hr : Piece.render id as = []) : as = [] := by
    cases as with
    | nil => rfl
    | cons a as =>
        cases a with
        | plain c => exact absurd hr (by simp)
        | found f => exact absurd (List.append_eq_nil_iff.mp hr).1 (has f (List.mem_cons_self ..))
  rcases List.append_eq_append_iff.mp h with ⟨as, rfl, rfl⟩ | ⟨as, rfl, rfl⟩
  · rw [Piece.render_append, List.self_eq_append_right] at hrender
    obtain rfl := hnil (fun f hf => hps f (by simp [hf])) hrender
    exact ⟨(List.append_nil qs).symm, rfl⟩
  · rw [Piece.render_append, List.append_right_eq_self] at hrender
    obtain rfl := hnil (fun f hf => hps f (by simp [hf])) hrender
    exact ⟨List.append_nil qs', rfl⟩

theorem runningPieces_of_isRunning (ht : IsRunning t) : RunningPieces (Dice.mentionPieces t) := by
  refine ⟨fun f hf => Dice.parts_of_mention hf, ?_, fun qs rs hqs => ?_, ?_⟩
  · rw [Dice.render_mentionPieces]
    exact ht.angle
  · have hrender := Dice.render_mentionPieces t
    rw [hqs, Piece.render_append] at hrender
    -- the reference of the text is kept by the scan, and at this very place
    obtain ⟨w, v, hw, hv⟩ := ht.numbered _ _ hrender.symm
    have htext : t = Piece.render id qs ++ ('&' :: '#' :: w ++ v) := by
      rw [← hrender, List.cons_append, List.cons_append, ← hv]
      rfl
    obtain ⟨qs', rs', hkept, hbefore, -⟩ := Dice.keeps_reference hw none (Piece.render id qs) v
    rw [← htext] at hkept
    have hne : ∀ f, .found f ∈ qs ++ .plain '&' :: .plain '#' :: rs → f ≠ [] := by
      rw [← hqs]
      exact fun f hf => Dice.isMention_ne_nil (Dice.parts_of_mention hf)
    obtain ⟨-, hrs⟩ := eq_of_append_of_render hne (hqs.symm.trans hkept) hbefore.symm
    exact ⟨w, rs', hw, (List.cons.inj (List.cons.inj hrs).2).2⟩
  · rw [Dice.render_mentionPieces]
    exact ht.short

/-- Pieces that do not begin with a character. -/
def AtFormula (ps : List (Piece Text)) : Prop := ps = [] ∨ ∃ f qs, ps = .found f :: qs

/-- A list of pieces is one of characters up to its first formula. -/
theorem exists_stretch (ps : List (Piece Text)) :
    ∃ (u : Text) (tail : List (Piece Text)), ps = u.map .plain ++ tail ∧ AtFormula tail := by
  induction ps with
  | nil => exact ⟨[], [], rfl, .inl rfl⟩
  | cons p ps ih =>
      cases p with
      | found f => exact ⟨[], _, rfl, .inr ⟨f, ps, rfl⟩⟩
      | plain c =>
          obtain ⟨u, tail, rfl, htail⟩ := ih
          exact ⟨c :: u, tail, rfl, htail⟩

/-- Characters that reach beyond the first ones of a list do not reach over a formula. -/
theorem prefix_of_plain_append {tail : List (Piece Text)} {v w : Text} (htail : AtFormula tail)
    (h : v.map .plain ++ tail = w.map .plain ++ rs) : w <+: v := by
  induction w generalizing v with
  | nil => exact List.nil_prefix
  | cons c w ih =>
      cases v with
      | nil =>
          obtain rfl | ⟨f, qs, rfl⟩ := htail
          · exact absurd h (by simp)
          · exact absurd (List.cons.inj h).1 (by simp)
      | cons d v =>
          obtain ⟨hd, hrest⟩ := List.cons.inj h
          obtain rfl := Piece.plain.inj hd
          exact List.cons_prefix_cons.mpr ⟨rfl, ih hrest⟩

/-- Up to its first formula a text is still text. -/
theorem RunningPieces.isRunning {tail : List (Piece Text)}
    (h : RunningPieces (u.map .plain ++ tail)) (htail : AtFormula tail) : IsRunning u := by
  have hrender : Piece.render id (u.map .plain ++ tail) = u ++ Piece.render id tail := by
    rw [Piece.render_append, Piece.render_plain]
  refine ⟨fun hm => h.angle ?_, ?_, fun e he => h.short e (he.mono ?_)⟩
  · rw [hrender]
    exact List.mem_append_left _ hm
  · rintro a v rfl
    obtain ⟨w, rs, hw, hrs⟩ := h.numbered (a.map .plain) (v.map .plain ++ tail) (by simp)
    obtain ⟨rest, rfl⟩ := prefix_of_plain_append htail hrs
    exact ⟨w, rest, hw, rfl⟩
  · rw [hrender]
    exact (List.prefix_append _ _).isInfix

/-- **In a highlighted text a reader meets the tags of its spans.** -/
theorem RunningPieces.reads (hps : RunningPieces ps) (hrest : ∀ c ∈ rest.head?, c = '<')
    (h : Reads rest ts) :
    Reads (Piece.render span ps ++ rest) ((Piece.findings ps).map spanTag ++ ts) := by
  generalize hn : ps.length = n
  induction n using Nat.strongRecOn generalizing ps with
  | ind n ih =>
      -- a reader takes a stretch as a whole, so the step is one from formula to formula
      obtain ⟨u, tail, rfl, htail⟩ := exists_stretch ps
      have hu := hps.isRunning htail
      rw [Piece.render_append, Piece.render_plain, List.append_assoc, Piece.findings_append,
        Piece.findings_plain, List.nil_append]
      obtain rfl | ⟨f, qs, rfl⟩ := htail
      · exact hu.reads hrest h
      · have hqs : RunningPieces qs := by
          rw [List.append_cons] at hps
          exact hps.of_append
        have hlater := ih qs.length (by
          rw [← hn, List.length_append, List.length_cons]
          omega) hqs rfl
        have hf := hps.mentions f (by simp)
        refine hu.reads (fun c hc => (Option.some.inj hc).symm) ?_
        rw [Piece.render_cons_found, List.append_assoc]
        exact reads_span hf hlater

/-! ## What stands between texts -/

theorem render_span_of_findings (h : Piece.findings (formulaPieces t) = []) :
    Piece.render span (formulaPieces t) = t := by
  rw [← mark_eq_render]
  exact mark_eq_self_iff.mpr h

theorem head?_render_span (h : (Piece.render id ps).head? = some '<') (rest : Text) :
    (Piece.render span ps ++ rest).head? = some '<' := by
  cases ps with
  | nil => exact absurd h (by simp [Piece.render])
  | cons p ps =>
      cases p with
      | plain c => exact h
      | found f => rfl

/-- The opening of a comment is passed over, up to the first closing bracket. -/
theorem exists_commentPieces (body : Text) :
    ∃ ps, formulaPieces (Part.comment body).text = ['<', '!', '-', '-'].map .plain ++ ps
      ∧ (∀ f, .found f ∈ ps → Dice.IsMention f)
      ∧ Piece.render id ps = body ++ ['-', '-', '>'] := by
  have hclose : '>' ∈ body ++ ['-', '-', '>'] := by simp
  obtain ⟨inner, rest, hbody, hinner⟩ := List.eq_append_cons_of_mem hclose
  have hopening : '>' ∉ '!' :: '-' :: '-' :: inner := by simpa using hinner
  have hcut := formulaPieces_tag (t := []) (by simp) hopening rest
  refine ⟨(inner ++ ['>']).map .plain ++ formulaPieces rest, ?_, fun f hf => ?_, ?_⟩
  · rw [Part.text, hbody]
    exact hcut
  · rcases List.mem_append.mp hf with hf | hf
    · exact absurd hf (by simp)
    · exact isMention_of_mem_formulaPieces hf
  · rw [Piece.render_append, Piece.render_plain, render_formulaPieces, hbody, List.append_assoc]
    rfl

/-- **What stands between texts is read as before** if the highlighting leaves its start tag. -/
theorem reads_markedPart {p : Part} (hp : p.IsWellFormed)
    (htag : ∀ x ∈ p.tag?, Piece.findings (formulaPieces x.1) = []) (h : Reads rest ts) :
    Reads (Piece.render span (formulaPieces p.text) ++ rest)
      ((p.tag?.map Prod.snd).toList ++ ts) := by
  cases p with
  | tag w st =>
      rw [Part.text, render_span_of_findings (htag (w, st) rfl)]
      exact hp.1.reads hp.2 h
  | raw w st contents =>
      obtain ⟨hw, hraw, -, htake⟩ := hp
      have hname : Html.isRawElement st.name = true := by
        simp only [Html.opensRaw?, List.getLast?_singleton] at hraw
        split at hraw
        · rename_i hboth
          exact (Bool.and_eq_true_iff.mp hboth).1
        · exact absurd hraw (by simp)
      -- the contents may get spans, but they end where they ended
      have hend := Html.takeRaw?_eq_some_iff.mp (htake rest)
      rw [← render_formulaPieces contents] at hend
      obtain ⟨content, hcontent⟩ := Html.takeRaw?_eq_some_iff.mpr
        (endsAt_marked (passesFormulas_raw hname) (fun _ => isMention_of_mem_formulaPieces) hend)
      obtain ⟨body, hbody⟩ := hw.brackets
      rw [Part.text, formulaPieces_behind ⟨'<' :: body, hbody⟩, Piece.render_append,
        render_span_of_findings (htag (w, st) rfl), List.append_assoc]
      exact hw.reads_raw hraw hcontent h
  | bracketed inner =>
      rw [Part.text, formulaPieces_of_isTag ⟨inner, hp.1, rfl⟩, Piece.render_plain]
      exact hp.reads h
  | comment body =>
      obtain ⟨ps, hps, hmentions, hrender⟩ := exists_commentPieces body
      have hend := Html.afterComment?_eq_some_iff.mp (hp rest)
      have hshape : body ++ '-' :: '-' :: '>' :: rest = Piece.render id ps ++ rest := by
        rw [hrender, List.append_assoc]
        rfl
      rw [hshape] at hend
      have hread := Html.markup_comment (Html.afterComment?_eq_some_iff.mpr
        (endsAt_marked passesFormulas_comment hmentions hend))
      rw [hps, Piece.render_append, Piece.render_plain]
      exact Reads.markup (t := '!' :: '-' :: '-' :: Piece.render span ps) hread rfl rfl h

/-! ## Fragments -/

/-- What a reader of a highlighted fragment meets: the formulas of its texts, and its start tags
where they stand between them. -/
def formulasAndTags (s : Source) : List (Text ⊕ StartTag) :=
  (s.parts.flatMap fun p =>
      (Dice.mentions p.1).map .inl ++ (p.2.tag?.map Prod.snd).toList.map .inr)
    ++ (Dice.mentions s.last).map .inl

theorem formulasAndTags_cons (p : Text × Part) (parts : List (Text × Part)) (last : Text) :
    formulasAndTags ⟨p :: parts, last⟩ = (Dice.mentions p.1).map .inl
      ++ ((p.2.tag?.map Prod.snd).toList.map .inr ++ formulasAndTags ⟨parts, last⟩) := by
  simp only [formulasAndTags, List.flatMap_cons, List.append_assoc]

theorem getRight?_formulasAndTags (s : Source) :
    (formulasAndTags s).filterMap Sum.getRight? = s.tags.map Prod.snd := by
  have htags : s.tags.map Prod.snd = s.parts.flatMap fun p => (p.2.tag?.map Prod.snd).toList := by
    rw [Source.tags, List.map_filterMap, List.filterMap_eq_flatMap_toList]
  rw [htags]
  simp [formulasAndTags, List.filterMap_flatMap, List.filterMap_map, Function.comp_def]

theorem getLeft?_formulasAndTags (s : Source) :
    (formulasAndTags s).filterMap Sum.getLeft?
      = s.parts.flatMap (fun p => Dice.mentions p.1) ++ Dice.mentions s.last := by
  simp [formulasAndTags, List.filterMap_flatMap, List.filterMap_map, Function.comp_def]

theorem map_spanTag_inl (fs : List Text) :
    (fs.map (.inl : Text → Text ⊕ StartTag)).map (Sum.elim spanTag id) = fs.map spanTag := by
  rw [List.map_map]
  rfl

theorem reads_mark {s : Source} (hs : s.IsWellFormed)
    (htags : ∀ x ∈ s.tags, Piece.findings (formulaPieces x.1) = []) :
    Reads (mark s.text) ((formulasAndTags s).map (Sum.elim spanTag id)) := by
  rw [mark_eq_render]
  obtain ⟨parts, last⟩ := s
  induction parts with
  | nil =>
      have hpieces : formulaPieces last = Dice.mentionPieces last :=
        formulaPieces_of_unclosed fun u v h => absurd (by simp [h]) hs.last.angle
      have hnone : ∀ c ∈ ([] : Text).head?, c = '<' := by simp
      have hreads := (runningPieces_of_isRunning hs.last).reads hnone Html.reads_nil
      rw [List.append_nil, List.append_nil] at hreads
      show Reads (Piece.render span (formulaPieces last))
        (((Dice.mentions last).map .inl).map (Sum.elim spanTag id))
      rw [hpieces, map_spanTag_inl]
      exact hreads
  | cons p parts ih =>
      obtain ⟨htext, hpart, hrest⟩ := Source.isWellFormed_cons.mp hs
      obtain ⟨body, hbody⟩ := hpart.brackets
      rw [Source.tags_cons] at htags
      -- the rest of the fragment, then what stands between, then the text before it
      have hlater := reads_markedPart hpart
        (fun x hx => htags x (List.mem_append_left _ (Option.mem_toList.mpr hx)))
        (ih hrest fun x hx => htags x (List.mem_append_right _ hx))
      have hbegin : (Piece.render id (formulaPieces p.2.text)).head? = some '<' := by
        rw [render_formulaPieces, hbody]
        rfl
      have hhead := head?_render_span hbegin
        (Piece.render span (formulaPieces (Source.text ⟨parts, last⟩)))
      have hreads := (runningPieces_of_isRunning htext).reads
        (fun c hc => Option.some.inj (hc.symm.trans hhead)) hlater
      rw [Source.text_cons, formulaPieces_text_append htext.angle ⟨body, hbody⟩,
        Piece.render_append, Piece.render_append, formulasAndTags_cons, List.map_append,
        List.map_append, map_spanTag_inl, List.map_map]
      simpa [Function.comp_def, Dice.mentions] using hreads

/--
**The highlighting leaves the start tags of a fragment**, except where it takes a part of one for
text.

In a well-formed fragment a value between quotes may hold every character but its quote. Such a tag
stays as it is if no formula stands in it behind a closing bracket, outside of what is between
brackets again. If this holds of all start tags, then a reader of the highlighted fragment meets
them as in the fragment itself, and between them the tags of the spans, one for every formula of
the texts.
-/
theorem startTags_mark (s : Source) (hs : s.IsWellFormed)
    (htags : ∀ x ∈ s.tags, Piece.findings (formulaPieces x.1) = []) :
    ∃ met : List (Text ⊕ StartTag),
      startTags (mark s.text) = .ok (met.map (Sum.elim spanTag id))
        ∧ startTags s.text = .ok (met.filterMap Sum.getRight?)
        ∧ met.filterMap Sum.getLeft?
          = s.parts.flatMap (fun p => Dice.mentions p.1) ++ Dice.mentions s.last := by
  refine ⟨formulasAndTags s, (reads_mark hs htags).startTags, ?_, getLeft?_formulasAndTags s⟩
  rw [hs.startTags, getRight?_formulasAndTags]

/-- A fragment with closing brackets and formulas between quotes, in a comment and in a script. -/
def quotedBrackets : Source where
  parts :=
    [("Roll 2d6 for ".toList,
      .tag "<img title='1d4' alt=\"1d6 > 0\">".toList
        ⟨"img".toList, [("title".toList, "1d4".toList), ("alt".toList, "1d6 > 0".toList)], false⟩),
      ([], .comment " a > 1d8 ".toList),
      ([], .raw "<script>".toList ⟨"script".toList, [], false⟩
        "if (a > 1d6) \x7b\x7d</script>".toList),
      ("3d4".toList, .bracketed "/p".toList)]
  last := " 1d20+1".toList

theorem quotedBrackets_isWellFormed : quotedBrackets.IsWellFormed := by
  have hname {name : Text} (h : Html.isName name = true) := Html.isTagName_of_isName h
  have himg := @Html.QuotedTag.isStartTag
    ⟨"img".toList, [⟨[' '], "title".toList, '\'', "1d4".toList⟩,
      ⟨[' '], "alt".toList, '"', "1d6 > 0".toList⟩], [], false⟩
    ⟨hname (by decide), List.all_iff_forall_prop.mp (by decide), by simp⟩ _ rfl
  have hscript := @Html.QuotedTag.isStartTag ⟨"script".toList, [], [], false⟩
    ⟨hname (by decide), by simp, by simp⟩ [] rfl
  have htext {t : Text} (hangle : '<' ∉ t) (hamp : '&' ∉ t) := Html.isRunning_of_not_mem hangle hamp
  refine ⟨?_, ?_, htext (by decide) (by decide)⟩
  · simp only [quotedBrackets, List.forall_mem_cons]
    exact ⟨htext (by decide) (by decide), htext (by simp) (by simp), htext (by simp) (by simp),
      htext (by decide) (by decide), by simp⟩
  · simp only [quotedBrackets, List.forall_mem_cons]
    refine ⟨⟨himg, rfl⟩, fun _ => rfl, ⟨hscript, rfl, ?_, fun _ => ⟨_, rfl⟩⟩, ⟨by decide, ?_⟩,
      by simp⟩
    · exact ⟨"if (a > 1d6) \x7b\x7d</script".toList, by decide⟩
    · exact ⟨[.endTag ['p']], rfl, rfl, fun _ => rfl⟩

theorem startTags_mark_quotedBrackets :
    quotedBrackets.IsWellFormed
      ∧ (∀ x ∈ quotedBrackets.tags, Piece.findings (formulaPieces x.1) = [])
      ∧ ∃ met : List (Text ⊕ StartTag),
        startTags (mark quotedBrackets.text) = .ok (met.map (Sum.elim spanTag id))
          ∧ startTags quotedBrackets.text = .ok (met.filterMap Sum.getRight?)
          ∧ met.filterMap Sum.getLeft? = ["2d6".toList, "3d4".toList, "1d20+1".toList] := by
  have htags : ∀ x ∈ quotedBrackets.tags, Piece.findings (formulaPieces x.1) = [] := by
    decide +kernel
  obtain ⟨met, hmarked, hread, hformulas⟩ :=
    startTags_mark quotedBrackets quotedBrackets_isWellFormed htags
  exact ⟨quotedBrackets_isWellFormed, htags, met, hmarked, hread, hformulas.trans (by decide)⟩

/-- A formula behind a closing bracket in a value. -/
def bracketInValue : Source where
  parts := [([], .tag "<img alt=\"a > 2d6\">".toList
    ⟨"img".toList, [("alt".toList, "a > 2d6".toList)], false⟩)]
  last := []

/-- **A value is rewritten** where a formula stands in it behind a closing bracket: it ends at the
first quote of the span, and the rest of the span becomes other attributes. -/
theorem startTags_mark_bracketInValue :
    bracketInValue.IsWellFormed ∧ bracketInValue.text = "<img alt=\"a > 2d6\">".toList
      ∧ startTags (mark bracketInValue.text)
        = .ok [⟨"img".toList, [("alt".toList, "a > <span class=".toList),
            ("dice-roll\"".toList, []), ("data-formula".toList, "2d6".toList)], false⟩]
      ∧ ¬∃ met : List (Text ⊕ StartTag),
        startTags (mark bracketInValue.text) = .ok (met.map (Sum.elim spanTag id))
          ∧ startTags bracketInValue.text = .ok (met.filterMap Sum.getRight?) := by
  have himg := @Html.QuotedTag.isStartTag
    ⟨"img".toList, [⟨[' '], "alt".toList, '"', "a > 2d6".toList⟩], [], false⟩
    ⟨Html.isTagName_of_isName (by decide), List.all_iff_forall_prop.mp (by decide), by simp⟩ _ rfl
  have hempty : IsRunning [] := Html.isRunning_of_not_mem (by simp) (by simp)
  have hs : bracketInValue.IsWellFormed :=
    ⟨by simpa [bracketInValue] using hempty, by simpa [bracketInValue] using ⟨himg, rfl⟩, hempty⟩
  have hmarked : startTags (mark bracketInValue.text)
      = .ok [⟨"img".toList, [("alt".toList, "a > <span class=".toList), ("dice-roll\"".toList, []),
          ("data-formula".toList, "2d6".toList)], false⟩] := rfl
  refine ⟨hs, by decide, hmarked, ?_⟩
  rintro ⟨met, hmet, hread⟩
  rw [hmarked] at hmet
  rw [hs.startTags] at hread
  -- the tag of the image would be among those of the highlighted fragment
  have hmem : (⟨"img".toList, [("alt".toList, "a > 2d6".toList)], false⟩ : StartTag)
      ∈ met.filterMap Sum.getRight? := by
    rw [← Except.ok.inj hread]
    exact List.mem_singleton_self _
  obtain ⟨x, hx, hright⟩ := List.mem_filterMap.mp hmem
  have hfound := List.mem_map_of_mem (f := Sum.elim spanTag id) hx
  rw [← Except.ok.inj hmet, Sum.getRight?_eq_some_iff.mp hright, List.mem_singleton] at hfound
  exact absurd (congrArg StartTag.attributes hfound) (by decide)

end Gamebook.DiceSpan
