import Gamebook.Proofs.Annotation.DiceSegment
import Gamebook.Proofs.Html.Ending

/-!
# Highlighting a text in stretches

Behind a closing bracket the highlighting starts anew (`formulaPieces_append`), so a text can be cut
there and its stretches highlighted one by one. A text of which nothing is in a formula stays as it
is, and no other text does (`mark_eq_self_iff`).

The search for the end of a comment or of a script passes over formulas and over their spans, so
it ends at the same place with the spans as without them (`endsAt_marked`).
-/

namespace Gamebook.DiceSpan

open Html (EndsAt IsCommentEnd IsRawEnd isRawElement)
open Text (Piece scan)

variable {t x f rest : Text} {ps : List (Piece Text)}

/-! ## Cuts behind closing brackets -/

theorem formulaPiecesFrom_bracket (pending before : Text) (ps : List (Piece Text)) :
    formulaPiecesFrom (pending ++ '>' :: before) ps
      = Dice.mentionPieces (before.reverse ++ ['>']) ++ formulaPiecesFrom pending ps := by
  have hstop (u : Text) := Dice.mentionPieces_append_stop (c := '>') (by decide) (by decide) u
  have hreverse :
      (pending ++ '>' :: before).reverse = before.reverse ++ '>' :: pending.reverse := by simp
  have hcut : Dice.mentionPieces (before.reverse ++ '>' :: pending.reverse)
      = Dice.mentionPieces (before.reverse ++ ['>']) ++ Dice.mentionPieces pending.reverse := by
    rw [hstop, hstop, List.append_assoc]
    rfl
  induction ps generalizing pending with
  | nil => rw [formulaPiecesFrom, formulaPiecesFrom, hreverse, hcut]
  | cons p ps ih =>
      cases p with
      | plain c =>
          rw [formulaPiecesFrom, formulaPiecesFrom, ← List.cons_append]
          refine ih (c :: pending) (by simp) ?_
          rw [hstop, hstop, List.append_assoc]
          rfl
      | found tag =>
          rw [formulaPiecesFrom, formulaPiecesFrom, hreverse, hcut, List.append_assoc]

/-- **Behind a closing bracket the highlighting starts anew.** -/
theorem formulaPieces_append (x y : Text) :
    formulaPieces (x ++ '>' :: y) = formulaPieces (x ++ ['>']) ++ formulaPieces y := by
  generalize hn : x.length = n
  induction n using Nat.strongRecOn generalizing x with
  | ind n ih =>
      by_cases hopen : '<' ∈ x
      · -- the first tag ends inside of `x` or at the bracket behind it
        obtain ⟨u, v, rfl, hu⟩ := List.eq_append_cons_of_mem hopen
        by_cases hclose : '>' ∈ v
        · obtain ⟨inner, x, rfl, hinner⟩ := List.eq_append_cons_of_mem hclose
          have hcut (y : Text) := formulaPieces_tag hu hinner (x ++ '>' :: y)
          have hlater := ih x.length (by
            rw [← hn]
            simp only [List.length_append, List.length_cons]
            omega) x rfl
          have hassoc (y : Text) : u ++ '<' :: (inner ++ '>' :: x) ++ '>' :: y
              = u ++ '<' :: (inner ++ '>' :: (x ++ '>' :: y)) := by simp
          rw [hassoc, hassoc, hcut, hcut, hlater]
          simp only [List.append_assoc]
        · have hcut (y : Text) := formulaPieces_tag hu hclose y
          have hassoc (y : Text) : u ++ '<' :: v ++ '>' :: y = u ++ '<' :: (v ++ '>' :: y) := by
            simp
          rw [hassoc, hassoc, hcut, hcut, List.append_assoc, List.append_assoc]
          rfl
      · -- all of `x` is text, and the bracket parts its formulas from what follows
        have hx : '<' ∉ x ++ ['>'] := by simpa using hopen
        have hpending : (x ++ ['>']).reverse = [] ++ '>' :: x.reverse := by simp
        have hcut (y : Text) : formulaPieces (x ++ ['>'] ++ y)
            = Dice.mentionPieces (x ++ ['>']) ++ formulaPieces y := by
          rw [formulaPieces, scan_tag_text hx, formulaPiecesFrom_plain, List.append_nil, hpending,
            formulaPiecesFrom_bracket, List.reverse_reverse]
          rfl
        have hend := hcut []
        rw [List.append_nil] at hend
        rw [List.append_cons, hcut, hend, List.append_assoc]
        rfl

theorem formulaPieces_behind (hx : ∃ body, x = body ++ ['>']) (y : Text) :
    formulaPieces (x ++ y) = formulaPieces x ++ formulaPieces y := by
  obtain ⟨body, rfl⟩ := hx
  rw [← List.append_cons, formulaPieces_append]

/-- A text is highlighted on its own if something between brackets follows it. -/
theorem formulaPieces_text_append (ht : '<' ∉ t) (hx : ∃ body, x = '<' :: (body ++ ['>']))
    (rest : Text) :
    formulaPieces (t ++ (x ++ rest))
      = Dice.mentionPieces t ++ (formulaPieces x ++ formulaPieces rest) := by
  obtain ⟨body, rfl⟩ := hx
  rw [← formulaPieces_behind (x := '<' :: (body ++ ['>'])) ⟨'<' :: body, rfl⟩]
  have hclose : '>' ∈ body ++ '>' :: rest := by simp
  obtain ⟨inner, more, hbody, hinner⟩ := List.eq_append_cons_of_mem hclose
  have hshape : '<' :: (body ++ ['>']) ++ rest = '<' :: (inner ++ '>' :: more) := by
    rw [← hbody]
    simp
  have hnil := formulaPieces_tag (t := []) (by simp) hinner more
  rw [List.nil_append] at hnil
  rw [hshape, formulaPieces_tag ht hinner, hnil]
  rfl

/-! ## Texts that stay as they are -/

theorem isMention_of_mem_formulaPieces (h : .found f ∈ formulaPieces t) : Dice.IsMention f := by
  obtain ⟨t, ht⟩ := mention_of_mem_formulaPieces h
  exact Dice.parts_of_mention (Piece.mem_findings.mp ht)

/-- **A text stays as it is where nothing in it is a formula between tags**, and only there. -/
theorem mark_eq_self_iff : mark t = t ↔ Piece.findings (formulaPieces t) = [] := by
  have hsame : mark t = t
      ↔ Piece.render span (formulaPieces t) ++ [] = Piece.render id (formulaPieces t) ++ [] := by
    rw [mark_eq_render, render_formulaPieces, List.append_nil, List.append_nil]
  -- a span begins with a bracket and a formula with a digit
  have hdiffer : ∀ f ∈ Piece.findings (formulaPieces t), ∀ v w, span f ++ v ≠ id f ++ w := by
    intro f hf v w he
    obtain ⟨c, more, rfl, hc⟩ :=
      Dice.digit_of_isMention (isMention_of_mem_formulaPieces (Piece.mem_findings.mp hf))
    obtain rfl : '<' = c := (List.cons.inj he).1
    exact absurd hc (by decide)
  rw [hsame]
  constructor
  · intro he
    obtain ⟨hfindings, -⟩ := Piece.eq_of_render_append (fun f hf => .inr (hdiffer f hf)) he
    refine List.eq_nil_iff_forall_not_mem.mpr fun f hf => hdiffer f hf [] [] ?_
    rw [hfindings f hf]
  · intro h
    rw [Piece.render_congr (g := id) fun f hf => absurd hf (by simp [h])]

/-- From an opening bracket to the next closing one nothing is in a formula. -/
theorem formulaPieces_of_isTag (ht : IsTag t) : formulaPieces t = t.map .plain := by
  obtain ⟨inner, hinner, rfl⟩ := ht
  have hcut := formulaPieces_tag (t := []) (by simp) hinner []
  rw [List.nil_append] at hcut
  rw [hcut]
  exact List.append_nil _

/-! ## Searches that pass over spans -/

/-- A word without an opening bracket that stands at the start of a highlighted text stood there
before. -/
theorem prefix_of_prefix_span (hx : '<' ∉ x) (h : x <+: Piece.render span ps ++ rest) :
    x <+: Piece.render id ps ++ rest := by
  induction ps generalizing x with
  | nil => exact h
  | cons p ps ih =>
      cases x with
      | nil => exact List.nil_prefix
      | cons c x =>
          rw [List.mem_cons, not_or] at hx
          cases p with
          | plain d =>
              obtain ⟨hcd, hrest⟩ := List.cons_prefix_cons.mp h
              exact List.cons_prefix_cons.mpr ⟨hcd, ih hx.2 hrest⟩
          | found f => exact absurd (List.cons_prefix_cons.mp h).1.symm hx.1

/-- A search that formulas do not concern: no word that ends it begins in a formula or in a span or
holds a digit, or an opening bracket behind its first character. -/
structure PassesFormulas (IsEnd : Text → Prop) : Prop where
  bracket : ∀ x, IsEnd x → '<' ∉ x.tail
  digit : ∀ x, IsEnd x → ∀ c ∈ x, Text.isDigit c = false
  formula : ∀ f, Dice.IsMention f → ∀ rest t, EndsAt IsEnd rest (f ++ t) → EndsAt IsEnd rest t
  span : ∀ f, Dice.IsMention f → ∀ rest t, EndsAt IsEnd rest t → EndsAt IsEnd rest (span f ++ t)

/-- **With spans a search ends where it ended without them.** -/
theorem endsAt_marked {IsEnd : Text → Prop} (hend : PassesFormulas IsEnd)
    (hps : ∀ f, .found f ∈ ps → Dice.IsMention f)
    (h : EndsAt IsEnd rest (Piece.render id ps ++ rest)) :
    EndsAt IsEnd rest (Piece.render span ps ++ rest) := by
  induction ps with
  | nil => exact h
  | cons p ps ih =>
      have hmentions : ∀ f, .found f ∈ ps → Dice.IsMention f :=
        fun f hf => hps f (List.mem_cons_of_mem p hf)
      cases p with
      | found f =>
          have hf := hps f (List.mem_cons_self ..)
          rw [Piece.render_cons_found, List.append_assoc] at h ⊢
          exact hend.span f hf rest _ (ih hmentions (hend.formula f hf rest _ h))
      | plain c =>
          rw [Piece.render_cons_plain, List.cons_append] at h ⊢
          generalize htext : c :: (Piece.render id ps ++ rest) = text at h
          rcases h with ⟨hx⟩ | ⟨hlater, h⟩
          · -- the word that ends it holds no digit, so there is no formula in front of it
            rename_i x
            obtain rfl : c :: Piece.render id ps = x := by
              rw [← List.cons_append] at htext
              exact List.append_cancel_right htext
            have hnone (f : Text) : .found f ∉ ps := by
              intro hf
              obtain ⟨d, more, rfl, hd⟩ := Dice.digit_of_isMention (hmentions f hf)
              have hmem := Piece.mem_render_of_found (f := id) hf (List.mem_cons_self ..)
              rw [hend.digit _ hx d (List.mem_cons_of_mem c hmem)] at hd
              exact absurd hd (by decide)
            have hplain := Piece.eq_map_plain id hnone
            have hsame : Piece.render span ps = Piece.render id ps := by
              conv_lhs => rw [hplain, Piece.render_plain]
            rw [hsame]
            exact .here hx
          · -- a word of the highlighted text that ends the search would stand in the text itself
            obtain ⟨rfl, rfl⟩ := List.cons.inj htext
            refine .later (fun x hx hpre => ?_) (ih hmentions h)
            cases x with
            | nil => exact hlater [] hx List.nil_prefix
            | cons d x =>
                obtain ⟨hdc, hrest⟩ := List.cons_prefix_cons.mp hpre
                exact hlater _ hx (List.cons_prefix_cons.mpr
                  ⟨hdc, prefix_of_prefix_span (hend.bracket _ hx) hrest⟩)

/-! ### Comments -/

/-- Whether every hyphen of a text is followed by another character of it that is no hyphen. -/
def hyphensApart : Text → Bool
  | [] => true
  | c :: t => (c != '-' || t.head?.any (· != '-')) && hyphensApart t

theorem hyphensApart_append {u v : Text} (hu : hyphensApart u = true)
    (hv : hyphensApart v = true) : hyphensApart (u ++ v) = true := by
  induction u with
  | nil => exact hv
  | cons c u ih =>
      rw [hyphensApart, Bool.and_eq_true] at hu
      rw [List.cons_append, hyphensApart, Bool.and_eq_true]
      refine ⟨?_, ih hu.2⟩
      cases u with
      | nil => simpa using Or.inl hu.1
      | cons d u => exact hu.1

theorem hyphensApart_of_not_mem {u : Text} (hu : '-' ∉ u) : hyphensApart u = true := by
  induction u with
  | nil => rfl
  | cons c u ih =>
      rw [List.mem_cons, not_or] at hu
      rw [hyphensApart, ih hu.2, Bool.and_true, Bool.or_eq_true, bne_iff_ne]
      exact .inl (Ne.symm hu.1)

theorem hyphensApart_suffix {u v : Text} (hu : hyphensApart u = true) (hv : v <:+ u) :
    hyphensApart v = true := by
  induction u with
  | nil => rwa [List.suffix_nil.mp hv]
  | cons c u ih =>
      rcases List.suffix_cons_iff.mp hv with rfl | hv
      · exact hu
      · rw [hyphensApart, Bool.and_eq_true] at hu
        exact ih hu.2 hv

/-- The only hyphen of a formula is its sign, which a digit follows. -/
theorem hyphensApart_of_isMention (hf : Dice.IsMention f) : hyphensApart f = true := by
  obtain ⟨p, die, hp, hdie, rfl⟩ := hf
  have hdigits {ds : Text} (h : ∀ c ∈ ds, Text.isDigit c = true) : '-' ∉ ds :=
    fun hm => absurd (h '-' hm) (by decide)
  have hrun {ds : Text} (hds : ds ∈ p.runs) : '-' ∉ ds := hdigits (hp.isDigit ds hds)
  have hletter : '-' ≠ die := by
    rintro rfl
    exact absurd hdie (by decide)
  have hassoc : p.write die [] []
      = (p.count ++ die :: p.sides) ++ Dice.Parts.writeModifier [] [] p.modifier := by
    simp [Dice.Parts.write]
  rw [hassoc]
  refine hyphensApart_append (hyphensApart_of_not_mem ?_) ?_
  · have hcount : '-' ∉ p.count := hrun (by simp [Dice.Parts.runs])
    have hsides : '-' ∉ p.sides := hrun (by simp [Dice.Parts.runs])
    simp [hcount, hsides, hletter]
  · cases hm : p.modifier with
    | none => rfl
    | some m =>
        obtain ⟨-, hne, hds⟩ := hp.isSigned m hm
        obtain ⟨d, ds, hcons⟩ := List.exists_cons_of_ne_nil hne
        have hd : d ≠ '-' := by
          rintro rfl
          exact hdigits hds (by simp [hcons])
        show hyphensApart (m.1 :: m.2) = true
        rw [hyphensApart, hyphensApart_of_not_mem (hdigits hds), hcons]
        simp [hd]

theorem endsAt_comment_append (ht : hyphensApart t = true) {u : Text} :
    EndsAt IsCommentEnd rest (t ++ u) ↔ EndsAt IsCommentEnd rest u := by
  refine EndsAt.append_iff fun v hne hv x hx hpre => ?_
  obtain ⟨blanks, -, rfl⟩ := hx
  have hapart := hyphensApart_suffix ht hv
  obtain ⟨c, v, rfl⟩ := List.exists_cons_of_ne_nil hne
  obtain ⟨rfl, hrest⟩ := List.cons_prefix_cons.mp hpre
  cases v with
  | nil => exact absurd hapart (by decide)
  | cons d v =>
      obtain ⟨rfl, -⟩ := List.cons_prefix_cons.mp hrest
      exact absurd hapart (by simp [hyphensApart])

theorem passesFormulas_comment : PassesFormulas IsCommentEnd := by
  refine ⟨fun x hx hm => ?_, fun x hx => hx.not_digit, fun f hf rest t => ?_, fun f hf rest t => ?_⟩
  · obtain ⟨blanks, hblanks, rfl⟩ := hx
    have hbracket : '<' ∉ blanks := fun hm => absurd (hblanks '<' hm) (by decide)
    exact absurd hm (by simp [hbracket])
  · exact (endsAt_comment_append (hyphensApart_of_isMention hf)).mp
  · have hformula := hyphensApart_of_isMention hf
    have hspan : hyphensApart (span f) = true := by
      unfold span
      refine hyphensApart_append (hyphensApart_append (hyphensApart_append (hyphensApart_append
        ?_ hformula) ?_) hformula) ?_ <;> decide
    exact (endsAt_comment_append hspan).mpr

/-! ### Scripts and styles -/

theorem endsAt_raw_append {name : Text} (ht : '<' ∉ t) {u : Text} :
    EndsAt (IsRawEnd name) rest (t ++ u) ↔ EndsAt (IsRawEnd name) rest u := by
  refine EndsAt.append_iff fun v hne hv x hx hpre => ?_
  obtain ⟨found, inner, -, -, rfl⟩ := hx
  obtain ⟨c, v, rfl⟩ := List.exists_cons_of_ne_nil hne
  obtain ⟨rfl, -⟩ := List.cons_prefix_cons.mp hpre
  exact ht (hv.subset (List.mem_cons_self ..))

theorem endsAt_raw_cons {name : Text} {c : Char} (hc : c ≠ '<') {u : Text} :
    EndsAt (IsRawEnd name) rest (c :: u) ↔ EndsAt (IsRawEnd name) rest u :=
  endsAt_raw_append (t := [c]) (by simpa using hc.symm)

/-- The end tag of a span is that of no other element. -/
theorem not_isRawEnd_prefix_span {name : Text} (hname : isRawElement name = true)
    (hx : IsRawEnd name x) (u : Text) : ¬x <+: '<' :: '/' :: ("span>".toList ++ u) := by
  obtain ⟨found, inner, hinner, rfl, rfl⟩ := hx
  rintro ⟨behind, htext⟩
  have hspan : Html.IsPlainEnd "span".toList "span>".toList :=
    ⟨⟨[], [], by simp, by simp, by decide⟩, ⟨'s', "pan".toList, rfl, by decide⟩,
      List.all_eq_true.mp (by decide)⟩
  have hread := Html.plainEndTag?_eq_some_iff.mpr ⟨_, hspan, @rfl _ ("span>".toList ++ u)⟩
  have hfound := Html.plainEndTag?_eq_some_iff.mpr ⟨_, hinner, @rfl _ (inner ++ behind)⟩
  -- an end tag has one name only
  have htail : inner ++ behind = "span>".toList ++ u := (List.cons.inj (List.cons.inj htext).2).2
  rw [htail, hread] at hfound
  obtain ⟨rfl, -⟩ := Prod.mk.inj (Option.some.inj hfound)
  exact absurd hname (by decide)

theorem passesFormulas_raw {name : Text} (hname : isRawElement name = true) :
    PassesFormulas (IsRawEnd name) := by
  have hbracket {f : Text} (hf : Dice.IsMention f) : '<' ∉ f :=
    Dice.not_mem_of_isMention (by decide) hf
  refine ⟨fun x hx => (hx.chars hname).1, fun x hx => (hx.chars hname).2, fun f hf rest t => ?_,
    fun f hf rest t ht => ?_⟩
  · exact (endsAt_raw_append (hbracket hf)).mp
  · have hshape : span f ++ t = '<' :: 's' :: ("pan class=\"dice-roll\" data-formula=\"".toList
        ++ (f ++ ("\">".toList ++ (f ++ '<' :: '/' :: ("span>".toList ++ t))))) := by
      have hassoc (a b d : Text) : ('<' :: 's' :: a) ++ f ++ b ++ f ++ ('<' :: '/' :: d) ++ t
          = '<' :: 's' :: (a ++ (f ++ (b ++ (f ++ '<' :: '/' :: (d ++ t))))) := by simp
      exact hassoc "pan class=\"dice-roll\" data-formula=\"".toList "\">".toList "span>".toList
    have hclose : EndsAt (IsRawEnd name) rest ('<' :: '/' :: ("span>".toList ++ t)) := by
      refine .later (fun x hx => not_isRawEnd_prefix_span hname hx t) ?_
      rw [endsAt_raw_cons (by decide), endsAt_raw_append (by decide)]
      exact ht
    have hopen : EndsAt (IsRawEnd name) rest
        ('s' :: ("pan class=\"dice-roll\" data-formula=\"".toList
          ++ (f ++ ("\">".toList ++ (f ++ '<' :: '/' :: ("span>".toList ++ t)))))) := by
      rw [endsAt_raw_cons (by decide), endsAt_raw_append (by decide),
        endsAt_raw_append (hbracket hf), endsAt_raw_append (by decide),
        endsAt_raw_append (hbracket hf)]
      exact hclose
    rw [hshape]
    refine .later (fun x hx hpre => ?_) hopen
    obtain ⟨found, inner, -, -, rfl⟩ := hx
    have hslash := (List.cons_prefix_cons.mp (List.cons_prefix_cons.mp hpre).2).1
    exact absurd hslash (by decide)

end Gamebook.DiceSpan
