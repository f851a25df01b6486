import Gamebook.Proofs.Annotation.DiceSpan
import Gamebook.Proofs.Dice.Passed

/-!
# What the highlighting leaves alone

A rendered text is cut at its leftmost tags into the texts between them (`Segments`). It can be cut
in one way only, and this is where the highlighting cuts it: in each of the texts the formulas are
taken from the left, each as long as it goes, and the rest of the rendered text stays as it is.

So whatever reaches from an opening angle bracket to the next closing one is left alone, and so is
every character reference (`mark_by_segments`).
-/

namespace Gamebook.DiceSpan

open Html (IsReference write piecesOf escape escape_eq_self)
open Text (Piece scan)

/-- A rendered text cut at its tags: each tag behind the text before it, and the text behind the
last one. -/
structure Segments where
  parts : List (Text × Text)
  last : Text

/-- A tag: from an opening angle bracket to the next closing one. -/
def IsTag (w : Text) : Prop := ∃ inner, '>' ∉ inner ∧ w = '<' :: (inner ++ ['>'])

namespace Segments

/-- The text that was cut. -/
def text (s : Segments) : Text := (s.parts.flatMap fun p => p.1 ++ p.2) ++ s.last

/-- The pieces of a rendered text: the texts between the tags are cut at their formulas. -/
def pieces (s : Segments) : List (Piece Text) :=
  (s.parts.flatMap fun p => Dice.mentionPieces p.1 ++ p.2.map .plain) ++ Dice.mentionPieces s.last

/-- The tags are the leftmost ones: every opening bracket before the end of the last tag belongs to
a tag, and none behind it is closed. -/
structure IsLeftmost (s : Segments) : Prop where
  tags : ∀ p ∈ s.parts, IsTag p.2
  texts : ∀ p ∈ s.parts, '<' ∉ p.1
  last : ∀ u v, s.last = u ++ '<' :: v → '>' ∉ v

end Segments

/-! ## Words that a character cuts off -/

/-- The first place of a character in a text is where it stands with none before it. -/
theorem eq_of_first {c : Char} {u u' v v' : Text} (hu : c ∉ u) (hu' : c ∉ u')
    (h : u ++ c :: v = u' ++ c :: v') : u = u' ∧ v = v' := by
  have hspan {u v : Text} (hu : c ∉ u) : (u ++ c :: v).span (· != c) = (u, c :: v) := by
    refine Text.span_append (fun d hd => ?_) (by simp)
    rw [bne_iff_ne]
    rintro rfl
    exact hu hd
  have hboth := hspan (v := v) hu
  rw [h, hspan hu'] at hboth
  obtain ⟨rfl, hrest⟩ := Prod.mk.inj hboth
  exact ⟨rfl, (List.cons.inj hrest).2.symm⟩

/-- A word that does not hold a character stands before it or behind it. -/
theorem apart {c : Char} {x y u w v : Text} (hc : c ∉ w) (h : x ++ c :: y = u ++ (w ++ v)) :
    (∃ v', x = u ++ (w ++ v') ∧ v = v' ++ c :: y)
      ∨ ∃ u', u = x ++ c :: u' ∧ y = u' ++ (w ++ v) := by
  rcases List.append_eq_append_iff.mp h with ⟨a, hu, hy⟩ | ⟨a, hx, hwv⟩
  · -- the character is in `u`, or `u` ends at it
    rcases List.cons_eq_append_iff.mp hy with ⟨rfl, hw⟩ | ⟨a, rfl, hy⟩
    · rcases List.append_eq_cons_iff.mp hw with ⟨rfl, hv⟩ | ⟨w', rfl, -⟩
      · exact .inl ⟨[], by simpa using hu.symm, hv⟩
      · exact absurd (List.mem_cons_self ..) hc
    · exact .inr ⟨a, hu, (List.cons.inj hy).2⟩
  · rcases List.append_eq_append_iff.mp hwv with ⟨v', ha, hv⟩ | ⟨b, hw, hv⟩
    · exact .inl ⟨v', by rw [hx, ha], hv⟩
    · rcases List.cons_eq_append_iff.mp hv with ⟨rfl, hv⟩ | ⟨b, rfl, -⟩
      · exact .inl ⟨[], by rw [hx, hw, List.append_nil, List.append_nil], hv.symm⟩
      · exact absurd (by simp [hw]) hc

/-- From the first place of a character on, what stands behind another place is behind both. -/
theorem behind_first {c : Char} {u u' v v' : Text} (hu : c ∉ u) (h : u ++ c :: v = u' ++ c :: v') :
    ∃ a, u' = u ++ a ∧ c :: v = a ++ c :: v' := by
  rcases List.append_eq_append_iff.mp h with ⟨a, hu', hv⟩ | ⟨a, hu', hv⟩
  · exact ⟨a, hu', hv⟩
  · rcases List.cons_eq_append_iff.mp hv with ⟨rfl, hv⟩ | ⟨a, rfl, -⟩
    · exact ⟨[], by rw [hu', List.append_nil, List.append_nil], hv.symm⟩
    · exact absurd (by simp [hu']) hu

/-! ## The first tag -/

theorem formulaPiecesFrom_plain (pending t : Text) (ps : List (Piece Text)) :
    formulaPiecesFrom pending (t.map .plain ++ ps)
      = formulaPiecesFrom (t.reverse ++ pending) ps := by
  induction t generalizing pending with
  | nil => rfl
  | cons c t ih =>
      rw [List.map_cons, List.cons_append, formulaPiecesFrom, ih, List.reverse_cons,
        List.append_assoc]
      rfl

/-- Where no opening bracket is closed, all is text. -/
theorem formulaPieces_of_unclosed {t : Text} (h : ∀ u v, t = u ++ '<' :: v → '>' ∉ v) :
    formulaPieces t = Dice.mentionPieces t := by
  have hscan : scan tag t = t.map .plain := by
    refine Text.scan_eq_map_plain forgets_tag fun u hne hu => ?_
    obtain ⟨c, v, rfl⟩ := List.exists_cons_of_ne_nil hne
    by_cases hc : c = '<'
    · subst hc
      obtain ⟨before, hbefore⟩ := hu
      have hspan := Text.span_append (t := [])
        (fun _ hc => isNoTagEnd_of_mem (h before v hbefore.symm) hc) (by simp)
      rw [List.append_nil] at hspan
      rw [tag, hspan]
    · exact tag_of_ne hc v
  have hplain := formulaPiecesFrom_plain [] t []
  rw [List.append_nil, List.append_nil] at hplain
  rw [formulaPieces, hscan, hplain, formulaPiecesFrom, List.reverse_reverse]

/-- The scan for tags goes on behind a text without opening brackets. -/
theorem scan_tag_text {t : Text} (ht : '<' ∉ t) (rest : Text) :
    scan tag (t ++ rest) = t.map .plain ++ scan tag rest :=
  Text.scan_passed_all forgets_tag rest fun c hc rest => tag_of_ne (by
    rintro rfl
    exact ht hc) rest

/-- The text before the first tag is cut at its formulas, and what follows the tag is cut on its
own. -/
theorem formulaPieces_tag {t inner : Text} (ht : '<' ∉ t) (hinner : '>' ∉ inner) (rest : Text) :
    formulaPieces (t ++ '<' :: (inner ++ '>' :: rest))
      = Dice.mentionPieces t ++ (('<' :: (inner ++ ['>'])).map .plain ++ formulaPieces rest) := by
  have hfind : scan tag ('<' :: (inner ++ '>' :: rest))
      = .found ('<' :: (inner ++ ['>'])) :: scan tag rest := by
    have hscan := @Text.scan_found _ tag forgets_tag ('<' :: (inner ++ ['>'])) rest
      ('<' :: (inner ++ ['>'])) (List.cons_ne_nil _ _) (by simpa using tag_closed hinner rest)
    simpa using hscan
  rw [formulaPieces, scan_tag_text ht, hfind, formulaPiecesFrom_plain, List.append_nil,
    formulaPiecesFrom, List.reverse_reverse]
  rfl

namespace Segments

variable {s s' : Segments} {t g : Text} {parts : List (Text × Text)} {last : Text}

theorem text_cons (p : Text × Text) (parts : List (Text × Text)) (last : Text) :
    text ⟨p :: parts, last⟩ = p.1 ++ (p.2 ++ text ⟨parts, last⟩) := by
  simp only [text, List.flatMap_cons, List.append_assoc]

theorem pieces_cons (p : Text × Text) (parts : List (Text × Text)) (last : Text) :
    pieces ⟨p :: parts, last⟩
      = Dice.mentionPieces p.1 ++ (p.2.map .plain ++ pieces ⟨parts, last⟩) := by
  simp only [pieces, List.flatMap_cons, List.append_assoc]

theorem isLeftmost_cons {p : Text × Text} : IsLeftmost ⟨p :: parts, last⟩
    ↔ IsTag p.2 ∧ '<' ∉ p.1 ∧ IsLeftmost ⟨parts, last⟩ := by
  constructor
  · rintro ⟨htags, htexts, hlast⟩
    rw [List.forall_mem_cons] at htags htexts
    exact ⟨htags.1, htexts.1, htags.2, htexts.2, hlast⟩
  · rintro ⟨htag, htext, htags, htexts, hlast⟩
    exact ⟨List.forall_mem_cons.mpr ⟨htag, htags⟩, List.forall_mem_cons.mpr ⟨htext, htexts⟩, hlast⟩

/-! ## The cuts are where the highlighting makes them -/

/-- Every text can be cut at its leftmost tags. -/
theorem exists_leftmost (t : Text) : ∃ s : Segments, s.IsLeftmost ∧ s.text = t := by
  generalize hn : t.length = n
  induction n using Nat.strongRecOn generalizing t with
  | ind n ih =>
      have hwhole (h : ∀ u v, t = u ++ '<' :: v → '>' ∉ v) :
          ∃ s : Segments, s.IsLeftmost ∧ s.text = t :=
        ⟨⟨[], t⟩, ⟨by simp, by simp, h⟩, rfl⟩
      by_cases hopen : '<' ∈ t
      · obtain ⟨u, v, rfl, hu⟩ := List.eq_append_cons_of_mem hopen
        by_cases hclose : '>' ∈ v
        · obtain ⟨inner, rest, rfl, hinner⟩ := List.eq_append_cons_of_mem hclose
          obtain ⟨⟨parts, last⟩, hs, hrest⟩ := ih rest.length (by
            rw [← hn]
            simp only [List.length_append, List.length_cons]
            omega) rest rfl
          refine ⟨⟨(u, '<' :: (inner ++ ['>'])) :: parts, last⟩,
            isLeftmost_cons.mpr ⟨⟨inner, hinner, rfl⟩, hu, hs⟩, ?_⟩
          rw [text_cons, hrest]
          simp
        · -- no bracket behind the first one is closed either
          refine hwhole fun u' v' h hv' => hclose ?_
          obtain ⟨a, -, hv⟩ := behind_first hu h
          have hmem : '>' ∈ '<' :: v := by
            rw [hv]
            simp [hv']
          simpa using hmem
      · exact hwhole fun u v h => absurd (by simp [h]) hopen

/-- A text can be cut at its leftmost tags in one way only. -/
theorem IsLeftmost.unique (hs : s.IsLeftmost) (hs' : s'.IsLeftmost) (h : s.text = s'.text) :
    s = s' := by
  have hclosed {p : Text × Text} {parts : List (Text × Text)} {last : Text}
      (hs : IsLeftmost ⟨p :: parts, last⟩) :
      ∃ inner, '>' ∉ inner ∧ p.2 = '<' :: (inner ++ ['>']) ∧ '<' ∉ p.1
        ∧ text ⟨p :: parts, last⟩ = p.1 ++ '<' :: (inner ++ '>' :: text ⟨parts, last⟩) := by
    obtain ⟨⟨inner, hinner, htag⟩, htext, -⟩ := isLeftmost_cons.mp hs
    exact ⟨inner, hinner, htag, htext, by rw [text_cons, htag]; simp⟩
  obtain ⟨parts, last⟩ := s
  obtain ⟨parts', last'⟩ := s'
  induction parts generalizing parts' with
  | nil =>
      cases parts' with
      | nil => exact congrArg (Segments.mk []) h
      | cons p' parts' =>
          obtain ⟨inner, -, -, -, htext⟩ := hclosed hs'
          exact absurd (by simp) (hs.last _ _ (h.trans htext))
  | cons p parts ih =>
      obtain ⟨inner, hinner, htag, hp, htext⟩ := hclosed hs
      cases parts' with
      | nil => exact absurd (by simp) (hs'.last _ _ (h.symm.trans htext))
      | cons p' parts' =>
          obtain ⟨inner', hinner', htag', hp', htext'⟩ := hclosed hs'
          rw [htext, htext'] at h
          obtain ⟨hfst, hbehind⟩ := eq_of_first hp hp' h
          obtain ⟨rfl, hrest⟩ := eq_of_first hinner hinner' hbehind
          obtain ⟨rfl, rfl⟩ := Segments.mk.inj
            (ih (isLeftmost_cons.mp hs).2.2 parts' (isLeftmost_cons.mp hs').2.2 hrest)
          rw [Prod.ext hfst (htag.trans htag'.symm)]

/-- The highlighting cuts a text at its leftmost tags. -/
theorem IsLeftmost.formulaPieces_text (hs : s.IsLeftmost) : formulaPieces s.text = s.pieces := by
  obtain ⟨parts, last⟩ := s
  induction parts with
  | nil => exact formulaPieces_of_unclosed hs.last
  | cons p parts ih =>
      obtain ⟨⟨inner, hinner, htag⟩, hp, hrest⟩ := isLeftmost_cons.mp hs
      have htext : text ⟨p :: parts, last⟩
          = p.1 ++ '<' :: (inner ++ '>' :: text ⟨parts, last⟩) := by
        rw [text_cons, htag]
        simp
      rw [htext, formulaPieces_tag hp hinner, ih hrest, pieces_cons, htag]

/-! ## What is kept -/

variable {u w v : Text}

theorem render_mentionPieces_append (t g : Text) (ps : List (Piece Text)) :
    Piece.render id (Dice.mentionPieces t ++ (g.map .plain ++ ps))
      = t ++ (g ++ Piece.render id ps) := by
  rw [Piece.render_append, Piece.render_append, Dice.render_mentionPieces, Piece.render_plain]

theorem render_pieces (s : Segments) : Piece.render id s.pieces = s.text := by
  obtain ⟨parts, last⟩ := s
  induction parts with
  | nil => exact Dice.render_mentionPieces last
  | cons p parts ih => rw [pieces_cons, render_mentionPieces_append, ih, text_cons]

/-- What is kept behind a tag is kept. -/
theorem keeps_cons {p : Text × Text} (h : Piece.Keeps (pieces ⟨parts, last⟩) u w v) :
    Piece.Keeps (pieces ⟨p :: parts, last⟩) (p.1 ++ (p.2 ++ u)) w v := by
  have hkeeps := (h.append_left (p.2.map .plain)).append_left (Dice.mentionPieces p.1)
  rwa [Piece.render_plain, Dice.render_mentionPieces, ← pieces_cons] at hkeeps

/-- What stands in a tag is kept. -/
theorem keeps_in_tag {p : Text × Text} (parts : List (Text × Text)) (last : Text)
    (h : p.2 = u ++ (w ++ v)) :
    Piece.Keeps (pieces ⟨p :: parts, last⟩) (p.1 ++ u) w (v ++ text ⟨parts, last⟩) := by
  have hkeeps := ((Piece.keeps_plain u w v).append_left (Dice.mentionPieces p.1)).append_right
    (pieces ⟨parts, last⟩)
  rwa [Dice.render_mentionPieces, render_pieces, List.append_assoc, ← h, ← pieces_cons] at hkeeps

/-- **Every character reference is kept.** -/
theorem IsLeftmost.keeps_reference (hs : s.IsLeftmost) (hw : IsReference w)
    (h : s.text = u ++ (w ++ v)) : Piece.Keeps s.pieces u w v := by
  obtain ⟨parts, last⟩ := s
  induction parts generalizing u with
  | nil =>
      obtain rfl : last = u ++ (w ++ v) := h
      exact Dice.keeps_reference hw none u v
  | cons p parts ih =>
      obtain ⟨⟨inner, hinner, htag⟩, hp, hrest⟩ := isLeftmost_cons.mp hs
      have hshape : p.1 ++ '<' :: (inner ++ '>' :: text ⟨parts, last⟩) = u ++ (w ++ v) := by
        rw [← h, text_cons, htag]
        simp
      have hopen : '<' ∉ w := IsReference.bracket_not_mem (by simp) hw
      have hclose : '>' ∉ w := IsReference.bracket_not_mem (by simp) hw
      rcases apart hopen hshape with ⟨v', ht, rfl⟩ | ⟨u', rfl, hin⟩
      · -- it stands before the tag
        have hbefore : Piece.Keeps (Dice.mentionPieces (u ++ (w ++ v'))) u w v' :=
          Dice.keeps_reference hw none u v'
        have hkeeps := hbefore.append_right (p.2.map .plain ++ pieces ⟨parts, last⟩)
        rw [← ht, ← pieces_cons, Piece.render_append, Piece.render_plain, render_pieces,
          htag] at hkeeps
        simpa using hkeeps
      · rcases apart hclose hin with ⟨v', rfl, rfl⟩ | ⟨u'', rfl, hbehind⟩
        · have hin : p.2 = ('<' :: u') ++ (w ++ (v' ++ ['>'])) := by
            rw [htag]
            simp
          simpa using keeps_in_tag parts last hin
        · have hkeeps := keeps_cons (p := p) (ih hrest hbehind)
          rw [htag] at hkeeps
          simpa using hkeeps

/-- **Whatever reaches from an opening bracket to the next closing one is kept.** -/
theorem IsLeftmost.keeps_tag (hs : s.IsLeftmost) (hw : IsTag w) (h : s.text = u ++ (w ++ v)) :
    Piece.Keeps s.pieces u w v := by
  obtain ⟨inside, hinside, rfl⟩ := hw
  obtain ⟨parts, last⟩ := s
  induction parts generalizing u with
  | nil => exact absurd (by simp) (hs.last u (inside ++ '>' :: v) (by simpa [text] using h))
  | cons p parts ih =>
      obtain ⟨⟨inner, hinner, htag⟩, hp, hrest⟩ := isLeftmost_cons.mp hs
      have hshape : p.1 ++ '<' :: (inner ++ '>' :: text ⟨parts, last⟩)
          = u ++ '<' :: (inside ++ '>' :: v) := by
        rw [text_cons, htag] at h
        simpa using h
      obtain ⟨a, rfl, hin⟩ := behind_first hp hshape
      have hword : '>' ∉ '<' :: inside := by simp [hinside]
      rcases apart hword (x := '<' :: inner) (y := text ⟨parts, last⟩) (u := a) (v := '>' :: v)
        (by simpa using hin) with ⟨v', ha, hv⟩ | ⟨u', rfl, hbehind⟩
      · -- both end at the first closing bracket
        rcases List.cons_eq_append_iff.mp hv with ⟨rfl, hv⟩ | ⟨v', rfl, -⟩
        · obtain ⟨-, rfl⟩ := List.cons.inj hv
          have hin : p.2 = a ++ ('<' :: (inside ++ ['>']) ++ []) := by
            rw [htag, ← List.cons_append, ha]
            simp
          exact keeps_in_tag parts last hin
        · have hmem : '>' ∈ '<' :: inner := by
            rw [ha]
            simp
          exact absurd (by simpa using hmem) hinner
      · have hkeeps := keeps_cons (p := p) (ih hrest (u := u') (by simpa using hbehind))
        rw [htag] at hkeeps
        simpa using hkeeps

end Segments

/--
**The highlighting only adds spans, and only in the text between tags.**

A rendered text can be cut at its leftmost tags in one way. Each text between them is cut from the
left at its formulas, each as long as it goes, and there is only one such cut. The highlighting
writes every formula as the element of a span that has it for an attribute and for its text, and all
other characters as they are, so without the spans the rendered text is left. A formula is made of
digits, a die letter and signs, so there is nothing in it to escape.

Of a stretch from an opening angle bracket to the next closing one, and of a character reference,
nothing is in a formula.
-/
theorem mark_by_segments (rendered : Text) :
    ∃ s : Segments, (s.IsLeftmost ∧ s.text = rendered)
      ∧ (∀ s' : Segments, s'.IsLeftmost → s'.text = rendered → s' = s)
      ∧ (∀ t ps, Dice.Munch none t ps ↔ ps = Dice.mentionPieces t)
      ∧ mark rendered = Piece.render span s.pieces
      ∧ Piece.render id s.pieces = rendered
      ∧ (∀ f, .found f ∈ s.pieces →
          span f = write (piecesOf [spanNode f]) ∧ escape f = f
            ∧ ∀ c ∈ f, Text.isDigit c = true ∨ c ∈ ['d', 'D', '+', '-'])
      ∧ ∀ u w v, rendered = u ++ (w ++ v) → IsTag w ∨ IsReference w →
          Piece.Keeps s.pieces u w v := by
  obtain ⟨s, hs, rfl⟩ := Segments.exists_leftmost rendered
  refine ⟨s, ⟨hs, rfl⟩, fun s' hs' h => hs'.unique hs h, fun _ _ => Dice.munch_iff, ?_,
    s.render_pieces, ?_, ?_⟩
  · rw [mark_eq_render, hs.formulaPieces_text]
  · intro f hf
    rw [← hs.formulaPieces_text] at hf
    obtain ⟨t, ht⟩ := mention_of_mem_formulaPieces hf
    have hformula := Dice.isFormula_of_mem_mentionPieces (Piece.mem_findings.mp ht)
    refine ⟨(write_spanNode hformula).symm,
      escape_eq_self fun c hc => escapeChar_of_isFormulaChar (hformula.chars c hc), ?_⟩
    intro c hc
    have hchar := hformula.chars c hc
    simp only [Dice.isFormulaChar, Dice.isDieLetter, Dice.isSign, Bool.or_eq_true,
      beq_iff_eq] at hchar
    simpa [or_assoc] using hchar
  · rintro u w v h (hw | hw)
    · exact hs.keeps_tag hw h
    · exact hs.keeps_reference hw h

/-- A word that ends like a formula, a reference that holds the same characters, a formula in an
attribute and two that run into other characters. -/
def mixedText : Text := "x1d6 &#x1d6; <a title=\"2d6\">2d4hp &#12; 1d6-</a>".toList

theorem mark_by_segments_mixedText :
    mark mixedText
        = "x1d6 &#x1d6; <a title=\"2d6\">".toList ++ span "2d4".toList ++ "hp &#12; ".toList
          ++ span "1d6".toList ++ "-</a>".toList
      ∧ ∃ s : Segments, s.text = mixedText ∧ s.IsLeftmost
        ∧ Piece.Keeps s.pieces "x1d6 ".toList "&#x1d6;".toList
          " <a title=\"2d6\">2d4hp &#12; 1d6-</a>".toList
        ∧ Piece.Keeps s.pieces "x1d6 &#x1d6; ".toList "<a title=\"2d6\">".toList
          "2d4hp &#12; 1d6-</a>".toList := by
  obtain ⟨s, ⟨hs, htext⟩, -, -, -, -, -, hkeeps⟩ := mark_by_segments mixedText
  have htag : IsTag "<a title=\"2d6\">".toList := ⟨"a title=\"2d6\"".toList, by decide, by decide⟩
  have hreference : IsReference "&#x1d6;".toList :=
    @IsReference.hex 'x' "1d6".toList (by decide) (by decide)
      (List.all_eq_true.mp (by decide))
  exact ⟨by decide +kernel, s, htext, hs, hkeeps _ _ _ (by decide) (.inr hreference),
    hkeeps _ _ _ (by decide) (.inl htag)⟩

end Gamebook.DiceSpan
