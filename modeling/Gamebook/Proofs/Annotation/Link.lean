import Gamebook.Proofs.Annotation.DiceSpan
import Gamebook.Proofs.Annotation.Placeholder
import Gamebook.Proofs.Dice.Passed
import Gamebook.Proofs.Html.EscapedText

/-!
# What a link carries

A link is written with its term escaped, once in an attribute and once as text, and then its
formulas get spans. The highlighting goes over the escaped text, in which a bracket or a quote is
a word between an ampersand and a semicolon. That makes no difference: the five words hold no
formula, and their first and last characters part formulas as the characters do that they stand
for (`mentionPieces_escape`). So the highlighting of a forest that is written with its texts escaped
is written from the highlighted forest, and a reader finds that (`parse_mark_escaped`).

A link is such a forest. Its term is read in stretches (`Stretches`), with a span for each formula
between them. A reader folds a stretch of nothing but blanks, so a term that has one may come back
with fewer blanks; every other character comes back as it was (`parse_mark_materialize`).
-/

namespace Gamebook.DiceSpan

open Html
open Text (Piece)

/-! ## Formulas in escaped text -/

/-- A character is written as itself, or as a word without a die letter between an ampersand and a
semicolon; then it belongs to no formula and to no word. -/
theorem escapeChar_cases (c : Char) :
    escapeChar c = [c] ∨
      (Dice.isFormulaChar c = false ∧ Text.isWord c = false ∧
        ∃ w, escapeChar c = '&' :: (w ++ [';']) ∧ ∀ d ∈ w, Dice.isDieLetter d = false) := by
  have hno {w : Text} (hw : (w.all fun d => decide (Dice.isDieLetter d = false)) = true) :
      ∀ d ∈ w, Dice.isDieLetter d = false := List.all_iff_forall_prop.mp hw
  unfold escapeChar
  split
  · exact .inr ⟨by decide, by decide, "amp".toList, rfl, hno (by decide)⟩
  · exact .inr ⟨by decide, by decide, "lt".toList, rfl, hno (by decide)⟩
  · exact .inr ⟨by decide, by decide, "gt".toList, rfl, hno (by decide)⟩
  · exact .inr ⟨by decide, by decide, "quot".toList, rfl, hno (by decide)⟩
  · exact .inr ⟨by decide, by decide, "#x27".toList, rfl, hno (by decide)⟩
  · exact .inl rfl

theorem flatMap_pieceBy_escapeChar {u : Text} (hu : ∀ c ∈ u, escapeChar c = [c]) :
    (Dice.mentionPieces u).flatMap (pieceBy escapeChar) = Dice.mentionPieces u := by
  refine flatMap_pieceBy_self fun c hc => hu c ?_
  rw [← Dice.render_mentionPieces u]
  exact List.mem_flatMap.mpr ⟨.plain c, hc, List.mem_singleton_self c⟩

/-- **The formulas of an escaped text are those of the text.** -/
theorem mentionPieces_escape (t : Text) :
    Dice.mentionPieces (escape t) = (Dice.mentionPieces t).flatMap (pieceBy escapeChar) := by
  -- `u` is what stands before, up to the last character that is written as a word
  have hfrom (u : Text) (hu : ∀ c ∈ u, escapeChar c = [c]) :
      Dice.mentionPieces (u ++ escape t)
        = (Dice.mentionPieces (u ++ t)).flatMap (pieceBy escapeChar) := by
    induction t generalizing u with
    | nil =>
        show Dice.mentionPieces (u ++ []) = _
        rw [List.append_nil, flatMap_pieceBy_escapeChar hu]
    | cons c t ih =>
        show Dice.mentionPieces (u ++ (escapeChar c ++ escape t)) = _
        rcases escapeChar_cases c with hc | ⟨hchar, hword, w, hc, hdie⟩
        · have hshape (v : Text) : u ++ c :: v = (u ++ [c]) ++ v := by simp
          rw [hc, List.singleton_append, hshape (escape t), hshape t, ih (u ++ [c]) fun d hd => ?_]
          rcases List.mem_append.mp hd with hd | hd
          · exact hu d hd
          · rw [List.mem_singleton.mp hd, hc]
        · have hrest := ih [] (by simp)
          have hshape : u ++ (escapeChar c ++ escape t) = u ++ '&' :: (w ++ ';' :: escape t) := by
            rw [hc]
            simp
          rw [List.nil_append, List.nil_append] at hrest
          rw [hshape, Dice.mentionPieces_append_stop (by decide) (by decide),
            Dice.mentionPieces_append_stop (by decide) (by decide), hrest,
            Dice.mentionPieces_of_no_die hdie, Dice.mentionPieces_append_stop hchar hword,
            List.flatMap_append, List.flatMap_cons, flatMap_pieceBy_escapeChar hu, pieceBy, hc]
          simp
  exact hfrom [] (by simp)

/-! ## Highlighting what is written escaped -/

theorem keepsFormulas_escapeChar : KeepsFormulas escapeChar where
  formula _ := escapeChar_of_isFormulaChar
  mentions := mentionPieces_escape

theorem areOrdinary_markedNodes (t : Text) : AreOrdinary (markedNodes t) := by
  rw [markedNodes]
  induction Dice.mentionPieces t with
  | nil =>
      rw [List.map_nil, AreOrdinary]
      trivial
  | cons p ps ih =>
      rw [List.map_cons]
      cases p with
      | plain c =>
          rw [pieceNode, AreOrdinary]
          exact ih
      | found f =>
          rw [pieceNode, spanNode, AreOrdinary, AreOrdinary, AreOrdinary]
          exact ⟨isOrdinary_spanNode f, trivial, ih⟩

/-- **What a reader finds of a forest that is written escaped, after the highlighting.** -/
theorem parse_mark_escaped {ns : List Node} (h : AreOrdinary ns) :
    parse (mark (writeBy escapeChar (piecesOf ns))) = .ok (seen ns) := by
  have hangle : ∀ c, .plain c ∈ piecesOf ns → '<' ∉ escapeChar c := by
    intro c _
    have hno := not_mem_escape (x := '<') (by simp) [c]
    rwa [escape, List.flatMap_singleton] at hno
  have hordinary : AreOrdinary (highlighted ns) :=
    Node.areOrdinary_regroup areOrdinary_markedNodes h
  rw [keepsFormulas_escapeChar.mark_writeBy h hangle, parse_escaped hordinary]
  rfl

/-! ## What is seen of a text -/

/-- Pieces gathered into stretches of text: each formula behind the stretch before it, and the
stretch behind the last one. -/
structure Stretches where
  parts : List (Text × Text)
  last : Text
deriving DecidableEq

namespace Stretches

/-- Gathers pieces from the last one on. -/
def gather : List (Piece Text) → Stretches
  | [] => ⟨[], []⟩
  | .plain c :: ps =>
    match gather ps with
    | ⟨[], last⟩ => ⟨[], c :: last⟩
    | ⟨(t, f) :: parts, last⟩ => ⟨(c :: t, f) :: parts, last⟩
  | .found f :: ps => ⟨([], f) :: (gather ps).parts, (gather ps).last⟩

/-- A text cut at its formulas. -/
def ofText (t : Text) : Stretches := gather (Dice.mentionPieces t)

/-- The pieces that were gathered. -/
def pieces (s : Stretches) : List (Piece Text) :=
  (s.parts.flatMap fun p => p.1.map .plain ++ [.found p.2]) ++ s.last.map .plain

/-- The text that was cut. -/
def text (s : Stretches) : Text := (s.parts.flatMap fun p => p.1 ++ p.2) ++ s.last

/-- The stretches without the formulas between them. -/
def texts (s : Stretches) : List Text := s.parts.map Prod.fst ++ [s.last]

/-- The text as it is read: blanks are folded in each stretch on its own. -/
def folded (s : Stretches) : Text :=
  (s.parts.flatMap fun p => foldBlanks p.1 ++ p.2) ++ foldBlanks s.last

/-- The nodes that are seen: texts and spans in turn. -/
def nodes (s : Stretches) : List Node :=
  (s.parts.flatMap fun p => textNodes p.1 ++ [spanNode p.2]) ++ textNodes s.last

variable {s : Stretches} {parts : List (Text × Text)} {last : Text}

theorem pieces_cons (p : Text × Text) : pieces ⟨p :: parts, last⟩
    = p.1.map .plain ++ .found p.2 :: pieces ⟨parts, last⟩ := by
  simp only [pieces, List.flatMap_cons, List.append_assoc, List.cons_append, List.nil_append]

theorem text_cons (p : Text × Text) : text ⟨p :: parts, last⟩
    = p.1 ++ (p.2 ++ text ⟨parts, last⟩) := by
  simp only [text, List.flatMap_cons, List.append_assoc]

theorem folded_cons (p : Text × Text) : folded ⟨p :: parts, last⟩
    = foldBlanks p.1 ++ (p.2 ++ folded ⟨parts, last⟩) := by
  simp only [folded, List.flatMap_cons, List.append_assoc]

theorem nodes_cons (p : Text × Text) : nodes ⟨p :: parts, last⟩
    = textNodes p.1 ++ spanNode p.2 :: nodes ⟨parts, last⟩ := by
  simp only [nodes, List.flatMap_cons, List.append_assoc, List.cons_append, List.nil_append]

theorem pieces_gather (ps : List (Piece Text)) : (gather ps).pieces = ps := by
  induction ps with
  | nil => rfl
  | cons p ps ih =>
      cases p with
      | plain c =>
          rw [gather]
          split <;> rename_i hgather <;> rw [hgather] at ih
          · exact congrArg (Piece.plain c :: ·) ih
          · rw [pieces_cons] at ih ⊢
            exact congrArg (Piece.plain c :: ·) ih
      | found f => rw [gather, pieces_cons, ih, List.map_nil, List.nil_append]

theorem pieces_ofText (t : Text) : (ofText t).pieces = Dice.mentionPieces t := pieces_gather _

theorem found_mem_pieces {p : Text × Text} (hp : p ∈ s.parts) : .found p.2 ∈ s.pieces :=
  List.mem_append_left _ (List.mem_flatMap.mpr ⟨p, hp, List.mem_append_right _ (by simp)⟩)

/-- In a formula nothing is folded, so its span is read with the formula as its text. -/
theorem regroup_spanNode {f : Text} (hf : Dice.IsFormula f) (u : Text) (ns : List Node) :
    regroup textNodes u (spanNode f :: ns)
      = textNodes u ++ spanNode f :: regroup textNodes [] ns := by
  obtain ⟨d, hd, hdie⟩ := hf.die
  have hfold : foldBlanks f = f := by
    refine (Node.foldBlanks_cases f).resolve_right fun h => ?_
    have hletter : d = 'd' ∨ d = 'D' := by simpa [Dice.isDieLetter] using hdie
    have hblank := h.1 d hd
    rcases hletter with rfl | rfl <;> exact absurd hblank (by decide)
  rw [spanNode, regroup, regroup, regroup, List.nil_append, textNodes, textNodes,
    if_neg (List.ne_nil_of_mem hd), hfold]

theorem mem_mentions {t : Text} {p : Text × Text} (hp : p ∈ (ofText t).parts) :
    p.2 ∈ Dice.mentions t :=
  Piece.mem_findings.mpr (pieces_ofText t ▸ found_mem_pieces hp)

theorem regroup_pieces {s : Stretches} (hs : ∀ p ∈ s.parts, Dice.IsFormula p.2) :
    regroup textNodes [] (s.pieces.map pieceNode) = s.nodes := by
  obtain ⟨parts, last⟩ := s
  induction parts with
  | nil =>
      have hplain := regroup_plain [] last []
      rw [List.append_nil, List.map_nil, regroup, List.nil_append] at hplain
      exact hplain
  | cons p parts ih =>
      rw [pieces_cons, regroup_plain, List.nil_append, List.map_cons, pieceNode,
        regroup_spanNode (hs p (List.mem_cons_self ..)), nodes_cons,
        ih fun q hq => hs q (List.mem_cons_of_mem p hq)]

/-- **What is seen of a text**: its stretches, and a span for every formula. -/
theorem seen_eq_nodes (t : Text) : seen [.text t] = (ofText t).nodes := by
  have hformulas : ∀ p ∈ (ofText t).parts, Dice.IsFormula p.2 :=
    fun p hp => Dice.isFormula_of_mem_mentionPieces (Piece.mem_findings.mp (mem_mentions hp))
  rw [← regroup_pieces hformulas, pieces_ofText, seen, merged, highlighted, regroup, regroup,
    List.nil_append, markedNodes]

theorem textOf_nodes (s : Stretches) : Node.textOf s.nodes = s.folded := by
  obtain ⟨parts, last⟩ := s
  induction parts with
  | nil => exact Node.textOf_textNodes last
  | cons p parts ih =>
      rw [nodes_cons, folded_cons, Node.textOf_append, Node.textOf_textNodes, spanNode,
        Node.textOf_element, Node.textOf_text, ih]
      exact congrArg (fun f => foldBlanks p.1 ++ (f ++ _)) (List.append_nil p.2)

/-- Nothing but text and spans is seen. -/
theorem text_or_span_of_mem {n : Node} (h : n ∈ Node.descendantsOf s.nodes) :
    (∃ u, n = .text u) ∨ ∃ p ∈ s.parts, n = spanNode p.2 := by
  obtain ⟨parts, last⟩ := s
  have htexts {t : Text} (h : n ∈ Node.descendantsOf (textNodes t)) : ∃ u, n = .text u := by
    unfold textNodes at h
    split at h
    · exact absurd h (by simp [Node.descendantsOf])
    · exact ⟨_, by simpa [Node.descendantsOf, Node.descendants] using h⟩
  induction parts with
  | nil => exact .inl (htexts h)
  | cons p parts ih =>
      rw [nodes_cons, Node.descendantsOf_append, List.mem_append, spanNode, Node.descendantsOf,
        Node.descendants, List.cons_append, List.mem_cons, List.mem_append] at h
      rcases h with h | h | h | h
      · exact .inl (htexts h)
      · exact .inr ⟨p, List.mem_cons_self .., h⟩
      · exact .inl ⟨_, by simpa [Node.descendantsOf, Node.descendants] using h⟩
      · rcases ih h with htext | ⟨q, hq, hspan⟩
        · exact .inl htext
        · exact .inr ⟨q, List.mem_cons_of_mem p hq, hspan⟩

theorem length_foldBlanks_le (t : Text) : (foldBlanks t).length ≤ t.length := by
  unfold foldBlanks
  split
  · rename_i h
    have hpos := List.length_pos_iff.mpr h.1
    split <;> exact hpos
  · exact le_rfl

theorem length_folded_le (s : Stretches) : s.folded.length ≤ s.text.length := by
  obtain ⟨parts, last⟩ := s
  induction parts with
  | nil => exact length_foldBlanks_le last
  | cons p parts ih =>
      have hfirst := length_foldBlanks_le p.1
      rw [folded_cons, text_cons]
      simp only [List.length_append]
      omega

/-- A text is read as it is just if each stretch is. -/
theorem folded_eq_text_iff (s : Stretches) :
    s.folded = s.text ↔ ∀ t ∈ s.texts, foldBlanks t = t := by
  obtain ⟨parts, last⟩ := s
  induction parts with
  | nil => exact (List.forall_mem_singleton (p := fun t => foldBlanks t = t)).symm
  | cons p parts ih =>
      have htexts : texts ⟨p :: parts, last⟩ = p.1 :: texts ⟨parts, last⟩ := rfl
      rw [htexts, List.forall_mem_cons, ← ih, folded_cons, text_cons]
      constructor
      · intro h
        -- no stretch gets longer, so if all of them are as long as before, so is each
        have hlength := congrArg List.length h
        have hfirst := length_foldBlanks_le p.1
        have hrest := length_folded_le ⟨parts, last⟩
        simp only [List.length_append] at hlength
        obtain ⟨hstretch, hbehind⟩ := List.append_inj h (by omega)
        exact ⟨hstretch, List.append_cancel_left hbehind⟩
      · rintro ⟨hfirst, hrest⟩
        rw [hfirst, hrest]

theorem render_pieces (s : Stretches) : Piece.render id s.pieces = s.text := by
  obtain ⟨parts, last⟩ := s
  induction parts with
  | nil => exact Piece.render_plain id last
  | cons p parts ih =>
      rw [pieces_cons, text_cons, Piece.render_append, Piece.render_plain, ← ih]
      rfl

theorem text_ofText (t : Text) : (ofText t).text = t := by
  rw [← render_pieces, pieces_ofText, Dice.render_mentionPieces]

end Stretches

end Gamebook.DiceSpan

namespace Gamebook.Reference

open DiceSpan (Stretches)
open Html (Node parse)

/-- A link as it is read, with its contents. -/
def linkNode (term : Text) (contents : List Node) : Node :=
  .element "span".toList [("class".toList, "wiki-link".toList), ("data-term".toList, term)] contents

theorem isOrdinary_linkNode (term : Text) : Html.IsOrdinary "span".toList
    [("class".toList, "wiki-link".toList), ("data-term".toList, term)] :=
  Html.isOrdinary_of_names ["class".toList, "data-term".toList] rfl (by decide)

/-- A link is written escaped. -/
theorem link_eq_write (term : Text) :
    link term = Html.writeBy Html.escapeChar (Html.piecesOf [linkNode term [.text term]]) := by
  have hclass : Html.escape "wiki-link".toList = "wiki-link".toList := by decide
  have hstart : (Html.Tag.start "span".toList
      [("class".toList, "wiki-link".toList), ("data-term".toList, term)]).write
      = "<span class=\"wiki-link\" data-term=\"".toList ++ (Html.escape term ++ "\">".toList) := by
    rw [Html.Tag.write, Html.writeAttributes_cons, Html.writeAttributes_cons, hclass]
    rfl
  have hstop : (Html.Tag.stop "span".toList).write = "</span>".toList := by decide
  have hassoc (a b c : Text) : a ++ Html.escape term ++ b ++ Html.escape term ++ c
      = (a ++ (Html.escape term ++ b)) ++ (Html.escape term ++ (c ++ [])) := by
    simp only [List.append_assoc, List.append_nil]
  rw [linkNode, Html.piecesOf, Html.piecesOf, Html.piecesOf, Html.piecesOf, List.append_nil,
    Html.writeBy_found, Html.writeBy_append, Html.writeBy_plain, Html.writeBy_found, hstart, hstop]
  exact hassoc _ _ _

/-- What a reader finds of a link after the highlighting. -/
theorem parse_mark_link (term : Text) :
    parse (DiceSpan.mark (link term)) = .ok [linkNode term (DiceSpan.seen [.text term])] := by
  have hordinary : Html.AreOrdinary [linkNode term [.text term]] := by
    rw [linkNode, Html.AreOrdinary, Html.AreOrdinary, Html.AreOrdinary, Html.AreOrdinary]
    exact ⟨isOrdinary_linkNode term, trivial, trivial⟩
  have hnone : DiceSpan.markedNodes [] = [] := rfl
  rw [link_eq_write, DiceSpan.parse_mark_escaped hordinary]
  simp only [linkNode, DiceSpan.seen, Html.merged, DiceSpan.highlighted, Html.regroup, hnone,
    List.nil_append, Html.textNodes, if_true]

theorem materialize_placeholder (k : Nat) (terms : List Text) :
    materialize (placeholder k) terms = linkOf terms (Number.writeNat k) := by
  have hfind : recognisePlaceholder none (placeholder k)
      = some (Number.writeNat k, (placeholder k).length) :=
    recognisePlaceholder_eq_some.mpr ⟨isDigits_writeNat k, rfl, [], (List.append_nil _).symm⟩
  rw [materialize, Text.scan_whole (placeholder_ne_nil k) hfind, materializePieces]
  cases linkOf terms (Number.writeNat k) with
  | error e => rfl
  | ok l => exact congrArg Except.ok (List.append_nil l)

/--
**What a link carries**, whatever characters its term has.

After the highlighting the link is read as one element. Its attribute is the term, and inside are
the stretches of the term between its formulas, as text, and for every formula a span that carries
it; there is nothing else. A stretch of nothing but blanks of ASCII is folded into a single one. So
the full text is the term with these stretches folded, and it is the term itself just if each of
them is a single blank already. Only the number of a placeholder may be too long to be read.
-/
theorem parse_mark_materialize {terms : List Text} {k : Nat} {term : Text}
    (hterm : terms[k]? = some term) :
    (Stretches.ofText term).pieces = Dice.mentionPieces term
      ∧ Node.textOf (Stretches.ofText term).nodes = (Stretches.ofText term).folded
      ∧ ((Stretches.ofText term).folded = term
        ↔ ∀ t ∈ (Stretches.ofText term).texts, Html.foldBlanks t = t)
      ∧ (∀ n ∈ Node.descendantsOf (Stretches.ofText term).nodes,
        (∃ t, n = .text t) ∨ ∃ f ∈ Dice.mentions term, n = DiceSpan.spanNode f)
      ∧ if (Number.writeNat k).length ≤ digitLimit then
          ∃ html, materialize (placeholder k) terms = .ok html
            ∧ parse (DiceSpan.mark html) = .ok [linkNode term (Stretches.ofText term).nodes]
        else
          materialize (placeholder k) terms
            = .error (.tooLongToRead (Number.writeNat k).length) := by
  have hfolded := (Stretches.ofText term).folded_eq_text_iff
  rw [Stretches.text_ofText] at hfolded
  refine ⟨Stretches.pieces_ofText term, Stretches.textOf_nodes _, hfolded, fun n hn => ?_, ?_⟩
  · rcases Stretches.text_or_span_of_mem hn with htext | ⟨p, hp, hspan⟩
    · exact .inl htext
    · exact .inr ⟨p.2, Stretches.mem_mentions hp, hspan⟩
  · rw [materialize_placeholder]
    split
    · rename_i hk
      refine ⟨link term, linkOf_writeNat ((Number.length_writeNat_le_iff k).mp hk) hterm, ?_⟩
      rw [parse_mark_link, Stretches.seen_eq_nodes]
    · rename_i hk
      rw [linkOf, Number.read_eq_error_iff.mpr ⟨not_le.mp hk, rfl⟩]
      rfl

/-- A term of a tag, a reference, quotes, a brace and a formula. -/
def oddTerm : Text := "<b>\"2d6'&lt;\x7b ".toList

theorem parse_mark_materialize_oddTerm :
    [([] : Text), oddTerm][1]? = some oddTerm
      ∧ ∃ html, materialize (placeholder 1) [[], oddTerm] = .ok html
        ∧ parse (DiceSpan.mark html) = .ok [linkNode oddTerm
            [.text "<b>\"".toList, DiceSpan.spanNode "2d6".toList, .text "'&lt;\x7b ".toList]] := by
  have hterm : [([] : Text), oddTerm][1]? = some oddTerm := rfl
  obtain ⟨-, -, -, -, hread⟩ := parse_mark_materialize hterm
  have hcut : Stretches.ofText oddTerm
      = ⟨[("<b>\"".toList, "2d6".toList)], "'&lt;\x7b ".toList⟩ := by decide
  rw [if_pos (by decide), hcut] at hread
  exact ⟨hterm, hread⟩

/-- **Blanks between two formulas are lost**: the text of the link is not the term. -/
theorem parse_mark_materialize_twoBlanks :
    ∃ html contents,
      materialize (placeholder 0) ["2d6  3d6".toList] = .ok html
        ∧ parse (DiceSpan.mark html) = .ok [linkNode "2d6  3d6".toList contents]
        ∧ Node.textOf contents = "2d6 3d6".toList
        ∧ Node.textOf contents ≠ "2d6  3d6".toList := by
  have hlink := (materialize_placeholder 0 ["2d6  3d6".toList]).trans
    (linkOf_writeNat (Nat.pow_pos (by decide)) rfl)
  have hcut : Stretches.ofText "2d6  3d6".toList
      = ⟨[([], "2d6".toList), ("  ".toList, "3d6".toList)], []⟩ := by decide
  have hread := parse_mark_link "2d6  3d6".toList
  rw [Stretches.seen_eq_nodes, hcut] at hread
  have htext : Node.textOf (Stretches.nodes
      ⟨[([], "2d6".toList), ("  ".toList, "3d6".toList)], []⟩) = "2d6 3d6".toList := by
    rw [Stretches.textOf_nodes]
    decide
  exact ⟨_, _, hlink, hread, htext, by rw [htext]; decide⟩

end Gamebook.Reference
