import Gamebook.Annotation.DiceSpan
import Gamebook.Proofs.Dice.Mention
import Gamebook.Proofs.Html.Query

/-!
# Highlighting a written forest

`DiceSpan.mark` works on text: it cuts a fragment at everything that looks like a tag
and puts spans around the formulas in between. On the text of a written forest the cuts
are exactly the tags, since a written tag has no closing bracket inside, so the marked
text is again the text of a forest: `highlighted`, the one with each stretch of text
written out as text and span elements.

Together with `parse_write_piecesOf` this says what a reader finds after highlighting.
It is `seen`, and elements other than spans are `seen` where they were written.
-/

namespace Gamebook.DiceSpan

open Html
open Text (Piece scan)

/-- The element of a formula. -/
def spanNode (f : Text) : Node :=
  .element "span".toList [("class".toList, "dice-roll".toList), ("data-formula".toList, f)]
    [.text f]

/-- The node that is shown for a piece of a text. -/
def pieceNode : Piece Text → Node
  | .plain c => .text [c]
  | .found f => spanNode f

/-- A stretch of text with an element for each formula. -/
def markedNodes (t : Text) : List Node := (Dice.mentionPieces t).map pieceNode

/-- A forest with its formulas in elements of their own. -/
def highlighted (ns : List Node) : List Node := regroup markedNodes [] ns

/-- What a reader finds of a forest that is written and highlighted. -/
def seen (ns : List Node) : List Node := merged (highlighted ns)

/-! ## Formulas are written as they are -/

theorem escapeChar_of_isFormulaChar {c : Char} (h : Dice.isFormulaChar c = true) :
    escapeChar c = [c] :=
  Html.escapeChar_eq_self (by decide) h

/-- A span is a written tag, its formula and the tag that ends it. -/
theorem span_eq_write {f : Text} (h : Dice.IsFormula f) :
    span f = (Tag.start "span".toList
        [("class".toList, "dice-roll".toList), ("data-formula".toList, f)]).write
      ++ (f ++ (Tag.stop "span".toList).write) := by
  have hescape : escape f = f :=
    escape_eq_self fun c hc => escapeChar_of_isFormulaChar (h.chars c hc)
  have hclass : escape "dice-roll".toList = "dice-roll".toList := by decide
  have hstart : (Tag.start "span".toList
      [("class".toList, "dice-roll".toList), ("data-formula".toList, f)]).write
      = "<span class=\"dice-roll\" data-formula=\"".toList ++ (f ++ "\">".toList) := by
    rw [Tag.write, writeAttributes_cons, writeAttributes_cons, hescape, hclass]
    rfl
  have hstop : (Tag.stop "span".toList).write = "</span>".toList := by decide
  have hassoc (a b c : Text) : a ++ f ++ b ++ f ++ c = (a ++ (f ++ b)) ++ (f ++ c) := by
    simp only [List.append_assoc]
  rw [hstart, hstop]
  exact hassoc _ _ _

/-! ## Writing characters -/

/-- A piece of a text with its characters written by `w`. -/
def pieceBy (w : Char → Text) : Piece Text → List (Piece Text)
  | .plain c => (w c).map .plain
  | .found f => [.found f]

/-- A way to write characters by which a text keeps its formulas: they are written as they are, and
the others stay no formulas. -/
structure KeepsFormulas (w : Char → Text) : Prop where
  formula : ∀ c, Dice.isFormulaChar c = true → w c = [c]
  mentions : ∀ t, Dice.mentionPieces (t.flatMap w) = (Dice.mentionPieces t).flatMap (pieceBy w)

theorem flatMap_pieceBy_self {w : Char → Text} {ps : List (Piece Text)}
    (hw : ∀ c, .plain c ∈ ps → w c = [c]) : ps.flatMap (pieceBy w) = ps := by
  induction ps with
  | nil => rfl
  | cons p ps ih =>
      rw [List.flatMap_cons, ih fun c hc => hw c (List.mem_cons_of_mem p hc)]
      cases p with
      | plain c =>
          rw [pieceBy, hw c (List.mem_cons_self ..)]
          rfl
      | found f => rfl

theorem keepsFormulas_single : KeepsFormulas fun c => [c] where
  formula _ _ := rfl
  mentions t := by rw [flatMap_pieceBy_self fun _ _ => rfl, List.flatMap_singleton']

variable {w : Char → Text}

theorem KeepsFormulas.flatMap_formula (hw : KeepsFormulas w) {f : Text} (hf : Dice.IsFormula f) :
    f.flatMap w = f := by
  conv_rhs => rw [← List.flatMap_singleton' f]
  exact List.flatMap_congr fun c hc => hw.formula c (hf.chars c hc)

theorem KeepsFormulas.writeBy_spanNode (hw : KeepsFormulas w) {f : Text} (hf : Dice.IsFormula f) :
    writeBy w (piecesOf [spanNode f]) = span f := by
  have hnil : writeBy w [] = [] := rfl
  rw [span_eq_write hf, spanNode, piecesOf, piecesOf, piecesOf, piecesOf, List.append_nil,
    writeBy_found, writeBy_append, writeBy_plain, hw.flatMap_formula hf, writeBy_found, hnil,
    List.append_nil]

theorem write_spanNode {f : Text} (hf : Dice.IsFormula f) :
    write (piecesOf [spanNode f]) = span f := by
  rw [write_eq_writeBy, keepsFormulas_single.writeBy_spanNode hf]

/-- The pieces of a text, written as elements, are its marked form. -/
theorem KeepsFormulas.markText_flatMap (hw : KeepsFormulas w) (t : Text) :
    markText (t.flatMap w) = writeBy w (piecesOf (markedNodes t)) := by
  have hformulas : ∀ f, .found f ∈ Dice.mentionPieces t → Dice.IsFormula f :=
    fun f hf => Dice.isFormula_of_mem_mentionPieces hf
  rw [markText, hw.mentions, markedNodes]
  generalize Dice.mentionPieces t = ps at hformulas
  induction ps with
  | nil =>
      rw [List.map_nil, piecesOf]
      rfl
  | cons p ps ih =>
      have hps := ih fun f hf => hformulas f (List.mem_cons_of_mem p hf)
      have hcons : piecesOf ((p :: ps).map pieceNode)
          = piecesOf [pieceNode p] ++ piecesOf (ps.map pieceNode) := by
        rw [List.map_cons, ← piecesOf_append, List.singleton_append]
      rw [hcons, writeBy_append, List.flatMap_cons, Piece.render_append, hps]
      cases p with
      | plain c =>
          rw [pieceBy, Piece.render_plain, pieceNode, piecesOf, piecesOf, List.append_nil,
            writeBy_plain]
          exact congrArg (· ++ _) (List.append_nil (w c)).symm
      | found f =>
          rw [pieceNode, hw.writeBy_spanNode (hformulas f (List.mem_cons_self ..))]
          exact congrArg (· ++ _) (List.append_nil (span f))

/-! ## What is highlighted -/

/-- A rendered text cut at its formulas; `pending` is the text since the last tag, backwards. -/
def formulaPiecesFrom (pending : Text) : List (Piece Text) → List (Piece Text)
  | [] => Dice.mentionPieces pending.reverse
  | .plain c :: ps => formulaPiecesFrom (c :: pending) ps
  | .found tag :: ps =>
    Dice.mentionPieces pending.reverse ++ (tag.map .plain ++ formulaPiecesFrom [] ps)

/-- A rendered text cut at the formulas between its tags. -/
def formulaPieces (rendered : Text) : List (Piece Text) :=
  formulaPiecesFrom [] (scan tag rendered)

theorem tag_eq_some {b : Option Char} {t tag : Text} {n : Nat}
    (h : DiceSpan.tag b t = some (tag, n)) : n ≠ 0 ∧ t.take n = tag := by
  unfold DiceSpan.tag at h
  split at h
  · rename_i rest
    split at h
    · rename_i inner d after hspan
      obtain ⟨hrest, -⟩ := Text.eq_append_of_span hspan
      have hstop : d = '>' := by
        have hdrop := List.head?_dropWhile_not isNoTagEnd rest
        rw [List.span_eq_takeWhile_dropWhile, Prod.mk.injEq] at hspan
        rw [hspan.2] at hdrop
        simpa [isNoTagEnd] using hdrop
      injection h with h
      injection h with h1 h2
      subst h1 h2 hstop
      refine ⟨by omega, ?_⟩
      rw [hrest, show '<' :: (inner ++ '>' :: after) = ('<' :: (inner ++ ['>'])) ++ after by simp]
      exact List.take_left' (by simp)
    · exact absurd h (by simp)
  · exact absurd h (by simp)

/-- **The highlighting puts the formulas of a text into spans and leaves the rest.** -/
theorem mark_eq_render (rendered : Text) :
    mark rendered = Piece.render span (formulaPieces rendered) := by
  have hfrom (pending : Text) (ps : List (Piece Text)) :
      markFrom pending ps = Piece.render span (formulaPiecesFrom pending ps) := by
    induction ps generalizing pending with
    | nil => rfl
    | cons p ps ih =>
        cases p with
        | plain c => exact ih (c :: pending)
        | found tag =>
            rw [markFrom, formulaPiecesFrom, ih, Piece.render_append, Piece.render_append,
              Piece.render_plain, List.append_assoc]
            rfl
  exact hfrom [] (scan tag rendered)

theorem render_formulaPieces (rendered : Text) :
    Piece.render id (formulaPieces rendered) = rendered := by
  have hfrom (pending : Text) (ps : List (Piece Text)) :
      Piece.render id (formulaPiecesFrom pending ps)
        = pending.reverse ++ Piece.render id ps := by
    induction ps generalizing pending with
    | nil =>
        rw [formulaPiecesFrom, Dice.render_mentionPieces]
        exact (List.append_nil _).symm
    | cons p ps ih =>
        cases p with
        | plain c =>
            rw [formulaPiecesFrom, ih, List.reverse_cons, List.append_assoc]
            rfl
        | found tag =>
            rw [formulaPiecesFrom, Piece.render_append, Dice.render_mentionPieces,
              Piece.render_append, Piece.render_plain, ih]
            rfl
  have hscan : Piece.render id (scan tag rendered) = rendered :=
    Text.render_scanFrom (fun _ _ _ _ h => tag_eq_some h) none 0 rendered
  rw [formulaPieces, hfrom, hscan]
  rfl

theorem mention_of_mem_formulaPieces {rendered f : Text} (h : .found f ∈ formulaPieces rendered) :
    ∃ t, f ∈ Dice.mentions t := by
  have hfrom (pending : Text) (ps : List (Piece Text))
      (h : .found f ∈ formulaPiecesFrom pending ps) : ∃ t, f ∈ Dice.mentions t := by
    induction ps generalizing pending with
    | nil => exact ⟨pending.reverse, Piece.mem_findings.mpr h⟩
    | cons p ps ih =>
        cases p with
        | plain c => exact ih (c :: pending) h
        | found tag =>
            rw [formulaPiecesFrom, List.mem_append, List.mem_append] at h
            rcases h with h | h | h
            · exact ⟨pending.reverse, Piece.mem_findings.mpr h⟩
            · exact absurd h (by simp)
            · exact ih [] h
  exact hfrom [] (scan tag rendered) h

/-! ## The cuts are the tags -/

/-- A piece of a fragment as the highlighting cuts it. -/
def cutBy (w : Char → Text) : Piece Tag → List (Piece Text)
  | .plain c => (w c).map .plain
  | .found tag => [.found tag.write]

theorem forgets_tag : Text.Forgets tag := fun _ _ => rfl

theorem tag_of_ne {c : Char} (h : c ≠ '<') (t : Text) : tag none (c :: t) = none := by
  unfold tag
  split
  · rename_i heq
    exact absurd (List.cons.inj heq).1 h
  · rfl

theorem isNoTagEnd_of_mem {c : Char} {body : Text} (h : '>' ∉ body) (hc : c ∈ body) :
    isNoTagEnd c = true := by
  rw [isNoTagEnd, bne_iff_ne]
  rintro rfl
  exact h hc

/-- A tag ends at the first closing bracket. -/
theorem tag_closed {body : Text} (h : '>' ∉ body) (rest : Text) :
    tag none ('<' :: (body ++ '>' :: rest)) = some ('<' :: (body ++ ['>']), body.length + 2) := by
  have hspan : (body ++ ('>' :: rest)).span isNoTagEnd = (body, '>' :: rest) :=
    Text.span_append (fun _ hc => isNoTagEnd_of_mem h hc) (by simp [isNoTagEnd])
  rw [tag, hspan]
  rfl

/-- A written tag has one closing bracket, at its end. -/
theorem tag_write {t : Tag} (h : t.IsOrdinary) (rest : Text) :
    tag none (t.write ++ rest) = some (t.write, t.write.length) := by
  have hname {name : Text} (h : isName name = true) : '>' ∉ name := by
    intro hm
    exact absurd (mem_nameLetters h _ hm) (by decide)
  have hbody : ∃ body, t.write = '<' :: (body ++ ['>']) ∧ '>' ∉ body := by
    cases t with
    | start name as =>
        refine ⟨name ++ as.flatMap writeAttribute, ?_, ?_⟩
        · rw [Tag.write, writeAttributes, List.append_assoc]
        · intro hm
          rcases List.mem_append.mp hm with hm | hm
          · exact hname h.named hm
          · obtain ⟨a, ha, hm⟩ := List.mem_flatMap.mp hm
            have hkey := hname (h.areNamed a ha)
            have hvalue : '>' ∉ escape a.2 := not_mem_escape (by decide) a.2
            simp [writeAttribute, hkey, hvalue] at hm
    | stop name =>
        refine ⟨'/' :: name, rfl, ?_⟩
        have hclosing := hname h
        simp [hclosing]
  obtain ⟨body, hwrite, hnone⟩ := hbody
  have hshape : t.write ++ rest = '<' :: (body ++ '>' :: rest) := by
    rw [hwrite, List.cons_append, List.append_assoc, List.singleton_append]
  rw [hshape, tag_closed hnone, hwrite]
  simp

/-- The highlighting cuts a written fragment at its tags. -/
theorem scan_tag_writeBy {ps : List (Piece Tag)} (hplain : ∀ c, .plain c ∈ ps → '<' ∉ w c)
    (htags : ∀ tag, .found tag ∈ ps → tag.IsOrdinary) :
    scan tag (writeBy w ps) = ps.flatMap (cutBy w) := by
  induction ps with
  | nil => rfl
  | cons p ps ih =>
      have htail := ih (fun c hc => hplain c (List.mem_cons_of_mem p hc))
        fun tag htag => htags tag (List.mem_cons_of_mem p htag)
      cases p with
      | plain c =>
          have hangle := hplain c (List.mem_cons_self ..)
          show scan tag (w c ++ writeBy w ps) = _
          rw [Text.scan_passed_all forgets_tag _ fun d hd => tag_of_ne fun he => hangle (he ▸ hd),
            htail]
          rfl
      | found t =>
          have hne : t.write ≠ [] := by cases t <;> exact List.cons_ne_nil _ _
          show scan tag (t.write ++ writeBy w ps) = _
          have htag := tag_write (htags t (List.mem_cons_self ..)) (writeBy w ps)
          rw [Text.scan_found forgets_tag hne htag, htail]
          rfl

/-! ## The marked text is a written forest -/

theorem markFrom_plain (pending t : Text) (ps : List (Piece Text)) :
    markFrom pending (t.map .plain ++ ps) = markFrom (t.reverse ++ pending) ps := by
  induction t generalizing pending with
  | nil => rfl
  | cons c t ih =>
      rw [List.map_cons, List.cons_append, markFrom, ih, List.reverse_cons, List.append_assoc]
      rfl

/-- No formula reaches across a tag. -/
theorem markFrom_append_found (pending tag : Text) (ps qs : List (Piece Text)) :
    markFrom pending (ps ++ .found tag :: qs) = markFrom pending ps ++ (tag ++ markFrom [] qs) := by
  induction ps generalizing pending with
  | nil => rw [List.nil_append, markFrom, markFrom, List.append_assoc]
  | cons p ps ih =>
      cases p with
      | plain c => rw [List.cons_append, markFrom, markFrom, ih]
      | found t =>
          rw [List.cons_append, markFrom, markFrom, ih]
          simp only [List.append_assoc]

theorem KeepsFormulas.markFrom_piecesOf (hw : KeepsFormulas w) (u : Text) (ns : List Node) :
    markFrom (u.flatMap w).reverse ((piecesOf ns).flatMap (cutBy w))
      = writeBy w (piecesOf (regroup markedNodes u ns)) := by
  induction ns using Node.forest_induction generalizing u with
  | nil =>
      rw [piecesOf, List.flatMap_nil, markFrom, List.reverse_reverse, regroup, hw.markText_flatMap]
  | text t ns ih =>
      have hplain : (t.map .plain).flatMap (cutBy w) = (t.flatMap w).map .plain := by
        rw [List.flatMap_map, List.map_flatMap]
        rfl
      rw [piecesOf, List.flatMap_append, hplain, markFrom_plain, ← List.reverse_append,
        ← List.flatMap_append, ih, regroup]
  | element name as cs ns ihcs ihns =>
      -- both tags cut the text, so the contents and the rest are marked on their own
      have hcs := ihcs []
      have hns := ihns []
      rw [List.flatMap_nil, List.reverse_nil] at hcs hns
      rw [piecesOf, List.flatMap_cons, cutBy, List.singleton_append, markFrom,
        List.reverse_reverse, List.flatMap_append, List.flatMap_cons, cutBy,
        List.singleton_append, markFrom_append_found, hcs, hns, regroup, piecesOf_append,
        writeBy_append, hw.markText_flatMap, piecesOf, List.append_assoc]
      rw [writeBy_found, writeBy_append, writeBy_found]

/-- **The highlighting of a written forest is written from the highlighted forest.** -/
theorem KeepsFormulas.mark_writeBy (hw : KeepsFormulas w) {ns : List Node} (h : AreOrdinary ns)
    (hplain : ∀ c, .plain c ∈ piecesOf ns → '<' ∉ w c) :
    mark (writeBy w (piecesOf ns)) = writeBy w (piecesOf (highlighted ns)) := by
  rw [mark, scan_tag_writeBy hplain fun _ htag => isOrdinary_of_mem_piecesOf h htag]
  exact hw.markFrom_piecesOf [] ns

theorem mark_write {ns : List Node} (h : AreReadable ns) :
    mark (write (piecesOf ns)) = write (piecesOf (highlighted ns)) := by
  rw [write_eq_writeBy, write_eq_writeBy]
  refine keepsFormulas_single.mark_writeBy h.areOrdinary fun c hc hm => ?_
  rw [← List.mem_singleton.mp hm] at hc
  exact absurd (isPlain_of_mem_piecesOf h hc) (by decide)

theorem isOrdinary_spanNode (f : Text) :
    IsOrdinary "span".toList [("class".toList, "dice-roll".toList), ("data-formula".toList, f)] :=
  isOrdinary_of_names ["class".toList, "data-formula".toList] rfl (by decide)

theorem areReadable_markedNodes {t : Text} (ht : IsPlainText t) : AreReadable (markedNodes t) := by
  have hchars : ∀ c ∈ Piece.render id (Dice.mentionPieces t), isPlain c = true := by
    rw [Dice.render_mentionPieces]
    exact ht
  rw [markedNodes]
  generalize Dice.mentionPieces t = ps at hchars
  induction ps with
  | nil =>
      rw [List.map_nil, AreReadable]
      trivial
  | cons p ps ih =>
      have hps := ih fun c hc => hchars c (List.mem_append_right _ hc)
      cases p with
      | plain c =>
          rw [List.map_cons, pieceNode, AreReadable]
          refine ⟨fun x hx => hchars x (List.mem_append_left _ hx), hps⟩
      | found f =>
          rw [List.map_cons, pieceNode, spanNode, AreReadable, AreReadable, AreReadable]
          have hf : IsPlainText f := fun x hx => hchars x (List.mem_append_left _ hx)
          exact ⟨isOrdinary_spanNode f, ⟨hf, trivial⟩, hps⟩

theorem areReadable_highlighted {ns : List Node} (h : AreReadable ns) :
    AreReadable (highlighted ns) :=
  Node.areReadable_regroup (fun _ ht => areReadable_markedNodes ht) (by simp [IsPlainText]) h

/-- **What a reader finds of a written forest after the highlighting.** -/
theorem parse_mark_write {ns : List Node} (h : AreReadable ns) :
    parse (mark (write (piecesOf ns))) = .ok (seen ns) := by
  rw [mark_write h, parse_write_piecesOf (areReadable_highlighted h)]
  rfl

/-! ## What is seen -/

theorem namedIn_markedNodes {names : List Text} (h : "span".toList ∉ names) (t : Text) :
    Node.namedIn names (markedNodes t) = [] := by
  have hspan : names.contains "span".toList = false := by simpa using h
  rw [markedNodes]
  induction Dice.mentionPieces t with
  | nil => exact Node.namedIn_nil names
  | cons p ps ih =>
      rw [List.map_cons]
      cases p with
      | plain c => rw [pieceNode, Node.namedIn_text, ih]
      | found f =>
          rw [pieceNode, spanNode, Node.namedIn_element, hspan, ih, Node.namedIn_text,
            Node.namedIn_nil]
          rfl

theorem textOf_markedNodes (t : Text) : Node.textOf (markedNodes t) = t := by
  conv_rhs => rw [← Dice.render_mentionPieces t]
  rw [markedNodes]
  induction Dice.mentionPieces t with
  | nil => rfl
  | cons p ps ih =>
      rw [List.map_cons]
      cases p with
      | plain c =>
          rw [pieceNode, Node.textOf_text, ih]
          rfl
      | found f =>
          rw [pieceNode, spanNode, Node.textOf_element, ih, Node.textOf_text]
          show f ++ [] ++ _ = _
          rw [List.append_nil]
          rfl

/-- **Elements other than spans are seen where they were written.** -/
theorem namedIn_seen {names : List Text} (h : "span".toList ∉ names) (ns : List Node) :
    Node.namedIn names (seen ns) = (Node.namedIn names ns).map (Node.mapContents seen) := by
  rw [seen, merged, Node.namedIn_regroup (Node.namedIn_textNodes names), highlighted,
    Node.namedIn_regroup (namedIn_markedNodes h), List.map_map]
  congr 1
  funext n
  cases n <;> rfl

/-- All characters are seen, blanks apart. -/
theorem mem_textOf_seen {c : Char} {ns : List Node} (hblank : Text.isBlank c = false)
    (h : c ∈ Node.textOf ns) : c ∈ Node.textOf (seen ns) := by
  refine Node.mem_textOf_regroup (fun t ht => ?_) ?_
  · rw [Node.textOf_textNodes]
    exact Node.mem_foldBlanks hblank ht
  · exact Node.mem_textOf_regroup (fun t ht => by rwa [textOf_markedNodes]) h

/-- Marked characters are single, and reading them puts them together again. -/
theorem regroup_plain (u t : Text) (ps : List (Piece Text)) :
    regroup textNodes u ((t.map Piece.plain ++ ps).map pieceNode)
      = regroup textNodes (u ++ t) (ps.map pieceNode) := by
  induction t generalizing u with
  | nil => rw [List.append_nil]; rfl
  | cons c t ih =>
      rw [List.map_cons, List.cons_append, List.map_cons, pieceNode, regroup, ih, List.append_assoc,
        List.singleton_append]

/-- A text without a die letter is seen as a text. -/
theorem seen_text {t : Text} (h : ∀ c ∈ t, Dice.isDieLetter c = false) :
    seen [.text t] = textNodes t := by
  have hplain := regroup_plain [] t []
  rw [List.append_nil, List.map_nil, regroup, List.nil_append] at hplain
  rw [seen, merged, highlighted, regroup, regroup, List.nil_append, markedNodes,
    Dice.mentionPieces_of_no_die h, hplain]

end Gamebook.DiceSpan
