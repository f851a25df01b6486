import Gamebook.Proofs.Annotation.DiceSpan
import Gamebook.Proofs.Annotation.TableRegion
import Gamebook.Proofs.Number.Decimal
import Gamebook.Proofs.Table.Rendered

/-!
# From a rendered document to its containers

`TableRegion.materialize` turns each marked table of a rendered document into a container.
What it writes is again the text of a forest, `Document.nodes`: the texts of the document
as they were, and for every table a container element with the button and the wrapper in
it, whose attributes hold the identifier unescaped.

The blanks between the marks and the table are trimmed. They are the only characters that
the containers do not keep.
-/

namespace Gamebook.Rendered

open Html (Node IsPlainText AreReadable piecesOf write write_nil write_text escape Tag)
open TableRegion (Region recognise take? opening openingEnd closing paragraph paragraphEnd
  dropOptional container tableId)
open Text (Piece scan)

/-! ## A container as a node -/

/-- The button that rolls a table. -/
def buttonNode (id die : Text) : Node :=
  .element "button".toList
    [("class".toList, "roll-table-button".toList), ("data-dice".toList, 'd' :: die),
      ("data-table-id".toList, id)]
    [.text ("Roll Table (d".toList ++ die ++ ")".toList)]

/-- The element around a table that can be rolled on. -/
def wrapperNode (id : Text) (content : List Node) : Node :=
  .element "div".toList [("class".toList, "rollable-table".toList), ("data-table-id".toList, id)]
    (.text ['\n'] :: (content ++ [.text ['\n']]))

/-- The container of a table as it is read: the button and the table. -/
def containerNode (id die : Text) (content : List Node) : Node :=
  .element "div".toList
    [("class".toList, "rollable-table-container".toList), ("data-table-id".toList, id)]
    [.text ['\n'], buttonNode id die, .text ['\n'], wrapperNode id content, .text ['\n']]

theorem write_divStart {name start : Text} (id : Text)
    (hstart : "<div class=\"".toList ++ (escape name ++ "\" data-table-id=\"".toList) = start) :
    (Tag.start "div".toList [("class".toList, name), ("data-table-id".toList, id)]).write
      = start ++ (escape id ++ "\">".toList) := by
  rw [Tag.write, Html.writeAttributes_cons, Html.writeAttributes_cons, ← hstart, List.append_assoc,
    List.append_assoc]
  rfl

theorem write_buttonStart (id : Text) {die : Text} (hdie : escape die = die) :
    (Tag.start "button".toList
      [("class".toList, "roll-table-button".toList), ("data-dice".toList, 'd' :: die),
        ("data-table-id".toList, id)]).write
      = "<button class=\"roll-table-button\" data-dice=\"d".toList
        ++ (die ++ ("\" data-table-id=\"".toList ++ (escape id ++ "\">".toList))) := by
  have hclass : escape "roll-table-button".toList = "roll-table-button".toList := by decide
  have hdice : escape ('d' :: die) = 'd' :: die := by
    show 'd' :: escape die = _
    rw [hdie]
  rw [Tag.write, Html.writeAttributes_cons, Html.writeAttributes_cons, Html.writeAttributes_cons,
    hclass, hdice]
  rfl

/-- **A container is written from its node.** -/
theorem container_eq_write (id : Text) {r : Region} {content : List Node}
    (hdie : escape r.die = r.die) (hcontent : Text.trim r.content = write (piecesOf content))
    (ns : List Node) : container (escape id) r ++ write (piecesOf ns)
      = write (piecesOf (containerNode id r.die content :: ns)) := by
  have houter : "<div class=\"".toList ++ (escape "rollable-table-container".toList
      ++ "\" data-table-id=\"".toList)
      = "<div class=\"rollable-table-container\" data-table-id=\"".toList := by decide
  have hinner : "<div class=\"".toList ++ (escape "rollable-table".toList
      ++ "\" data-table-id=\"".toList)
      = "<div class=\"rollable-table\" data-table-id=\"".toList := by decide
  have hbutton : (Tag.stop "button".toList).write = "</button>".toList := by decide
  have hdiv : (Tag.stop "div".toList).write = "</div>".toList := by decide
  have hstartEnd : "\">\n".toList = "\">".toList ++ ['\n'] := by decide
  have hlabel : "\">Roll Table (d".toList = "\">".toList ++ "Roll Table (d".toList := by decide
  have hlabelEnd : ")</button>\n".toList = ")".toList ++ "</button>".toList ++ ['\n'] := by decide
  have hend : "\n</div>\n</div>".toList
      = ['\n'] ++ "</div>".toList ++ ['\n'] ++ "</div>".toList := by decide
  -- the two sides differ only in how their words are cut and put together
  have hassoc (a e q n c die d t u b g w z rest qn qt ubn zz : Text) (hqn : qn = q ++ n)
      (hqt : qt = q ++ t) (hubn : ubn = u ++ b ++ n) (hzz : zz = n ++ z ++ n ++ z) :
      a ++ e ++ qn ++ c ++ die ++ d ++ e ++ qt ++ die ++ ubn ++ g ++ e ++ qn ++ w ++ zz ++ rest
        = (a ++ (e ++ q)) ++ ((n ++ ((c ++ (die ++ (d ++ (e ++ q))))
          ++ ((t ++ die ++ u) ++ (b ++ (n ++ ((g ++ (e ++ q)) ++ ((n ++ (w ++ n)) ++ (z ++ n))))))))
          ++ (z ++ rest)) := by
    rw [hqn, hqt, hubn, hzz]
    simp only [List.append_assoc]
  rw [containerNode, Html.write_element, write_divStart id houter, write_text, buttonNode,
    Html.write_element, write_buttonStart id hdie, write_text, write_nil, write_text, wrapperNode,
    Html.write_element, write_divStart id hinner, write_text, Html.piecesOf_append,
    Html.write_append, ← hcontent, write_text, write_nil, List.append_nil, List.append_nil, hbutton,
    hdiv]
  exact hassoc _ _ _ _ _ _ _ _ _ _ _ _ _ _ _ _ _ _ hstartEnd hlabel hlabelEnd hend

/-! ## The nodes of a document -/

/-- The identifier of the k-th table, as a reader gets it. -/
def idOf (stem : Text) (k : Nat) : Text := stem ++ '-' :: Number.writeNat k

/-- What the wrapper of a table shows: the table, and what is not trimmed around it. -/
def MarkedTable.shown (t : MarkedTable) : List Node :=
  [.text (Text.trimStart t.beforeTable), t.tableNode, .text (Text.trimEnd t.afterTable)]

/-- The container of a marked table as it is read. -/
def MarkedTable.container (id : Text) (t : MarkedTable) : Node :=
  containerNode id (Number.writeNat t.die) t.shown

/-- The containers of tables, numbered from `k`, and the texts behind them. -/
def containersFrom (stem : Text) (k : Nat) : List (MarkedTable × PlainText) → List Node
  | [] => []
  | (t, after) :: ps => t.container (idOf stem k) :: .text after :: containersFrom stem (k + 1) ps

/-- A document with containers for its tables. -/
def Document.nodes (stem : Text) (d : Document) : List Node :=
  .text d.before :: containersFrom stem 1 d.tables

/-! ## The regions of a document -/

/-- The region that the marks of a table enclose. -/
def MarkedTable.region (t : MarkedTable) : Region :=
  ⟨Number.writeNat t.die, t.beforeTable ++ t.table ++ t.afterTable⟩

/-- **A table between its marks is read as one region.** -/
theorem MarkedTable.take?_html (t : MarkedTable) (rest : Text) :
    take? (t.html ++ rest) = some (t.region, rest) := by
  have hassoc (p o n e q b c a z : Text) :
      (p ++ o) ++ n ++ (e ++ q) ++ b ++ c ++ a ++ (p ++ z ++ q) ++ rest
        = p ++ (o ++ (n ++ (e ++ (q ++ (((b ++ c ++ a) ++ p) ++ (z ++ (q ++ rest))))))) := by
    simp only [List.append_assoc]
  have hshape : t.html ++ rest = paragraph ++ (opening ++ (Number.writeNat t.die ++ (openingEnd
      ++ (paragraphEnd ++ ((t.beforeTable ++ t.table ++ t.afterTable ++ paragraph)
        ++ (closing ++ (paragraphEnd ++ rest))))))) :=
    hassoc paragraph opening (Number.writeNat t.die) openingEnd paragraphEnd t.beforeTable t.table
      t.afterTable closing
  have hbrace : '\x7b' ∉ t.beforeTable ++ t.table ++ t.afterTable ++ paragraph := by
    have hparagraph : '\x7b' ∉ paragraph := by decide
    simp only [List.mem_append, not_or]
    exact ⟨⟨⟨brace_not_mem t.beforeTable, t.brace_not_mem_table⟩, brace_not_mem t.afterTable⟩,
      hparagraph⟩
  -- at each of the four corners of the region a paragraph tag is dropped
  rw [hshape, TableRegion.take?_eq (TableRegion.dropOptional_append _ _)
    (Number.writeNat_ne_nil t.die) (fun c hc => Number.isDigit_of_mem_writeNat hc)
    (TableRegion.dropOptional_append _ _) hbrace, TableRegion.dropOptional_append,
    TableRegion.dropOptionalEnd_append]
  rfl

/-- The texts between the tables are passed over. -/
theorem scan_plain (t : PlainText) (rest : Text) :
    scan recognise (t ++ rest) = t.val.map .plain ++ scan recognise rest :=
  Text.scan_passed_all TableRegion.forgets_recognise rest fun c hc rest => by
    have hc := Html.isPlain_iff.mp (t.property c hc)
    rw [recognise, TableRegion.take?_of_ne hc.2.2.2 hc.1]
    rfl

/-! ## Materializing -/

theorem escape_writeNat (n : Nat) : escape (Number.writeNat n) = Number.writeNat n :=
  Html.escape_eq_self fun _ hc =>
    DiceSpan.escapeChar_of_isFormulaChar
      (Dice.isFormulaChar_of_isDigit (Number.isDigit_of_mem_writeNat hc))

theorem escape_idOf (stem : Text) (k : Nat) : escape (idOf stem k) = tableId stem k := by
  rw [idOf, Html.escape_append]
  show escape stem ++ '-' :: escape (Number.writeNat k) = _
  rw [escape_writeNat, tableId]

/-- What the marks enclose, trimmed, is what the wrapper shows. -/
theorem MarkedTable.trim_region (t : MarkedTable) :
    Text.trim t.region.content = write (piecesOf t.shown) := by
  -- a table begins and ends with a bracket, so nothing of it is trimmed
  obtain ⟨w, hw⟩ : ∃ w, t.table = '<' :: w ++ ['>'] := ⟨_, enclosed_eq _ _⟩
  have hshape : t.region.content = t.beforeTable ++ ('<' :: w ++ '>' :: t.afterTable) := by
    rw [region, hw]
    simp
  rw [hshape, Text.trim_around (by decide) (by decide), shown, write_text, t.write_tableNode,
    write_text, write_nil, hw]
  simp

/-- The k-th region becomes the k-th container. -/
theorem MarkedTable.container_region (stem : Text) (k : Nat) (t : MarkedTable) (ns : List Node) :
    TableRegion.container (tableId stem k) t.region ++ write (piecesOf ns)
      = write (piecesOf (t.container (idOf stem k) :: ns)) := by
  rw [← escape_idOf, container_eq_write _ (escape_writeNat t.die) t.trim_region]
  rfl

theorem renderFrom_scan (stem : Text) (k : Nat) (ps : List (MarkedTable × PlainText)) :
    Piece.renderFrom (fun k r => TableRegion.container (tableId stem k) r) k
        (scan recognise (ps.flatMap fun p => p.1.html ++ p.2))
      = write (piecesOf (containersFrom stem k ps)) := by
  induction ps generalizing k with
  | nil => exact write_nil.symm
  | cons p ps ih =>
      obtain ⟨t, after⟩ := p
      have hne : t.html ≠ [] := List.cons_ne_nil '<' _
      rw [List.flatMap_cons, List.append_assoc,
        TableRegion.scan_region hne (t.take?_html _), scan_plain, Piece.renderFrom,
        Piece.renderFrom_plain, ih, ← write_text, t.container_region, containersFrom]

/-- **A document with its tables in containers is written from its nodes.** -/
theorem Document.materialize_html (stem : Text) (d : Document) :
    TableRegion.materialize d.html stem = write (piecesOf (d.nodes stem)) := by
  rw [TableRegion.materialize, html, scan_plain, Piece.renderFrom_plain, renderFrom_scan, nodes,
    write_text]

/-! ## A document is read back -/

theorem isPlainText_of_subset {s t : Text} (h : s ⊆ t) (ht : IsPlainText t) : IsPlainText s :=
  fun c hc => ht c (h hc)

theorem isPlainText_writeNat (n : Nat) : IsPlainText (Number.writeNat n) := by
  intro c hc
  have hdigit := Number.isDigit_of_mem_writeNat hc
  rw [Html.isPlain_iff]
  refine ⟨?_, ?_, ?_, ?_⟩ <;> rintro rfl <;> exact absurd hdigit (by decide)

theorem MarkedTable.areReadable_shown (t : MarkedTable) : AreReadable t.shown := by
  have hstart : IsPlainText (Text.trimStart t.beforeTable) :=
    isPlainText_of_subset (List.dropWhile_suffix _).subset t.beforeTable.property
  have hend : IsPlainText (Text.trimEnd t.afterTable) := by
    rw [Text.trimEnd, Text.dropEndWhile_eq_rdropWhile]
    exact isPlainText_of_subset (List.rdropWhile_prefix _ _).subset t.afterTable.property
  have htable : AreReadable (t.tableNode :: [.text (Text.trimEnd t.afterTable)]) := by
    rw [← List.singleton_append, Html.areReadable_append]
    refine ⟨t.areReadable_tableNode, ?_⟩
    simp only [AreReadable, and_true]
    exact hend
  rw [shown, AreReadable]
  exact ⟨hstart, htable⟩

theorem isOrdinary_divNode (name id : Text) : Html.IsOrdinary "div".toList
    [("class".toList, name), ("data-table-id".toList, id)] :=
  Html.isOrdinary_of_names ["class".toList, "data-table-id".toList] rfl (by decide)

theorem isOrdinary_buttonNode (die id : Text) : Html.IsOrdinary "button".toList
    [("class".toList, "roll-table-button".toList), ("data-dice".toList, die),
      ("data-table-id".toList, id)] :=
  Html.isOrdinary_of_names ["class".toList, "data-dice".toList, "data-table-id".toList] rfl
    (by decide)

theorem MarkedTable.areReadable_container (id : Text) (t : MarkedTable) :
    AreReadable [t.container id] := by
  have hfeed : IsPlainText ['\n'] := by decide
  have hlabel : IsPlainText ("Roll Table (d".toList ++ Number.writeNat t.die ++ ")".toList) :=
    (IsPlainText.append (by decide) (isPlainText_writeNat t.die)).append (by decide)
  have hcontent : AreReadable (t.shown ++ [.text ['\n']]) := by
    rw [Html.areReadable_append]
    simp only [AreReadable, and_true]
    exact ⟨t.areReadable_shown, hfeed⟩
  simp only [container, containerNode, buttonNode, wrapperNode, AreReadable, and_true]
  exact ⟨isOrdinary_divNode _ id, hfeed, isOrdinary_buttonNode _ id, hlabel, hfeed,
    isOrdinary_divNode _ id, ⟨hfeed, hcontent⟩, hfeed⟩

theorem areReadable_containersFrom (stem : Text) (k : Nat) (ps : List (MarkedTable × PlainText)) :
    AreReadable (containersFrom stem k ps) := by
  induction ps generalizing k with
  | nil => exact Html.areReadable_nil
  | cons p ps ih =>
      obtain ⟨t, after⟩ := p
      have hrest : AreReadable (.text after :: containersFrom stem (k + 1) ps) := by
        rw [AreReadable]
        exact ⟨after.property, ih (k + 1)⟩
      rw [containersFrom, ← List.singleton_append, Html.areReadable_append]
      exact ⟨t.areReadable_container (idOf stem k), hrest⟩

theorem Document.areReadable_nodes (stem : Text) (d : Document) : AreReadable (d.nodes stem) := by
  rw [nodes, AreReadable]
  exact ⟨d.before.property, areReadable_containersFrom stem 1 d.tables⟩

/-- **What a reader finds of a document with its tables in containers and its dice highlighted.** -/
theorem Document.parse_materialize (stem : Text) (d : Document) :
    Html.parse (DiceSpan.mark (TableRegion.materialize d.html stem))
      = .ok (DiceSpan.seen (d.nodes stem)) := by
  rw [d.materialize_html, DiceSpan.parse_mark_write (d.areReadable_nodes stem)]

end Gamebook.Rendered
