import Gamebook.Number.Decimal
import Gamebook.Proofs.Html.Query

/-!
# Rendered tables

The form in which a renderer hands over a document with marked tables: a paragraph with
the opening mark, a table with a head and a body, and a paragraph with the closing mark,
with text in front, in between and behind. Text may also stand between any two tags of
the table, where renderers put their line feeds.

Texts carry the proof that nothing in them can be taken for a tag, a reference or a mark,
so a `Document` is well-formed by construction. Each part is given twice: as the text that
is written, `html`, and as the nodes that this text is written from, `nodes`.
-/

namespace Gamebook.Rendered

open Html (Node IsPlainText AreReadable piecesOf write write_nil write_text write_flatMap)

/-- A text in which nothing can be taken for a tag, a reference or a mark. -/
abbrev PlainText := { t : Text // IsPlainText t }

/-- A text between the tags of an element without attributes. -/
def enclosed (name content : Text) : Text :=
  '<' :: (name ++ '>' :: (content ++ '<' :: '/' :: (name ++ ['>'])))

theorem enclosed_eq (name content : Text) : enclosed name content
    = '<' :: (name ++ '>' :: (content ++ '<' :: '/' :: name)) ++ ['>'] := by
  simp [enclosed]

/-- A cell, and the text up to the next tag. -/
structure Cell where
  text : PlainText
  after : PlainText

/-- A row of a body, and the text up to the next tag. The first cell has the key. -/
structure Row where
  inside : PlainText
  key : Cell
  others : List Cell
  after : PlainText

/-- A marked table. A field whose name begins with `in` is the text right after a start tag, one
whose name begins with `after` the text right after an end tag. -/
structure MarkedTable where
  die : Nat
  beforeTable : PlainText
  inTable : PlainText
  inHead : PlainText
  inHeadRow : PlainText
  heads : List Cell
  afterHeadRow : PlainText
  afterHead : PlainText
  inBody : PlainText
  rows : List Row
  afterBody : PlainText
  afterTable : PlainText

/-- Marked tables, each with the text up to the next one. -/
structure Document where
  before : PlainText
  tables : List (MarkedTable × PlainText)

/-- The texts of the first cells. -/
def MarkedTable.keys (t : MarkedTable) : List Text := t.rows.map fun r => r.key.text.val

/-! ## As text -/

/-- A cell as text, with the name of its element. -/
def Cell.html (name : Text) (c : Cell) : Text := enclosed name c.text ++ c.after

/-- A row as text. -/
def Row.html (r : Row) : Text :=
  enclosed "tr".toList (r.inside ++ (r.key :: r.others).flatMap (Cell.html "td".toList)) ++ r.after

/-- The head of a table as text. -/
def MarkedTable.head (t : MarkedTable) : Text :=
  enclosed "thead".toList (t.inHead ++
    (enclosed "tr".toList (t.inHeadRow ++ t.heads.flatMap (Cell.html "th".toList))
      ++ t.afterHeadRow))

/-- The body of a table as text. -/
def MarkedTable.body (t : MarkedTable) : Text :=
  enclosed "tbody".toList (t.inBody ++ t.rows.flatMap Row.html)

/-- A table as text, without its marks. -/
def MarkedTable.table (t : MarkedTable) : Text :=
  enclosed "table".toList (t.inTable ++ (t.head ++ (t.afterHead ++ (t.body ++ t.afterBody))))

/-- A table between its marks. -/
def MarkedTable.html (t : MarkedTable) : Text :=
  "<p>\x7b\x7bROLLTABLE::d".toList ++ Number.writeNat t.die ++ "\x7d\x7d</p>".toList
    ++ t.beforeTable ++ t.table ++ t.afterTable ++ "<p>\x7b\x7b/ROLLTABLE\x7d\x7d</p>".toList

/-- A document as text. -/
def Document.html (d : Document) : Text :=
  d.before ++ d.tables.flatMap fun p => p.1.html ++ p.2

/-! ## As nodes -/

/-- A cell as nodes. -/
def Cell.nodes (name : Text) (c : Cell) : List Node :=
  [.element name [] [.text c.text], .text c.after]

/-- A row as a node, without the text behind it. -/
def Row.node (r : Row) : Node :=
  .element "tr".toList [] (.text r.inside :: (r.key :: r.others).flatMap (Cell.nodes "td".toList))

/-- A row as nodes. -/
def Row.nodes (r : Row) : List Node := [r.node, .text r.after]

/-- The head of a table as a node. -/
def MarkedTable.headNode (t : MarkedTable) : Node :=
  .element "thead".toList []
    [.text t.inHead,
      .element "tr".toList [] (.text t.inHeadRow :: t.heads.flatMap (Cell.nodes "th".toList)),
      .text t.afterHeadRow]

/-- The body of a table as a node. -/
def MarkedTable.bodyNode (t : MarkedTable) : Node :=
  .element "tbody".toList [] (.text t.inBody :: t.rows.flatMap Row.nodes)

/-- A table as a node. -/
def MarkedTable.tableNode (t : MarkedTable) : Node :=
  .element "table".toList []
    [.text t.inTable, t.headNode, .text t.afterHead, t.bodyNode, .text t.afterBody]

/-! ## Both are the same -/

/-- An element without attributes is written as its contents between its tags. -/
theorem write_bare (name : Text) (cs ns : List Node) :
    write (piecesOf (.element name [] cs :: ns))
      = enclosed name (write (piecesOf cs)) ++ write (piecesOf ns) := by
  rw [Html.write_element, Html.Tag.write, Html.Tag.write, enclosed]
  simp [Html.writeAttributes]

theorem Cell.write_nodes (name : Text) (c : Cell) :
    write (piecesOf (c.nodes name)) = c.html name := by
  rw [Cell.nodes, write_bare, write_text, write_text, write_nil, List.append_nil, List.append_nil,
    Cell.html]

theorem Row.write_nodes (r : Row) : write (piecesOf r.nodes) = r.html := by
  rw [Row.nodes, Row.node, write_bare, write_text, write_text, write_nil, List.append_nil,
    write_flatMap fun c _ => c.write_nodes "td".toList, Row.html]

/-- **A table is written from its node.** -/
theorem MarkedTable.write_tableNode (t : MarkedTable) (ns : List Node) :
    write (piecesOf (t.tableNode :: ns)) = t.table ++ write (piecesOf ns) := by
  have hhead (ns : List Node) :
      write (piecesOf (t.headNode :: ns)) = t.head ++ write (piecesOf ns) := by
    rw [headNode, write_bare, write_text, write_bare, write_text, write_text, write_nil,
      List.append_nil, write_flatMap fun c _ => c.write_nodes "th".toList, head]
  have hbody (ns : List Node) :
      write (piecesOf (t.bodyNode :: ns)) = t.body ++ write (piecesOf ns) := by
    rw [bodyNode, write_bare, write_text, write_flatMap fun r _ => r.write_nodes, body]
  rw [tableNode, write_bare, write_text, hhead, write_text, hbody, write_text, write_nil,
    List.append_nil, table]

/-! ## A table is read back and holds no mark -/

theorem Cell.areReadable_nodes {name : Text} (h : Html.IsOrdinary name []) (c : Cell) :
    AreReadable (c.nodes name) := by
  simp only [Cell.nodes, AreReadable, and_true]
  exact ⟨h, c.text.property, c.after.property⟩

/-- The names of the elements that a table is made of. -/
def tableNames : List Text := ["table", "thead", "tbody", "tr", "th", "td"].map String.toList

theorem isOrdinary_of_mem {name : Text} (h : name ∈ tableNames) : Html.IsOrdinary name [] := by
  have hall : ∀ name ∈ tableNames, Html.isName name = true ∧ name ∉ Html.voidElements
      ∧ name ∉ Html.silentElements ∧ name ∉ Html.verbatimElements
      ∧ (∀ n ∈ ([] : List Text), Html.isName n = true) ∧ ([] : List Text).Nodup := by decide
  exact Html.isOrdinary_of_names [] rfl (hall name h)

theorem Row.areReadable_nodes (r : Row) : AreReadable r.nodes := by
  have hcells : AreReadable ((r.key :: r.others).flatMap (Cell.nodes "td".toList)) :=
    Html.areReadable_flatMap fun c _ => c.areReadable_nodes (isOrdinary_of_mem (by decide))
  simp only [Row.nodes, Row.node, AreReadable, and_true]
  exact ⟨isOrdinary_of_mem (by decide), ⟨r.inside.property, hcells⟩, r.after.property⟩

theorem MarkedTable.areReadable_tableNode (t : MarkedTable) : AreReadable [t.tableNode] := by
  have hheads : AreReadable (t.heads.flatMap (Cell.nodes "th".toList)) :=
    Html.areReadable_flatMap fun c _ => c.areReadable_nodes (isOrdinary_of_mem (by decide))
  have hrows : AreReadable (t.rows.flatMap Row.nodes) :=
    Html.areReadable_flatMap fun r _ => r.areReadable_nodes
  simp only [tableNode, headNode, bodyNode, AreReadable, and_true]
  exact ⟨isOrdinary_of_mem (by decide), t.inTable.property,
    isOrdinary_of_mem (by decide),
    ⟨t.inHead.property, isOrdinary_of_mem (by decide), ⟨t.inHeadRow.property, hheads⟩,
      t.afterHeadRow.property⟩,
    t.afterHead.property, isOrdinary_of_mem (by decide), ⟨t.inBody.property, hrows⟩,
    t.afterBody.property⟩

theorem brace_not_mem (t : PlainText) : '\x7b' ∉ t.val :=
  fun hm => absurd (t.property _ hm) (by decide)

theorem brace_not_mem_enclosed {name content : Text} (hname : '\x7b' ∉ name)
    (hcontent : '\x7b' ∉ content) : '\x7b' ∉ enclosed name content := by
  simp [enclosed, hname, hcontent]

theorem Cell.brace_not_mem_html {name : Text} (hname : '\x7b' ∉ name) (c : Cell) :
    '\x7b' ∉ c.html name := by
  rw [Cell.html, List.mem_append, not_or]
  exact ⟨brace_not_mem_enclosed hname (brace_not_mem c.text), brace_not_mem c.after⟩

theorem brace_not_mem_flatMap {α : Type} {f : α → Text} {xs : List α}
    (h : ∀ x ∈ xs, '\x7b' ∉ f x) : '\x7b' ∉ xs.flatMap f := by
  intro hm
  obtain ⟨x, hx, hm⟩ := List.mem_flatMap.mp hm
  exact h x hx hm

theorem Row.brace_not_mem_html (r : Row) : '\x7b' ∉ r.html := by
  have hcells := @brace_not_mem_flatMap _ (Cell.html "td".toList) (r.key :: r.others)
    fun c _ => c.brace_not_mem_html (by decide)
  rw [Row.html, List.mem_append, not_or]
  refine ⟨brace_not_mem_enclosed (by decide) ?_, brace_not_mem r.after⟩
  rw [List.mem_append, not_or]
  exact ⟨brace_not_mem r.inside, hcells⟩

/-- **No mark begins inside of a table.** -/
theorem MarkedTable.brace_not_mem_table (t : MarkedTable) : '\x7b' ∉ t.table := by
  have hheads := @brace_not_mem_flatMap _ (Cell.html "th".toList) t.heads
    fun c _ => c.brace_not_mem_html (by decide)
  have hrows := @brace_not_mem_flatMap _ Row.html t.rows fun r _ => r.brace_not_mem_html
  have hhead : '\x7b' ∉ t.head := by
    refine brace_not_mem_enclosed (by decide) ?_
    rw [List.mem_append, List.mem_append, not_or, not_or]
    refine ⟨brace_not_mem t.inHead, brace_not_mem_enclosed (by decide) ?_,
      brace_not_mem t.afterHeadRow⟩
    rw [List.mem_append, not_or]
    exact ⟨brace_not_mem t.inHeadRow, hheads⟩
  have hbody : '\x7b' ∉ t.body := by
    refine brace_not_mem_enclosed (by decide) ?_
    rw [List.mem_append, not_or]
    exact ⟨brace_not_mem t.inBody, hrows⟩
  refine brace_not_mem_enclosed (by decide) ?_
  simp only [List.mem_append, not_or]
  exact ⟨brace_not_mem t.inTable, hhead, brace_not_mem t.afterHead, hbody,
    brace_not_mem t.afterBody⟩

end Gamebook.Rendered
