import Gamebook.Proofs.Table.Container
import Gamebook.Proofs.Table.DieSize
import Gamebook.Proofs.Table.RowKey
import Gamebook.Table.Reading

/-!
# What is written is what the reader gets back

A rendered document goes through three hands before its tables are collected: its marks
become containers, its dice are highlighted, and the result is parsed. Here the tables
that come out are compared with the ones that went in.

The identifier, the die and the number of rows are the same. The row keys need not be:
the highlighting puts spans into cells, and a cell with a span in it is read with the
blanks around the span gone. But a formula has a die letter, and a cell with a letter
leads to no roll, before or after. So every roll leads to the same row.
-/

namespace Gamebook.Rendered

open Html (Node IsPlainText)
open DiceSpan (seen)
open Table (RowKey resolveRow)

/-! ## Row keys -/

/-- The text of a first cell as it is read after the highlighting. -/
def seenKey (key : Text) : Text := (Node.element "td".toList [] (seen [.text key])).trimmedText

theorem trimmedText_textNodes (name t : Text) :
    (Node.element name [] (Html.textNodes t)).trimmedText = Text.trim t := by
  unfold Html.textNodes
  split
  · rename_i ht
    rw [ht]
    rfl
  · rw [← Node.trim_foldBlanks t]
    exact List.append_nil _

/-- **The highlighting does not change where a row key leads.** -/
theorem read_seenKey (key : Text) : RowKey.read (seenKey key) = RowKey.read key := by
  by_cases h : ∀ c ∈ key, Dice.isDieLetter c = false
  · rw [seenKey, DiceSpan.seen_text h, trimmedText_textNodes, RowKey.read_trim]
  · -- a die letter stands in both texts, and with it neither leads to a roll
    obtain ⟨d, hd, hdie⟩ : ∃ d ∈ key, Dice.isDieLetter d = true := by simpa using h
    have hkinds : Text.isDigit d = false ∧ Text.isBlank d = false ∧ RowKey.isDash d = false := by
      have hletter : d = 'd' ∨ d = 'D' := by simpa [Dice.isDieLetter] using hdie
      rcases hletter with rfl | rfl <;> decide
    obtain ⟨hdigit, hblank, hdash⟩ := hkinds
    have hseen : d ∈ seenKey key := by
      refine Node.mem_trimmedText hblank (DiceSpan.mem_textOf_seen hblank ?_)
      rw [Node.textOf_text]
      exact List.mem_append_left _ hd
    rw [RowKey.read_eq_other hseen hdigit hblank hdash, RowKey.read_eq_other hd hdigit hblank hdash]

/-! ## The parts of a table -/

theorem namedIn_cells {names : List Text} {name : Text} (h : name ∉ names) (cs : List Cell) :
    Node.namedIn names (cs.flatMap (Cell.nodes name)) = [] := by
  rw [Node.namedIn_flatMap, List.flatMap_eq_nil_iff]
  intro c _
  simp [Cell.nodes, Node.namedIn_element_of_not_mem h]

theorem namedIn_rows (rows : List Row) :
    Node.namedIn ["tr".toList] (rows.flatMap Row.nodes) = rows.map Row.node := by
  rw [Node.namedIn_flatMap]
  induction rows with
  | nil => rfl
  | cons r rows ih =>
      have hrow : Node.namedIn ["tr".toList] r.nodes = [r.node] := by
        rw [Row.nodes, Row.node, Node.namedIn_element_of_mem (by decide), Node.namedIn_text,
          namedIn_cells (by decide)]
        simp
      rw [List.flatMap_cons, hrow, ih]
      rfl

/-- The head is passed over by a question for other names. -/
theorem namedIn_headNode {names : List Text} (hhead : "thead".toList ∉ names)
    (hrow : "tr".toList ∉ names) (hcell : "th".toList ∉ names) (t : MarkedTable)
    (ns : List Node) : Node.namedIn names (t.headNode :: ns) = Node.namedIn names ns := by
  rw [MarkedTable.headNode, Node.namedIn_element_of_not_mem hhead, Node.namedIn_text,
    Node.namedIn_element_of_not_mem hrow, Node.namedIn_text, namedIn_cells hcell]
  simp

/-- A table has no elements but those of its rows and cells. -/
theorem namedIn_shown {names : List Text} (h : ∀ name ∈ tableNames, name ∉ names)
    (t : MarkedTable) : Node.namedIn names t.shown = [] := by
  have htable := h "table".toList (by decide)
  have hbody := h "tbody".toList (by decide)
  have hrow := h "tr".toList (by decide)
  have hrows : Node.namedIn names (t.rows.flatMap Row.nodes) = [] := by
    rw [Node.namedIn_flatMap, List.flatMap_eq_nil_iff]
    intro r _
    rw [Row.nodes, Row.node, Node.namedIn_element_of_not_mem hrow, Node.namedIn_text,
      namedIn_cells (h _ (by decide))]
    simp
  have hbodyNode : Node.namedIn names [t.bodyNode, .text t.afterBody] = [] := by
    rw [MarkedTable.bodyNode, Node.namedIn_element_of_not_mem hbody, Node.namedIn_text, hrows]
    simp
  rw [MarkedTable.shown, Node.namedIn_text, MarkedTable.tableNode,
    Node.namedIn_element_of_not_mem htable, Node.namedIn_text,
    namedIn_headNode (h _ (by decide)) hrow (h _ (by decide)), Node.namedIn_text, hbodyNode]
  simp

/-- The first body in a wrapper is that of its table. -/
theorem find?_tbody (id : Text) (t : MarkedTable) :
    ((wrapperNode id t.shown).mapContents seen).find? ["tbody".toList]
      = some (t.bodyNode.mapContents seen) := by
  -- the head stands before the body and has no body in it
  have hfirst : (Node.namedIn ["tbody".toList] (.text ['\n'] :: (t.shown ++ [.text ['\n']]))).head?
      = some t.bodyNode := by
    rw [Node.namedIn_text, Node.namedIn_append, MarkedTable.shown, Node.namedIn_text,
      MarkedTable.tableNode, Node.namedIn_element_of_not_mem (by decide), Node.namedIn_text,
      namedIn_headNode (by decide) (by decide) (by decide), Node.namedIn_text,
      MarkedTable.bodyNode, Node.namedIn_element_of_mem (by decide)]
    rfl
  rw [wrapperNode, Node.mapContents, Node.find?_element, DiceSpan.namedIn_seen (by decide),
    List.head?_map, hfirst]
  rfl

theorem keyOf_row (r : Row) : Table.keyOf (r.node.mapContents seen) = seenKey r.key.text := by
  have hfirst : (Node.namedIn ["td".toList, "th".toList]
      (.text r.inside :: (r.key :: r.others).flatMap (Cell.nodes "td".toList))).head?
      = some (.element "td".toList [] [.text r.key.text]) := by
    rw [Node.namedIn_text, List.flatMap_cons, Cell.nodes, List.cons_append,
      Node.namedIn_element_of_mem (by decide)]
    rfl
  rw [Table.keyOf, Row.node, Node.mapContents, Node.find?_element,
    DiceSpan.namedIn_seen (by decide), List.head?_map, hfirst]
  rfl

/-- The row keys of a table, as they are read after the highlighting. -/
theorem rowKeys_wrapper (id : Text) (t : MarkedTable) :
    Table.rowKeys ((wrapperNode id t.shown).mapContents seen)
      = t.rows.map fun r => seenKey r.key.text := by
  have hrows : Table.rowsOf ((wrapperNode id t.shown).mapContents seen)
      = t.rows.map fun r => r.node.mapContents seen := by
    rw [Table.rowsOf, find?_tbody]
    dsimp only
    rw [MarkedTable.bodyNode, Node.mapContents, Node.findAll_element,
      DiceSpan.namedIn_seen (by decide), Node.namedIn_text, namedIn_rows, List.map_map]
    rfl
  rw [Table.rowKeys, hrows, List.map_map]
  exact List.map_congr_left fun r _ => keyOf_row r

/-! ## One container -/

/-- A marked table as it is collected. -/
def MarkedTable.collected (id : Text) (t : MarkedTable) : RollTable :=
  ⟨id, t.die, t.rows.map fun r => seenKey r.key.text⟩

theorem dieSize?_button {n : Nat} (h : (Number.writeNat n).length ≤ digitLimit) :
    Table.dieSize? ('d' :: Number.writeNat n) = .ok (some n) := by
  have hdie : Table.dieDigits? ('d' :: Number.writeNat n) = some (Number.writeNat n) := by
    rw [Table.dieDigits?, Table.dieDigitsAfter, if_pos (by decide),
      Text.takeDigits?_eq_self (Number.writeNat_ne_nil n)
        fun c hc => Number.isDigit_of_mem_writeNat hc]
  rw [Table.dieSize?_of_digits hdie h, Number.digitsValue_writeNat]

/-- A container with a button gives the table with the die that the button names. -/
theorem rollTable?_of_button {container button wrapper : Node} {id : Text} {n : Nat}
    (hbutton : (container.findAll ["button".toList]).find?
      (Node.hasClass "roll-table-button".toList) = some button)
    (hwrapper : (container.findAll ["div".toList]).find?
      (Node.hasClass "rollable-table".toList) = some wrapper)
    (hdice : button.attribute? "data-dice".toList = some ('d' :: Number.writeNat n))
    (hdie : (Number.writeNat n).length ≤ digitLimit)
    (htableId : button.attribute? "data-table-id".toList = some id) (hid : id ≠ []) :
    Table.rollTable? container = .ok (some ⟨id, n, Table.rowKeys wrapper⟩) := by
  rw [Table.rollTable?, hbutton, hwrapper]
  dsimp only
  rw [hdice, htableId, Option.getD_some, dieSize?_button hdie]
  show Except.ok (if id = [] then none else some _) = _
  rw [if_neg hid]

theorem findAll_button (id : Text) (t : MarkedTable) :
    ((t.container id).mapContents seen).findAll ["button".toList]
      = [(buttonNode id (Number.writeNat t.die)).mapContents seen] := by
  rw [MarkedTable.container, containerNode, Node.mapContents, Node.findAll_element,
    DiceSpan.namedIn_seen (by decide), Node.namedIn_text, buttonNode,
    Node.namedIn_element_of_mem (by decide), Node.namedIn_text, Node.namedIn_nil, Node.namedIn_text,
    wrapperNode, Node.namedIn_element_of_not_mem (by decide), Node.namedIn_text,
    Node.namedIn_append, namedIn_shown (by decide)]
  simp

/-- The only division in a container is its wrapper. -/
theorem namedIn_div_contents (id : Text) (t : MarkedTable) :
    Node.namedIn ["div".toList] [.text ['\n'], buttonNode id (Number.writeNat t.die), .text ['\n'],
      wrapperNode id t.shown, .text ['\n']] = [wrapperNode id t.shown] := by
  rw [Node.namedIn_text, buttonNode, Node.namedIn_element_of_not_mem (by decide), Node.namedIn_text,
    Node.namedIn_nil, Node.namedIn_text, wrapperNode, Node.namedIn_element_of_mem (by decide),
    Node.namedIn_text, Node.namedIn_append, namedIn_shown (by decide)]
  simp

theorem hasClass_button (id die : Text) :
    (buttonNode id die).hasClass "roll-table-button".toList = true := by
  rfl

theorem hasClass_wrapper (id : Text) (content : List Node) :
    (wrapperNode id content).hasClass "rollable-table".toList = true
      ∧ (wrapperNode id content).hasClass "rollable-table-container".toList = false :=
  ⟨rfl, rfl⟩

theorem hasClass_container (id : Text) (t : MarkedTable) :
    (t.container id).hasClass "rollable-table-container".toList = true := by
  rfl

/-- **A container gives its table.** -/
theorem rollTable?_container {id : Text} (hid : id ≠ []) {t : MarkedTable}
    (hdie : (Number.writeNat t.die).length ≤ digitLimit) :
    Table.rollTable? ((t.container id).mapContents seen) = .ok (some (t.collected id)) := by
  have hwrapper : ((t.container id).mapContents seen).findAll ["div".toList]
      = [(wrapperNode id t.shown).mapContents seen] := by
    rw [MarkedTable.container, containerNode, Node.mapContents, Node.findAll_element,
      DiceSpan.namedIn_seen (by decide), namedIn_div_contents]
    rfl
  have hdice : (buttonNode id (Number.writeNat t.die)).attribute? "data-dice".toList
      = some ('d' :: Number.writeNat t.die) := rfl
  have htableId : (buttonNode id (Number.writeNat t.die)).attribute? "data-table-id".toList
      = some id := rfl
  have htable := @rollTable?_of_button ((t.container id).mapContents seen)
    ((buttonNode id (Number.writeNat t.die)).mapContents seen)
    ((wrapperNode id t.shown).mapContents seen) id t.die
  rw [findAll_button, hwrapper, List.find?_cons_of_pos, List.find?_cons_of_pos,
    Node.attribute?_mapContents, Node.attribute?_mapContents, rowKeys_wrapper] at htable
  · exact htable rfl rfl hdice hdie htableId hid
  · rw [Node.hasClass_mapContents, (hasClass_wrapper id t.shown).1]
  · rw [Node.hasClass_mapContents, hasClass_button]

/-! ## All containers -/

/-- The tables of a document as they are collected, numbered from `k`. -/
def collectedFrom (stem : Text) (k : Nat) : List (MarkedTable × PlainText) → List RollTable
  | [] => []
  | (t, _) :: ps => t.collected (idOf stem k) :: collectedFrom stem (k + 1) ps

theorem length_collectedFrom (stem : Text) (k : Nat) (ps : List (MarkedTable × PlainText)) :
    (collectedFrom stem k ps).length = ps.length := by
  induction ps generalizing k with
  | nil => rfl
  | cons p ps ih => exact congrArg Nat.succ (ih (k + 1))

theorem getElem?_collectedFrom (stem : Text) (k : Nat) (ps : List (MarkedTable × PlainText))
    (i : Nat) : (collectedFrom stem k ps)[i]?
      = ps[i]?.map fun p => p.1.collected (idOf stem (k + i)) := by
  induction ps generalizing k i with
  | nil => rfl
  | cons p ps ih =>
      cases i with
      | zero => rfl
      | succ i =>
          have hindex : k + 1 + i = k + (i + 1) := by omega
          have htail := ih (k + 1) i
          rw [hindex] at htail
          exact htail

/-- The divisions of a document that are containers are those of its tables. -/
theorem rollTablesIn_containersFrom (stem : Text) (k : Nat)
    {ps : List (MarkedTable × PlainText)}
    (h : ∀ p ∈ ps, (Number.writeNat p.1.die).length ≤ digitLimit) :
    Table.rollTablesIn (((Node.namedIn ["div".toList] (containersFrom stem k ps)).filter
      (Node.hasClass "rollable-table-container".toList)).map (Node.mapContents seen))
      = .ok (collectedFrom stem k ps) := by
  induction ps generalizing k with
  | nil => rw [containersFrom, Node.namedIn_nil]; rfl
  | cons p ps ih =>
      obtain ⟨t, after⟩ := p
      have hid : idOf stem k ≠ [] := by simp [idOf]
      -- a table has two divisions, and only the outer one is a container
      have hdivs : Node.namedIn ["div".toList] (containersFrom stem k ((t, after) :: ps))
          = t.container (idOf stem k) :: wrapperNode (idOf stem k) t.shown
            :: Node.namedIn ["div".toList] (containersFrom stem (k + 1) ps) := by
        rw [containersFrom, MarkedTable.container, containerNode,
          Node.namedIn_element_of_mem (by decide), namedIn_div_contents, Node.namedIn_text]
        rfl
      rw [hdivs, List.filter_cons_of_pos (hasClass_container (idOf stem k) t),
        List.filter_cons_of_neg (by rw [(hasClass_wrapper (idOf stem k) t.shown).2]; decide),
        List.map_cons, Table.rollTablesIn, rollTable?_container hid (h (t, after) (by simp)),
        ih (k + 1) fun q hq => h q (by simp [hq])]
      rfl

/-- The containers of a document, as they are found after the highlighting. -/
theorem filter_containers (stem : Text) (d : Document) :
    (Node.descendantsOf (seen (d.nodes stem))).filter (fun n =>
        n.isNamed ["div".toList] && n.hasClass "rollable-table-container".toList)
      = ((Node.namedIn ["div".toList] (containersFrom stem 1 d.tables)).filter
        (Node.hasClass "rollable-table-container".toList)).map (Node.mapContents seen) := by
  have hdivs : Node.namedIn ["div".toList] (seen (d.nodes stem))
      = (Node.namedIn ["div".toList] (containersFrom stem 1 d.tables)).map
        (Node.mapContents seen) := by
    rw [DiceSpan.namedIn_seen (by decide), Document.nodes, Node.namedIn_text]
  have hclass : (Node.hasClass "rollable-table-container".toList ∘ Node.mapContents seen)
      = Node.hasClass "rollable-table-container".toList :=
    funext fun n => Node.hasClass_mapContents seen _ n
  simp only [Bool.and_comm (Node.isNamed _ _)]
  rw [← List.filter_filter]
  show (Node.namedIn ["div".toList] (seen (d.nodes stem))).filter _ = _
  rw [hdivs, List.filter_map, hclass]

/-- What a reader makes of a table: the identifier with its number, its die, a key for each of its
rows, and for every roll the row that the keys lead to as they were written. -/
structure IsCollected (stem : Text) (k : Nat) (written : MarkedTable) (read : RollTable) :
    Prop where
  id : read.id = stem ++ '-' :: Number.writeNat k
  die : read.die = written.die
  rows : read.rows.length = written.rows.length
  resolves : ∀ rolled, resolveRow rolled read.rows = resolveRow rolled written.keys
  answers : (∀ key ∈ written.keys, Table.ReadableRuns key) →
    ∀ rolled, ∃ row, resolveRow rolled read.rows = .ok row

theorem isCollected_collected (stem : Text) (k : Nat) (t : MarkedTable) :
    IsCollected stem k t (t.collected (idOf stem k)) := by
  have hkeys : (t.rows.map fun r => seenKey r.key.text).map RowKey.read
      = t.keys.map RowKey.read := by
    rw [MarkedTable.keys, List.map_map, List.map_map]
    exact List.map_congr_left fun r _ => read_seenKey r.key.text
  refine ⟨rfl, rfl, List.length_map _, Table.resolveRow_congr hkeys, fun h rolled => ?_⟩
  obtain ⟨row, hrow⟩ := Table.resolveRow_ok h rolled
  exact ⟨row, (Table.resolveRow_congr hkeys rolled).trans hrow⟩

/--
**What is written into a document is what the reader gets back.**

Take any document of marked tables whose dice are short enough to be read. Put the
tables into containers, highlight the dice, and collect the tables of the result: they
are the tables of the document, in order. The i-th of them is numbered i + 1, has the
die and the number of rows that were written, and every roll leads to the same row,
although the highlighting may have put spans into the cells with the keys.
-/
theorem rollTablesOf_materialize (stem : Text) (d : Document)
    (h : ∀ p ∈ d.tables, (Number.writeNat p.1.die).length ≤ digitLimit) :
    ∃ ts, Table.rollTablesOf (DiceSpan.mark (TableRegion.materialize d.html stem)) = .ok ts
      ∧ ts.length = d.tables.length
      ∧ ∀ i written read, d.tables[i]? = some written → ts[i]? = some read →
          IsCollected stem (i + 1) written.1 read := by
  refine ⟨collectedFrom stem 1 d.tables, ?_, length_collectedFrom stem 1 d.tables, ?_⟩
  · rw [Table.rollTablesOf, d.parse_materialize]
    simp only [bind, Except.bind]
    rw [filter_containers, rollTablesIn_containersFrom stem 1 h]
    rfl
  · intro i written read hwritten hread
    rw [getElem?_collectedFrom, hwritten] at hread
    injection hread with hread
    rw [← hread, Nat.add_comm i 1]
    exact isCollected_collected stem (1 + i) written.1

/-- A line feed, where a renderer puts one. -/
def feed : PlainText := ⟨['\n'], by decide⟩

/-- A cell with a line feed behind it. -/
def cell (text : String) (h : IsPlainText text.toList) : Cell := ⟨⟨text.toList, h⟩, feed⟩

/-- A row of one cell. -/
def row (key : String) (h : IsPlainText key.toList) : Row := ⟨feed, cell key h, [], feed⟩

/-- A table of which every row leads to faces. -/
def cellar : MarkedTable :=
  ⟨6, feed, feed, feed, feed, [cell "d6" (by decide)], feed, feed, feed,
    [row " 1-2 " (by decide), row "3 - 6" (by decide)], feed, feed⟩

/-- A table of which the second row leads nowhere. The highlighting makes a span of its formula. -/
def pit : MarkedTable :=
  ⟨20, feed, feed, feed, feed, [], feed, feed, feed,
    [row "7" (by decide), row "8 1d6-9" (by decide)], feed, feed⟩

/-- A page with a formula in its text and two tables. -/
def cellarAndPit : Document :=
  ⟨⟨"Roll 2d6".toList, by decide⟩, [(cellar, feed), (pit, ⟨"End".toList, by decide⟩)]⟩

theorem rollTablesOf_materialize_cellarAndPit :
    (∀ p ∈ cellarAndPit.tables, (Number.writeNat p.1.die).length ≤ digitLimit)
      ∧ ∃ ts, Table.rollTablesOf
          (DiceSpan.mark (TableRegion.materialize cellarAndPit.html "a&\"".toList)) = .ok ts
        ∧ ts.length = cellarAndPit.tables.length
        ∧ ∀ i written read, cellarAndPit.tables[i]? = some written → ts[i]? = some read →
            IsCollected "a&\"".toList (i + 1) written.1 read := by
  have h : ∀ p ∈ cellarAndPit.tables, (Number.writeNat p.1.die).length ≤ digitLimit := by
    have hcellar : (Number.writeNat cellar.die).length ≤ digitLimit := by decide
    have hpit : (Number.writeNat pit.die).length ≤ digitLimit := by decide
    exact List.forall_mem_cons.mpr ⟨hcellar, List.forall_mem_singleton.mpr hpit⟩
  exact ⟨h, rollTablesOf_materialize "a&\"".toList cellarAndPit h⟩

end Gamebook.Rendered
