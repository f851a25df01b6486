import Gamebook.Proofs.Html.Position
import Gamebook.Table.Reading
import Mathlib.Data.List.Forall2

/-!
# The rows that keys are read from

Rows, cells and sections are told apart here by where they stand in a table (`Stands`), so that
a row is the same row for every question. A row is read if it stands in the first body of its table,
or, in a table without a body, if it holds a data cell (`IsReadRow`). Each row that is read has one
key, and the keys come in the order of the rows.

A row of a head may be among them: where a table has no body, one with a data cell is, and so is
every row of a head inside of the first body. Without such a row the keys are those of the data
rows (`rowKeys_inOrder`).
-/

namespace Gamebook.Table

open Html (InOrder IsFirst Node Stands nodeAt? placesOf)

/-- Whether an element of one of the names stands at a path in a table. -/
def Named (names : List String) (table : Node) : List Nat → Prop :=
  Stands (Node.isNamed (names.map String.toList)) table.children

/-- A row that is read: it stands in the first body or, where there is none, holds a data cell. -/
def IsReadRow (table : Node) (p : List Nat) : Prop :=
  Named ["tr"] table p
    ∧ ((∃ b, IsFirst (Named ["tbody"] table) b ∧ b <+: p)
      ∨ (∀ b, ¬Named ["tbody"] table b) ∧ ∃ c, Named ["td"] table c ∧ p <+: c)

/-- Whether a path leads into a head. -/
def IsInHead (table : Node) (p : List Nat) : Prop := ∃ h, Named ["thead"] table h ∧ h <+: p

/-- A data row is one outside of all heads. -/
def IsDataRow (table : Node) (p : List Nat) : Prop := IsReadRow table p ∧ ¬IsInHead table p

/-- Whether a node is a text. -/
def isText : Node → Bool
  | .text _ => true
  | .element .. => false

/-- The characters of a text; those in an element are not its own. -/
def ownText : Node → Text
  | .text t => t
  | .element .. => []

/-- The text at a path. -/
def textAt (ns : List Node) (p : List Nat) : Text := (nodeAt? ns p).elim [] ownText

/-- The key of a row: the texts of its first cell, each trimmed, in order. -/
def IsRowKey (row : Node) (key : Text) : Prop :=
  (∀ c, ¬Named ["td", "th"] row c) ∧ key = []
    ∨ ∃ c cell ts, IsFirst (Named ["td", "th"] row) c ∧ nodeAt? row.children c = some cell
      ∧ InOrder (Stands isText cell.children) ts
      ∧ key = ts.flatMap fun t => Text.trim (textAt cell.children t)

/-- The key of the row at a path. -/
def HasKey (table : Node) (p : List Nat) (key : Text) : Prop :=
  ∃ row, nodeAt? table.children p = some row ∧ IsRowKey row key

/-! ## Keys -/

theorem trimmedText_eq (cell : Node) : cell.trimmedText
    = (placesOf isText cell.children).flatMap fun t => Text.trim (textAt cell.children t) := by
  have hown : cell.trimmedText = cell.descendants.flatMap fun n => Text.trim (ownText n) := by
    rw [Node.trimmedText]
    congr 1
    funext n
    cases n <;> rfl
  have htexts (ms : List Node) : ms.flatMap (fun n => Text.trim (ownText n))
      = (ms.filter isText).flatMap fun n => Text.trim (ownText n) := by
    induction ms with
    | nil => rfl
    | cons m ms ih =>
        cases m with
        | text t => rw [List.flatMap_cons, ih, List.filter_cons_of_pos rfl, List.flatMap_cons]
        | element name as cs =>
            rw [List.flatMap_cons, ih, List.filter_cons_of_neg (by simp [isText])]
            rfl
  have hplaces := congrArg (List.flatMap fun n => Text.trim (n.elim [] ownText))
    (Html.map_placesOf isText cell.children)
  rw [List.flatMap_map, List.flatMap_map] at hplaces
  rw [hown, Node.descendants_eq, htexts]
  exact hplaces.symm

theorem isRowKey_keyOf (row : Node) : IsRowKey row (keyOf row) := by
  rcases Html.find?_cases (Node.isNamed ["td".toList, "th".toList]) row.children with
    ⟨hnone, hno⟩ | ⟨c, cell, hfind, hcell, hfirst⟩
  · refine .inl ⟨hno, ?_⟩
    rw [keyOf, Node.find?, Node.descendants_eq, hnone]
  · refine .inr ⟨c, cell, _, hfirst, hcell, Html.inOrder_placesOf isText cell.children, ?_⟩
    rw [keyOf, Node.find?, Node.descendants_eq, hfind]
    exact trimmedText_eq cell

/-! ## Rows -/

/-- Elements of other names behind an element are those inside of it. -/
theorem named_behind_iff {names names' : List String} {table n : Node} {b p : List Nat}
    (hn : nodeAt? table.children b = some n)
    (hname : n.isNamed (names'.map String.toList) = true)
    (hother : ∀ name ∈ names.map String.toList, name ∉ names'.map String.toList) :
    Named names table p ∧ b <+: p
      ↔ ∃ q, Stands (Node.isNamed (names.map String.toList)) n.children q ∧ b ++ q = p := by
  constructor
  · rintro ⟨hp, q, rfl⟩
    have hne : q ≠ [] := by
      rintro rfl
      obtain ⟨m, hm, hnamed⟩ := hp
      rw [List.append_nil, hn, Option.some.injEq] at hm
      subst hm
      cases n with
      | text t => exact absurd hname (by simp [Node.isNamed])
      | element name as cs =>
          exact hother name (by simpa [Node.isNamed] using hnamed)
            (by simpa [Node.isNamed] using hname)
    exact ⟨q, (Html.stands_append hn hne).mp hp, rfl⟩
  · rintro ⟨q, hq, rfl⟩
    exact ⟨(Html.stands_append hn hq.ne_nil).mpr hq, List.prefix_append b q⟩

theorem hasDataCell_iff {table row : Node} {p : List Nat}
    (hrow : nodeAt? table.children p = some row) (hname : row.isNamed ["tr".toList] = true) :
    (row.find? ["td".toList]).isSome = true ↔ ∃ c, Named ["td"] table c ∧ p <+: c := by
  have hbehind (c : List Nat) :=
    @named_behind_iff ["td"] ["tr"] table row p c hrow hname (by decide)
  rw [Node.find?, Node.descendants_eq, Html.isSome_find?_iff]
  constructor
  · rintro ⟨q, hq⟩
    exact ⟨p ++ q, (hbehind _).mpr ⟨q, hq, rfl⟩⟩
  · rintro ⟨c, hc⟩
    obtain ⟨q, hq, -⟩ := (hbehind c).mp hc
    exact ⟨q, hq⟩

/-- **The rows are those that are read**, in order. -/
theorem rowsOf_inOrder (table : Node) :
    ∃ ps, InOrder (IsReadRow table) ps
      ∧ ps.map (nodeAt? table.children) = (rowsOf table).map some := by
  rcases Html.find?_cases (Node.isNamed ["tbody".toList]) table.children with
    ⟨hnone, hno⟩ | ⟨b, body, hfind, hbody, hfirst⟩
  · -- without a body a row is read just if it holds a data cell
    have hrows : rowsOf table = (Node.descendantsOf table.children).filter
        fun n => n.isNamed ["tr".toList] && (n.find? ["td".toList]).isSome := by
      rw [rowsOf, Node.find?, Node.descendants_eq, hnone, Node.findAll, Node.descendants_eq]
      dsimp only
      rw [List.filter_filter]
      exact List.filter_congr fun n _ => Bool.and_comm ..
    refine ⟨_, (Html.inOrder_placesOf _ table.children).congr fun p => ?_,
      hrows ▸ Html.map_placesOf _ table.children⟩
    constructor
    · rintro ⟨row, hrow, h⟩
      obtain ⟨hname, hcell⟩ := Bool.and_eq_true_iff.mp h
      exact ⟨⟨row, hrow, hname⟩, .inr ⟨hno, (hasDataCell_iff hrow hname).mp hcell⟩⟩
    · rintro ⟨⟨row, hrow, hname⟩, ⟨b, hb, -⟩ | ⟨-, hcell⟩⟩
      · exact absurd hb.holds (hno b)
      · have hsome := (hasDataCell_iff hrow hname).mpr hcell
        exact ⟨row, hrow, Bool.and_eq_true_iff.mpr ⟨hname, hsome⟩⟩
  · -- with one, the rows are those inside of the first
    have hname : body.isNamed ["tbody".toList] = true := by
      obtain ⟨n, hn, hname⟩ := hfirst.holds
      rw [hbody, Option.some.injEq] at hn
      rwa [hn]
    have hinside := Html.inOrder_placesOf (Node.isNamed ["tr".toList]) body.children
    refine ⟨(placesOf (Node.isNamed ["tr".toList]) body.children).map (b ++ ·),
      ⟨?sorted, fun p => ?mem⟩, ?nodes⟩
    case sorted => exact hinside.sorted.map _ fun _ _ => List.append_left_lt
    case mem =>
      have hbehind := @named_behind_iff ["tr"] ["tbody"] table body b p hbody hname (by decide)
      rw [List.mem_map]
      simp only [hinside.mem_iff]
      refine hbehind.symm.trans ⟨fun h => ⟨h.1, .inl ⟨b, hfirst, h.2⟩⟩, ?_⟩
      rintro ⟨hrow, ⟨b', hb', hin⟩ | ⟨hnone, -⟩⟩
      · have heq : b = b' := le_antisymm (hfirst.least b' hb'.holds) (hb'.least b hfirst.holds)
        exact ⟨hrow, heq ▸ hin⟩
      · exact absurd hfirst.holds (hnone b)
    case nodes =>
      have hrows : rowsOf table
          = (Node.descendantsOf body.children).filter (Node.isNamed ["tr".toList]) := by
        rw [rowsOf, Node.find?, Node.descendants_eq, hfind]
        dsimp only
        rw [Node.findAll, Node.descendants_eq]
      rw [hrows, ← Html.map_placesOf, List.map_map]
      refine List.map_congr_left fun q hq => ?_
      exact Html.nodeAt?_append hbody ((hinside.mem_iff q).mp hq).ne_nil

/-- Each row that is read has its key. -/
theorem hasKey_rowKeys {table : Node} {ps : List (List Nat)}
    (hnodes : ps.map (nodeAt? table.children) = (rowsOf table).map some) :
    List.Forall₂ (HasKey table) ps (rowKeys table) := by
  have hsame : List.Forall₂ (· = ·)
      (ps.map (nodeAt? table.children)) ((rowsOf table).map some) := by
    rw [hnodes]
    exact List.forall₂_refl _
  have hrows : List.Forall₂ (fun p row => nodeAt? table.children p = some row) ps (rowsOf table) :=
    List.forall₂_map_left_iff.mp (List.forall₂_map_right_iff.mp hsame)
  exact List.forall₂_map_right_iff.mpr (hrows.imp fun _ row hrow => ⟨row, hrow, isRowKey_keyOf row⟩)

/--
**Which rows the keys are read from.**

Of any table the keys are those of the rows that are read, one for each and in the order of the
rows. They are the keys of the data rows, just as many and in order, if and only if no row that is
read stands in a head.
-/
theorem rowKeys_inOrder (table : Node) :
    ∃ ps ds, InOrder (IsReadRow table) ps ∧ List.Forall₂ (HasKey table) ps (rowKeys table)
      ∧ InOrder (IsDataRow table) ds
      ∧ (List.Forall₂ (HasKey table) ds (rowKeys table) ↔ ∀ p ∈ ps, ¬IsInHead table p) := by
  classical
  obtain ⟨ps, hps, hnodes⟩ := rowsOf_inOrder table
  have hkeys := hasKey_rowKeys hnodes
  have hds : InOrder (IsDataRow table) (ps.filter fun p => ¬IsInHead table p) := by
    refine ⟨hps.sorted.filter _, fun p => ?_⟩
    rw [List.mem_filter, hps.mem_iff, decide_eq_true_iff, IsDataRow]
  refine ⟨ps, _, hps, hkeys, hds, fun h => ?_, fun h => ?_⟩
  · -- as many data rows as rows that are read: so none was left out
    have hlength := h.length_eq.trans hkeys.length_eq.symm
    exact fun p hp => of_decide_eq_true (List.length_filter_eq_length_iff.mp hlength p hp)
  · rwa [List.filter_eq_self.mpr fun p hp => decide_eq_true (h p hp)]

/-- A table without a body, with a data cell in its head. -/
def headTable : Node :=
  .element "table".toList []
    [.element "thead".toList []
        [.element "tr".toList [] [.element "td".toList [] [.text "d6".toList]]],
      .element "tr".toList [] [.element "td".toList [] [.text "1".toList]]]

/-- Its only data row is the second one. -/
theorem inOrder_headTable : InOrder (IsDataRow headTable) [[1]] := by
  have hnamed {names : List String} {ps : List (List Nat)}
      (hps : placesOf (Node.isNamed (names.map String.toList)) headTable.children = ps)
      (p : List Nat) : Named names headTable p ↔ p ∈ ps :=
    hps ▸ ((Html.inOrder_placesOf _ headTable.children).mem_iff p).symm
  have hrow := @hnamed ["tr"] [[0, 0], [1]] (by decide)
  have hhead := @hnamed ["thead"] [[0]] (by decide)
  have hbody := @hnamed ["tbody"] [] (by decide)
  have hcell := @hnamed ["td"] [[0, 0, 0], [1, 0]] (by decide)
  refine ⟨by decide, fun p => ?_⟩
  simp only [IsDataRow, IsReadRow, IsInHead, hrow, hhead, hbody, hcell]
  constructor
  · rintro hp
    rw [List.mem_singleton.mp hp]
    exact ⟨⟨by decide, .inr ⟨by simp, [1, 0], by decide, by decide⟩⟩, by simp⟩
  · rintro ⟨⟨hp, -⟩, hout⟩
    rcases List.mem_cons.mp hp with rfl | hp
    · exact absurd ⟨[0], by decide, by decide⟩ hout
    · exact hp

/-- **A row of a head has a key**, where there is no body and it holds a data cell. -/
theorem rowKeys_headTable :
    Html.parse "<table><thead><tr><td>d6</td></tr></thead><tr><td>1</td></tr></table>".toList
        = .ok [headTable]
      ∧ rowKeys headTable = ["d6".toList, "1".toList]
      ∧ ∃ ds, InOrder (IsDataRow headTable) ds
        ∧ List.Forall₂ (HasKey headTable) ds ["1".toList]
        ∧ ¬List.Forall₂ (HasKey headTable) ds (rowKeys headTable) := by
  have hkeys : rowKeys headTable = ["d6".toList, "1".toList] := by decide
  refine ⟨?parsed, hkeys, [[1]], inOrder_headTable, ?expected, fun h => ?_⟩
  case parsed => rfl
  case expected =>
    exact .cons ⟨_, rfl, isRowKey_keyOf _⟩ .nil
  · rw [hkeys] at h
    exact absurd h.length_eq (by decide)

end Gamebook.Table
