import Gamebook.Proofs.Annotation.TablePattern

/-!
# What tagging does to the tables that are found

`TablePattern` says which tables the pattern finds, `TableLine` that they are what a reading of
the lines gives. Here tagging is told by them: each table is written between marks or as it
stands, and no other character is touched.
-/

namespace Gamebook.TableBlock

open Text (Piece scan)

/-- A table between the marks for a die, if there is one. -/
def marked (die : Option Nat) (block : Text) : Text :=
  match die with
  | none => block
  | some n => tagged ⟨n, block⟩

/-- What tagging makes of a table. -/
def written (block : Text) : Text :=
  marked ((Table.dieDigits? (headerOf block)).map Text.digitsValue) block

theorem render_wholePieces (f : Text → Text) (s : Segment) :
    Piece.render f s.wholePieces = match s with
      | .line t => t
      | .block ls => f (joinLines ls) := by
  cases s with
  | line t => exact Piece.render_plain f t
  | block ls => exact List.append_nil _

/-- Nothing of the narrative is lost between the tables that are found. -/
theorem render_scan_tablePattern (narrative : Text) :
    Piece.render id (scan tablePattern.recognise narrative) = narrative := by
  have hsegment (s : Segment) : Piece.render id s.wholePieces = s.text := by
    rw [render_wholePieces]
    cases s <;> rfl
  rw [scan_tablePattern, blockPieces, render_piecesBy]
  simp only [hsegment]
  exact joinLines_segments narrative

theorem tagSegment_eq_written {narrative : Text} {s : Segment}
    (hdice : Table.ReadableDice narrative) (h : s ∈ segments narrative) :
    tagSegment s = .ok (Piece.render written s.wholePieces) := by
  rw [render_wholePieces]
  cases s with
  | line t => rfl
  | block ls =>
      have hwritten : written (joinLines ls) = marked (dieOf? ls) (joinLines ls) := rfl
      dsimp only
      rw [tagSegment, tagBlock, dieSize?_headerOf hdice h, hwritten]
      cases dieOf? ls <;> rfl

/-- **Tagging writes each table that is found, and leaves the rest as it is.** -/
theorem tagTables_eq_written {narrative : Text} (hdice : Table.ReadableDice narrative) :
    tagTables narrative = .ok (Piece.render written (scan tablePattern.recognise narrative)) := by
  rw [tagTables_eq_map, Fallible.mapM_ok fun s hs => tagSegment_eq_written hdice hs,
    scan_tablePattern, blockPieces, render_piecesBy]
  rfl

/--
**The tables of a narrative are those of its lines, and tagging puts marks around some of them.**

The lines of a narrative are read from the top in one way, and the tables of this reading are
the ones that the pattern finds, at the same places. The pieces that the pattern cuts the
narrative into are the narrative; tagging writes each table among them as it stands or between
two marks, and every other character as it is.
-/
theorem tagTables_lineScan {narrative : Text} (hdice : Table.ReadableDice narrative) :
    LineScan (Text.splitOn '\n' narrative) (segments narrative)
      ∧ (∀ ss, LineScan (Text.splitOn '\n' narrative) ss → ss = segments narrative)
      ∧ scan tablePattern.recognise narrative = blockPieces (segments narrative)
      ∧ Piece.render id (scan tablePattern.recognise narrative) = narrative
      ∧ tagTables narrative = .ok (Piece.render written (scan tablePattern.recognise narrative))
      ∧ ∀ block, written block = block ∨ ∃ n, written block = tagged ⟨n, block⟩ := by
  refine ⟨lineScan_segments narrative, fun ss hss => hss.unique (lineScan_segments narrative),
    scan_tablePattern narrative, render_scan_tablePattern narrative, tagTables_eq_written hdice,
    fun block => ?_⟩
  rw [written]
  cases (Table.dieDigits? (headerOf block)).map Text.digitsValue with
  | none => exact .inl rfl
  | some n => exact .inr ⟨n, rfl⟩

/-- A table with a die, in which some lines end with a carriage return. -/
def lootTable : List Text :=
  ["| d6 | Find |\r".toList, "|---|---|\t".toList, "| 1-3 | gold |".toList,
    "| 4-6 | gem | \r".toList]

/-- A table without a die, in which all cells are empty. -/
def blankTable : List Text := ["||".toList, "|:|".toList, "||".toList, "||".toList]

/-- Two tables, and between them a row that is not closed. -/
def lootAndBlanks : Text :=
  "Loot:\n".toList ++ (joinLines lootTable ++ ("\n| lost\n".toList ++ joinLines blankTable))

theorem tagTables_lineScan_lootAndBlanks :
    Table.ReadableDice lootAndBlanks
      ∧ LineScan (Text.splitOn '\n' lootAndBlanks)
        [.line "Loot:".toList, .block lootTable, .line "| lost".toList, .block blankTable]
      ∧ tagTables lootAndBlanks = .ok ("Loot:\n".toList ++ (tagged ⟨6, joinLines lootTable⟩
          ++ ("\n| lost\n".toList ++ joinLines blankTable))) := by
  have hdice : Table.ReadableDice lootAndBlanks := Table.readableDice_of_length (by decide)
  have hsegments : segments lootAndBlanks
      = [.line "Loot:".toList, .block lootTable, .line "| lost".toList, .block blankTable] := by
    decide +kernel
  obtain ⟨hscan, -, hpattern, -, htagged, -⟩ := tagTables_lineScan hdice
  rw [hsegments] at hscan hpattern
  refine ⟨hdice, hscan, ?_⟩
  rw [htagged, hpattern]
  decide +kernel

end Gamebook.TableBlock
