import Gamebook.Proofs.Annotation.TableBlock
import Gamebook.Proofs.Annotation.TableRegion
import Gamebook.Proofs.Number.Decimal

/-!
# From a table to its container

A table that names a die is put between marks in the narrative, and what stands
between marks becomes a container in the rendered text. Where nothing is rendered in
between, the second go must find exactly what the first one marked.

A mark is told from its surroundings by two things. It begins with a brace, and no
other brace stands in the text, so an opening mark meets its own closing mark. And it
has line feeds on both sides, so no paragraph tag of the narrative touches it.
-/

namespace Gamebook.TableBlock

open Text (Piece scan)
open TableRegion (Region recognise take? opening openingEnd closing paragraph paragraphEnd
  dropOptional container tableId)

/-- A line feed on either side of a mark. -/
def gap : Text := "\n\n".toList

/-- The region that the marks of a die table enclose. -/
def regionOf (t : DieTable) : Region := ⟨Number.writeNat t.die, gap ++ t.block ++ gap⟩

/-- What the second go finds for a piece of the narrative. -/
def regionPieces : Piece DieTable → List (Piece Region)
  | .plain c => [.plain c]
  | .found t => gap.map .plain ++ .found (regionOf t) :: gap.map .plain

/-- A die table between its marks is read as one region. -/
theorem take?_tagged {t : DieTable} (hbrace : '\x7b' ∉ t.block) (rest : Text) :
    take? (openMark t.die ++ (gap ++ t.block ++ gap) ++ closeMark ++ (gap ++ rest))
      = some (regionOf t, gap ++ rest) := by
  have hopening : dropOptional paragraph
      (openMark t.die ++ (gap ++ t.block ++ gap) ++ closeMark ++ (gap ++ rest))
      = opening ++ (Number.writeNat t.die ++ (openingEnd
          ++ ((gap ++ t.block ++ gap) ++ (closing ++ (gap ++ rest))))) := by
    have hshape : openMark t.die ++ (gap ++ t.block ++ gap) ++ closeMark ++ (gap ++ rest)
        = opening ++ (Number.writeNat t.die ++ (openingEnd
            ++ ((gap ++ t.block ++ gap) ++ (closing ++ (gap ++ rest))))) := by
      show opening ++ Number.writeNat t.die ++ openingEnd ++ (gap ++ t.block ++ gap) ++ closing
        ++ (gap ++ rest) = _
      simp only [List.append_assoc]
    rw [hshape]
    exact TableRegion.dropOptional_of_ne (by decide) _ _
  have hbody : dropOptional paragraphEnd ((gap ++ t.block ++ gap) ++ (closing ++ (gap ++ rest)))
      = (gap ++ t.block ++ gap) ++ (closing ++ (gap ++ rest)) :=
    TableRegion.dropOptional_of_ne (by decide) _ _
  have hno : '\x7b' ∉ gap ++ t.block ++ gap := by
    have hgap : '\x7b' ∉ gap := by decide
    simp [hgap, hbrace]
  have hend : TableRegion.dropOptionalEnd paragraph (gap ++ t.block ++ gap)
      = gap ++ t.block ++ gap := by
    have hlast : gap ++ t.block ++ gap = (gap ++ t.block ++ ['\n']) ++ ['\n'] := by
      simp [gap]
    rw [hlast]
    exact TableRegion.dropOptionalEnd_of_ne (by decide) ['<', 'p'] _
  rw [TableRegion.take?_eq hopening (Number.writeNat_ne_nil _)
    (fun c hc => Number.isDigit_of_mem_writeNat hc) hbody hno, hend]
  have hrest : dropOptional paragraphEnd (gap ++ rest) = gap ++ rest :=
    TableRegion.dropOptional_of_ne (by decide) _ _
  rw [hrest]
  rfl

/-- Line feeds are passed over. -/
theorem scan_gap (t : Text) : scan recognise (gap ++ t) = gap.map .plain ++ scan recognise t :=
  Text.scan_passed_all TableRegion.forgets_recognise t fun c hc t => by
    have hc : c = '\n' := by simpa [gap] using hc
    subst hc
    rw [recognise, TableRegion.take?_of_ne (by decide) (by decide)]
    rfl

theorem scan_tagged {t : DieTable} (hbrace : '\x7b' ∉ t.block) (rest : Text) :
    scan recognise (tagged t ++ rest) = regionPieces (.found t) ++ scan recognise rest := by
  have hshape : tagged t ++ rest
      = gap ++ (openMark t.die ++ (gap ++ t.block ++ gap) ++ closeMark ++ (gap ++ rest)) := by
    show gap ++ openMark t.die ++ gap ++ t.block ++ gap ++ closeMark ++ gap ++ rest = _
    simp only [List.append_assoc]
  have hne : openMark t.die ++ (gap ++ t.block ++ gap) ++ closeMark ≠ [] :=
    List.cons_ne_nil '\x7b' _
  rw [hshape, scan_gap, TableRegion.scan_region hne (take?_tagged hbrace rest), scan_gap]
  simp [regionPieces]

/-- No brace begins what is left of a tagged narrative: a mark comes after a line feed. -/
theorem render_tagged_ne {ps : List (Piece DieTable)}
    (hbrace : '\x7b' ∉ Piece.render DieTable.block ps) (rest : Text) :
    Piece.render tagged ps ≠ '\x7b' :: rest := by
  cases ps with
  | nil => exact (List.cons_ne_nil _ _).symm
  | cons p ps =>
      cases p with
      | plain c =>
          intro he
          injection he with hc _
          exact hbrace (by rw [hc]; exact List.mem_cons_self ..)
      | found t =>
          intro he
          injection he with hc _
          exact absurd hc (by decide)

/-- No paragraph tag of the narrative stands right before a mark. -/
theorem render_tagged_ne_paragraph {ps : List (Piece DieTable)}
    (hbrace : '\x7b' ∉ Piece.render DieTable.block ps) (rest : Text) :
    Piece.render tagged ps ≠ 'p' :: '>' :: '\x7b' :: rest := by
  intro he
  -- the first two characters are passed, for a mark would begin with a line feed
  cases ps with
  | nil => exact absurd he.symm (List.cons_ne_nil _ _)
  | cons p ps =>
      cases p with
      | found t => injection he with hc _; exact absurd hc (by decide)
      | plain c =>
          injection he with _ he
          cases ps with
          | nil => exact absurd he.symm (List.cons_ne_nil _ _)
          | cons p ps =>
              cases p with
              | found t => injection he with hc _; exact absurd hc (by decide)
              | plain d =>
                  injection he with _ he
                  refine render_tagged_ne (fun hm => hbrace ?_) rest he
                  exact List.mem_cons_of_mem c (List.mem_cons_of_mem d hm)

/-- **The second go finds exactly the tables that were marked.** -/
theorem scan_render_tagged {ps : List (Piece DieTable)}
    (hbrace : '\x7b' ∉ Piece.render DieTable.block ps) :
    scan recognise (Piece.render tagged ps) = ps.flatMap regionPieces := by
  induction ps with
  | nil => rfl
  | cons p ps ih =>
      cases p with
      | plain c =>
          have hps : '\x7b' ∉ Piece.render DieTable.block ps :=
            fun hm => hbrace (List.mem_cons_of_mem c hm)
          have hc : c ≠ '\x7b' := fun he => hbrace (by rw [he]; exact List.mem_cons_self ..)
          have hnone : take? (c :: Piece.render tagged ps) = none := by
            by_cases hangle : c = '<'
            · rw [hangle]
              exact TableRegion.take?_angle (render_tagged_ne_paragraph hps)
            · exact TableRegion.take?_of_ne hc hangle _
          show scan recognise (c :: Piece.render tagged ps) = _
          rw [TableRegion.scan_of_take?_eq_none hnone, ih hps]
          rfl
      | found t =>
          have hparts : '\x7b' ∉ t.block ++ Piece.render DieTable.block ps := hbrace
          rw [List.mem_append, not_or] at hparts
          show scan recognise (tagged t ++ Piece.render tagged ps) = _
          rw [scan_tagged hparts.1, ih hparts.2]
          rfl

/-- The container of the k-th die table, between its line feeds. -/
def contained (idStem : Text) (k : Nat) (t : DieTable) : Text :=
  gap ++ container (tableId idStem k) ⟨Number.writeNat t.die, t.block⟩ ++ gap

/-- The line feeds inside of the marks are trimmed off. -/
theorem container_regionOf (id : Text) (t : DieTable) :
    container id (regionOf t) = container id ⟨Number.writeNat t.die, t.block⟩ := by
  have hgap : ∀ c ∈ gap, Text.isBlank c = true := List.all_eq_true.mp rfl
  have htrim : Text.trim (gap ++ t.block ++ gap) = Text.trim t.block := by
    rw [Text.trim_append_blanks hgap, Text.trim_blanks_append hgap]
  exact TableRegion.container_congr id rfl htrim

theorem renderFrom_regionPieces (idStem : Text) (k : Nat) (ps : List (Piece DieTable)) :
    Piece.renderFrom (fun k r => container (tableId idStem k) r) k (ps.flatMap regionPieces)
      = Piece.renderFrom (contained idStem) k ps := by
  induction ps generalizing k with
  | nil => rfl
  | cons p ps ih =>
      rw [List.flatMap_cons]
      cases p with
      | plain c =>
          show c :: Piece.renderFrom _ k (ps.flatMap regionPieces) = _
          rw [ih]
          rfl
      | found t =>
          rw [regionPieces, List.append_assoc, Piece.renderFrom_plain, List.cons_append,
            Piece.renderFrom, Piece.renderFrom_plain, ih, container_regionOf, Piece.renderFrom,
            contained]
          simp only [List.append_assoc]

/--
**Tables make the round trip.**

Cut a narrative without braces into its die tables and the characters outside of
them. Tagging puts marks around the tables, and the containers take the place of the
marks: the k-th table stands in the container with number k, with the die of its own
header, and every other character stays where it is.
-/
theorem materialize_tagTables {narrative : Text} (hbrace : '\x7b' ∉ narrative)
    (hdice : Table.ReadableDice narrative) (idStem : Text) :
    ∃ ps : List (Piece DieTable),
      Piece.render DieTable.block ps = narrative
      ∧ Piece.findings ps = (segments narrative).filterMap Segment.dieTable?
      ∧ tagTables narrative = .ok (Piece.render tagged ps)
      ∧ TableRegion.materialize (Piece.render tagged ps) idStem
          = Piece.renderFrom (contained idStem) 1 ps := by
  refine ⟨pieces narrative, render_pieces narrative, findings_pieces narrative,
    tagTables_eq hdice, ?_⟩
  rw [TableRegion.materialize, scan_render_tagged, renderFrom_regionPieces]
  rw [render_pieces]
  exact hbrace

/-- Two tables, of which the first names a die in its header and the second only in a row. -/
def pitAndLadder : Text :=
  "<p>\n| d6 | Pit |\n|---|---|\n| 1-6 | d8 |\n\n|Ladder|\n|-|\n|d4|\r".toList

theorem materialize_tagTables_pit :
    '\x7b' ∉ pitAndLadder ∧ Table.ReadableDice pitAndLadder
      ∧ ∃ ps : List (Piece DieTable),
        Piece.render DieTable.block ps = pitAndLadder
        ∧ Piece.findings ps = [⟨6, "| d6 | Pit |\n|---|---|\n| 1-6 | d8 |".toList⟩]
        ∧ TableRegion.materialize (Piece.render tagged ps) "a&b".toList
          = Piece.renderFrom (contained "a&b".toList) 1 ps := by
  have hbrace : '\x7b' ∉ pitAndLadder := by decide
  have hdice : Table.ReadableDice pitAndLadder := Table.readableDice_of_length (by decide)
  obtain ⟨ps, hps, hfound, _, hmaterialize⟩ :=
    materialize_tagTables hbrace hdice "a&b".toList
  have hsegments : (segments pitAndLadder).filterMap Segment.dieTable?
      = [⟨6, "| d6 | Pit |\n|---|---|\n| 1-6 | d8 |".toList⟩] := by decide +kernel
  exact ⟨hbrace, hdice, ps, hps, hfound.trans hsegments, hmaterialize⟩

end Gamebook.TableBlock
