import Gamebook.Annotation.TableBlock
import Gamebook.Proofs.Fallible
import Gamebook.Proofs.Table.DieSize
import Gamebook.Proofs.Text.Scan

/-!
# A narrative between its tables

`tagTables` cuts a narrative into lines, gathers the lines of a table, and puts lines
and tables together again with marks around some of the tables. Here the same
narrative is cut into characters and *die tables*: the tables that name a die, which
are the ones that get marks. Three facts carry everything that is said about tables
later.

* `render_pieces`: nothing of the narrative is lost between the pieces.
* `tagTables_eq`: tagging writes marks around the die tables and nothing else.
* `findings_pieces`: the die tables are the blocks whose header names a die.
-/

namespace Gamebook.TableBlock

open Text (Piece)

/-! ## Putting lines together -/

theorem joinLines_cons (l : Text) {ls : List Text} (h : ls ≠ []) :
    joinLines (l :: ls) = l ++ '\n' :: joinLines ls := by
  cases ls with
  | nil => exact absurd rfl h
  | cons l' ls =>
      show l ++ ['\n'] ++ joinLines (l' :: ls) = _
      rw [List.append_assoc]
      rfl

theorem joinLines_append {ls ms : List Text} (hl : ls ≠ []) (hm : ms ≠ []) :
    joinLines (ls ++ ms) = joinLines ls ++ '\n' :: joinLines ms := by
  induction ls with
  | nil => exact absurd rfl hl
  | cons l ls ih =>
      by_cases hls : ls = []
      · subst hls
        exact joinLines_cons l hm
      · rw [List.cons_append, joinLines_cons l (by simp [hls]), ih hls, joinLines_cons l hls,
          List.append_assoc, List.cons_append]

/-- Cutting at line feeds and joining with line feeds gives the text back. -/
theorem joinLines_splitOn (t : Text) : joinLines (Text.splitOn '\n' t) = t := by
  induction t with
  | nil => rfl
  | cons c t ih =>
      cases hs : Text.splitOn '\n' t with
      | nil => exact absurd hs (Text.splitBy_ne_nil _ t)
      | cons piece pieces =>
          rw [hs] at ih
          have hcons : Text.splitOn '\n' (c :: t)
              = if c == '\n' then [] :: piece :: pieces else (c :: piece) :: pieces := by
            rw [Text.splitOn] at hs ⊢
            rw [Text.splitBy, hs]
          rw [hcons]
          -- a line feed begins a line of its own, any other character the first line
          split
          · rename_i hc
            rw [joinLines_cons [] (by simp), ih, beq_iff_eq.mp hc]
            rfl
          · rw [← ih]
            cases pieces with
            | nil => rfl
            | cons p ps =>
                rw [joinLines_cons (c :: piece) (List.cons_ne_nil p ps),
                  joinLines_cons piece (List.cons_ne_nil p ps)]
                rfl

/-! ## Segments -/

/-- The lines of a segment. -/
def Segment.lines : Segment → List Text
  | .line t => [t]
  | .block ls => ls

/-- No line is lost between the segments. -/
theorem flatMap_segmentsFrom (skip : Nat) (ls : List Text) :
    (segmentsFrom skip ls).flatMap Segment.lines = ls.drop skip := by
  induction ls generalizing skip with
  | nil => cases skip <;> simp [segmentsFrom]
  | cons l ls ih =>
      cases skip with
      | succ skip => rw [segmentsFrom, ih, List.drop_succ_cons]
      | zero =>
          rw [segmentsFrom]
          cases blockLength (l :: ls) with
          | zero => rw [List.flatMap_cons, ih]; rfl
          | succ n =>
              -- the lines that the block has taken are those that are skipped behind it
              rw [List.flatMap_cons, ih]
              exact List.take_append_drop (n + 1) (l :: ls)

theorem isRow_of_blockLength {l : Text} {ls : List Text} (h : blockLength (l :: ls) ≠ 0) :
    isRow l = true := by
  unfold blockLength at h
  split at h
  · rename_i heq
    injection heq with h1 _
    subst h1
    split at h
    · rename_i hrows
      rw [Bool.and_eq_true, Bool.and_eq_true] at hrows
      exact hrows.1.1
    · exact absurd rfl h
  · exact absurd rfl h

/-- The lines of a block begin with a row. -/
theorem block_of_mem_segmentsFrom {skip : Nat} {ls block : List Text}
    (h : .block block ∈ segmentsFrom skip ls) : ∃ l rest, block = l :: rest ∧ isRow l = true := by
  induction ls generalizing skip with
  | nil => cases skip <;> simp [segmentsFrom] at h
  | cons l ls ih =>
      cases skip with
      | succ skip => exact ih h
      | zero =>
          rw [segmentsFrom] at h
          cases hn : blockLength (l :: ls) with
          | zero =>
              rw [hn] at h
              rcases List.mem_cons.mp h with h | h
              · exact absurd h (by simp)
              · exact ih h
          | succ n =>
              rw [hn] at h
              rcases List.mem_cons.mp h with h | h
              · injection h with h
                exact ⟨l, ls.take n, h, isRow_of_blockLength (by rw [hn]; exact Nat.succ_ne_zero n)⟩
              · exact ih h

/-- The text of a segment, in which the lines of a block are joined. -/
def Segment.text : Segment → Text
  | .line t => t
  | .block ls => joinLines ls

theorem Segment.joinLines_lines (s : Segment) : joinLines s.lines = s.text := by
  cases s <;> rfl

theorem joinLines_segments_text {ss : List Segment} (h : ∀ s ∈ ss, s.lines ≠ []) :
    joinLines (ss.map Segment.text) = joinLines (ss.flatMap Segment.lines) := by
  induction ss with
  | nil => rfl
  | cons s ss ih =>
      have hs := h s (by simp)
      rw [List.map_cons, List.flatMap_cons]
      cases ss with
      | nil =>
          show s.text = joinLines (s.lines ++ [])
          rw [List.append_nil, s.joinLines_lines]
      | cons s' ss =>
          have hne : (s' :: ss).flatMap Segment.lines ≠ [] := by
            rw [List.flatMap_cons]
            exact List.append_ne_nil_of_left_ne_nil (h s' (by simp)) _
          rw [joinLines_cons _ (by simp), joinLines_append hs hne, s.joinLines_lines,
            ih fun x hx => h x (by simp [hx])]

theorem lines_ne_nil_of_mem_segments {narrative : Text} {s : Segment}
    (h : s ∈ segments narrative) : s.lines ≠ [] := by
  cases s with
  | line t => exact List.cons_ne_nil t []
  | block ls =>
      obtain ⟨l, rest, hls, _⟩ := block_of_mem_segmentsFrom h
      rw [hls]
      exact List.cons_ne_nil l rest

/-- The segments of a narrative, joined by line feeds, are the narrative. -/
theorem joinLines_segments (narrative : Text) :
    joinLines ((segments narrative).map Segment.text) = narrative := by
  rw [joinLines_segments_text fun s hs => lines_ne_nil_of_mem_segments hs, segments,
    flatMap_segmentsFrom, List.drop_zero, joinLines_splitOn]

/-- A segment stands in the narrative as it is. -/
theorem text_infix_joinLines {ss : List Segment} {s : Segment} (h : s ∈ ss) :
    ∃ u v, joinLines (ss.map Segment.text) = u ++ (s.text ++ v) := by
  induction ss with
  | nil => exact absurd h (by simp)
  | cons s' ss ih =>
      rw [List.map_cons]
      rcases List.mem_cons.mp h with h | h
      · subst h
        cases ss with
        | nil => exact ⟨[], [], by simp [joinLines, Text.joinWith]⟩
        | cons s'' ss =>
            rw [joinLines_cons _ (by simp)]
            exact ⟨[], _, rfl⟩
      · obtain ⟨u, v, huv⟩ := ih h
        have hne : ss.map Segment.text ≠ [] := by
          cases ss with
          | nil => exact absurd h (by simp)
          | cons _ _ => simp
        rw [joinLines_cons _ hne, huv]
        exact ⟨s'.text ++ '\n' :: u, v, by simp⟩

/-! ## The header of a block -/

/-- The header is read up to the first line boundary. -/
theorem headerOf_eq_takeWhile (block : Text) :
    headerOf block = block.takeWhile fun c => !Text.isLineBreak c := by
  unfold headerOf
  induction block using Text.lines.induct with
  | case1 => rfl
  | case2 t _ => rfl
  | case3 c t hcrlf hbreak _ =>
      rw [Text.lines, if_pos hbreak, List.takeWhile_cons_of_neg (by simp [hbreak])]
      · rfl
      · exact hcrlf
  | case4 c t hcrlf hbreak ih =>
      rw [Text.lines, if_neg hbreak, List.takeWhile_cons_of_pos (by simpa using hbreak), ← ih]
      · cases Text.lines t <;> rfl
      · exact hcrlf

theorem headerOf_prefix (block : Text) : ∃ rest, block = headerOf block ++ rest :=
  ⟨block.dropWhile fun c => !Text.isLineBreak c, by
    rw [headerOf_eq_takeWhile, List.takeWhile_append_dropWhile]⟩

theorem head?_of_isRow {l : Text} (h : isRow l = true) : l.head? = some '|' := by
  have hprefix : Text.dropEndWhile isTabOrSpace (dropReturn l) <+: l := by
    rw [Text.dropEndWhile_eq_rdropWhile]
    refine (List.rdropWhile_prefix _ _).trans ?_
    unfold dropReturn
    split
    · exact List.dropLast_prefix l
    · exact List.prefix_refl l
  unfold isRow isFramed at h
  simp only [Bool.and_eq_true, beq_iff_eq] at h
  obtain ⟨rest, hl⟩ := hprefix
  rw [← hl]
  cases hd : Text.dropEndWhile isTabOrSpace (dropReturn l) with
  | nil => rw [hd] at h; exact absurd h.1.1.1 (by simp)
  | cons c t => rw [hd] at h; simpa using h.1.1.1

/-- A block begins with a pipe, so its header names no die before its second character. -/
theorem head?_joinLines_of_block {narrative : Text} {ls : List Text}
    (h : .block ls ∈ segments narrative) : (joinLines ls).head? = some '|' := by
  obtain ⟨l, rest, rfl, hrow⟩ := block_of_mem_segmentsFrom h
  have hl := head?_of_isRow hrow
  cases rest with
  | nil => exact hl
  | cons l' rest =>
      rw [joinLines_cons l (List.cons_ne_nil l' rest), List.head?_append, hl]
      rfl

/-- **A die of a header is a die of the narrative.** -/
theorem isDieNumber_of_header {narrative : Text} {ls : List Text} {ds : Text}
    (h : .block ls ∈ segments narrative)
    (hds : Table.dieDigits? (headerOf (joinLines ls)) = some ds) :
    Table.IsDieNumber narrative ds := by
  obtain ⟨u, d, v, hheader, hd, hlast, hne, hdigits⟩ :=
    Table.isDieNumber_of_dieDigits? hds
  obtain ⟨rest, hblock⟩ := headerOf_prefix (joinLines ls)
  obtain ⟨a, b, hnarrative⟩ := text_infix_joinLines h
  rw [joinLines_segments] at hnarrative
  -- with something in front of it, the die has the same neighbour in header and narrative
  have hu : u ≠ [] := by
    rintro rfl
    have hpipe := head?_joinLines_of_block h
    rw [hblock, hheader] at hpipe
    injection hpipe with hpipe
    subst hpipe
    exact absurd hd (by decide)
  refine ⟨a ++ u, d, v ++ (rest ++ b), ?_, hd, ?_, hne, hdigits⟩
  · show narrative = _
    rw [hnarrative]
    show a ++ (joinLines ls ++ b) = _
    rw [hblock, hheader]
    simp
  · rw [List.getLast?_append_of_ne_nil _ hu]
    exact hlast

/-- The size of the die that the header of a block names, if it names one. -/
def dieOf? (ls : List Text) : Option Nat :=
  (Table.dieDigits? (headerOf (joinLines ls))).map Text.digitsValue

theorem dieSize?_headerOf {narrative : Text} {ls : List Text}
    (hdice : Table.ReadableDice narrative) (h : .block ls ∈ segments narrative) :
    Table.dieSize? (headerOf (joinLines ls)) = .ok (dieOf? ls) := by
  rw [dieOf?]
  cases hds : Table.dieDigits? (headerOf (joinLines ls)) with
  | none => rw [Table.dieSize?, hds]; rfl
  | some ds => exact Table.dieSize?_of_digits hds (hdice ds (isDieNumber_of_header h hds))

/-! ## The pieces of a narrative -/

/-- A table that names a die. -/
structure DieTable where
  die : Nat
  block : Text
deriving DecidableEq

/-- The die table that a segment is. -/
def Segment.dieTable? : Segment → Option DieTable
  | .line _ => none
  | .block ls => (dieOf? ls).map fun die => ⟨die, joinLines ls⟩

/-- A segment as pieces: a die table is one piece, all other text is passed. -/
def Segment.pieces (s : Segment) : List (Piece DieTable) :=
  match s.dieTable? with
  | some t => [.found t]
  | none => s.text.map .plain

section

variable {α : Type} (cut : Segment → List (Piece α))

/-- The pieces of segments, with the line feeds between them, where `cut` gives those of one. -/
def piecesBy : List Segment → List (Piece α)
  | [] => []
  | [s] => cut s
  | s :: s' :: ss => cut s ++ .plain '\n' :: piecesBy (s' :: ss)

theorem render_piecesBy (f : α → Text) (ss : List Segment) :
    Piece.render f (piecesBy cut ss) = joinLines (ss.map fun s => Piece.render f (cut s)) := by
  induction ss with
  | nil => rfl
  | cons s ss ih =>
      cases ss with
      | nil => rfl
      | cons s' ss =>
          rw [piecesBy, Piece.render_append, List.map_cons, joinLines_cons _ (by simp), ← ih]
          rfl

theorem findings_piecesBy (ss : List Segment) :
    Piece.findings (piecesBy cut ss) = ss.flatMap fun s => Piece.findings (cut s) := by
  induction ss with
  | nil => rfl
  | cons s ss ih =>
      cases ss with
      | nil => exact (List.append_nil _).symm
      | cons s' ss =>
          rw [piecesBy, Piece.findings_append, List.flatMap_cons, ← ih]
          rfl

end

/-- The die tables of a narrative, and the characters outside of them. -/
def pieces (narrative : Text) : List (Piece DieTable) :=
  piecesBy Segment.pieces (segments narrative)

/-- What tagging makes of a die table. -/
def tagged (t : DieTable) : Text :=
  "\n\n".toList ++ openMark t.die ++ "\n\n".toList ++ t.block ++ "\n\n".toList ++ closeMark ++
    "\n\n".toList

theorem findings_segment_pieces (s : Segment) : Piece.findings s.pieces = s.dieTable?.toList := by
  unfold Segment.pieces
  cases s.dieTable? with
  | none => exact Piece.findings_plain s.text
  | some t => rfl

/-- The die tables are the blocks whose header names a die, in order. -/
theorem findings_pieces (narrative : Text) :
    Piece.findings (pieces narrative) = (segments narrative).filterMap Segment.dieTable? := by
  rw [pieces, findings_piecesBy, List.filterMap_eq_flatMap_toList]
  simp only [findings_segment_pieces]

theorem render_segment_pieces (s : Segment) : Piece.render DieTable.block s.pieces = s.text := by
  unfold Segment.pieces
  cases h : s.dieTable? with
  | none => exact Piece.render_plain _ s.text
  | some t =>
      cases s with
      | line _ => exact absurd h (by simp [Segment.dieTable?])
      | block ls =>
          rw [Segment.dieTable?, Option.map_eq_some_iff] at h
          obtain ⟨die, _, rfl⟩ := h
          exact List.append_nil _

/-- **No character of the narrative is lost between its pieces.** -/
theorem render_pieces (narrative : Text) :
    Piece.render DieTable.block (pieces narrative) = narrative := by
  rw [pieces, render_piecesBy]
  simp only [render_segment_pieces]
  exact joinLines_segments narrative

theorem tagSegment_eq {narrative : Text} {s : Segment} (hdice : Table.ReadableDice narrative)
    (h : s ∈ segments narrative) : tagSegment s = .ok (Piece.render tagged s.pieces) := by
  cases s with
  | line t =>
      rw [tagSegment]
      exact congrArg Except.ok (Piece.render_plain tagged t).symm
  | block ls =>
      rw [tagSegment, tagBlock, dieSize?_headerOf hdice h, Segment.pieces, Segment.dieTable?]
      cases dieOf? ls with
      | none =>
          simp only [Option.map_none, Piece.render_plain]
          rfl
      | some die => exact congrArg Except.ok (List.append_nil _).symm

/-- Each segment is tagged by itself. -/
theorem tagTables_eq_map (narrative : Text) :
    tagTables narrative = ((segments narrative).mapM tagSegment).map joinLines := by
  rw [tagTables]
  cases (segments narrative).mapM tagSegment <;> rfl

/-- **Tagging writes marks around the die tables and nothing else.** -/
theorem tagTables_eq {narrative : Text} (hdice : Table.ReadableDice narrative) :
    tagTables narrative = .ok (Piece.render tagged (pieces narrative)) := by
  rw [tagTables_eq_map, Fallible.mapM_ok fun s hs => tagSegment_eq hdice hs, pieces,
    render_piecesBy]
  rfl

/-! ## Dice that are too long -/

/-- A segment is a table whose header names a die with these digits. -/
def Segment.NamesDie (ds : Text) : Segment → Prop
  | .line _ => False
  | .block ls => Table.dieDigits? (headerOf (joinLines ls)) = some ds

/-- The header of a table of the narrative names a die with these digits. -/
def NamesDie (narrative ds : Text) : Prop := ∃ s ∈ segments narrative, s.NamesDie ds

theorem tagBlock_eq_error_iff {ls : List Text} {e : NumeralError} :
    tagBlock ls = .error e ↔ Table.dieSize? (headerOf (joinLines ls)) = .error e := by
  rw [tagBlock]
  refine Fallible.bind_eq_error_iff_of_ok fun size => ?_
  cases size <;> exact ⟨_, rfl⟩

/-- A segment cannot be tagged exactly if it is a table whose die is too long. -/
theorem tagSegment_eq_error_iff {s : Segment} {e : NumeralError} :
    tagSegment s = .error e
      ↔ ∃ ds, s.NamesDie ds ∧ digitLimit < ds.length ∧ e = .tooLongToRead ds.length := by
  cases s with
  | line t => simp [tagSegment, Segment.NamesDie]
  | block ls =>
      show tagBlock ls = .error e ↔ _
      rw [tagBlock_eq_error_iff, Table.dieSize?_eq_error_iff]
      rfl

/-- Tagging fails for a die that is too long. -/
theorem tagTables_eq_error {narrative : Text} {e : NumeralError}
    (h : tagTables narrative = .error e) :
    ∃ ds, NamesDie narrative ds ∧ digitLimit < ds.length ∧ e = .tooLongToRead ds.length := by
  rw [tagTables_eq_map, Fallible.map_eq_error_iff] at h
  obtain ⟨s, hs, hsegment⟩ := Fallible.mapM_eq_error h
  obtain ⟨ds, hds, hlong⟩ := tagSegment_eq_error_iff.mp hsegment
  exact ⟨ds, ⟨s, hs, hds⟩, hlong⟩

/-- **Tagging succeeds exactly if every die that a header names can be read.** -/
theorem exists_tagTables_iff {narrative : Text} :
    (∃ tagged, tagTables narrative = .ok tagged)
      ↔ ∀ ds, NamesDie narrative ds → ds.length ≤ digitLimit := by
  rw [tagTables_eq_map, Fallible.exists_map_iff, Fallible.exists_mapM_iff]
  constructor
  · rintro h ds ⟨s, hs, hds⟩
    exact (Number.exists_ok_iff_short fun e => tagSegment_eq_error_iff).mp (h s hs) ds hds
  · intro h s hs
    exact (Number.exists_ok_iff_short fun e => tagSegment_eq_error_iff).mpr
      fun ds hds => h ds ⟨s, hs, hds⟩

/-- A narrative without pipes has no table. -/
theorem tagTables_eq_self {narrative : Text} (h : '|' ∉ narrative) :
    tagTables narrative = .ok narrative := by
  have hline : ∀ s ∈ segments narrative, tagSegment s = .ok s.text := by
    intro s hs
    cases s with
    | line t => rfl
    | block ls =>
        obtain ⟨u, v, hnarrative⟩ := text_infix_joinLines hs
        rw [joinLines_segments] at hnarrative
        have hpipe : '|' ∈ joinLines ls := List.mem_of_head? (head?_joinLines_of_block hs)
        refine absurd ?_ h
        rw [hnarrative]
        exact List.mem_append_right u (List.mem_append_left v hpipe)
  have hsegments := joinLines_segments narrative
  rw [tagTables_eq_map, Fallible.mapM_ok hline]
  exact congrArg Except.ok hsegments

end Gamebook.TableBlock
