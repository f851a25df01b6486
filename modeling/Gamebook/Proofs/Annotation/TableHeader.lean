import Gamebook.Proofs.Annotation.TableScan
import Gamebook.Proofs.Table.FirstDie

/-!
# The header that decides about a table

Whether a table is tagged, and with which die, is read off its header. The pattern of a table
ends its header at a line feed; `headerOf` ends it at any character that counts as a line
boundary, and some of those can stand inside of a row. So what decides is only the part of the
header row before the first of them (`headerOf_eq`). `tagTables_by_header` says what comes of it.
-/

namespace Gamebook.TableBlock

open Text (Piece scan)

/-! ## Header rows -/

/-- The header row of a table: its first line, without what ends the line. -/
def headerRow (block : Text) : Text := dropReturn (block.takeWhile (· != '\n'))

/-- What stands in a row before the first character that counts as a line boundary. -/
def beforeBreak (row : Text) : Text := row.takeWhile fun c => !Text.isLineBreak c

/-- **The header that is read is the header row up to the first line boundary.** -/
theorem headerOf_eq (block : Text) : headerOf block = beforeBreak (headerRow block) := by
  have hline := dropReturn_append_returnOf (block.takeWhile (· != '\n'))
  have hblock : block = headerRow block ++ (returnOf (block.takeWhile (· != '\n'))
      ++ block.dropWhile (· != '\n')) := by
    rw [← List.append_assoc, headerRow, hline, List.takeWhile_append_dropWhile]
  rw [headerOf_eq_takeWhile, beforeBreak]
  conv_lhs => rw [hblock]
  refine Text.takeWhile_append_of_stop fun c hc => ?_
  -- behind the header row stands a carriage return or a line feed
  rcases returnOf_cases (block.takeWhile (· != '\n')) with hno | hreturn
  · rw [hno, List.nil_append] at hc
    have hstop := List.head?_dropWhile_not (· != '\n') block
    rw [Option.mem_def.mp hc] at hstop
    obtain rfl : c = '\n' := by simpa using hstop
    rfl
  · rw [hreturn] at hc
    obtain rfl := Option.some.inj hc
    rfl

/-! ## The tables that are found -/

/-- A table begins with a row, which is one of the lines that were read, and has more lines. -/
theorem LineScan.header_of_mem {ls block : List Text} {ss : List Segment} (h : LineScan ls ss)
    (hblock : .block block ∈ ss) :
    ∃ header more, block = header :: more ∧ more ≠ [] ∧ IsRow header ∧ header ∈ ls := by
  induction h with
  | nil => exact absurd hblock (by simp)
  | block hheader _ _ _ _ _ ih =>
      rcases List.mem_cons.mp hblock with he | hlater
      · obtain rfl := Segment.block.inj he
        exact ⟨_, _, rfl, by simp, hheader, by simp⟩
      · obtain ⟨header, more, hmore, hne, hrow, hmem⟩ := ih hlater
        exact ⟨header, more, hmore, hne, hrow, by simp [hmem]⟩
  | line _ _ ih =>
      rcases List.mem_cons.mp hblock with he | hlater
      · exact absurd he (by simp)
      · obtain ⟨header, more, hmore, hne, hrow, hmem⟩ := ih hlater
        exact ⟨header, more, hmore, hne, hrow, by simp [hmem]⟩

/-- What is found are the tables among the segments. -/
theorem mem_findings_blockPieces {ss : List Segment} {block : Text} :
    block ∈ Piece.findings (blockPieces ss) ↔ ∃ ls, .block ls ∈ ss ∧ block = joinLines ls := by
  have hone (s : Segment) : block ∈ Piece.findings s.wholePieces
      ↔ ∃ ls, s = .block ls ∧ block = joinLines ls := by
    cases s with
    | line t => simp [Segment.wholePieces]
    | block ls => simp [Segment.wholePieces, Piece.findings]
  rw [blockPieces, findings_piecesBy, List.mem_flatMap]
  constructor
  · rintro ⟨s, hs, hblock⟩
    obtain ⟨ls, rfl, rfl⟩ := (hone s).mp hblock
    exact ⟨ls, hs, rfl⟩
  · rintro ⟨ls, hls, rfl⟩
    exact ⟨_, hls, (hone _).mpr ⟨ls, rfl, rfl⟩⟩

/-- The header row of a table is a row, and behind it stands the end of a line. -/
theorem header_of_found {narrative block : Text}
    (h : block ∈ Piece.findings (scan tablePattern.recognise narrative)) :
    Framed (fun u => ∀ c ∈ u, isInLine c = true) (headerRow block)
      ∧ ∃ more, block = headerRow block ++ '\n' :: more
        ∨ block = headerRow block ++ '\r' :: '\n' :: more := by
  rw [scan_tablePattern, mem_findings_blockPieces] at h
  obtain ⟨ls, hls, rfl⟩ := h
  obtain ⟨header, more, rfl, hmore, hrow, hmem⟩ := (lineScan_segments narrative).header_of_mem hls
  have hfeed : '\n' ∉ header := fun hm => absurd (Text.not_of_mem_splitBy hmem hm) (by decide)
  have hline := dropReturn_append_returnOf header
  rw [headerRow, joinLines_eq_append, takeWhile_line hfeed (head?_behind more),
    ← joinLines_eq_append]
  refine ⟨(isRow_iff_framed hfeed).mp (isRow_iff.mpr hrow), joinLines more, ?_⟩
  rw [joinLines_cons header hmore, ← dropReturn_append]
  rcases returnOf_cases header with hno | hreturn
  · rw [hno]
    exact .inl rfl
  · rw [hreturn]
    exact .inr rfl

/-! ## Which tables are tagged -/

theorem written_of_die {block ds : Text}
    (h : Table.IsFirstDie (beforeBreak (headerRow block)) ds) :
    written block = tagged ⟨Text.digitsValue ds, block⟩ := by
  rw [written, headerOf_eq, Table.dieDigits?_eq_some_iff.mpr h]
  rfl

theorem written_of_no_die {block : Text}
    (h : ∀ ds, ¬Table.IsFirstDie (beforeBreak (headerRow block)) ds) : written block = block := by
  rw [written, headerOf_eq, Table.dieDigits?_eq_none_iff.mpr h]
  rfl

theorem isDigit_of_isLineBreak {c : Char} (h : Text.isLineBreak c = true) :
    Text.isDigit c = false := by
  refine Bool.eq_false_iff.mpr fun hdigit => ?_
  have hblank := Text.isBlank_of_isDigit hdigit
  rw [Text.isBlank] at hblank
  rw [Text.isLineBreak] at h
  generalize c.toNat = n at hblank h
  simp at hblank h
  omega

/-- The first die before a line boundary is the first die of the row. -/
theorem isFirstDie_of_beforeBreak {row ds : Text} (h : Table.IsFirstDie (beforeBreak row) ds) :
    Table.IsFirstDie row ds := by
  have hrow := @List.takeWhile_append_dropWhile _ (fun c => !Text.isLineBreak c) row
  rw [← hrow]
  refine h.append fun c hc => ?_
  have hstop := List.head?_dropWhile_not (fun c => !Text.isLineBreak c) row
  rw [Option.mem_def.mp hc] at hstop
  exact isDigit_of_isLineBreak (by simpa using hstop)

theorem tagged_ne (t : DieTable) : tagged t ≠ t.block := by
  intro h
  have hshape : tagged t = ['\n', '\n'] ++ openMark t.die ++ ['\n', '\n'] ++ t.block
      ++ ['\n', '\n'] ++ closeMark ++ ['\n', '\n'] := rfl
  have hlength := congrArg List.length (hshape.symm.trans h)
  simp only [List.length_append, List.length_cons] at hlength
  omega

/--
**Tables are tagged by their header rows, as far as the first line boundary in them.**

A header row is the text that the pattern of a table has taken up to the first end of a line.
If a die stands in it before any other character that counts as a line boundary, it is the first
die of the row, and the table is put between marks for that die. Otherwise the table stays as it
is. No other row has a part in this. So the first die of a header row decides about the table
exactly if it stands before such a character.
-/
theorem tagTables_by_header {narrative : Text} (hdice : Table.ReadableDice narrative) :
    tagTables narrative = .ok (Piece.render written (scan tablePattern.recognise narrative))
      ∧ ∀ block ∈ Piece.findings (scan tablePattern.recognise narrative),
        (∀ c ∈ headerRow block, isInLine c = true)
        ∧ (∃ more, block = headerRow block ++ '\n' :: more
          ∨ block = headerRow block ++ '\r' :: '\n' :: more)
        ∧ (∀ ds, Table.IsFirstDie (beforeBreak (headerRow block)) ds →
          Table.IsFirstDie (headerRow block) ds
            ∧ written block = tagged ⟨Text.digitsValue ds, block⟩)
        ∧ ((∀ ds, ¬Table.IsFirstDie (beforeBreak (headerRow block)) ds) → written block = block)
        ∧ ((∀ ds, Table.IsFirstDie (headerRow block) ds →
            written block = tagged ⟨Text.digitsValue ds, block⟩)
          ↔ ∀ ds, Table.IsFirstDie (headerRow block) ds →
            Table.IsFirstDie (beforeBreak (headerRow block)) ds) := by
  refine ⟨tagTables_eq_written hdice, fun block hblock => ?_⟩
  obtain ⟨hframed, hend⟩ := header_of_found hblock
  refine ⟨isInLine_of_framed (fun u hu => hu) hframed, hend,
    fun ds hds => ⟨isFirstDie_of_beforeBreak hds, written_of_die hds⟩, written_of_no_die, ?_⟩
  constructor
  · intro htagged ds hds
    by_contra hbehind
    -- a die that is not seen leaves the table as it is, which is never what marks make of it
    have hnone : ∀ ds', ¬Table.IsFirstDie (beforeBreak (headerRow block)) ds' := by
      intro ds' hds'
      rw [hds.unique (isFirstDie_of_beforeBreak hds')] at hbehind
      exact hbehind hds'
    have hwritten := htagged ds hds
    rw [written_of_no_die hnone] at hwritten
    exact tagged_ne _ hwritten.symm
  · intro hseen ds hds
    exact written_of_die (hseen ds hds)

/-- A table with a die in its header, and one whose only die stands in a row. -/
def findTable : Text := "| 3D8 | Find |\r\n|---|---|\n| 1 | d4 |".toList
/-- A table without a die in its header. -/
def namesTable : Text := "| Name |\n|---|\n| d4 |".toList

theorem tagTables_by_header_findAndNames :
    Table.ReadableDice (findTable ++ ("\n\n".toList ++ namesTable))
      ∧ findTable ∈ Piece.findings
        (scan tablePattern.recognise (findTable ++ ("\n\n".toList ++ namesTable)))
      ∧ namesTable ∈ Piece.findings
        (scan tablePattern.recognise (findTable ++ ("\n\n".toList ++ namesTable)))
      ∧ Table.IsFirstDie (headerRow findTable) ['8']
      ∧ written findTable = tagged ⟨8, findTable⟩ ∧ written namesTable = namesTable := by
  have hdice : Table.ReadableDice (findTable ++ ("\n\n".toList ++ namesTable)) :=
    Table.readableDice_of_length (by decide)
  have hfound : Piece.findings
      (scan tablePattern.recognise (findTable ++ ("\n\n".toList ++ namesTable)))
      = [findTable, namesTable] := by
    rw [scan_tablePattern]
    decide +kernel
  have hfind : findTable ∈ [findTable, namesTable] := List.mem_cons_self ..
  have hnames : namesTable ∈ [findTable, namesTable] :=
    List.mem_cons_of_mem findTable (List.mem_cons_self ..)
  obtain ⟨-, htables⟩ := tagTables_by_header hdice
  rw [hfound] at htables ⊢
  obtain ⟨-, -, hdie, -⟩ := htables findTable hfind
  obtain ⟨-, -, -, hno, -⟩ := htables namesTable hnames
  have hfirst : Table.IsFirstDie (beforeBreak (headerRow findTable)) ['8'] :=
    Table.dieDigits?_eq_some_iff.mp (by decide)
  have hnone : ∀ ds, ¬Table.IsFirstDie (beforeBreak (headerRow namesTable)) ds :=
    Table.dieDigits?_eq_none_iff.mp (by decide)
  exact ⟨hdice, hfind, hnames, (hdie ['8'] hfirst).1, (hdie ['8'] hfirst).2, hno hnone⟩

/-- A table whose header row names a die behind a line separator. -/
def hiddenDie : Text := "| Loot\u2028(d6) | Find |\n|---|---|\n| 1-6 | gold |".toList

/-- The die of a header row is passed over where a line separator stands before it. -/
theorem not_tagged_hiddenDie :
    Piece.findings (scan tablePattern.recognise hiddenDie) = [hiddenDie]
      ∧ Table.IsFirstDie (headerRow hiddenDie) ['6']
      ∧ tagTables hiddenDie = .ok hiddenDie ∧ tagged ⟨6, hiddenDie⟩ ≠ hiddenDie := by
  refine ⟨?_, Table.dieDigits?_eq_some_iff.mp (by decide), by decide +kernel, tagged_ne _⟩
  rw [scan_tablePattern]
  decide +kernel

end Gamebook.TableBlock
