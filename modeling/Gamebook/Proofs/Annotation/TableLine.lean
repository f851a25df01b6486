import Gamebook.Proofs.Annotation.TableBlock

/-!
# Tables line by line

A row is a pipe, a text, another pipe and blanks; a separator is a row whose text is made of
hyphens, colons, pipes and blanks, and is not empty. A carriage return at the end of a line
does not count. `LineScan` reads the tables of a narrative off its lines by these rules: three
lines begin a table, and the rows that follow belong to it. The segments of a narrative are
what this reading gives (`lineScan_segments`), and it gives nothing else (`LineScan.unique`).
-/

namespace Gamebook.TableBlock

/-! ## Lines -/

/-- The carriage return that is dropped from a line. -/
def returnOf (line : Text) : Text := if line.getLast? == some '\r' then ['\r'] else []

theorem dropReturn_append_returnOf (line : Text) : dropReturn line ++ returnOf line = line := by
  unfold dropReturn returnOf
  split
  · rename_i hlast
    rw [beq_iff_eq] at hlast
    exact List.dropLast_append_getLast? '\r' hlast
  · exact List.append_nil line

theorem dropReturn_append (line t : Text) :
    dropReturn line ++ (returnOf line ++ t) = line ++ t := by
  rw [← List.append_assoc, dropReturn_append_returnOf]

/-- A text stands between two pipes, with blanks behind them. -/
def Framed (inner : Text → Prop) (t : Text) : Prop :=
  ∃ u v, t = '|' :: (u ++ '|' :: v) ∧ inner u ∧ ∀ c ∈ v, isTabOrSpace c = true

/-- A line that is a row. -/
def IsRow (line : Text) : Prop := Framed (fun u => '\r' ∉ u) (dropReturn line)

/-- A line that separates the header of a table from its rows. -/
def IsSeparator (line : Text) : Prop :=
  Framed (fun u => u ≠ [] ∧ ∀ c ∈ u, isSeparatorChar c = true) (dropReturn line)

theorem isFramed_iff {t : Text} : isFramed t = true ↔ ∃ u, t = '|' :: (u ++ ['|']) := by
  simp only [isFramed, Bool.and_eq_true, beq_iff_eq, decide_eq_true_eq]
  constructor
  · rintro ⟨⟨hfirst, hlast⟩, hlength⟩
    obtain ⟨t, rfl⟩ := List.head?_eq_some_iff.mp hfirst
    have hne : t ≠ [] := by
      rintro rfl
      exact absurd hlength (by simp)
    refine ⟨t.dropLast, congrArg ('|' :: ·) ?_⟩
    rw [List.getLast?_cons_of_ne_nil hne] at hlast
    exact (List.dropLast_append_getLast? '|' hlast).symm
  · rintro ⟨u, rfl⟩
    rw [← List.cons_append]
    refine ⟨⟨rfl, ?_⟩, ?_⟩
    · rw [List.getLast?_append]
      rfl
    · rw [List.length_append, List.length_cons, List.length_singleton]
      omega

/-- The blanks behind a frame are the blanks at the end. -/
theorem dropEndWhile_eq_framed_iff {t u : Text} :
    Text.dropEndWhile isTabOrSpace t = '|' :: (u ++ ['|'])
      ↔ ∃ v, t = '|' :: (u ++ '|' :: v) ∧ ∀ c ∈ v, isTabOrSpace c = true := by
  have hshape (v : Text) : '|' :: (u ++ '|' :: v) = ('|' :: u ++ ['|']) ++ v := by simp
  constructor
  · intro h
    rw [Text.dropEndWhile_eq_rdropWhile] at h
    have hwhole : t.rdropWhile isTabOrSpace ++ (t.reverse.takeWhile isTabOrSpace).reverse = t := by
      rw [List.rdropWhile, ← List.reverse_append, List.takeWhile_append_dropWhile,
        List.reverse_reverse]
    refine ⟨(t.reverse.takeWhile isTabOrSpace).reverse, ?_, fun c hc => ?_⟩
    · rw [hshape, List.cons_append, ← h, hwhole]
    · exact List.mem_takeWhile_imp (List.mem_reverse.mp hc)
  · rintro ⟨v, rfl, hv⟩
    rw [hshape, Text.dropEndWhile_append hv, Text.dropEndWhile_concat, if_neg (by decide)]
    rfl

theorem isRow_iff {line : Text} : isRow line = true ↔ IsRow line := by
  rw [isRow, Bool.and_eq_true, isFramed_iff]
  constructor
  · rintro ⟨⟨u, hframe⟩, hreturn⟩
    obtain ⟨v, hline, hv⟩ := dropEndWhile_eq_framed_iff.mp hframe
    refine ⟨u, v, hline, fun hu => ?_, hv⟩
    rw [hline] at hreturn
    exact absurd hreturn (by simp [hu])
  · rintro ⟨u, v, hline, hu, hv⟩
    have hreturn : '\r' ∉ v := fun hm => absurd (hv '\r' hm) (by decide)
    refine ⟨⟨u, dropEndWhile_eq_framed_iff.mpr ⟨v, hline, hv⟩⟩, ?_⟩
    rw [hline]
    simp [hu, hreturn]

theorem isSeparator_iff {line : Text} : isSeparator line = true ↔ IsSeparator line := by
  rw [isSeparator, Bool.and_eq_true, Bool.and_eq_true, isFramed_iff, decide_eq_true_eq,
    List.all_eq_true]
  constructor
  · rintro ⟨⟨⟨u, hframe⟩, hlength⟩, hall⟩
    rw [hframe] at hlength hall
    obtain ⟨v, hline, hv⟩ := dropEndWhile_eq_framed_iff.mp hframe
    refine ⟨u, v, hline, ⟨?_, fun c hc => hall c (by simp [hc])⟩, hv⟩
    rintro rfl
    exact absurd hlength (by simp)
  · rintro ⟨u, v, hline, ⟨hne, hu⟩, hv⟩
    have hframe := dropEndWhile_eq_framed_iff.mpr ⟨v, hline, hv⟩
    have hlength : u.length ≠ 0 := fun h => hne (List.length_eq_zero_iff.mp h)
    rw [hframe]
    refine ⟨⟨⟨u, rfl⟩, ?_⟩, fun c hc => ?_⟩
    · rw [List.length_cons, List.length_append, List.length_singleton]
      omega
    · rcases List.mem_cons.mp hc with rfl | hc
      · rfl
      · rcases List.mem_append.mp hc with hc | hc
        · exact hu c hc
        · rw [List.mem_singleton.mp hc]
          rfl

/-! ## The scan -/

/-- Three lines that begin a table. -/
def StartsTable (ls : List Text) : Prop :=
  ∃ header separator row rest, ls = header :: separator :: row :: rest
    ∧ IsRow header ∧ IsSeparator separator ∧ IsRow row

/-- The tables among the lines of a narrative, read from the top. -/
inductive LineScan : List Text → List Segment → Prop where
  | nil : LineScan [] []
  | block {header separator row : Text} {rows rest : List Text} {ss : List Segment} :
      IsRow header → IsSeparator separator → IsRow row → (∀ l ∈ rows, IsRow l) →
      (∀ l ∈ rest.head?, ¬IsRow l) → LineScan rest ss →
      LineScan (header :: separator :: row :: (rows ++ rest))
        (.block (header :: separator :: row :: rows) :: ss)
  | line {l : Text} {ls : List Text} {ss : List Segment} :
      ¬StartsTable (l :: ls) → LineScan ls ss → LineScan (l :: ls) (.line l :: ss)

/-- Rows before a line that is none are the run of rows. -/
theorem takeWhile_rows {rows rest : List Text} (hrows : ∀ l ∈ rows, IsRow l)
    (hrest : ∀ l ∈ rest.head?, ¬IsRow l) :
    (rows ++ rest).takeWhile isRow = rows ∧ (rows ++ rest).dropWhile isRow = rest := by
  have hall : ∀ l ∈ rows, isRow l = true := fun l hl => isRow_iff.mpr (hrows l hl)
  rw [List.takeWhile_append_of_pos hall, List.dropWhile_append_of_pos hall]
  cases rest with
  | nil => simp
  | cons l rest =>
      have hl : ¬isRow l = true := fun hl => hrest l rfl (isRow_iff.mp hl)
      rw [List.takeWhile_cons_of_neg hl, List.dropWhile_cons_of_neg hl, List.append_nil]
      exact ⟨rfl, rfl⟩

/-- Rows are taken off the lines in one way only. -/
theorem rows_unique {rows rows' rest rest' : List Text} (h : rows ++ rest = rows' ++ rest')
    (hrows : ∀ l ∈ rows, IsRow l) (hrest : ∀ l ∈ rest.head?, ¬IsRow l)
    (hrows' : ∀ l ∈ rows', IsRow l) (hrest' : ∀ l ∈ rest'.head?, ¬IsRow l) :
    rows = rows' ∧ rest = rest' := by
  obtain ⟨htake, hdrop⟩ := takeWhile_rows hrows hrest
  obtain ⟨htake', hdrop'⟩ := takeWhile_rows hrows' hrest'
  rw [h, htake'] at htake
  rw [h, hdrop'] at hdrop
  exact ⟨htake.symm, hdrop.symm⟩

/-- Lines are read in one way only. -/
theorem LineScan.unique {ls : List Text} {ss ss' : List Segment} (h : LineScan ls ss)
    (h' : LineScan ls ss') : ss = ss' := by
  induction h generalizing ss' with
  | nil =>
      cases h'
      rfl
  | @block header separator row rows rest ss hheader hseparator hrow hrows hrest _ ih =>
      have hstarts : StartsTable (header :: separator :: row :: (rows ++ rest)) :=
        ⟨_, _, _, _, rfl, hheader, hseparator, hrow⟩
      generalize hls : header :: separator :: row :: (rows ++ rest) = ls at h' hstarts
      cases h' with
      | nil => exact absurd hls (by simp)
      | line hnot _ => exact absurd hstarts hnot
      | @block header' separator' row' rows' rest' ss' _ _ _ hrows' hrest' hscan' =>
          simp only [List.cons.injEq] at hls
          obtain ⟨rfl, rfl, rfl, happend⟩ := hls
          obtain ⟨rfl, rfl⟩ := rows_unique happend hrows hrest hrows' hrest'
          rw [ih hscan']
  | @line l ls ss hnot _ ih =>
      generalize hls : l :: ls = lines at h' hnot
      cases h' with
      | nil => exact absurd hls (by simp)
      | line _ hscan' =>
          obtain ⟨rfl, rfl⟩ := List.cons.inj hls
          rw [ih hscan']
      | block hheader hseparator hrow _ _ _ =>
          exact absurd ⟨_, _, _, _, rfl, hheader, hseparator, hrow⟩ hnot

/-! ## Segments are read line by line -/

theorem blockLength_of_starts {header separator row : Text} (rest : List Text)
    (hheader : IsRow header) (hseparator : IsSeparator separator) (hrow : IsRow row) :
    blockLength (header :: separator :: row :: rest) = 3 + (rest.takeWhile isRow).length := by
  rw [blockLength, isRow_iff.mpr hheader, isSeparator_iff.mpr hseparator, isRow_iff.mpr hrow]
  rfl

theorem blockLength_eq_zero {ls : List Text} (h : ¬StartsTable ls) : blockLength ls = 0 := by
  unfold blockLength
  split
  · rename_i header separator row rest
    refine if_neg fun hlines => h ⟨header, separator, row, rest, rfl, ?_⟩
    rw [Bool.and_eq_true, Bool.and_eq_true] at hlines
    exact ⟨isRow_iff.mp hlines.1.1, isSeparator_iff.mp hlines.1.2, isRow_iff.mp hlines.2⟩
  · rfl

/-- The lines that a table has taken are passed over. -/
theorem segmentsFrom_eq_drop (skip : Nat) (ls : List Text) :
    segmentsFrom skip ls = segmentsFrom 0 (ls.drop skip) := by
  induction ls generalizing skip with
  | nil => cases skip <;> rfl
  | cons l ls ih =>
      cases skip with
      | zero => rfl
      | succ skip => rw [segmentsFrom, ih, List.drop_succ_cons]

/-- The lines of a run are as many as their number says. -/
theorem take_length_takeWhile (ls : List Text) :
    ls.take (ls.takeWhile isRow).length = ls.takeWhile isRow :=
  (List.prefix_iff_eq_take.mp (List.takeWhile_prefix isRow)).symm

theorem drop_length_takeWhile (ls : List Text) :
    ls.drop (ls.takeWhile isRow).length = ls.dropWhile isRow := by
  have hwhole := List.take_append_drop (ls.takeWhile isRow).length ls
  rw [take_length_takeWhile] at hwhole
  exact List.append_cancel_left (hwhole.trans List.takeWhile_append_dropWhile.symm)

theorem segmentsFrom_of_starts {header separator row : Text} (rest : List Text)
    (hheader : IsRow header) (hseparator : IsSeparator separator) (hrow : IsRow row) :
    segmentsFrom 0 (header :: separator :: row :: rest)
      = .block (header :: separator :: row :: rest.takeWhile isRow)
        :: segmentsFrom 0 (rest.dropWhile isRow) := by
  rw [segmentsFrom, blockLength_of_starts rest hheader hseparator hrow, Nat.add_comm]
  dsimp only
  rw [segmentsFrom_eq_drop]
  simp only [List.take_succ_cons, List.drop_succ_cons, take_length_takeWhile,
    drop_length_takeWhile]

theorem segmentsFrom_of_not_starts {l : Text} {ls : List Text} (h : ¬StartsTable (l :: ls)) :
    segmentsFrom 0 (l :: ls) = .line l :: segmentsFrom 0 ls := by
  rw [segmentsFrom, blockLength_eq_zero h]

/-- **The segments are what the scan of the lines gives.** -/
theorem lineScan_segmentsFrom (ls : List Text) : LineScan ls (segmentsFrom 0 ls) := by
  generalize hn : ls.length = n
  induction n using Nat.strongRecOn generalizing ls with
  | ind n ih =>
      by_cases hstarts : StartsTable ls
      · obtain ⟨header, separator, row, rest, rfl, hheader, hseparator, hrow⟩ := hstarts
        have hshorter : (rest.dropWhile isRow).length < n := by
          have := (List.dropWhile_suffix (l := rest) isRow).length_le
          simp only [List.length_cons] at hn
          omega
        have hrows : ∀ l ∈ rest.takeWhile isRow, IsRow l :=
          fun l hl => isRow_iff.mp (List.mem_takeWhile_imp hl)
        have hrest : ∀ l ∈ (rest.dropWhile isRow).head?, ¬IsRow l := by
          intro l hl
          have hstop := List.head?_dropWhile_not isRow rest
          rw [Option.mem_def.mp hl] at hstop
          rw [← isRow_iff]
          simpa using hstop
        have hscan := LineScan.block hheader hseparator hrow hrows hrest
          (ih _ hshorter (rest.dropWhile isRow) rfl)
        rw [List.takeWhile_append_dropWhile] at hscan
        rwa [segmentsFrom_of_starts rest hheader hseparator hrow]
      · cases ls with
        | nil => exact .nil
        | cons l ls =>
            rw [segmentsFrom_of_not_starts hstarts]
            exact .line hstarts (ih ls.length (by rw [← hn]; simp) ls rfl)

theorem lineScan_segments (narrative : Text) :
    LineScan (Text.splitOn '\n' narrative) (segments narrative) := lineScan_segmentsFrom _

end Gamebook.TableBlock
