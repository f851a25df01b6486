import Gamebook.Proofs.Annotation.TableLine
import Gamebook.Proofs.Text.Pattern

/-!
# Tables as a pattern

The tables of a narrative are told by one pattern, which is tried at every place and may go
back on each of its choices: where a frame ends, how many rows there are, whether a carriage
return belongs to the end of a line. This file shows that it finds the same tables as the scan
of the lines. What makes the two agree is that behind a row or a separator the pattern asks for
the end of a line. So of all the ends that a row can have, only the one at the end of its own
line leads on (`first?_line`), and the rows of a table are taken line by line
(`first?_dataRows`). Between two starts of lines nothing begins (`scanFrom_inLine`).
-/

namespace Gamebook.TableBlock

open Text (Pattern Place Piece scan scanFrom)

/-! ## The pattern -/

/-- A character that stands inside of a line. -/
def isInLine (c : Char) : Bool := c != '\r' && c != '\n'

/-- A pattern between two pipes, with blanks behind them. -/
def framedBy (p : Pattern) : Pattern :=
  (Pattern.char '|').andThen (p.andThen
    ((Pattern.char '|').andThen (.many true (.one isTabOrSpace))))

/-- A row of a table: anything between two bars. -/
def rowPattern : Pattern := framedBy (.many true (.one isInLine))

/-- A separator: lines, colons, bars and blanks between two bars. -/
def separatorPattern : Pattern := framedBy (.oneOrMore (.one isSeparatorChar))

/-- A line feed, perhaps behind a carriage return. -/
def newline : Pattern := (Pattern.char '\r').optional.andThen (.char '\n')

/-- A place where a line begins. -/
def lineStart : Pattern := .here fun before _ => before.all (· == '\n')

/-- The end of a line, perhaps behind a carriage return. -/
def lineEnd : Pattern :=
  (Pattern.char '\r').optional.andThen (.here fun _ rest => rest.head?.all (· == '\n'))

/-- A table: from the start of a line a header, a separator and one or more rows, to the end of
a line. -/
def tablePattern : Pattern :=
  lineStart.andThen (rowPattern.andThen (newline.andThen (separatorPattern.andThen
    ((Pattern.oneOrMore (newline.andThen rowPattern)).andThen lineEnd))))

/-- The rows of a table from the start of the first of them on. -/
def dataRows : Pattern :=
  rowPattern.andThen ((Pattern.many true (newline.andThen rowPattern)).andThen lineEnd)

theorem ends_rows (s : Place) :
    ((Pattern.oneOrMore (newline.andThen rowPattern)).andThen lineEnd).ends s
      = (newline.andThen dataRows).ends s := by
  rw [Pattern.oneOrMore, Pattern.ends_andThen_assoc, Pattern.ends_andThen_assoc, dataRows]

/-! ## The words of its parts -/

variable {inner : Text → Prop} {p q : Pattern} {s s' : Place}

theorem takes_framedBy (hp : p.Takes fun u taken => inner u ∧ taken = []) :
    (framedBy p).Takes fun u taken => Framed inner u ∧ taken = [] := by
  have hpipe := Pattern.takes_one (· == '|')
  have hblanks := Pattern.takes_many_one true isTabOrSpace
  refine (hpipe.andThen (hp.andThen (hpipe.andThen hblanks))).congr fun t taken => ?_
  constructor
  · rintro ⟨_, _, _, _, rfl, rfl, ⟨⟨a, ha, rfl⟩, rfl⟩, u, _, _, _, rfl, rfl, ⟨hu, rfl⟩,
      _, v, _, _, rfl, rfl, ⟨⟨b, hb, rfl⟩, rfl⟩, hv, rfl⟩
    rw [beq_iff_eq.mp ha, beq_iff_eq.mp hb]
    exact ⟨⟨u, v, rfl, hu, hv⟩, rfl⟩
  · rintro ⟨⟨u, v, rfl, hu, hv⟩, rfl⟩
    exact ⟨['|'], u ++ '|' :: v, [], [], rfl, rfl, ⟨⟨'|', rfl, rfl⟩, rfl⟩, u, '|' :: v, [], [],
      rfl, rfl, ⟨hu, rfl⟩, ['|'], v, [], [], rfl, rfl, ⟨⟨'|', rfl, rfl⟩, rfl⟩, hv, rfl⟩

theorem takes_rowPattern :
    rowPattern.Takes fun u taken => Framed (fun v => ∀ c ∈ v, isInLine c = true) u ∧ taken = [] :=
  takes_framedBy (Pattern.takes_many_one true isInLine)

theorem takes_separatorPattern :
    separatorPattern.Takes fun u taken =>
      Framed (fun v => v ≠ [] ∧ ∀ c ∈ v, isSeparatorChar c = true) u ∧ taken = [] :=
  takes_framedBy ((Pattern.takes_oneOrMore_one isSeparatorChar).congr fun _ _ => and_assoc.symm)

/-- No end of a line stands in a frame whose inside holds none. -/
theorem isInLine_of_framed (hinner : ∀ u, inner u → ∀ c ∈ u, isInLine c = true) {t : Text}
    (h : Framed inner t) : ∀ c ∈ t, isInLine c = true := by
  obtain ⟨u, v, rfl, hu, hv⟩ := h
  have hblank : ∀ c, isTabOrSpace c = true → isInLine c = true := by
    intro c hc
    rw [isTabOrSpace, Bool.or_eq_true, beq_iff_eq, beq_iff_eq] at hc
    rcases hc with rfl | rfl <;> rfl
  intro c hc
  rcases List.mem_cons.mp hc with rfl | hc
  · rfl
  · rcases List.mem_append.mp hc with hc | hc
    · exact hinner u hu c hc
    · rcases List.mem_cons.mp hc with rfl | hc
      · rfl
      · exact hblank c (hv c hc)

theorem isInLine_of_isSeparatorChar {c : Char} (h : isSeparatorChar c = true) :
    isInLine c = true := by
  simp only [isSeparatorChar, isTabOrSpace, Bool.or_eq_true, beq_iff_eq] at h
  rcases h with ((rfl | rfl) | rfl) | rfl | rfl <;> rfl

/-- A line is a row exactly if the pattern of a row goes over it. -/
theorem isRow_iff_framed {l : Text} (hl : '\n' ∉ l) :
    isRow l = true ↔ Framed (fun u => ∀ c ∈ u, isInLine c = true) (dropReturn l) := by
  rw [isRow_iff, IsRow]
  constructor
  · rintro ⟨u, v, hline, hu, hv⟩
    refine ⟨u, v, hline, fun c hc => ?_, hv⟩
    have hmem : c ∈ l := by
      rw [← dropReturn_append_returnOf l, hline]
      simp [hc]
    have hreturn : c ≠ '\r' := fun he => hu (he ▸ hc)
    have hfeed : c ≠ '\n' := fun he => hl (he ▸ hmem)
    simp [isInLine, hreturn, hfeed]
  · rintro ⟨u, v, hline, hu, hv⟩
    exact ⟨u, v, hline, fun hm => absurd (hu '\r' hm) (by decide), hv⟩

/-! ## Ends of lines -/

/-- What follows a line when other lines come behind it. -/
def behind : List Text → Text
  | [] => []
  | l :: ls => '\n' :: joinLines (l :: ls)

theorem joinLines_eq_append (l : Text) (ls : List Text) : joinLines (l :: ls) = l ++ behind ls := by
  cases ls with
  | nil => exact (List.append_nil l).symm
  | cons l' ls => exact joinLines_cons l (List.cons_ne_nil l' ls)

theorem returnOf_cases (l : Text) : returnOf l = [] ∨ returnOf l = ['\r'] := by
  unfold returnOf
  split
  · exact .inr rfl
  · exact .inl rfl

theorem head?_behind (ls : List Text) : ∀ c ∈ (behind ls).head?, c = '\n' := by
  intro c hc
  cases ls with
  | nil => exact absurd hc (by simp [behind])
  | cons l ls => exact (Option.some.inj hc).symm

/-- A line goes up to the first line feed. -/
theorem takeWhile_line {l t : Text} (hl : '\n' ∉ l) (ht : ∀ c ∈ t.head?, c = '\n') :
    (l ++ t).takeWhile (· != '\n') = l := by
  have hstop : ∀ c ∈ t.head?, (c != '\n') = false := fun c hc => by simp [ht c hc]
  have hline : ∀ c ∈ l, (c != '\n') = true := by
    intro c hc
    rw [bne_iff_ne]
    rintro rfl
    exact hl hc
  rw [Text.takeWhile_append_of_stop hstop, List.takeWhile_eq_self_iff.mpr hline]

/-- A carriage return is dropped from a line that holds no other. -/
theorem dropReturn_append_of_inLine {u r : Text} (hu : ∀ c ∈ u, isInLine c = true)
    (hr : r = [] ∨ r = ['\r']) : dropReturn (u ++ r) = u := by
  rcases hr with rfl | rfl
  · rw [List.append_nil, dropReturn, if_neg]
    intro hlast
    exact absurd (hu '\r' (List.mem_of_getLast? (beq_iff_eq.mp hlast))) (by decide)
  · rw [dropReturn, List.getLast?_concat, if_pos (by decide), List.dropLast_concat]

/-- A text begins where a line ends, but for a carriage return. -/
def AtLineEnd (t : Text) : Prop :=
  ∃ r rest, t = r ++ rest ∧ (r = [] ∨ r = ['\r']) ∧ ∀ c ∈ rest.head?, c = '\n'

/-- **A line ends in one place only.** -/
theorem eq_dropReturn {u t l : Text} {ls : List Text} (hu : ∀ c ∈ u, isInLine c = true)
    (hl : '\n' ∉ l) (h : u ++ t = l ++ behind ls) (ht : AtLineEnd t) :
    u = dropReturn l ∧ t = returnOf l ++ behind ls := by
  obtain ⟨r, rest, rfl, hr, hrest⟩ := ht
  rw [← List.append_assoc] at h
  have hfeed : '\n' ∉ u ++ r := by
    intro hm
    rcases List.mem_append.mp hm with hm | hm
    · exact absurd (hu '\n' hm) (by decide)
    · rcases hr with rfl | rfl <;> exact absurd hm (by decide)
  -- both texts have the line up to the first line feed
  obtain rfl : u ++ r = l := by
    rw [← takeWhile_line hfeed hrest, h, takeWhile_line hl (head?_behind ls)]
  have hdrop := dropReturn_append_of_inLine hu hr
  have hreturn := dropReturn_append_returnOf (u ++ r)
  rw [hdrop] at hreturn ⊢
  rw [List.append_cancel_left hreturn, List.append_cancel_left h]
  exact ⟨rfl, rfl⟩

/-! ## Patterns that need the end of a line -/

/-- A pattern goes through at ends of lines only. -/
def EndsLine (q : Pattern) : Prop := ∀ s, q.ends s ≠ [] → AtLineEnd s.rest

theorem takes_return : (Pattern.char '\r').optional.Takes fun u taken =>
    (u = [] ∨ u = ['\r']) ∧ taken = [] := by
  refine (Pattern.takes_one (· == '\r')).optional.congr fun u taken => ?_
  constructor
  · rintro (⟨⟨c, hc, rfl⟩, rfl⟩ | ⟨rfl, rfl⟩)
    · rw [beq_iff_eq.mp hc]
      exact ⟨.inr rfl, rfl⟩
    · exact ⟨.inl rfl, rfl⟩
  · rintro ⟨rfl | rfl, rfl⟩
    · exact .inr ⟨rfl, rfl⟩
    · exact .inl ⟨⟨'\r', rfl, rfl⟩, rfl⟩

/-- A pattern goes through at line feeds and at the end of the text only. -/
def NeedsFeed (q : Pattern) : Prop := ∀ s, q.ends s ≠ [] → ∀ c ∈ s.rest.head?, c = '\n'

theorem EndsLine.of_return (hq : NeedsFeed q) :
    EndsLine ((Pattern.char '\r').optional.andThen q) := by
  intro s hne
  obtain ⟨x, hx⟩ := List.exists_mem_of_ne_nil _ hne
  rw [Pattern.ends, List.mem_flatMap] at hx
  obtain ⟨mid, hmid, hx⟩ := hx
  obtain ⟨r, rest, taken, hrest, ⟨hr, -⟩, rfl⟩ := (takes_return s mid).mp hmid
  exact ⟨r, rest, hrest, hr, hq _ (List.ne_nil_of_mem hx)⟩

theorem needsFeed_feed (q : Pattern) : NeedsFeed ((Pattern.char '\n').andThen q) := by
  intro s hs c hc
  obtain ⟨x, hx⟩ := List.exists_mem_of_ne_nil _ hs
  rw [Pattern.ends, List.mem_flatMap] at hx
  obtain ⟨mid, hmid, -⟩ := hx
  obtain ⟨u, t, taken, hrest, ⟨⟨d, hd, rfl⟩, -⟩, -⟩ := (Pattern.takes_one (· == '\n') s mid).mp hmid
  rw [hrest] at hc
  obtain rfl := Option.some.inj hc
  exact beq_iff_eq.mp hd

theorem needsFeed_here :
    NeedsFeed (.here fun _ rest => rest.head?.all (· == '\n')) := by
  intro s hs c hc
  obtain ⟨x, hx⟩ := List.exists_mem_of_ne_nil _ hs
  have htest := (Pattern.mem_ends_here.mp hx).1
  rw [Option.mem_def.mp hc] at htest
  exact beq_iff_eq.mp htest

theorem ends_newline_andThen (q : Pattern) (s : Place) :
    (newline.andThen q).ends s
      = ((Pattern.char '\r').optional.andThen ((Pattern.char '\n').andThen q)).ends s :=
  Pattern.ends_andThen_assoc _ _ q s

theorem endsLine_newline (q : Pattern) : EndsLine (newline.andThen q) := by
  intro s hne
  rw [ends_newline_andThen] at hne
  exact EndsLine.of_return (needsFeed_feed q) s hne

theorem endsLine_lineEnd : EndsLine lineEnd := EndsLine.of_return needsFeed_here

/-- Taking one more row takes characters. -/
theorem length_rest_of_mem_ends_row (h : s' ∈ (newline.andThen rowPattern).ends s) :
    s'.rest.length < s.rest.length := by
  have hnewline := takes_return.andThen (Pattern.takes_one (· == '\n'))
  refine (hnewline.andThen takes_rowPattern).length_rest_lt (fun taken => ?_) h
  rintro ⟨u, v, _, _, hempty, -, -, ⟨_, _, rfl, -, -⟩, -⟩
  exact absurd hempty (by simp)

theorem endsLine_rows :
    EndsLine ((Pattern.many true (newline.andThen rowPattern)).andThen lineEnd) := by
  intro s hne
  obtain ⟨x, hx⟩ := List.exists_mem_of_ne_nil _ hne
  rw [Pattern.ends, List.mem_flatMap] at hx
  obtain ⟨mid, hmid, hx⟩ := hx
  rw [Pattern.ends_many true fun s' hs' => length_rest_of_mem_ends_row hs', if_pos rfl,
    List.mem_append, List.mem_flatMap, List.mem_singleton] at hmid
  rcases hmid with ⟨y, hy, -⟩ | rfl
  · exact endsLine_newline rowPattern s (List.ne_nil_of_mem hy)
  · exact endsLine_lineEnd mid (List.ne_nil_of_mem hx)

/-! ## One line -/

variable {L : Text → Prop} {l : Text} {ls : List Text}

/-- **Of all the places where a pattern can end in a line, the end of the line leads on.** -/
theorem first?_line {b : Bool} (hp : p.Takes fun u taken => L u ∧ taken = [])
    (hL : ∀ u, L u → ∀ c ∈ u, isInLine c = true) (hq : EndsLine q) (hl : '\n' ∉ l)
    (hs : s.rest = l ++ behind ls) (hb : b = true ↔ L (dropReturn l)) :
    (p.andThen q).first? s
      = if b then q.first? (s.after (dropReturn l) (returnOf l ++ behind ls) []) else none := by
  have honly : ∀ x ∈ p.ends s, q.ends x ≠ [] →
      L (dropReturn l) ∧ x = s.after (dropReturn l) (returnOf l ++ behind ls) [] := by
    intro x hx hne
    obtain ⟨u, t, taken, hu, ⟨hLu, rfl⟩, rfl⟩ := (hp s x).mp hx
    obtain ⟨rfl, rfl⟩ := eq_dropReturn (hL u hLu) hl (hu.symm.trans hs) (hq _ hne)
    exact ⟨hLu, rfl⟩
  cases b with
  | true =>
      have hrest : s.rest = dropReturn l ++ (returnOf l ++ behind ls) := by
        rw [hs, dropReturn_append]
      exact Pattern.first?_andThen_of_only
        ((hp s _).mpr ⟨_, _, [], hrest, ⟨hb.mp rfl, rfl⟩, rfl⟩) fun x hx hne => (honly x hx hne).2
  | false =>
      refine Pattern.first?_andThen_eq_none fun x hx => ?_
      by_contra hne
      exact absurd (hb.mpr (honly x hx hne).1) (by decide)

theorem first?_row (hq : EndsLine q) (hl : '\n' ∉ l) (hs : s.rest = l ++ behind ls) :
    (rowPattern.andThen q).first? s = if isRow l then
        q.first? (s.after (dropReturn l) (returnOf l ++ behind ls) [])
      else none :=
  first?_line takes_rowPattern (fun _ hu => isInLine_of_framed (fun _ h => h) hu) hq hl hs
    (isRow_iff_framed hl)

theorem first?_separator (hq : EndsLine q) (hl : '\n' ∉ l) (hs : s.rest = l ++ behind ls) :
    (separatorPattern.andThen q).first? s = if isSeparator l then
        q.first? (s.after (dropReturn l) (returnOf l ++ behind ls) [])
      else none :=
  first?_line takes_separatorPattern
    (fun _ hu => isInLine_of_framed (fun _ h c hc => isInLine_of_isSeparatorChar (h.2 c hc)) hu)
    hq hl hs isSeparator_iff

/-- A carriage return at the end of a line is taken. -/
theorem first?_return (hq : NeedsFeed q) (hs : s.rest = returnOf l ++ behind ls) :
    ((Pattern.char '\r').optional.andThen q).first? s
      = q.first? (s.after (returnOf l) (behind ls) []) := by
  have htaken : s.after (returnOf l) (behind ls) [] ∈ (Pattern.char '\r').optional.ends s :=
    (takes_return s _).mpr ⟨_, _, [], hs, ⟨returnOf_cases l, rfl⟩, rfl⟩
  refine Pattern.first?_andThen_of_only htaken fun x hx hne => ?_
  obtain ⟨u, t, taken, hu, ⟨hreturn, rfl⟩, rfl⟩ := (takes_return s x).mp hx
  have hfeed : ∀ c ∈ t.head?, c = '\n' := hq _ hne
  rw [hs] at hu
  rcases returnOf_cases l with hl | hl <;> rw [hl] at hu ⊢ <;> rcases hreturn with rfl | rfl
  · rw [show behind ls = t from hu]
  · have hhead := head?_behind ls '\r'
    rw [show behind ls = '\r' :: t from hu] at hhead
    exact absurd (hhead rfl) (by decide)
  · rw [show t = '\r' :: behind ls from hu.symm] at hfeed
    exact absurd (hfeed '\r' rfl) (by decide)
  · rw [show behind ls = t from (List.cons.inj hu).2]

/-- Behind a line the next one is tried. -/
theorem first?_next (q : Pattern) (s : Place) (l : Text) (ls : List Text) :
    (newline.andThen q).first? (s.after (dropReturn l) (returnOf l ++ behind ls) [])
      = match ls with
        | [] => none
        | l' :: ls' => q.first? (s.after (l ++ ['\n']) (joinLines (l' :: ls')) []) := by
  rw [Pattern.first?, ends_newline_andThen, ← Pattern.first?,
    first?_return (needsFeed_feed q) (Place.rest_after ..), Place.after_after,
    dropReturn_append_returnOf]
  cases ls with
  | nil => rfl
  | cons l' ls =>
      rw [Pattern.first?_andThen, Pattern.char, Pattern.ends_one_cons rfl,
        if_pos (beq_self_eq_true '\n'), List.findSome?_singleton, Place.after_after]
      rfl

/-- A table can end behind any line. -/
theorem first?_lineEnd (s : Place) (l : Text) (ls : List Text) :
    lineEnd.first? (s.after (dropReturn l) (returnOf l ++ behind ls) [])
      = some (s.after l (behind ls) []) := by
  rw [lineEnd, first?_return needsFeed_here (Place.rest_after ..), Place.after_after,
    dropReturn_append_returnOf, Pattern.first?, Pattern.ends, if_pos]
  · rfl
  · cases ls <;> rfl

/-! ## The rows of a table -/

/-- Behind a row the table goes on with another row, or ends. -/
theorem first?_rows (s : Place) :
    ((Pattern.many true (newline.andThen rowPattern)).andThen lineEnd).first? s
      = ((newline.andThen dataRows).first? s).or (lineEnd.first? s) := by
  rw [Pattern.first?_many_andThen fun s' hs' => length_rest_of_mem_ends_row hs']
  congr 1
  rw [Pattern.first?, Pattern.ends_andThen_assoc, ← dataRows, ← Pattern.first?]

/-- **The rows of a table are the lines that are rows, one after another.** -/
theorem first?_dataRows (hfeed : ∀ x ∈ l :: ls, '\n' ∉ x) (hs : s.rest = l ++ behind ls) :
    dataRows.first? s = if isRow l then
        some (s.after (joinLines (l :: ls.takeWhile isRow)) (behind (ls.dropWhile isRow)) [])
      else none := by
  induction ls generalizing l s with
  | nil =>
      rw [dataRows, first?_row endsLine_rows (hfeed l (by simp)) hs, first?_rows, first?_next,
        first?_lineEnd]
      rfl
  | cons l' ls ih =>
      have hmore := @ih (s.after (l ++ ['\n']) (joinLines (l' :: ls)) []) l'
        (fun x hx => hfeed x (List.mem_cons_of_mem l hx)) (joinLines_eq_append l' ls)
      rw [dataRows, first?_row endsLine_rows (hfeed l (by simp)) hs, first?_rows, first?_next,
        first?_lineEnd]
      dsimp only
      rw [hmore]
      cases hrow' : isRow l' with
      | true =>
          rw [List.takeWhile_cons_of_pos hrow', List.dropWhile_cons_of_pos hrow',
            joinLines_cons l (List.cons_ne_nil l' _)]
          simp
      | false =>
          rw [List.takeWhile_cons_of_neg (by simp [hrow']),
            List.dropWhile_cons_of_neg (by simp [hrow'])]
          rfl

/-! ## A table at the start of a line -/

/-- The text of the table that lines begin with, and what is left behind it. -/
def taken? (ls : List Text) : Option (Text × Text) :=
  match blockLength ls with
  | 0 => none
  | n + 1 => some (joinLines (ls.take (n + 1)), behind (ls.drop (n + 1)))

theorem taken?_eq (header separator row : Text) (rest : List Text) :
    taken? (header :: separator :: row :: rest)
      = if isRow header then if isSeparator separator then if isRow row then
          some (joinLines (header :: separator :: row :: rest.takeWhile isRow),
            behind (rest.dropWhile isRow))
        else none else none else none := by
  rw [taken?, blockLength]
  cases isRow header with
  | false => rfl
  | true =>
      cases isSeparator separator with
      | false => rfl
      | true =>
          cases isRow row with
          | false => rfl
          | true =>
              simp only [Bool.and_self, if_true, Nat.add_comm 3, List.take_succ_cons,
                List.drop_succ_cons, take_length_takeWhile, drop_length_takeWhile]

theorem endsLine_moreRows :
    EndsLine ((Pattern.oneOrMore (newline.andThen rowPattern)).andThen lineEnd) := by
  intro s hne
  rw [ends_rows] at hne
  exact endsLine_newline dataRows s hne

/-- **At the start of a line the pattern takes the table that begins there, line by line.** -/
theorem first?_tablePattern (hstart : s.passed.head?.all (· == '\n') = true)
    (hfeed : ∀ x ∈ ls, '\n' ∉ x) (hls : ls ≠ []) (hs : s.rest = joinLines ls) :
    tablePattern.first? s = (taken? ls).map fun r => s.after r.1 r.2 [] := by
  obtain ⟨header, ls, rfl⟩ := List.exists_cons_of_ne_nil hls
  rw [joinLines_eq_append] at hs
  rw [tablePattern, Pattern.first?_andThen, lineStart, Pattern.ends, if_pos hstart,
    List.findSome?_singleton, first?_row (endsLine_newline _) (hfeed header (by simp)) hs,
    first?_next]
  rcases ls with _ | ⟨separator, ls⟩
  · exact ite_self none
  have hseparator := @first?_separator _
    (s.after (header ++ ['\n']) (joinLines (separator :: ls)) []) separator ls endsLine_moreRows
    (hfeed separator (by simp)) (joinLines_eq_append separator ls)
  dsimp only
  rw [hseparator, Pattern.first?, ends_rows, ← Pattern.first?, first?_next]
  rcases ls with _ | ⟨row, rest⟩
  · simp only [ite_self]
    rfl
  have hrows := @first?_dataRows
    ((s.after (header ++ ['\n']) (joinLines (separator :: row :: rest)) []).after
      (separator ++ ['\n']) (joinLines (row :: rest)) []) row rest
    (fun x hx => hfeed x (by simp [hx])) (joinLines_eq_append row rest)
  have hwhole : header ++ (['\n'] ++ (separator ++ ['\n']
      ++ joinLines (row :: rest.takeWhile isRow)))
      = joinLines (header :: separator :: row :: rest.takeWhile isRow) := by
    rw [joinLines_cons header (by simp), joinLines_cons separator (by simp)]
    simp
  dsimp only
  rw [hrows, taken?_eq, Place.after_after, Place.after_after, List.append_assoc, hwhole]
  split
  · split
    · split <;> rfl
    · rfl
  · rfl

/-! ## Tables in a narrative -/

theorem joinLines_take_append (n : Nat) (hls : ls ≠ []) :
    joinLines (ls.take (n + 1)) ++ behind (ls.drop (n + 1)) = joinLines ls := by
  cases hdrop : ls.drop (n + 1) with
  | nil => rw [List.take_of_length_le (List.drop_eq_nil_iff.mp hdrop)]; exact List.append_nil _
  | cons l more =>
      have htake : ls.take (n + 1) ≠ [] := by simp [hls]
      have hwhole := joinLines_append htake (List.cons_ne_nil l more)
      rw [← hdrop, List.take_append_drop] at hwhole
      rw [hwhole, hdrop]
      rfl

theorem taken?_append {r : Text × Text} (hls : ls ≠ []) (h : taken? ls = some r) :
    joinLines ls = r.1 ++ r.2 := by
  unfold taken? at h
  split at h
  · exact absurd h (by simp)
  · rename_i n _
    obtain rfl := Option.some.inj h
    exact (joinLines_take_append n hls).symm

/-- At the start of a line a table is found if one begins there. -/
theorem recognise_start {before : Option Char} (hstart : before.all (· == '\n') = true)
    (hfeed : ∀ x ∈ ls, '\n' ∉ x) (hls : ls ≠ []) :
    tablePattern.recognise before (joinLines ls)
      = (taken? ls).map fun r => (r.1, r.1.length) := by
  have hplace := @first?_tablePattern ⟨before.toList, joinLines ls, []⟩ ls
    (by cases before <;> exact hstart) hfeed hls rfl
  rw [Pattern.recognise, hplace]
  cases htaken : taken? ls with
  | none => rfl
  | some r =>
      have hlength : (joinLines ls).length - r.2.length = r.1.length := by
        rw [taken?_append hls htaken, List.length_append, Nat.add_sub_cancel]
      rw [Option.map_some, Option.map_some, Place.rest_after, hlength, taken?_append hls htaken,
        List.take_left]
      rfl

/-- Inside of a line nothing is found. -/
theorem recognise_inLine {c : Char} (hc : c ≠ '\n') (t : Text) :
    tablePattern.recognise (some c) t = none := by
  have hstart : lineStart.ends ⟨[c], t, []⟩ = [] := by
    rw [lineStart, Pattern.ends, if_neg]
    simpa using hc
  have hplace : tablePattern.first? ⟨[c], t, []⟩ = none :=
    Pattern.first?_andThen_eq_none fun x hx => absurd hx (by simp [hstart])
  rw [Pattern.recognise, Option.toList_some, hplace]
  rfl

/-- No table begins with a line feed. -/
theorem recognise_feed (before : Option Char) (t : Text) :
    tablePattern.recognise before ('\n' :: t) = none := by
  have hrow (s : Place) (hs : s.rest = '\n' :: t) : rowPattern.ends s = [] := by
    refine List.eq_nil_iff_forall_not_mem.mpr fun x hx => ?_
    obtain ⟨u, t', taken, hu, ⟨⟨v, w, rfl, -, -⟩, -⟩, -⟩ := (takes_rowPattern s x).mp hx
    rw [hs] at hu
    exact absurd (List.cons.inj hu).1 (by decide)
  have hplace : tablePattern.first? ⟨before.toList, '\n' :: t, []⟩ = none := by
    refine Pattern.first?_andThen_eq_none fun x hx => ?_
    obtain ⟨-, rfl⟩ := Pattern.mem_ends_here.mp hx
    rw [Pattern.ends, hrow _ rfl]
    rfl
  rw [Pattern.recognise, hplace]
  rfl

/-- A segment as pieces, each table as a whole. -/
def Segment.wholePieces : Segment → List (Piece Text)
  | .line t => t.map .plain
  | .block ls => [.found (joinLines ls)]

/-- Segments as pieces, with the line feeds between them. -/
def blockPieces (ss : List Segment) : List (Piece Text) := piecesBy Segment.wholePieces ss

/-- The pieces of segments behind another one. -/
def piecesBehind : List Segment → List (Piece Text)
  | [] => []
  | s :: ss => .plain '\n' :: blockPieces (s :: ss)

theorem blockPieces_cons (s : Segment) (ss : List Segment) :
    blockPieces (s :: ss) = s.wholePieces ++ piecesBehind ss := by
  cases ss with
  | nil => exact (List.append_nil _).symm
  | cons s' ss => rfl

/-- What stands inside of a line is passed over. -/
theorem scanFrom_inLine {c : Char} {u : Text} (hc : c ≠ '\n') (hu : '\n' ∉ u) (t : Text) :
    ∃ d, scanFrom tablePattern.recognise (some c) 0 (u ++ t)
      = u.map .plain ++ scanFrom tablePattern.recognise (some d) 0 t := by
  induction u generalizing c with
  | nil => exact ⟨c, rfl⟩
  | cons e u ih =>
      have he : e ≠ '\n' := fun h => hu (by simp [h])
      obtain ⟨d, hd⟩ := ih he fun hm => hu (by simp [hm])
      exact ⟨d, by rw [List.cons_append, Text.scanFrom_passed (recognise_inLine hc _), hd]; rfl⟩

/-- A line at whose start no table begins is passed over. -/
theorem scanFrom_line {before : Option Char} (hl : '\n' ∉ l)
    (hnone : tablePattern.recognise before (joinLines (l :: ls)) = none) :
    ∃ b, scanFrom tablePattern.recognise before 0 (joinLines (l :: ls))
      = l.map .plain ++ scanFrom tablePattern.recognise b 0 (behind ls) := by
  rw [joinLines_eq_append] at hnone ⊢
  cases l with
  | nil => exact ⟨before, rfl⟩
  | cons c l =>
      have hc : c ≠ '\n' := fun h => hl (by simp [h])
      have hrest : '\n' ∉ l := fun hm => hl (by simp [hm])
      obtain ⟨d, hd⟩ := scanFrom_inLine hc hrest (behind ls)
      rw [List.cons_append] at hnone ⊢
      exact ⟨some d, by rw [Text.scanFrom_passed hnone, hd]; rfl⟩

/-- Behind a line that ends with the text or with a line feed, the next one is scanned. -/
theorem scanFrom_behind {ss : List Segment} (hscan : LineScan ls ss)
    (hjoin : ∀ before : Option Char, before.all (· == '\n') = true →
      scanFrom tablePattern.recognise before 0 (joinLines ls) = blockPieces ss)
    (before : Option Char) :
    scanFrom tablePattern.recognise before 0 (behind ls) = piecesBehind ss := by
  cases ls with
  | nil =>
      cases hscan
      rfl
  | cons l ls =>
      rw [behind, Text.scanFrom_passed (recognise_feed before _), hjoin (some '\n') rfl]
      cases hscan <;> rfl

/-- **From the start of a line on the pattern finds the tables among the lines.** -/
theorem LineScan.scanFrom_eq {ss : List Segment} (h : LineScan ls ss)
    (hfeed : ∀ x ∈ ls, '\n' ∉ x) {before : Option Char} (hstart : before.all (· == '\n') = true) :
    scanFrom tablePattern.recognise before 0 (joinLines ls) = blockPieces ss := by
  induction h generalizing before with
  | nil => rfl
  | @block header separator row rows rest ss hheader hseparator hrow hrows hrest hscan ih =>
      have hlater := scanFrom_behind hscan fun before hb =>
        ih (fun x hx => hfeed x (by simp [hx])) hb
      have hne : header :: separator :: row :: (rows ++ rest) ≠ [] := List.cons_ne_nil _ _
      have htaken : taken? (header :: separator :: row :: (rows ++ rest))
          = some (joinLines (header :: separator :: row :: rows), behind rest) := by
        obtain ⟨htake, hdrop⟩ := takeWhile_rows hrows hrest
        rw [taken?_eq, if_pos (isRow_iff.mpr hheader), if_pos (isSeparator_iff.mpr hseparator),
          if_pos (isRow_iff.mpr hrow), htake, hdrop]
      have hfind := recognise_start hstart hfeed hne
      rw [htaken, taken?_append hne htaken] at hfind
      rw [taken?_append hne htaken, Text.scanFrom_found _ hfind, hlater, blockPieces_cons]
      · rfl
      · rw [joinLines_cons header (by simp)]
        simp
  | @line l ls ss hnot hscan ih =>
      have hlater := scanFrom_behind hscan fun before hb =>
        ih (fun x hx => hfeed x (by simp [hx])) hb
      have hnone : tablePattern.recognise before (joinLines (l :: ls)) = none := by
        rw [recognise_start hstart hfeed (List.cons_ne_nil l ls), taken?, blockLength_eq_zero hnot]
        rfl
      obtain ⟨b, hb⟩ := scanFrom_line (hfeed l (by simp)) hnone
      rw [hb, hlater, blockPieces_cons]
      rfl

/-- **The pattern finds the tables that the segments of a narrative are.** -/
theorem scan_tablePattern (narrative : Text) :
    scan tablePattern.recognise narrative = blockPieces (segments narrative) := by
  have hfeed : ∀ x ∈ Text.splitOn '\n' narrative, '\n' ∉ x := fun x hx hm =>
    absurd (Text.not_of_mem_splitBy hx hm) (by decide)
  have hstart : (none : Option Char).all (· == '\n') = true := rfl
  have hscan := (lineScan_segments narrative).scanFrom_eq hfeed hstart
  rwa [joinLines_splitOn] at hscan

end Gamebook.TableBlock
