import Gamebook.Html.Tree
import Gamebook.Proofs.Html.Tag
import Gamebook.Proofs.Text.Scan

/-!
# A written fragment meets its reader

A *fragment* here is a list of pieces: characters without a meaning of their own, and
tags. It is written by writing each piece, and the reader of events gets it back: one
event for every tag, and one for every stretch of characters between two of them.

The stretches are why the statements carry `u`, the characters since the last tag. The
reader takes a stretch as a whole, while an induction on the pieces meets it character
by character. The building of the tree does not care for that: `Builder.take` lets it
eat pieces instead of events.
-/

namespace Gamebook.Html

open Text (Piece)

/-- Whether a character has no meaning in a fragment, nor in the marks around a table. -/
def isPlain (c : Char) : Bool := c != '<' && c != '>' && c != '&' && c != '\x7b'

theorem isPlain_iff {c : Char} :
    isPlain c = true ↔ c ≠ '<' ∧ c ≠ '>' ∧ c ≠ '&' ∧ c ≠ '\x7b' := by
  simp [isPlain, and_assoc]

/-- Whether all characters of a text are plain. -/
def IsPlainText (t : Text) : Prop := ∀ c ∈ t, isPlain c = true

/-- Decided by a look at each character. -/
instance (t : Text) : Decidable (IsPlainText t) :=
  decidable_of_iff (t.all isPlain = true) List.all_eq_true

theorem IsPlainText.append {s t : Text} (hs : IsPlainText s) (ht : IsPlainText t) :
    IsPlainText (s ++ t) := by
  intro c hc
  rcases List.mem_append.mp hc with hc | hc
  · exact hs c hc
  · exact ht c hc

/-- An element of which a reader sees the contents: it may have some, they are for readers, and
blanks mean nothing in them. Its attributes can be written and have different names. -/
structure IsOrdinary (name : Text) (attributes : List (Text × Text)) : Prop where
  named : isName name = true
  holds : name ∉ voidElements
  heard : name ∉ silentElements
  folds : name ∉ verbatimElements
  areNamed : AreNamed attributes
  distinct : (attributes.map Prod.fst).Nodup

/-- Whether an element is ordinary can be told from its name and the names of its attributes. -/
theorem isOrdinary_of_names {name : Text} {attributes : List (Text × Text)} (names : List Text)
    (hnames : attributes.map Prod.fst = names)
    (h : isName name = true ∧ name ∉ voidElements ∧ name ∉ silentElements
      ∧ name ∉ verbatimElements ∧ (∀ n ∈ names, isName n = true) ∧ names.Nodup) :
    IsOrdinary name attributes := by
  obtain ⟨hname, hvoid, hsilent, hverbatim, hnamed, hdistinct⟩ := h
  rw [← hnames] at hnamed hdistinct
  exact ⟨hname, hvoid, hsilent, hverbatim, fun a ha => hnamed a.1 (List.mem_map_of_mem ha),
    hdistinct⟩

/-- A tag of an ordinary element. -/
def Tag.IsOrdinary : Tag → Prop
  | start name attributes => Html.IsOrdinary name attributes
  | stop name => isName name = true

/-- A piece that is read back: a plain character or an ordinary tag. -/
def IsReadable : Piece Tag → Prop
  | .plain c => isPlain c = true
  | .found tag => tag.IsOrdinary

/-- A fragment as it is written. -/
def write (ps : List (Piece Tag)) : Text := Piece.render Tag.write ps

theorem write_append (ps qs : List (Piece Tag)) : write (ps ++ qs) = write ps ++ write qs :=
  Piece.render_append Tag.write ps qs

theorem write_found (tag : Tag) (ps : List (Piece Tag)) :
    write (.found tag :: ps) = tag.write ++ write ps :=
  rfl

theorem head?_write_found (tag : Tag) (ps : List (Piece Tag)) :
    (write (.found tag :: ps)).head? = some '<' := by
  cases tag <;> rfl

/-- A fragment whose characters are written in a way of their own. -/
def writeBy (w : Char → Text) (ps : List (Piece Tag)) : Text :=
  ps.flatMap fun
    | .plain c => w c
    | .found tag => tag.write

theorem write_eq_writeBy (ps : List (Piece Tag)) : write ps = writeBy (fun c => [c]) ps :=
  List.flatMap_congr fun p _ => by cases p <;> rfl

theorem writeBy_append (w : Char → Text) (ps qs : List (Piece Tag)) :
    writeBy w (ps ++ qs) = writeBy w ps ++ writeBy w qs := List.flatMap_append

theorem writeBy_found (w : Char → Text) (tag : Tag) (ps : List (Piece Tag)) :
    writeBy w (.found tag :: ps) = tag.write ++ writeBy w ps := rfl

theorem writeBy_plain (w : Char → Text) (t : Text) : writeBy w (t.map .plain) = t.flatMap w :=
  List.flatMap_map ..

/-! ## Events -/

/-- What a reader meets at a tag. -/
def Tag.event : Tag → Event
  | start name attributes => .startTag ⟨name, attributes, false⟩
  | stop name => .endTag name

/-- The event of a stretch of text; an empty one has none. -/
def textEvents (t : Text) : List Event := if t = [] then [] else [.text t]

/-- The events of a fragment that follows the text `u`. -/
def eventsAfter (u : Text) : List (Piece Tag) → List Event
  | [] => textEvents u
  | .plain c :: ps => eventsAfter (u ++ [c]) ps
  | .found tag :: ps => textEvents u ++ tag.event :: eventsAfter [] ps

theorem markup_written {tag : Tag} (h : tag.IsOrdinary) (rest : Text) :
    markup ((tag.write ++ rest).tail) = .ok (.events [tag.event] rest) := by
  cases tag with
  | start name as =>
      have hread := StartTag.read_written h.named h.areNamed rest
      obtain ⟨c, more, hname, hc, _⟩ := isName_iff.mp h.named
      -- no other markup begins with a small letter
      have hletter : ∀ c ∈ smallLetters, isLetter c = true ∧ c ≠ '/' ∧ c ≠ '!' ∧ c ≠ '?' :=
        List.all_iff_forall_prop.mp (by decide)
      obtain ⟨hletter, hslash, hbang, hquestion⟩ := hletter c hc
      have hwritten : ((Tag.start name as).write ++ rest).tail
          = c :: (more ++ (writeAttributes as ++ rest)) := by
        simp [Tag.write, hname]
      rw [hname, List.cons_append] at hread
      rw [hwritten, markup]
      · rw [if_pos hletter, hread, ← hname]
        rfl
      · exact hslash
      · exact hbang
      · exact hquestion
  | stop name =>
      have hwritten : ((Tag.stop name).write ++ rest).tail = '/' :: (name ++ '>' :: rest) := by
        simp [Tag.write]
      rw [hwritten, markup, endTag_written h]
      rfl

theorem opensRaw?_event {tag : Tag} (h : tag.IsOrdinary) : opensRaw? [tag.event] = none := by
  cases tag with
  | stop name => rfl
  | start name as =>
      have hraw : isRawElement name = false := by
        have hsilent := h.heard
        rw [isRawElement, Bool.or_eq_false_iff, beq_eq_false_iff_ne, beq_eq_false_iff_ne]
        constructor
        · rintro rfl
          exact hsilent (by decide)
        · rintro rfl
          exact hsilent (by decide)
      simp [opensRaw?, Tag.event, hraw]

/-- A tag is one event. -/
theorem eventsFrom_tag {tag : Tag} (h : tag.IsOrdinary) (fuel : Nat) (rest : Text) :
    eventsFrom false (fuel + 1) (tag.write ++ rest)
      = (eventsFrom false fuel rest).map (tag.event :: ·) := by
  have hangle : ∃ body, tag.write ++ rest = '<' :: body := by
    cases tag <;> exact ⟨_, rfl⟩
  obtain ⟨body, hbody⟩ := hangle
  have hmarkup := markup_written h rest
  rw [hbody, List.tail_cons] at hmarkup
  rw [hbody]
  conv_lhs => unfold eventsFrom
  dsimp only
  rw [if_pos (beq_self_eq_true '<'), hmarkup]
  simp only [bind, Except.bind, opensRaw?_event h]
  cases eventsFrom false fuel rest <;> rfl

/-- A stretch of plain text up to the next tag is one event. -/
theorem eventsFrom_text {u rest : Text} (hne : u ≠ []) (hu : IsPlainText u)
    (hrest : ∀ c ∈ rest.head?, c = '<') (fuel : Nat) :
    eventsFrom false (fuel + 1) (u ++ rest) = (eventsFrom false fuel rest).map (.text u :: ·) := by
  have hspan : (u ++ rest).span (fun x => x != '<' && x != '&') = (u, rest) := by
    refine Text.span_append (fun c hc => ?_) (fun c hc => ?_)
    · have hc := isPlain_iff.mp (hu c hc)
      simp [hc.1, hc.2.2.1]
    · simp [hrest c hc]
  cases u with
  | nil => exact absurd rfl hne
  | cons c u =>
      have hc := isPlain_iff.mp (hu c (by simp))
      rw [List.cons_append] at hspan ⊢
      conv_lhs => unfold eventsFrom
      dsimp only
      rw [if_neg (by simp [hc.1]), if_neg (by simp [hc.2.2.1]), hspan]
      show (eventsFrom false fuel rest >>= fun es => pure ([Event.text (c :: u)] ++ es)) = _
      cases eventsFrom false fuel rest <;> rfl

/-- **The reader finds the events of a written fragment**, if the fuel exceeds its length. -/
theorem eventsFrom_write {ps : List (Piece Tag)} (hps : ∀ p ∈ ps, IsReadable p) {u : Text}
    (hu : IsPlainText u) {fuel : Nat} (hfuel : (u ++ write ps).length < fuel) :
    eventsFrom false fuel (u ++ write ps) = .ok (eventsAfter u ps) := by
  -- what waits is read in one go before the next tag, if anything waits
  have stretch {u rest : Text} {es : List Event} (hu : IsPlainText u)
      (hrest : ∀ c ∈ rest.head?, c = '<') {fuel : Nat} (hfuel : (u ++ rest).length < fuel)
      (h : ∀ fuel, rest.length < fuel → eventsFrom false fuel rest = .ok es) :
      eventsFrom false fuel (u ++ rest) = .ok (textEvents u ++ es) := by
    by_cases hne : u = []
    · subst hne
      exact h fuel hfuel
    · obtain ⟨fuel, rfl⟩ : ∃ n, fuel = n + 1 := Nat.exists_eq_succ_of_ne_zero (by omega)
      have hlength : rest.length < fuel := by
        have hpos := List.length_pos_iff.mpr hne
        rw [List.length_append] at hfuel
        omega
      rw [eventsFrom_text hne hu hrest, h fuel hlength, textEvents, if_neg hne]
      rfl
  induction ps generalizing u fuel with
  | nil =>
      have hend : eventsFrom false fuel (u ++ []) = .ok (textEvents u ++ []) :=
        stretch hu (by simp) hfuel fun fuel _ => by cases fuel <;> rfl
      rw [List.append_nil (textEvents u)] at hend
      exact hend
  | cons p ps ih =>
      have hps' := fun q hq => hps q (List.mem_cons_of_mem p hq)
      cases p with
      | plain c =>
          -- nothing is read yet: the character joins those that wait
          have hc : isPlain c = true := hps (.plain c) (by simp)
          have hwritten : u ++ write (.plain c :: ps) = (u ++ [c]) ++ write ps := by
            rw [List.append_assoc]
            rfl
          rw [hwritten] at hfuel ⊢
          exact ih hps' (hu.append (by simpa [IsPlainText] using hc)) hfuel
      | found tag =>
          have htag : tag.IsOrdinary := hps (.found tag) (by simp)
          refine stretch hu (fun c hc => ?_) hfuel fun fuel hfuel => ?_
          · rw [head?_write_found] at hc
            exact (Option.some.inj hc).symm
          · have hwritten : write (.found tag :: ps) = tag.write ++ write ps := rfl
            rw [hwritten] at hfuel ⊢
            obtain ⟨fuel, rfl⟩ : ∃ n, fuel = n + 1 := Nat.exists_eq_succ_of_ne_zero (by omega)
            have hlength : (write ps).length < fuel := by
              have hpos : 0 < tag.write.length := by cases tag <;> exact Nat.succ_pos _
              rw [List.length_append] at hfuel
              omega
            rw [eventsFrom_tag htag]
            have htail := @ih hps' [] (by simp [IsPlainText]) fuel hlength
            rw [List.nil_append] at htail
            rw [htail]
            rfl

/-! ## Building the tree -/

namespace Builder

/-- Building goes on with a piece. -/
def take (b : Builder) : Piece Tag → Builder
  | .plain c => { b with pending := b.pending ++ [c] }
  | .found tag => b.step tag.event

theorem foldl_textEvents (b : Builder) (t : Text) :
    (textEvents t).foldl step b = { b with pending := b.pending ++ t } := by
  unfold textEvents
  split
  · rename_i ht
    rw [ht, List.append_nil]
    rfl
  · rfl

/-- Building from the events of a fragment is building from its pieces. -/
theorem foldl_eventsAfter (ps : List (Piece Tag)) (u : Text) (b : Builder) :
    (eventsAfter u ps).foldl step b = ps.foldl take { b with pending := b.pending ++ u } := by
  induction ps generalizing u b with
  | nil => exact foldl_textEvents b u
  | cons p ps ih =>
      cases p with
      | plain c =>
          rw [eventsAfter, ih, List.foldl_cons, take, List.append_assoc]
      | found tag =>
          rw [eventsAfter, List.foldl_append, List.foldl_cons, foldl_textEvents, ih,
            List.foldl_cons, take, List.append_nil]

/-- Characters wait for the next tag. -/
theorem foldl_take_plain (t : Text) (b : Builder) :
    (t.map .plain).foldl take b = { b with pending := b.pending ++ t } := by
  induction t generalizing b with
  | nil => rw [List.append_nil]; rfl
  | cons c t ih =>
      rw [List.map_cons, List.foldl_cons, ih, take, List.append_assoc]
      rfl

end Builder

/-- **A written fragment has the tree that its pieces build.** -/
theorem parse_write {ps : List (Piece Tag)} (hps : ∀ p ∈ ps, IsReadable p) :
    parse (write ps) = .ok (ps.foldl Builder.take Builder.empty).finish := by
  have hevents : events (write ps) = .ok (eventsAfter [] ps) :=
    @eventsFrom_write ps hps [] (by simp [IsPlainText]) _ (by simp only [List.nil_append]; omega)
  rw [parse, hevents, Except.map, Builder.foldl_eventsAfter]
  rfl

end Gamebook.Html
