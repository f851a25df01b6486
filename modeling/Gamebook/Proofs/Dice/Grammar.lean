import Gamebook.Dice.Roll
import Gamebook.Proofs.Dice.Formula
import Gamebook.Proofs.Text.Pattern

/-!
# The grammar of formulas

A `Writing` is a formula as it stands in a text: its runs of digits, the letter of its die and the
blanks around the sign of its modifier. A text is written in one way at most
(`Writing.IsWellFormed.unique`), and it is read as a formula exactly if, once trimmed, it is a
writing whose numbers can be read and whose die has a side (`Formula.read_iff_writing`). The
reading agrees with the pattern of a formula, which may go back on its choices
(`first?_formulaPattern`): wherever the pattern ends it has gone over a writing of the whole text,
and of these there is one at most.
-/

namespace Gamebook.Dice

open Text (Pattern Place)

/-! ## Writings -/

/-- A formula as it stands in a text. -/
structure Writing where
  parts : Parts
  /-- The letter of the die. -/
  die : Char
  /-- The blanks before and behind the sign of the modifier. -/
  left : Text
  right : Text

namespace Writing

/-- The text of a writing. -/
def text (w : Writing) : Text := w.parts.write w.die w.left w.right

/-- A writing that the grammar of formulas allows. -/
structure IsWellFormed (w : Writing) : Prop where
  parts : w.parts.IsWellFormed
  die : isDieLetter w.die = true
  blank : ∀ c ∈ w.left ++ w.right, Text.isBlank c = true
  /-- Without a modifier there is no place for blanks. -/
  bare : w.parts.modifier = none → w.left = [] ∧ w.right = []

/-- A formula that can be rolled: each of its numbers can be read, and its die has a side. -/
structure IsAccepted (w : Writing) : Prop extends w.IsWellFormed where
  short : ∀ ds ∈ w.parts.runs, ds.length ≤ digitLimit
  one_le_sides : 1 ≤ Text.digitsValue w.parts.sides

/-- What a writing asks for. -/
def formula (w : Writing) (written : Text) : Formula :=
  ⟨written, Text.digitsValue w.parts.count, Text.digitsValue w.parts.sides, w.parts.added⟩

variable {w w' : Writing}

theorem IsWellFormed.read? (h : w.IsWellFormed) : Parts.read? w.text = some w.parts :=
  Parts.read?_write h.parts h.die (fun c hc => h.blank c (List.mem_append_left _ hc))
    fun c hc => h.blank c (List.mem_append_right _ hc)

/-- Every text with parts is a writing of them. -/
theorem exists_of_read? {t : Text} {p : Parts} (h : Parts.read? t = some p) :
    ∃ w : Writing, w.IsWellFormed ∧ w.parts = p ∧ w.text = t := by
  obtain ⟨hp, die, left, right, hdie, hblank, rfl⟩ := Parts.read?_eq_some h
  cases hm : p.modifier with
  | none =>
      refine ⟨⟨p, die, [], []⟩, ⟨hp, hdie, by simp, fun _ => ⟨rfl, rfl⟩⟩, rfl, ?_⟩
      simp [text, Parts.write, Parts.writeModifier, hm]
  | some m =>
      exact ⟨⟨p, die, left, right⟩, ⟨hp, hdie, hblank, fun hno => by simp [hm] at hno⟩, rfl, rfl⟩

/-- The blanks before a sign end at the sign. -/
theorem takeWhile_writeModifier {left : Text} (right : Text) {m : Char × Text}
    (hm : isSign m.1 = true) (hleft : ∀ c ∈ left, Text.isBlank c = true) :
    (Parts.writeModifier left right (some m)).takeWhile Text.isBlank = left := by
  obtain ⟨sign, ds⟩ := m
  rw [Parts.writeModifier, List.takeWhile_append_of_pos hleft,
    List.takeWhile_cons_of_neg (by simp [isBlank_of_isSign hm]), List.append_nil]

/-- **A text is written in one way at most.** -/
theorem IsWellFormed.unique (h : w.IsWellFormed) (h' : w'.IsWellFormed)
    (he : w.text = w'.text) : w = w' := by
  have hparts : w.parts = w'.parts := by
    have hread := h.read?
    rw [he, h'.read?] at hread
    exact (Option.some.inj hread).symm
  obtain ⟨p, die, left, right⟩ := w
  obtain ⟨p', die', left', right'⟩ := w'
  obtain rfl : p = p' := hparts
  -- the parts are the same, so what stands between them is
  obtain ⟨rfl, hsides⟩ := List.cons.inj (List.append_cancel_left he)
  have hmodifier : Parts.writeModifier left right p.modifier
      = Parts.writeModifier left' right' p.modifier := List.append_cancel_left hsides
  have hbare := h.bare
  have hbare' := h'.bare
  have hsign := h.parts.isSign
  dsimp only at hbare hbare' hsign
  cases hm : p.modifier with
  | none =>
      obtain ⟨rfl, rfl⟩ := hbare hm
      obtain ⟨rfl, rfl⟩ := hbare' hm
      rfl
  | some m =>
      rw [hm] at hmodifier
      have hleft := takeWhile_writeModifier right (hsign m hm)
        fun c hc => h.blank c (List.mem_append_left _ hc)
      have hleft' := takeWhile_writeModifier right' (hsign m hm)
        fun c hc => h'.blank c (List.mem_append_left _ hc)
      dsimp only at hleft hleft'
      rw [hmodifier, hleft'] at hleft
      subst hleft
      rw [List.append_cancel_right (List.cons.inj (List.append_cancel_left hmodifier)).2]

end Writing

/-! ## What is read -/

namespace Formula

variable {t : Text} {w : Writing}

/-- A writing that is accepted is read as what it asks for. -/
theorem read_of_accepted (h : w.IsAccepted) (ht : Text.trim t = w.text) :
    Formula.read t = .ok (w.formula t) := by
  have hnumber {ds : Text} (hds : ds ∈ w.parts.runs) :
      Number.read ds = .ok (Text.digitsValue ds) := Number.read_of_length (h.short ds hds)
  refine read_eq_ok.mpr ⟨w.parts, _, _, _, ?_, hnumber (by simp [Parts.runs]),
    hnumber (by simp [Parts.runs]), Nat.one_le_iff_ne_zero.mp h.one_le_sides,
    modifierValue_eq h.short, rfl⟩
  rw [ht, h.read?]

/-- What is read as a formula is written as one. -/
theorem exists_accepted_of_read {f : Formula} (h : Formula.read t = .ok f) :
    ∃ w : Writing, w.IsAccepted ∧ Text.trim t = w.text := by
  obtain ⟨p, count, sides, modifier, hparts, hcount, hsides, hpos, hmodifier, -⟩ := read_eq_ok.mp h
  obtain ⟨w, hw, rfl, ht⟩ := Writing.exists_of_read? hparts
  have hshort {ds : Text} {n : Nat} (hread : Number.read ds = .ok n) :
      ds.length ≤ digitLimit ∧ Text.digitsValue ds = n := by
    unfold Number.read at hread
    split at hread
    · rename_i hle
      exact ⟨hle, Except.ok.inj hread⟩
    · exact absurd hread (by simp)
  refine ⟨w, ⟨hw, fun ds hds => ?_, ?_⟩, ht.symm⟩
  · have hruns : ds = w.parts.count ∨ ds = w.parts.sides ∨ ∃ m ∈ w.parts.modifier, m.2 = ds := by
      simpa [Parts.runs] using hds
    rcases hruns with rfl | rfl | ⟨m, hm, rfl⟩
    · exact (hshort hcount).1
    · exact (hshort hsides).1
    · rw [Option.mem_def.mp hm, Parts.modifierValue, Fallible.bind_eq_ok_iff] at hmodifier
      obtain ⟨n, hn, -⟩ := hmodifier
      exact (hshort hn).1
  · rw [(hshort hsides).2]
    exact Nat.one_le_iff_ne_zero.mpr hpos

end Formula

/-! ## The pattern of a formula -/

/-- What the groups of the pattern take of a formula. -/
def Parts.groups (p : Parts) : List Text :=
  p.count :: p.sides :: match p.modifier with
    | none => []
    | some (sign, ds) => [[sign], ds]

/-- A sign and digits, with blanks before each of them. -/
def modifierPattern : Pattern :=
  (Pattern.many true (.one Text.isBlank)).andThen ((Pattern.one isSign).group.andThen
    ((Pattern.many true (.one Text.isBlank)).andThen .digits))

/-- A formula without the condition that it ends the text. -/
def writingPattern : Pattern :=
  Pattern.digits.andThen ((Pattern.one isDieLetter).andThen
    (Pattern.digits.andThen modifierPattern.optional))

/-- The end of the text, or the place before a line feed that ends it. -/
def textEnd : Pattern := .here fun _ rest => rest == [] || rest == ['\n']

/-- A formula that is a whole text. -/
def formulaPattern : Pattern := writingPattern.andThen textEnd

theorem takes_modifierPattern : modifierPattern.Takes fun u taken =>
    ∃ left right m, Parts.IsSigned m ∧ (∀ c ∈ left ++ right, Text.isBlank c = true)
      ∧ u = Parts.writeModifier left right (some m) ∧ taken = [[m.1], m.2] := by
  have hblanks := Pattern.takes_many_one true Text.isBlank
  have hsign := (Pattern.takes_one isSign).group
  refine (hblanks.andThen (hsign.andThen (hblanks.andThen Pattern.takes_digits))).congr
    fun u taken => ?_
  constructor
  · rintro ⟨left, _, _, _, rfl, rfl, ⟨hleft, rfl⟩, _, _, _, _, rfl, rfl,
      ⟨_, ⟨⟨sign, hs, rfl⟩, rfl⟩, rfl⟩, right, ds, _, _, rfl, rfl, ⟨hright, rfl⟩, ⟨hne, hds⟩, rfl⟩
    exact ⟨left, right, (sign, ds), ⟨hs, hne, hds⟩,
      fun c hc => (List.mem_append.mp hc).elim (hleft c) (hright c), rfl, rfl⟩
  · rintro ⟨left, right, ⟨sign, ds⟩, ⟨hs, hne, hds⟩, hblank, rfl, rfl⟩
    have hleft : ∀ c ∈ left, Text.isBlank c = true :=
      fun c hc => hblank c (List.mem_append_left _ hc)
    have hright : ∀ c ∈ right, Text.isBlank c = true :=
      fun c hc => hblank c (List.mem_append_right _ hc)
    exact ⟨left, sign :: (right ++ ds), [], [[sign], ds], rfl, rfl, ⟨hleft, rfl⟩,
      [sign], right ++ ds, [[sign]], [ds], rfl, rfl, ⟨[], ⟨⟨sign, hs, rfl⟩, rfl⟩, rfl⟩,
      right, ds, [], [ds], rfl, rfl, ⟨hright, rfl⟩, ⟨hne, hds⟩, rfl⟩

/-- **The pattern goes over writings and nothing else**, and its groups take their parts. -/
theorem takes_writingPattern : writingPattern.Takes fun u taken =>
    ∃ w : Writing, w.IsWellFormed ∧ u = w.text ∧ taken = w.parts.groups := by
  have hdigits := Pattern.takes_digits
  refine (hdigits.andThen ((Pattern.takes_one isDieLetter).andThen
    (hdigits.andThen takes_modifierPattern.optional))).congr fun u taken => ?_
  constructor
  · rintro ⟨count, _, _, _, rfl, rfl, ⟨⟨hcount, hcountDigits⟩, rfl⟩, _, _, _, _, rfl, rfl,
      ⟨⟨die, hdie, rfl⟩, rfl⟩, sides, _, _, _, rfl, rfl, ⟨⟨hsides, hsidesDigits⟩, rfl⟩,
      ⟨left, right, m, hm, hblank, rfl, rfl⟩ | ⟨rfl, rfl⟩⟩
    · refine ⟨⟨⟨count, sides, some m⟩, die, left, right⟩,
        ⟨.of_runs hcount hcountDigits hsides hsidesDigits ?_, hdie, hblank, by simp⟩, rfl, rfl⟩
      intro m' hm'
      obtain rfl := Option.some.inj hm'
      exact hm
    · exact ⟨⟨⟨count, sides, none⟩, die, [], []⟩,
        ⟨.of_runs hcount hcountDigits hsides hsidesDigits (by simp), hdie, by simp,
          fun _ => ⟨rfl, rfl⟩⟩, rfl, rfl⟩
  · rintro ⟨⟨⟨count, sides, modifier⟩, die, left, right⟩, ⟨hparts, hdie, hblank, hbare⟩, rfl, rfl⟩
    have hrun {ds : Text} (hds : ds ∈ Parts.runs ⟨count, sides, modifier⟩) :
        ds ≠ [] ∧ ∀ c ∈ ds, Text.isDigit c = true := ⟨hparts.ne_nil ds hds, hparts.isDigit ds hds⟩
    have hsigned := hparts.isSigned
    refine ⟨count, die :: (sides ++ Parts.writeModifier left right modifier), [count],
      sides :: (Parts.groups ⟨count, sides, modifier⟩).drop 2, rfl, rfl,
      ⟨hrun (by simp [Parts.runs]), rfl⟩, [die], sides ++ Parts.writeModifier left right modifier,
      [], sides :: (Parts.groups ⟨count, sides, modifier⟩).drop 2, rfl, rfl,
      ⟨⟨die, hdie, rfl⟩, rfl⟩, sides, Parts.writeModifier left right modifier, [sides],
      (Parts.groups ⟨count, sides, modifier⟩).drop 2, rfl, rfl,
      ⟨hrun (by simp [Parts.runs]), rfl⟩, ?_⟩
    cases modifier with
    | none => exact .inr ⟨rfl, rfl⟩
    | some m => exact .inl ⟨left, right, m, hsigned m rfl, hblank, rfl, rfl⟩

/-- **The parts of a text are what the pattern of a formula takes of it**, where no blank ends the
text. -/
theorem first?_formulaPattern {t : Text} (ht : ∀ c ∈ t.getLast?, Text.isBlank c = false) :
    (formulaPattern.first? ⟨[], t, []⟩).map Place.groups = (Parts.read? t).map Parts.groups := by
  -- wherever the pattern ends, it has gone over all of the text
  have hwhole {x : Place} (hx : x ∈ formulaPattern.ends ⟨[], t, []⟩) :
      ∃ w : Writing, w.IsWellFormed ∧ w.text = t ∧ x.groups = w.parts.groups := by
    rw [formulaPattern, Pattern.ends, List.mem_flatMap] at hx
    obtain ⟨y, hy, hx⟩ := hx
    obtain ⟨hend, rfl⟩ := Pattern.mem_ends_here.mp hx
    obtain ⟨u, rest, taken, hrest, ⟨w, hw, rfl, rfl⟩, rfl⟩ := (takes_writingPattern _ x).mp hy
    refine ⟨w, hw, ?_, rfl⟩
    replace hrest : t = w.text ++ rest := hrest
    have hrestEnd : rest = [] ∨ rest = ['\n'] := by simpa using hend
    rcases hrestEnd with rfl | rfl
    · rw [hrest, List.append_nil]
    · have hfeed := ht '\n' (by rw [hrest, List.getLast?_append]; rfl)
      exact absurd hfeed (by decide)
  cases hread : Parts.read? t with
  | none =>
      cases hfirst : formulaPattern.first? ⟨[], t, []⟩ with
      | none => rfl
      | some x =>
          obtain ⟨w, hw, rfl, -⟩ := hwhole (List.mem_of_head? hfirst)
          rw [hw.read?] at hread
          exact absurd hread (by simp)
  | some p =>
      obtain ⟨w, hw, rfl, rfl⟩ := Writing.exists_of_read? hread
      have hends : formulaPattern.ends ⟨[], w.text, []⟩ ≠ [] := by
        refine List.ne_nil_of_mem (a := (Place.mk [] w.text []).after w.text [] w.parts.groups) ?_
        rw [formulaPattern, Pattern.ends, List.mem_flatMap]
        exact ⟨_, (takes_writingPattern _ _).mpr
          ⟨w.text, [], w.parts.groups, (List.append_nil _).symm, ⟨w, hw, rfl, rfl⟩, rfl⟩,
          Pattern.mem_ends_here.mpr ⟨rfl, rfl⟩⟩
      obtain ⟨x, xs, hx⟩ := List.exists_cons_of_ne_nil hends
      obtain ⟨w', hw', ht', hgroups⟩ := hwhole (x := x) (by rw [hx]; simp)
      rw [Pattern.first?, hx, List.head?_cons, Option.map_some, hgroups, hw'.unique hw ht']
      rfl

/-! ## Formulas -/

/--
**A text is a formula exactly if it is written as one.**

Trimmed, it is a writing: a run of digits, the letter of the die, another run of digits and
perhaps a sign and a third run with blanks around the sign. Each of the runs is one that can be
read, and the second one is not zero. It is a writing in one way only, which is the way that the
pattern of a formula cuts it, and what is read from it are the numbers of the runs. Any other
text is refused, and rolling it asks the source for nothing.
-/
theorem Formula.read_iff_writing (t : Text) :
    ((∃ f, Formula.read t = .ok f) ↔ ∃ w : Writing, w.IsAccepted ∧ Text.trim t = w.text)
      ∧ (∀ w w' : Writing, w.IsWellFormed → w'.IsWellFormed → Text.trim t = w.text →
        Text.trim t = w'.text → w = w')
      ∧ (∀ w : Writing, w.IsAccepted → Text.trim t = w.text →
        Formula.read t = .ok (w.formula t))
      ∧ ((¬∃ w : Writing, w.IsAccepted ∧ Text.trim t = w.text) →
        (∃ e, Formula.read t = .error e) ∧ ∀ s, roll? t s = (none, s))
      ∧ (formulaPattern.first? ⟨[], Text.trim t, []⟩).map Place.groups
        = (Parts.read? (Text.trim t)).map Parts.groups := by
  have haccepted : (∃ f, Formula.read t = .ok f)
      ↔ ∃ w : Writing, w.IsAccepted ∧ Text.trim t = w.text :=
    ⟨fun ⟨_, hf⟩ => Formula.exists_accepted_of_read hf,
      fun ⟨w, hw, ht⟩ => ⟨_, Formula.read_of_accepted hw ht⟩⟩
  refine ⟨haccepted, fun w w' hw hw' ht ht' => hw.unique hw' (ht.symm.trans ht'),
    fun w hw ht => Formula.read_of_accepted hw ht, fun hno => ?_,
    first?_formulaPattern fun c hc => Text.isBlank_of_getLast?_trim hc⟩
  rw [← haccepted] at hno
  cases hread : Formula.read t with
  | ok f => exact absurd ⟨f, hread⟩ hno
  | error e => exact ⟨⟨e, rfl⟩, fun s => by rw [roll?, hread]⟩

/-- A formula with digits of two scripts and blanks around it and around its sign. -/
def spaced : Writing :=
  ⟨⟨"2".toList, "١٠".toList, some ('-', "04".toList)⟩, 'D', " ".toList, "\n\t".toList⟩

theorem Formula.read_iff_writing_spaced :
    spaced.IsAccepted ∧ Text.trim "\t2D١٠ -\n\t04 ".toList = spaced.text
      ∧ Formula.read "\t2D١٠ -\n\t04 ".toList = .ok ⟨"\t2D١٠ -\n\t04 ".toList, 2, 10, -4⟩ := by
  have hparts : spaced.parts.IsWellFormed := by
    refine .of_runs (by decide) (List.all_eq_true.mp (by decide)) (by decide)
      (List.all_eq_true.mp (by decide)) fun m hm => ?_
    obtain rfl := Option.some.inj hm
    exact ⟨by decide, by decide, List.all_eq_true.mp (by decide)⟩
  have haccepted : spaced.IsAccepted :=
    ⟨⟨hparts, by decide, List.all_eq_true.mp (by decide), by decide⟩, by decide, by decide⟩
  have htrim : Text.trim "\t2D١٠ -\n\t04 ".toList = spaced.text := by decide
  obtain ⟨-, -, hread, -⟩ := Formula.read_iff_writing "\t2D١٠ -\n\t04 ".toList
  exact ⟨haccepted, htrim, hread spaced haccepted htrim⟩

end Gamebook.Dice
