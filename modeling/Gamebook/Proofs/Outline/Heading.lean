import Gamebook.Outline
import Gamebook.Proofs.Text.Pattern

/-!
# Which lines are headings

`IsHeading` is the rule for headings: one to three number signs, blanks, and a remainder that
is not all blank. A line is read by it in one way only, for the number signs cannot be fewer
than there are: a blank stands behind the last of them.

The pattern of a heading leaves more open. It may give back blanks to the remainder, and it goes
through where nothing but blanks is left, and then its finding is thrown away. Whatever
it gives back, the trimmed remainder is the same (`matched?_eq_heading?`).
-/

namespace Gamebook.Outline

open Text (Pattern Place)

/-! ## The rule -/

/-- A line that is a heading: number signs, at least one blank, and a remainder that is not all
blank. -/
structure IsHeading (line : Text) (h : Heading) : Prop where
  shape : ∃ blanks remainder, line = List.replicate h.level '#' ++ (blanks ++ remainder)
    ∧ blanks ≠ [] ∧ (∀ c ∈ blanks, Text.isBlank c = true)
    ∧ ∃ c ∈ remainder, Text.isBlank c = false
  level : 1 ≤ h.level ∧ h.level ≤ 3
  text : h.text = Text.trim (line.drop h.level)
  id : h.id = slug h.text

/-! ## Number signs -/

variable {line rest : Text} {h : Heading} {k : Nat} {c : Char}

theorem ne_sign_of_isBlank (hc : Text.isBlank c = true) : c ≠ '#' := by
  rintro rfl
  exact absurd hc (by decide)

theorem span_signs (k : Nat) (hrest : ∀ c ∈ rest.head?, c ≠ '#') :
    (List.replicate k '#' ++ rest).span (· == '#') = (List.replicate k '#', rest) :=
  Text.span_append (fun c hc => by simp [List.eq_of_mem_replicate hc])
    fun c hc => by simpa using hrest c hc

theorem takeWhile_dropWhile_signs (k : Nat) (hrest : ∀ c ∈ rest.head?, c ≠ '#') :
    (List.replicate k '#' ++ rest).takeWhile (· == '#') = List.replicate k '#'
      ∧ (List.replicate k '#' ++ rest).dropWhile (· == '#') = rest := by
  have hspan := span_signs k hrest
  rw [List.span_eq_takeWhile_dropWhile] at hspan
  exact Prod.mk.inj hspan

/-- What is left behind the signs and the blanks of a heading, trimmed. -/
theorem trim_drop_signs {blanks : Text} (hblanks : ∀ c ∈ blanks, Text.isBlank c = true) (k : Nat)
    (remainder : Text) :
    Text.trim ((List.replicate k '#' ++ (blanks ++ remainder)).drop k) = Text.trim remainder := by
  rw [List.drop_left' (List.length_replicate ..), Text.trim_blanks_append hblanks]

/-- Every line has some number of number signs at its start. -/
theorem exists_signs (line : Text) :
    ∃ k rest, line = List.replicate k '#' ++ rest ∧ ∀ c ∈ rest.head?, c ≠ '#' := by
  refine ⟨(line.takeWhile (· == '#')).length, line.dropWhile (· == '#'), ?_, fun c hc => ?_⟩
  · have hsigns : line.takeWhile (· == '#')
        = List.replicate (line.takeWhile (· == '#')).length '#' :=
      List.eq_replicate_of_mem fun c hc => by simpa using List.mem_takeWhile_imp hc
    rw [← hsigns, List.takeWhile_append_dropWhile]
  · have hstop := List.head?_dropWhile_not (· == '#') line
    rw [Option.mem_def.mp hc] at hstop
    simpa using hstop

/-- A heading is read off what follows the number signs. -/
theorem heading?_signs (k : Nat) (hc : c ≠ '#') (rest : Text) :
    heading? (List.replicate k '#' ++ c :: rest)
      = if (1 ≤ k ∧ k ≤ 3) ∧ Text.isBlank c = true ∧ Text.trim rest ≠ [] then
          some ⟨k, Text.trim rest, slug (Text.trim rest)⟩
        else none := by
  have hhead : ∀ d ∈ (c :: rest).head?, d ≠ '#' := fun d hd => Option.some.inj hd ▸ hc
  obtain ⟨htake, hdrop⟩ := takeWhile_dropWhile_signs k hhead
  simp only [heading?, htake, hdrop, List.length_replicate, Bool.and_eq_true, decide_eq_true_eq,
    and_assoc]

theorem heading?_signs_only (k : Nat) : heading? (List.replicate k '#') = none := by
  obtain ⟨-, hdrop⟩ := @takeWhile_dropWhile_signs [] k (by simp)
  rw [List.append_nil] at hdrop
  simp only [heading?, hdrop]

/-- The blanks behind the number signs are no part of the text of a heading. -/
theorem heading?_blanks {blanks remainder : Text} (hne : blanks ≠ [])
    (hblanks : ∀ c ∈ blanks, Text.isBlank c = true) :
    heading? (List.replicate k '#' ++ (blanks ++ remainder))
      = if (1 ≤ k ∧ k ≤ 3) ∧ Text.trim remainder ≠ [] then
          some ⟨k, Text.trim remainder, slug (Text.trim remainder)⟩
        else none := by
  obtain ⟨c, blanks, rfl⟩ := List.exists_cons_of_ne_nil hne
  obtain ⟨hc, hblanks⟩ := List.forall_mem_cons.mp hblanks
  rw [List.cons_append, heading?_signs k (ne_sign_of_isBlank hc),
    Text.trim_blanks_append hblanks]
  simp only [hc, true_and]

/-- **A line is read as a heading exactly by the rule.** -/
theorem heading?_eq_some_iff : heading? line = some h ↔ IsHeading line h := by
  constructor
  · intro hread
    obtain ⟨k, rest, rfl, hrest⟩ := exists_signs line
    cases rest with
    | nil =>
        rw [List.append_nil, heading?_signs_only] at hread
        exact absurd hread (by simp)
    | cons c rest =>
        rw [heading?_signs k (hrest c rfl)] at hread
        split at hread
        · rename_i hcond
          obtain ⟨hlevel, hc, htext⟩ := hcond
          obtain rfl := Option.some.inj hread
          have hblank : ∀ d ∈ [c], Text.isBlank d = true := by simpa using hc
          refine ⟨⟨[c], rest, rfl, List.cons_ne_nil c [], hblank, ?_⟩, hlevel, ?_, rfl⟩
          · simpa [Text.trim_eq_nil_iff] using htext
          · exact (trim_drop_signs hblank k rest).symm
        · exact absurd hread (by simp)
  · rintro ⟨⟨blanks, remainder, hline, hne, hblanks, c, hc, hblank⟩, hlevel, htext, hid⟩
    have htrim : h.text = Text.trim remainder := by
      rw [htext, hline, trim_drop_signs hblanks]
    have hfilled : Text.trim remainder ≠ [] := fun hnil =>
      absurd (Text.trim_eq_nil_iff.mp hnil c hc) (by simp [hblank])
    rw [hline, heading?_blanks hne hblanks, if_pos ⟨hlevel, hfilled⟩, ← htrim, ← hid]

/-- The level counts all the number signs at the start of the line. -/
theorem IsHeading.level_eq (hh : IsHeading line h) :
    h.level = (line.takeWhile (· == '#')).length := by
  obtain ⟨blanks, remainder, hline, hne, hblanks, -⟩ := hh.shape
  obtain ⟨c, blanks, rfl⟩ := List.exists_cons_of_ne_nil hne
  have hstop : ∀ d ∈ (c :: blanks ++ remainder).head?, d ≠ '#' := fun d hd =>
    Option.some.inj hd ▸ ne_sign_of_isBlank (hblanks c (List.mem_cons_self ..))
  rw [hline, (takeWhile_dropWhile_signs h.level hstop).1, List.length_replicate]

/-- There is a text, and no blank at its ends. -/
theorem IsHeading.text_trimmed (hh : IsHeading line h) :
    h.text ≠ [] ∧ (∀ c ∈ h.text.head?, Text.isBlank c = false)
      ∧ ∀ c ∈ h.text.getLast?, Text.isBlank c = false := by
  refine ⟨fun hnil => ?_, ?_, ?_⟩
  · obtain ⟨blanks, remainder, hline, -, hblanks, c, hc, hblank⟩ := hh.shape
    rw [hh.text, hline, trim_drop_signs hblanks, Text.trim_eq_nil_iff] at hnil
    exact absurd (hnil c hc) (by simp [hblank])
  · rw [hh.text]
    exact fun c hc => Text.isBlank_of_head?_trim hc
  · rw [hh.text]
    exact fun c hc => Text.isBlank_of_getLast?_trim hc

/-! ## The pattern of a heading -/

/-- One to three number signs, as many as there are. -/
def signs : Pattern :=
  (Pattern.char '#').andThen ((Pattern.char '#').andThen (Pattern.char '#').optional).optional

/-- The number signs as a group, blanks, and a remainder as a group. -/
def headingBody : Pattern :=
  signs.group.andThen ((Pattern.oneOrMore (.one Text.isBlank)).andThen
    (Pattern.oneOrMore (.one (· != '\n'))).group)

/-- A heading from the start to the end of a text; a line feed may stand behind it. -/
def headingPattern : Pattern :=
  (Pattern.here fun before _ => before.isNone).andThen
    (headingBody.andThen (.here fun _ rest => rest == [] || rest == ['\n']))

/-- The heading that is read off what the groups of the pattern take, unless nothing is left of the
remainder when it is trimmed. -/
def matched? (line : Text) : Option Heading :=
  (headingPattern.first? ⟨[], line, []⟩).bind fun s =>
    match s.groups with
    | [signs, remainder] =>
      let text := Text.trim remainder
      if text = [] then none else some ⟨signs.length, text, slug text⟩
    | _ => none

theorem takes_signs :
    signs.Takes fun u taken => (∃ k, (1 ≤ k ∧ k ≤ 3) ∧ u = List.replicate k '#') ∧ taken = [] := by
  have hsign := Pattern.takes_one (· == '#')
  refine (hsign.andThen (hsign.andThen hsign.optional).optional).congr fun u taken => ?_
  constructor
  · rintro ⟨_, _, _, _, rfl, rfl, ⟨⟨a, ha, rfl⟩, rfl⟩,
      ⟨_, _, _, _, rfl, rfl, ⟨⟨b, hb, rfl⟩, rfl⟩, ⟨⟨d, hd, rfl⟩, rfl⟩ | ⟨rfl, rfl⟩⟩ | ⟨rfl, rfl⟩⟩
    · rw [beq_iff_eq.mp ha, beq_iff_eq.mp hb, beq_iff_eq.mp hd]
      exact ⟨⟨3, by decide, rfl⟩, rfl⟩
    · rw [beq_iff_eq.mp ha, beq_iff_eq.mp hb]
      exact ⟨⟨2, by decide, rfl⟩, rfl⟩
    · rw [beq_iff_eq.mp ha]
      exact ⟨⟨1, by decide, rfl⟩, rfl⟩
  · rintro ⟨⟨k, ⟨hlow, hhigh⟩, rfl⟩, rfl⟩
    have hone : ∃ c, (c == '#') = true ∧ ['#'] = [c] := ⟨'#', rfl, rfl⟩
    obtain rfl | rfl | rfl : k = 1 ∨ k = 2 ∨ k = 3 := by omega
    · exact ⟨['#'], [], [], [], rfl, rfl, ⟨hone, rfl⟩, .inr ⟨rfl, rfl⟩⟩
    · exact ⟨['#'], ['#'], [], [], rfl, rfl, ⟨hone, rfl⟩,
        .inl ⟨['#'], [], [], [], rfl, rfl, ⟨hone, rfl⟩, .inr ⟨rfl, rfl⟩⟩⟩
    · exact ⟨['#'], ['#', '#'], [], [], rfl, rfl, ⟨hone, rfl⟩,
        .inl ⟨['#'], ['#'], [], [], rfl, rfl, ⟨hone, rfl⟩, .inl ⟨hone, rfl⟩⟩⟩

/-- The parts that the pattern can cut a heading into. -/
structure IsSplit (k : Nat) (blanks remainder : Text) : Prop where
  level : 1 ≤ k ∧ k ≤ 3
  blanks_ne_nil : blanks ≠ []
  isBlank : ∀ c ∈ blanks, Text.isBlank c = true
  remainder_ne_nil : remainder ≠ []
  feed_not_mem : ∀ c ∈ remainder, (c != '\n') = true

theorem takes_headingBody :
    headingBody.Takes fun u taken => ∃ k blanks remainder, IsSplit k blanks remainder
      ∧ u = List.replicate k '#' ++ (blanks ++ remainder)
      ∧ taken = [List.replicate k '#', remainder] := by
  have hblanks := Pattern.takes_oneOrMore_one Text.isBlank
  have hremainder := Pattern.takes_oneOrMore_one (· != '\n')
  refine (takes_signs.group.andThen (hblanks.andThen hremainder.group)).congr fun u taken => ?_
  constructor
  · rintro ⟨_, _, _, _, rfl, rfl, ⟨_, ⟨⟨k, hk, rfl⟩, rfl⟩, rfl⟩,
      blanks, remainder, _, _, rfl, rfl, ⟨hne, hblank, rfl⟩, _, ⟨hne', hfeed, rfl⟩, rfl⟩
    exact ⟨k, blanks, remainder, ⟨hk, hne, hblank, hne', hfeed⟩, rfl, rfl⟩
  · rintro ⟨k, blanks, remainder, hs, rfl, rfl⟩
    exact ⟨_, _, [List.replicate k '#'], [remainder], rfl, rfl,
      ⟨[], ⟨⟨k, hs.level, rfl⟩, rfl⟩, rfl⟩, blanks, remainder, [], [remainder], rfl, rfl,
      ⟨hs.blanks_ne_nil, hs.isBlank, rfl⟩, [], ⟨hs.remainder_ne_nil, hs.feed_not_mem, rfl⟩, rfl⟩

/-- Where the pattern can end on a line, and with what in its groups. -/
theorem mem_ends_headingPattern (hline : '\n' ∉ line) {s : Place} :
    s ∈ headingPattern.ends ⟨[], line, []⟩
      ↔ ∃ k blanks remainder, IsSplit k blanks remainder
        ∧ line = List.replicate k '#' ++ (blanks ++ remainder)
        ∧ s = ⟨line.reverse, [], [List.replicate k '#', remainder]⟩ := by
  rw [headingPattern, Pattern.ends, List.mem_flatMap]
  constructor
  · rintro ⟨x, hx, hs⟩
    obtain ⟨-, rfl⟩ := Pattern.mem_ends_here.mp hx
    rw [Pattern.ends, List.mem_flatMap] at hs
    obtain ⟨y, hy, hs⟩ := hs
    obtain ⟨hend, rfl⟩ := Pattern.mem_ends_here.mp hs
    obtain ⟨u, t, taken, hrest, ⟨k, blanks, remainder, hsplit, rfl, rfl⟩, rfl⟩ :=
      (takes_headingBody _ s).mp hy
    obtain rfl : line = _ := hrest
    -- no line feed is left to stand behind the heading
    obtain rfl : t = [] := by
      rw [Place.rest_after, Bool.or_eq_true, beq_iff_eq, beq_iff_eq] at hend
      rcases hend with hend | rfl
      · exact hend
      · exact absurd (List.mem_append_right _ (List.mem_singleton_self _)) hline
    exact ⟨k, blanks, remainder, hsplit, List.append_nil _, by simp [Place.after]⟩
  · rintro ⟨k, blanks, remainder, hsplit, rfl, rfl⟩
    refine ⟨_, Pattern.mem_ends_here.mpr ⟨rfl, rfl⟩, ?_⟩
    rw [Pattern.ends, List.mem_flatMap]
    refine ⟨_, (takes_headingBody _ _).mpr ⟨_, [], _, (List.append_nil _).symm,
      ⟨k, blanks, remainder, hsplit, rfl, rfl⟩, rfl⟩, Pattern.mem_ends_here.mpr ⟨rfl, ?_⟩⟩
    simp [Place.after]

/-- **What the pattern finds in a line is the heading that the line is.** -/
theorem matched?_eq_heading? (hline : '\n' ∉ line) : matched? line = heading? line := by
  cases hfirst : headingPattern.first? ⟨[], line, []⟩ with
  | some s =>
      obtain ⟨k, blanks, remainder, hsplit, rfl, rfl⟩ :=
        (mem_ends_headingPattern hline).mp (List.mem_of_head? hfirst)
      rw [heading?_blanks hsplit.blanks_ne_nil hsplit.isBlank, matched?, hfirst]
      by_cases hnil : Text.trim remainder = []
      · simp [hnil]
      · simp [hnil, hsplit.level]
  | none =>
      have hends : headingPattern.ends ⟨[], line, []⟩ = [] := List.head?_eq_none_iff.mp hfirst
      rw [matched?, hfirst, Option.bind_none, eq_comm, Option.eq_none_iff_forall_ne_some]
      intro h hread
      -- a heading is one of the ways in which the pattern goes through
      obtain ⟨⟨blanks, remainder, hshape, hne, hblanks, c, hc, -⟩, hlevel, -⟩ :=
        heading?_eq_some_iff.mp hread
      have hsplit : IsSplit h.level blanks remainder :=
        ⟨hlevel, hne, hblanks, List.ne_nil_of_mem hc, fun d hd => by
          rw [bne_iff_ne]
          rintro rfl
          exact hline (by simp [hshape, hd])⟩
      have hmem := (mem_ends_headingPattern hline).mpr ⟨_, _, _, hsplit, hshape, rfl⟩
      rw [hends] at hmem
      exact absurd hmem List.not_mem_nil

end Gamebook.Outline
