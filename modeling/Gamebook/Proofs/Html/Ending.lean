import Gamebook.Html.Event
import Gamebook.Proofs.Text.Words

/-!
# Where comments and scripts end

A comment ends at the first place where two hyphens are followed by a closing bracket, with blanks
between them. The contents of a script or a style end at the first end tag of the element. Both
are found by looking at one place after the other (`EndsAt`), so it is enough to know the words that
end them: see `afterComment?_eq_some_iff` and `takeRaw?_eq_some_iff`.
-/

namespace Gamebook.Html

/-- A text is read up to the first place where one of some words stands, and `rest` is what follows
that word. -/
inductive EndsAt (IsEnd : Text → Prop) (rest : Text) : Text → Prop where
  | here {x : Text} : IsEnd x → EndsAt IsEnd rest (x ++ rest)
  | later {c : Char} {t : Text} :
      (∀ x, IsEnd x → ¬x <+: c :: t) → EndsAt IsEnd rest t → EndsAt IsEnd rest (c :: t)

variable {IsEnd : Text → Prop} {c : Char} {t x w rest : Text}

/-- Places at which no such word stands are passed over. -/
theorem EndsAt.append_iff (hw : ∀ v, v ≠ [] → v <:+ w → ∀ x, IsEnd x → ¬x <+: v ++ t) :
    EndsAt IsEnd rest (w ++ t) ↔ EndsAt IsEnd rest t := by
  induction w with
  | nil => exact Iff.rfl
  | cons c w ih =>
      -- no word stands at the first place, and none at the later ones
      have hhere := hw (c :: w) (List.cons_ne_nil c w) List.suffix_rfl
      have hlater := ih fun v hne hv => hw v hne (hv.trans (List.suffix_cons c w))
      rw [List.cons_append] at hhere ⊢
      rw [← hlater]
      constructor
      · generalize htext : c :: (w ++ t) = text
        rintro (⟨hx⟩ | ⟨-, h⟩)
        · exact absurd ⟨rest, htext.symm⟩ (hhere _ hx)
        · obtain ⟨rfl, rfl⟩ := List.cons.inj htext
          exact h
      · exact .later hhere

/-- A search that passes over every other place ends where the first such word stands. -/
theorem endsAt_iff {find : Text → Option Text} (hnil : find [] = none)
    (hhere : ∀ x rest, IsEnd x → find (x ++ rest) = some rest)
    (hlater : ∀ c t, (∀ x, IsEnd x → ¬x <+: c :: t) → find (c :: t) = find t) :
    find t = some rest ↔ EndsAt IsEnd rest t := by
  constructor
  · intro h
    induction t with
    | nil => exact absurd h (by simp [hnil])
    | cons c t ih =>
        by_cases hbegins : ∃ x, IsEnd x ∧ x <+: c :: t
        · obtain ⟨x, hx, behind, htext⟩ := hbegins
          rw [← htext, hhere x behind hx] at h
          obtain rfl := Option.some.inj h
          rw [← htext]
          exact .here hx
        · push Not at hbegins
          rw [hlater c t hbegins] at h
          exact .later hbegins (ih h)
  · intro h
    induction h with
    | here hx => exact hhere _ rest hx
    | later hbegins _ ih => rwa [hlater _ _ hbegins]

/-! ## Comments -/

/-- Two hyphens, blanks and a closing bracket. -/
def IsCommentEnd (x : Text) : Prop :=
  ∃ blanks, (∀ c ∈ blanks, Text.isBlank c = true) ∧ x = '-' :: '-' :: (blanks ++ ['>'])

theorem isDigit_of_isBlank (hc : Text.isBlank c = true) : Text.isDigit c = false := by
  refine Bool.eq_false_iff.mpr fun hd => ?_
  rw [Text.isBlank_of_isDigit hd] at hc
  exact absurd hc (by decide)

theorem IsCommentEnd.shape (hx : IsCommentEnd x) :
    ∃ blanks, (∀ c ∈ blanks, Text.isBlank c = true)
      ∧ ∀ rest, x ++ rest = '-' :: '-' :: (blanks ++ '>' :: rest) := by
  obtain ⟨blanks, hblanks, rfl⟩ := hx
  exact ⟨blanks, hblanks, fun rest => by simp⟩

/-- Blanks up to a closing bracket. -/
theorem dropWhile_blanks {blanks : Text} (h : ∀ c ∈ blanks, Text.isBlank c = true) (rest : Text) :
    (blanks ++ '>' :: rest).dropWhile Text.isBlank = '>' :: rest := by
  rw [List.dropWhile_append_of_pos h]
  rfl

theorem IsCommentEnd.not_digit (hx : IsCommentEnd x) : ∀ c ∈ x, Text.isDigit c = false := by
  obtain ⟨blanks, hblanks, rfl⟩ := hx
  intro c hc
  simp only [List.mem_cons, List.mem_append, List.not_mem_nil, or_false] at hc
  rcases hc with rfl | rfl | hc | rfl
  · decide
  · decide
  · exact isDigit_of_isBlank (hblanks c hc)
  · decide

theorem afterComment?_eq_some_iff : afterComment? t = some rest ↔ EndsAt IsCommentEnd rest t := by
  refine endsAt_iff rfl (fun x rest hx => ?_) fun c t hlater => ?_
  · obtain ⟨blanks, hblanks, hshape⟩ := hx.shape
    rw [hshape, afterComment?, dropWhile_blanks hblanks]
    rfl
  · conv_lhs => unfold afterComment?
    split
    · rename_i behind
      split
      · rename_i after hdrop
        have hbehind := List.takeWhile_append_dropWhile (p := Text.isBlank) (l := behind)
        rw [hdrop] at hbehind
        have hend : IsCommentEnd ('-' :: '-' :: (behind.takeWhile Text.isBlank ++ ['>'])) :=
          ⟨_, fun _ hc => List.mem_takeWhile_imp hc, rfl⟩
        exact absurd ⟨after, by simpa using hbehind⟩ (hlater _ hend)
      · rfl
    · rfl

/-! ## Scripts and styles -/

/-- A character of the name of an end tag. -/
def isEndNameChar (c : Char) : Bool :=
  c.isAlphanum || c == '-' || c == '.' || c == ':' || c == '_'

/-- An end tag of the plain form, after its opening. -/
structure IsPlainEnd (name inner : Text) : Prop where
  shape : ∃ left right, (∀ c ∈ left, Text.isBlank c = true) ∧ (∀ c ∈ right, Text.isBlank c = true)
    ∧ inner = left ++ (name ++ (right ++ ['>']))
  first : ∃ c more, name = c :: more ∧ isLetter c = true
  named : ∀ c ∈ name, isEndNameChar c = true

/-- An end tag of the element. -/
def IsRawEnd (name x : Text) : Prop :=
  ∃ found inner, IsPlainEnd found inner ∧ Text.lower found = name ∧ x = '<' :: '/' :: inner

theorem toNat_of_isEndNameChar (h : isEndNameChar c = true) : 45 ≤ c.toNat ∧ c.toNat < 0x80 := by
  simp only [isEndNameChar, Bool.or_eq_true, beq_iff_eq, Text.isAlphanum_iff, or_assoc] at h
  rcases h with h | h | h | rfl | rfl | rfl | rfl
  · omega
  · omega
  · omega
  all_goals decide

theorem isBlank_of_isEndNameChar (h : isEndNameChar c = true) : Text.isBlank c = false := by
  have := toNat_of_isEndNameChar h
  simp only [Text.isBlank, Bool.or_eq_false_iff, Bool.and_eq_false_iff, decide_eq_false_iff_not,
    beq_eq_false_iff_ne]
  omega

/-- Lowering a name leaves its digits, and the names of a script and a style have none. -/
theorem not_digit_of_lower {found : Text} (hnamed : ∀ c ∈ found, isEndNameChar c = true)
    (hraw : isRawElement (Text.lower found) = true) : ∀ c ∈ found, Text.isDigit c = false := by
  have hascii : ∀ c ∈ found, c.toNat < 0x80 := fun c hc => (toNat_of_isEndNameChar (hnamed c hc)).2
  have hcode : ∀ n < 58, 48 ≤ n → (Char.ofNat n).toLower = Char.ofNat n := by decide
  intro c hc
  refine Bool.eq_false_iff.mpr fun hd => ?_
  have hfigure := (Text.isDigit_iff_of_ascii (hascii c hc)).mp hd
  have hlower := hcode c.toNat (by omega) hfigure.1
  rw [Char.ofNat_toNat] at hlower
  have hmem : c ∈ Text.lower found := by
    rw [Text.lower_of_ascii hascii]
    exact List.mem_map.mpr ⟨c, hc, hlower⟩
  have hnone : ∀ c ∈ "script".toList ++ "style".toList, (!Text.isDigit c) = true :=
    List.all_eq_true.mp (by decide)
  rw [isRawElement, Bool.or_eq_true, beq_iff_eq, beq_iff_eq] at hraw
  have hboth : c ∈ "script".toList ++ "style".toList := by
    rcases hraw with hraw | hraw
    · exact List.mem_append_left _ (hraw ▸ hmem)
    · exact List.mem_append_right _ (hraw ▸ hmem)
  have hnot := hnone c hboth
  rw [hd] at hnot
  exact absurd hnot (by decide)

/-- The end tag of a script or a style holds no digit, and only one opening bracket. -/
theorem IsRawEnd.chars {name : Text} (hname : isRawElement name = true) (hx : IsRawEnd name x) :
    '<' ∉ x.tail ∧ ∀ c ∈ x, Text.isDigit c = false := by
  obtain ⟨found, -, ⟨⟨left, right, hleft, hright, rfl⟩, -, hnamed⟩, rfl, rfl⟩ := hx
  have hfound := not_digit_of_lower hnamed hname
  have hbracket {blanks : Text} (h : ∀ c ∈ blanks, Text.isBlank c = true) : '<' ∉ blanks :=
    fun hm => absurd (h '<' hm) (by decide)
  have hbracketName : '<' ∉ found := fun hm => absurd (hnamed '<' hm) (by decide)
  refine ⟨by simp [hbracket hleft, hbracket hright, hbracketName], fun c hc => ?_⟩
  simp only [List.mem_cons, List.mem_append, List.not_mem_nil, or_false] at hc
  rcases hc with rfl | rfl | hc | hc | hc | rfl
  · decide
  · decide
  · exact isDigit_of_isBlank (hleft c hc)
  · exact hfound c hc
  · exact isDigit_of_isBlank (hright c hc)
  · decide

theorem plainEndTag?_eq_some_iff {name : Text} :
    plainEndTag? t = some (name, rest) ↔ ∃ inner, IsPlainEnd name inner ∧ t = inner ++ rest := by
  constructor
  · intro h
    unfold plainEndTag? at h
    split at h
    · rename_i c more hdrop
      split at h
      · rename_i hc
        generalize hspan : more.span _ = parts at h
        obtain ⟨letters, after⟩ := parts
        dsimp only at h
        split at h
        · rename_i behind hend
          obtain ⟨rfl, rfl⟩ := Prod.mk.inj (Option.some.inj h)
          obtain ⟨hmore, hletters⟩ := Text.eq_append_of_span hspan
          have hleft := List.takeWhile_append_dropWhile (p := Text.isBlank) (l := t)
          have hright := List.takeWhile_append_dropWhile (p := Text.isBlank) (l := after)
          rw [hdrop, hmore] at hleft
          rw [hend] at hright
          refine ⟨t.takeWhile Text.isBlank
            ++ (c :: letters ++ (after.takeWhile Text.isBlank ++ ['>'])),
            ⟨⟨_, _, fun _ hc => List.mem_takeWhile_imp hc, fun _ hc => List.mem_takeWhile_imp hc,
              rfl⟩, ⟨c, letters, rfl, hc⟩, ?_⟩, ?_⟩
          · refine List.forall_mem_cons.mpr ⟨?_, hletters⟩
            rw [isEndNameChar, Char.isAlphanum, show c.isAlpha = true from hc]
            rfl
          · conv_lhs => rw [← hleft, ← hright]
            simp
        · exact absurd h (by simp)
      · exact absurd h (by simp)
    · exact absurd h (by simp)
  · rintro ⟨inner, ⟨⟨left, right, hleft, hright, rfl⟩, ⟨c, more, rfl, hc⟩, hnamed⟩, rfl⟩
    rw [List.forall_mem_cons] at hnamed
    have hspan : (more ++ (right ++ '>' :: rest)).span
        (fun x => x.isAlphanum || x == '-' || x == '.' || x == ':' || x == '_')
        = (more, right ++ '>' :: rest) := by
      refine Text.span_append (p := isEndNameChar) hnamed.2 fun d hd => ?_
      cases right with
      | nil =>
          obtain rfl := Option.some.inj hd
          decide
      | cons e right =>
          obtain rfl := Option.some.inj hd
          -- a blank ends the name
          refine Bool.eq_false_iff.mpr fun hname => ?_
          have hblank := hright e (List.mem_cons_self ..)
          rw [isBlank_of_isEndNameChar hname] at hblank
          exact absurd hblank (by decide)
    have hstart : (left ++ (c :: more ++ (right ++ ['>']))) ++ rest
        = left ++ c :: (more ++ (right ++ '>' :: rest)) := by simp
    rw [hstart, plainEndTag?, List.dropWhile_append_of_pos hleft,
      List.dropWhile_cons_of_neg (by simp [isBlank_of_isEndNameChar hnamed.1])]
    dsimp only
    rw [if_pos hc, hspan]
    dsimp only
    rw [dropWhile_blanks hright]
    rfl

theorem takeRaw?_eq_some_iff {name : Text} :
    (∃ content, takeRaw? name t = some (content, rest)) ↔ EndsAt (IsRawEnd name) rest t := by
  have hsnd : (∃ content, takeRaw? name t = some (content, rest))
      ↔ (takeRaw? name t).map Prod.snd = some rest := by
    rw [Option.map_eq_some_iff]
    constructor
    · exact fun ⟨content, h⟩ => ⟨_, h, rfl⟩
    · rintro ⟨⟨content, _⟩, h, rfl⟩
      exact ⟨content, h⟩
  have hpassed {c : Char} {t : Text} (h : (if c == '<' then closesRaw? name t else none) = none) :
      (takeRaw? name (c :: t)).map Prod.snd = (takeRaw? name t).map Prod.snd := by
    rw [takeRaw?, takeUntil?, h, Option.map_map]
    rfl
  rw [hsnd]
  refine @endsAt_iff (IsRawEnd name) t rest (fun t => (takeRaw? name t).map Prod.snd) rfl
    (fun x rest hx => ?_) fun c t hlater => hpassed ?_
  · obtain ⟨found, inner, hinner, rfl, rfl⟩ := hx
    have hplain := plainEndTag?_eq_some_iff.mpr ⟨inner, hinner, @rfl _ (inner ++ rest)⟩
    rw [List.cons_append, List.cons_append, takeRaw?, takeUntil?, if_pos (by decide), closesRaw?,
      hplain]
    dsimp only
    rw [if_pos (by simp)]
    rfl
  · by_cases hc : c = '<'
    · subst hc
      rw [if_pos (by decide)]
      unfold closesRaw?
      split
      · rename_i behind
        split
        · rename_i found after hplain
          obtain ⟨inner, hinner, rfl⟩ := plainEndTag?_eq_some_iff.mp hplain
          split
          · rename_i hname
            exact absurd ⟨after, rfl⟩
              (hlater _ ⟨found, inner, hinner, by simpa using hname, rfl⟩)
          · rfl
        · rfl
      · rfl
    · rw [if_neg (by simpa using hc)]

end Gamebook.Html
