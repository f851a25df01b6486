import Gamebook.Dice.Formula
import Gamebook.Proofs.Text.Words

/-!
# How a formula is written

A formula is cut into its runs of digits by `Parts.read?`. This file has the other way round:
`write` puts parts together again, with a letter for the die and with blanks around the sign,
and what is read from a text are the parts that it was written from (`read?_write`,
`read?_eq_some`). Nobody else has to look into the reading.
-/

namespace Gamebook.Dice

theorem isDigit_of_isDieLetter {c : Char} (h : isDieLetter c = true) : Text.isDigit c = false := by
  rw [isDieLetter, Bool.or_eq_true, beq_iff_eq, beq_iff_eq] at h
  rcases h with rfl | rfl <;> decide

theorem isDigit_of_isSign {c : Char} (h : isSign c = true) : Text.isDigit c = false := by
  rw [isSign, Bool.or_eq_true, beq_iff_eq, beq_iff_eq] at h
  rcases h with rfl | rfl <;> decide

theorem isBlank_of_isSign {c : Char} (h : isSign c = true) : Text.isBlank c = false := by
  rw [isSign, Bool.or_eq_true, beq_iff_eq, beq_iff_eq] at h
  rcases h with rfl | rfl <;> decide

namespace Parts

/-- The runs of digits of a formula. -/
def runs (p : Parts) : List Text := p.count :: p.sides :: p.modifier.toList.map Prod.snd

/-- Each run is one of digits, and a modifier has a sign. -/
structure IsWellFormed (p : Parts) : Prop where
  ne_nil : ∀ ds ∈ p.runs, ds ≠ []
  isDigit : ∀ ds ∈ p.runs, ∀ c ∈ ds, Text.isDigit c = true
  isSign : ∀ m ∈ p.modifier, isSign m.1 = true

/-- A modifier that is a sign and a run of digits. -/
structure IsSigned (m : Char × Text) : Prop where
  isSign : isSign m.1 = true
  ne_nil : m.2 ≠ []
  isDigit : ∀ c ∈ m.2, Text.isDigit c = true

theorem IsWellFormed.of_runs {count sides : Text} {modifier : Option (Char × Text)}
    (hcount : count ≠ []) (hcountDigits : ∀ c ∈ count, Text.isDigit c = true)
    (hsides : sides ≠ []) (hsidesDigits : ∀ c ∈ sides, Text.isDigit c = true)
    (hmodifier : ∀ m ∈ modifier, IsSigned m) : IsWellFormed ⟨count, sides, modifier⟩ := by
  have hruns {ds : Text} (hds : ds ∈ runs ⟨count, sides, modifier⟩) :
      ds = count ∨ ds = sides ∨ ∃ m ∈ modifier, m.2 = ds := by
    simpa [runs] using hds
  refine ⟨fun ds hds => ?_, fun ds hds => ?_, fun m hm => (hmodifier m hm).isSign⟩
  · rcases hruns hds with rfl | rfl | ⟨m, hm, rfl⟩
    · exact hcount
    · exact hsides
    · exact (hmodifier m hm).ne_nil
  · rcases hruns hds with rfl | rfl | ⟨m, hm, rfl⟩
    · exact hcountDigits
    · exact hsidesDigits
    · exact (hmodifier m hm).isDigit

/-- A modifier with blanks before and after its sign. -/
def writeModifier (left right : Text) : Option (Char × Text) → Text
  | none => []
  | some (sign, ds) => left ++ sign :: (right ++ ds)

/-- A formula with a letter for its die and blanks around the sign of its modifier. -/
def write (die : Char) (left right : Text) (p : Parts) : Text :=
  p.count ++ die :: (p.sides ++ writeModifier left right p.modifier)

/-- The number that the modifier adds. -/
def added (p : Parts) : Int :=
  match p.modifier with
  | none => 0
  | some (sign, ds) => if sign = '-' then -(Text.digitsValue ds : Int) else Text.digitsValue ds

variable {p : Parts} {die : Char} {left right : Text}

/-! ## Reading what was written -/

theorem IsWellFormed.isSigned (hp : p.IsWellFormed) : ∀ m ∈ p.modifier, IsSigned m := by
  intro m hm
  have hruns : m.2 ∈ p.runs := by simp [runs, Option.mem_def.mp hm]
  exact ⟨hp.isSign m hm, hp.ne_nil m.2 hruns, hp.isDigit m.2 hruns⟩

/-- The count ends at the die. -/
theorem IsWellFormed.takeDigits?_count (hp : p.IsWellFormed) (hdie : isDieLetter die = true)
    (rest : Text) : Text.takeDigits? (p.count ++ die :: rest) = some (p.count, die :: rest) := by
  have hcount : p.count ∈ p.runs := by simp [runs]
  exact Text.takeDigits?_append_cons (hp.ne_nil _ hcount) (hp.isDigit _ hcount)
    (isDigit_of_isDieLetter hdie) rest

/-- The sides end at the modifier, which begins with a blank or with its sign. -/
theorem IsWellFormed.takeDigits?_sides (hp : p.IsWellFormed)
    (hleft : ∀ c ∈ left, Text.isBlank c = true) :
    Text.takeDigits? (p.sides ++ writeModifier left right p.modifier)
      = some (p.sides, writeModifier left right p.modifier) := by
  have hsides : p.sides ∈ p.runs := by simp [runs]
  refine Text.takeDigits?_append (hp.ne_nil _ hsides) (hp.isDigit _ hsides) fun c hc => ?_
  cases hm : p.modifier with
  | none => exact absurd hc (by simp [hm, writeModifier])
  | some m =>
      rw [hm] at hc
      cases left with
      | nil =>
          obtain rfl := Option.some.inj hc
          exact isDigit_of_isSign (hp.isSign m hm)
      | cons d left =>
          obtain rfl := Option.some.inj hc
          refine Bool.eq_false_iff.mpr fun hd => ?_
          have hblank := hleft d (by simp)
          rw [Text.isBlank_of_isDigit hd] at hblank
          exact absurd hblank (by decide)

theorem readModifier?_write {m : Char × Text} (hm : IsSigned m)
    (hleft : ∀ c ∈ left, Text.isBlank c = true) (hright : ∀ c ∈ right, Text.isBlank c = true) :
    readModifier? (writeModifier left right (some m)) = some m := by
  obtain ⟨sign, ds⟩ := m
  obtain ⟨hsign, hne, hds⟩ := hm
  have hstart : Text.trimStart (left ++ sign :: (right ++ ds)) = sign :: (right ++ ds) := by
    rw [Text.trimStart, List.dropWhile_append_of_pos hleft,
      List.dropWhile_cons_of_neg (by simp [isBlank_of_isSign hsign])]
  have hdigits : Text.trimStart (right ++ ds) = ds := by
    obtain ⟨d, ds, rfl⟩ := List.exists_cons_of_ne_nil hne
    have hd := Text.isBlank_of_isDigit (hds d (by simp))
    rw [Text.trimStart, List.dropWhile_append_of_pos hright,
      List.dropWhile_cons_of_neg (by simp [hd])]
  rw [writeModifier, readModifier?, hstart]
  dsimp only
  rw [if_pos hsign, hdigits, Text.takeDigits?_eq_self hne hds]

/-- **What was written is read back as its parts.** -/
theorem read?_write (hp : p.IsWellFormed) (hdie : isDieLetter die = true)
    (hleft : ∀ c ∈ left, Text.isBlank c = true) (hright : ∀ c ∈ right, Text.isBlank c = true) :
    read? (p.write die left right) = some p := by
  rw [write, read?, hp.takeDigits?_count hdie]
  dsimp only
  rw [if_pos hdie, hp.takeDigits?_sides hleft]
  obtain ⟨count, sides, modifier⟩ := p
  cases modifier with
  | none => rfl
  | some m =>
      have hmodifier := readModifier?_write (hp.isSigned m rfl) hleft hright
      -- the reading looks first whether anything is left
      obtain ⟨c, rest, hrest⟩ : ∃ c rest, writeModifier left right (some m) = c :: rest :=
        List.exists_cons_of_ne_nil (by simp [writeModifier])
      rw [hrest] at hmodifier ⊢
      dsimp only
      rw [hmodifier]
      rfl

/-! ## What was read is what was written -/

theorem readModifier?_eq_some {t : Text} {m : Char × Text} (h : readModifier? t = some m) :
    ∃ left right, t = writeModifier left right (some m)
      ∧ (∀ c ∈ left ++ right, Text.isBlank c = true) ∧ IsSigned m := by
  have htrim (t : Text) : ∃ u, t = u ++ Text.trimStart t ∧ ∀ c ∈ u, Text.isBlank c = true :=
    ⟨t.takeWhile Text.isBlank, List.takeWhile_append_dropWhile.symm,
      fun c hc => List.mem_takeWhile_imp hc⟩
  unfold readModifier? at h
  split at h
  · rename_i sign rest hstart
    split at h
    · rename_i hsign
      split at h
      · rename_i ds htake
        injection h with h
        subst h
        obtain ⟨hds, hne, hdigits, -⟩ := Text.takeDigits?_eq_some htake
        obtain ⟨left, hleft, hleftBlank⟩ := htrim t
        obtain ⟨right, hright, hrightBlank⟩ := htrim rest
        rw [hstart, hright, hds, List.append_nil] at hleft
        refine ⟨left, right, hleft, fun c hc => ?_, ⟨hsign, hne, hdigits⟩⟩
        exact (List.mem_append.mp hc).elim (hleftBlank c) (hrightBlank c)
      · exact absurd h (by simp)
    · exact absurd h (by simp)
  · exact absurd h (by simp)

/-- **A text with parts is written from them.** -/
theorem read?_eq_some {t : Text} (h : read? t = some p) :
    p.IsWellFormed ∧ ∃ die left right, isDieLetter die = true
      ∧ (∀ c ∈ left ++ right, Text.isBlank c = true) ∧ t = p.write die left right := by
  unfold read? at h
  split at h
  · rename_i count die rest hcount
    obtain ⟨ht, hcountNe, hcountDigits, -⟩ := Text.takeDigits?_eq_some hcount
    split at h
    · rename_i hdie
      split at h
      · rename_i sides hsides
        obtain ⟨hrest, hsidesNe, hsidesDigits, -⟩ := Text.takeDigits?_eq_some hsides
        injection h with h
        subst h
        refine ⟨.of_runs hcountNe hcountDigits hsidesNe hsidesDigits (by simp), die, [], [], hdie,
          by simp, ?_⟩
        rw [ht, hrest]
        rfl
      · rename_i sides behind _ hsides
        obtain ⟨hrest, hsidesNe, hsidesDigits, -⟩ := Text.takeDigits?_eq_some hsides
        obtain ⟨m, hm, rfl⟩ := Option.map_eq_some_iff.mp h
        obtain ⟨left, right, hbehind, hblank, hsigned⟩ := readModifier?_eq_some hm
        refine ⟨.of_runs hcountNe hcountDigits hsidesNe hsidesDigits ?_, die, left, right, hdie,
          hblank, ?_⟩
        · intro m' hm'
          obtain rfl := Option.some.inj hm'
          exact hsigned
        · rw [ht, hrest, hbehind]
          rfl
      · exact absurd h (by simp)
    · exact absurd h (by simp)
  · exact absurd h (by simp)

end Parts

end Gamebook.Dice
