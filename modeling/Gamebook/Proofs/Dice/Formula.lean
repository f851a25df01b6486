import Gamebook.Proofs.Dice.Parts
import Gamebook.Proofs.Number.Decimal

/-!
# When a text is a formula

A formula is read in two moves: the text is cut into its runs of digits, and the runs are
read as numbers. `read_eq_ok` puts the two together, so that nobody has to walk through
the reading again. A formula that is written without blanks is read back as its parts unless
its die has no side (`read_write_iff`), and so the formula of a single die as that die.
-/

namespace Gamebook.Dice.Formula

/-- A formula is read off its parts, each of which is a number that can be read. -/
theorem read_eq_ok {t : Text} {f : Formula} :
    Formula.read t = .ok f ↔
      ∃ parts count sides modifier, Parts.read? (Text.trim t) = some parts
        ∧ Number.read parts.count = .ok count ∧ Number.read parts.sides = .ok sides ∧ sides ≠ 0
        ∧ Parts.modifierValue parts.modifier = .ok modifier ∧ f = ⟨t, count, sides, modifier⟩ := by
  constructor
  · intro h
    unfold Formula.read at h
    dsimp only at h
    split at h
    · exact absurd h (by simp)
    · split at h
      · exact absurd h (by simp)
      · rename_i parts hparts
        split at h
        · exact absurd h (by simp)
        · rename_i count hcount
          split at h
          · exact absurd h (by simp)
          · rename_i sides hsides
            split at h
            · exact absurd h (by simp)
            · rename_i hzero
              split at h
              · exact absurd h (by simp)
              · rename_i modifier hmodifier
                injection h with h
                exact ⟨parts, count, sides, modifier, hparts, hcount, hsides, hzero, hmodifier,
                  h.symm⟩
  · rintro ⟨parts, count, sides, modifier, hparts, hcount, hsides, hzero, hmodifier, rfl⟩
    have hne : Text.trim t ≠ [] := by
      intro he
      have hnone : Parts.read? [] = none := rfl
      rw [he, hnone] at hparts
      exact absurd hparts (by simp)
    unfold Formula.read
    simp only [hne, if_false, hparts, hcount, hsides, hzero, hmodifier]

/-- A formula keeps the text it was read from. -/
theorem written_of_read {t : Text} {f : Formula} (h : Formula.read t = .ok f) :
    f.written = t := by
  obtain ⟨_, _, _, _, _, _, _, _, _, rfl⟩ := read_eq_ok.mp h
  rfl

/-- There is nothing to trim around a formula that is written without blanks. -/
theorem trim_write {p : Parts} (hp : p.IsWellFormed) (die : Char) :
    Text.trim (p.write die [] []) = p.write die [] [] := by
  have hblank {ds : Text} (hds : ds ∈ p.runs) {c : Char} (hc : c ∈ ds) : Text.isBlank c = false :=
    Text.isBlank_of_isDigit (hp.isDigit ds hds c hc)
  -- the formula begins with its count and ends with its last run of digits
  have hlast : ∃ front ds, ds ∈ p.runs ∧ p.write die [] [] = front ++ ds := by
    obtain ⟨count, sides, modifier⟩ := p
    cases modifier with
    | none =>
        refine ⟨count ++ [die], sides, by simp [Parts.runs], ?_⟩
        simp [Parts.write, Parts.writeModifier]
    | some m =>
        refine ⟨count ++ die :: (sides ++ [m.1]), m.2, by simp [Parts.runs], ?_⟩
        simp [Parts.write, Parts.writeModifier]
  refine Text.trim_eq_self (fun c hc => ?_) fun c hc => ?_
  · have hcount : p.count ∈ p.runs := by simp [Parts.runs]
    rw [Parts.write, List.head?_append_of_ne_nil _ (hp.ne_nil _ hcount)] at hc
    exact hblank hcount (List.mem_of_head? hc)
  · obtain ⟨front, ds, hds, hwrite⟩ := hlast
    rw [hwrite, List.getLast?_append_of_ne_nil _ (hp.ne_nil ds hds)] at hc
    exact hblank hds (List.mem_of_getLast? hc)

theorem modifierValue_eq {p : Parts} (h : ∀ ds ∈ p.runs, ds.length ≤ digitLimit) :
    Parts.modifierValue p.modifier = .ok p.added := by
  obtain ⟨count, sides, modifier⟩ := p
  cases modifier with
  | none => rfl
  | some m =>
      have hds : m.2.length ≤ digitLimit := h m.2 (by simp [Parts.runs])
      rw [Parts.modifierValue, Number.read_of_length hds]
      rfl

/-- **A formula without blanks is read back**, if its numbers can be read and its die has a
side. -/
theorem read_write_iff {p : Parts} {die : Char} (hp : p.IsWellFormed)
    (hdie : isDieLetter die = true) (hshort : ∀ ds ∈ p.runs, ds.length ≤ digitLimit)
    {f : Formula} :
    Formula.read (p.write die [] []) = .ok f
      ↔ Text.digitsValue p.sides ≠ 0
        ∧ f = ⟨p.write die [] [], Text.digitsValue p.count, Text.digitsValue p.sides, p.added⟩ := by
  have hparts : Parts.read? (Text.trim (p.write die [] [])) = some p := by
    rw [trim_write hp, Parts.read?_write hp hdie (by simp) (by simp)]
  have hread {ds : Text} (hds : ds ∈ p.runs) : Number.read ds = .ok (Text.digitsValue ds) :=
    Number.read_of_length (hshort ds hds)
  have hcount := hread (show p.count ∈ p.runs by simp [Parts.runs])
  have hsides := hread (show p.sides ∈ p.runs by simp [Parts.runs])
  rw [read_eq_ok]
  constructor
  · rintro ⟨parts, count, sides, modifier, hp', hcount', hsides', hpos, hmodifier, rfl⟩
    obtain rfl := Option.some.inj (hparts.symm.trans hp')
    obtain rfl := Except.ok.inj (hcount.symm.trans hcount')
    obtain rfl := Except.ok.inj (hsides.symm.trans hsides')
    obtain rfl := Except.ok.inj ((modifierValue_eq hshort).symm.trans hmodifier)
    exact ⟨hpos, rfl⟩
  · rintro ⟨hpos, rfl⟩
    exact ⟨p, _, _, _, hparts, hcount, hsides, hpos, modifierValue_eq hshort, rfl⟩

/-- The formula of one die with a size that can be written. -/
theorem read_oneDie {n : Nat} (hpos : n ≠ 0) (hshort : (Number.writeNat n).length ≤ digitLimit) :
    Formula.read ('1' :: 'd' :: Number.writeNat n)
      = .ok ⟨'1' :: 'd' :: Number.writeNat n, 1, n, 0⟩ := by
  have hwrite : '1' :: 'd' :: Number.writeNat n
      = Parts.write 'd' [] [] ⟨['1'], Number.writeNat n, none⟩ := by
    simp [Parts.write, Parts.writeModifier]
  have hp : Parts.IsWellFormed ⟨['1'], Number.writeNat n, none⟩ :=
    .of_runs (by simp) (List.all_eq_true.mp rfl) (Number.writeNat_ne_nil n)
      (fun c hc => Number.isDigit_of_mem_writeNat hc) (by simp)
  have hruns : ∀ ds ∈ Parts.runs ⟨['1'], Number.writeNat n, none⟩, ds.length ≤ digitLimit := by
    simpa [Parts.runs, hshort] using show 1 ≤ digitLimit by decide
  rw [hwrite, read_write_iff hp rfl hruns, Number.digitsValue_writeNat]
  exact ⟨hpos, rfl⟩

end Gamebook.Dice.Formula
