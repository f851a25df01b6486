import Gamebook.Dice.Roll
import Gamebook.Proofs.Annotation.DiceSpan
import Gamebook.Proofs.Dice.Formula

/-!
# What is shown is what is rolled

Formulas are looked for in two ways. A scan finds them in prose, where they are highlighted,
and a reading takes a text apart that is nothing but a formula. The two agree: whatever the
scan finds is read as the numbers that stand in it, and a text without blanks that can be read
is found as a whole.
-/

namespace Gamebook.Dice

open Text (Piece)

/-- A roll tells the text it was read from. -/
theorem formula_roll {token : Text} {f : Formula} (h : Formula.read token = .ok f)
    (source : Source) : (f.roll source).1.formula = token :=
  Formula.written_of_read h

/-- A text without blanks that is a formula is written from its parts without blanks. -/
theorem exists_write_of_read {t : Text} {f : Formula} (hblank : ∀ c ∈ t, Text.isBlank c = false)
    (h : Formula.read t = .ok f) :
    ∃ p die, Parts.IsWellFormed p ∧ isDieLetter die = true ∧ t = p.write die [] [] := by
  obtain ⟨p, _, _, _, hparts, -⟩ := Formula.read_eq_ok.mp h
  have htrim : Text.trim t = t :=
    Text.trim_eq_self (fun c hc => hblank c (List.mem_of_head? hc))
      fun c hc => hblank c (List.mem_of_getLast? hc)
  rw [htrim] at hparts
  obtain ⟨hp, die, left, right, hdie, haround, rfl⟩ := Parts.read?_eq_some hparts
  refine ⟨p, die, hp, hdie, ?_⟩
  obtain ⟨count, sides, modifier⟩ := p
  cases modifier with
  | none => rfl
  | some m =>
      -- a blank around the sign would be one of the text
      have hmem {c : Char} (hc : c ∈ left ++ right) :
          c ∈ Parts.write die left right ⟨count, sides, some m⟩ := by
        rw [List.mem_append] at hc
        rcases hc with hc | hc <;> simp [Parts.write, Parts.writeModifier, hc]
      have hnone : left ++ right = [] := by
        refine List.eq_nil_iff_forall_not_mem.mpr fun c hc => ?_
        have hc' := haround c hc
        rw [hblank c (hmem hc)] at hc'
        exact absurd hc' (by decide)
      obtain ⟨hleft, hright⟩ := List.append_eq_nil_iff.mp hnone
      rw [hleft, hright]

/--
**The formulas of prose are those that can be rolled, and they are rolled as they are shown.**

What a text mentions is written from parts without blanks. If its numbers have no more digits than
are read, it is a formula exactly if its die has a side, and then it has the count, the sides and
the signed modifier that stand in it. What is highlighted in a rendered text is mentioned, and a
roll of it tells just the text that is shown. And a formula without blanks mentions itself, as a
whole and once.
-/
theorem formulas_rolled_as_shown :
    (∀ t token, token ∈ mentions t →
        ∃ p die, Parts.IsWellFormed p ∧ isDieLetter die = true ∧ token = p.write die [] []
          ∧ ((∀ ds ∈ p.runs, ds.length ≤ digitLimit) →
              ((∃ f, Formula.read token = .ok f) ↔ 1 ≤ Text.digitsValue p.sides)
              ∧ ∀ f, Formula.read token = .ok f →
                  f = ⟨token, Text.digitsValue p.count, Text.digitsValue p.sides, p.added⟩))
      ∧ (∀ rendered, ∃ ps,
          DiceSpan.mark rendered = Piece.render DiceSpan.span ps ∧ Piece.render id ps = rendered
            ∧ ∀ token, .found token ∈ ps → (∃ t, token ∈ mentions t)
              ∧ ∀ f source, Formula.read token = .ok f → (f.roll source).1.formula = token)
      ∧ ∀ t f, (∀ c ∈ t, Text.isBlank c = false) → Formula.read t = .ok f → mentions t = [t] := by
  refine ⟨fun t token htoken => ?_, fun rendered => ?_, fun t f hblank h => ?_⟩
  · obtain ⟨p, die, hp, hdie, rfl⟩ := parts_of_mention (Piece.mem_findings.mp htoken)
    refine ⟨p, die, hp, hdie, rfl, fun hshort => ?_⟩
    have hread := fun f => @Formula.read_write_iff p die hp hdie hshort f
    refine ⟨⟨?_, fun hpos => ?_⟩, fun f hf => ((hread f).mp hf).2⟩
    · rintro ⟨f, hf⟩
      exact Nat.one_le_iff_ne_zero.mpr ((hread f).mp hf).1
    · exact ⟨_, (hread _).mpr ⟨Nat.one_le_iff_ne_zero.mp hpos, rfl⟩⟩
  · exact ⟨DiceSpan.formulaPieces rendered, DiceSpan.mark_eq_render rendered,
      DiceSpan.render_formulaPieces rendered, fun token htoken =>
        ⟨DiceSpan.mention_of_mem_formulaPieces htoken, fun f source hf => formula_roll hf source⟩⟩
  · obtain ⟨p, die, hp, hdie, rfl⟩ := exists_write_of_read hblank h
    exact mentions_write hp hdie

/-- A formula that runs into letters, one in another script whose die has no side, and one that is
the whole of a text. -/
theorem formulas_rolled_as_shown_potion :
    mentions "heals 2d4+2hp, not ٣d٠".toList = ["2d4+2".toList, "٣d٠".toList]
      ∧ Formula.read "2d4+2".toList = .ok ⟨"2d4+2".toList, 2, 4, 2⟩
      ∧ (∃ p die, Parts.IsWellFormed p ∧ isDieLetter die = true
          ∧ "٣d٠".toList = p.write die [] [])
      ∧ mentions "1D20-1".toList = ["1D20-1".toList] := by
  have hfound : "٣d٠".toList ∈ mentions "heals 2d4+2hp, not ٣d٠".toList := by decide
  obtain ⟨p, die, hp, hdie, hwrite, -⟩ := formulas_rolled_as_shown.1 _ _ hfound
  have hwhole : mentions "1D20-1".toList = ["1D20-1".toList] :=
    formulas_rolled_as_shown.2.2 _ ⟨"1D20-1".toList, 1, 20, -1⟩
      (List.all_iff_forall_prop.mp (by decide)) (by decide)
  exact ⟨by decide, by decide, ⟨p, die, hp, hdie, hwrite⟩, hwhole⟩

end Gamebook.Dice
