import Gamebook.Proofs.Table.DieSize
import Gamebook.Proofs.Text.Pattern

/-!
# The first die of a text

`dieDigits?` reads a text from the left. What it finds is told here without the reading: the
first letter of the text at which a die starts, with all the digits behind it
(`dieDigits?_eq_some_iff`). It is also what the pattern of a die finds (`search?_diePattern`).
-/

namespace Gamebook.Table

open Text (Pattern)

/-- The digits of the first die of a text. -/
def IsFirstDie (t ds : Text) : Prop :=
  ∃ u d rest, t = u ++ d :: rest ∧ StartsDie u d rest ∧ ds = rest.takeWhile Text.isDigit
    ∧ ∀ u' d' rest', t = u' ++ d' :: rest' → StartsDie u' d' rest' → u.length ≤ u'.length

/-- There is one first die at most. -/
theorem IsFirstDie.unique {t ds ds' : Text} (h : IsFirstDie t ds) (h' : IsFirstDie t ds') :
    ds = ds' := by
  obtain ⟨u, d, rest, rfl, hstarts, rfl, hfirst⟩ := h
  obtain ⟨u', d', rest', ht, hstarts', rfl, hfirst'⟩ := h'
  have hlength := Nat.le_antisymm (hfirst u' d' rest' ht hstarts') (hfirst' u d rest rfl hstarts)
  rw [(List.cons.inj (List.append_inj ht hlength).2).2]

/-- **What is read are the digits of the first die.** -/
theorem dieDigits?_eq_some_iff {t ds : Text} : dieDigits? t = some ds ↔ IsFirstDie t ds := by
  rcases dieDigitsAfter_cases [] t with ⟨hnone, hnowhere⟩ | ⟨u, d, rest, ht, hu, hsome, hfirst⟩
  · constructor
    · intro h
      exact absurd (hnone.symm.trans h) (by simp)
    · rintro ⟨u, d, rest, ht, hu, -⟩
      exact absurd hu (hnowhere u d rest ht)
  · have hdie : IsFirstDie t (rest.takeWhile Text.isDigit) := ⟨u, d, rest, ht, hu, rfl, hfirst⟩
    constructor
    · intro h
      obtain rfl := Option.some.inj (hsome.symm.trans h)
      exact hdie
    · intro h
      rw [h.unique hdie]
      exact hsome

theorem dieDigits?_eq_none_iff {t : Text} : dieDigits? t = none ↔ ∀ ds, ¬IsFirstDie t ds := by
  simp only [← dieDigits?_eq_some_iff, Option.eq_none_iff_forall_ne_some]

/-- The first die of a text is still the first if more comes behind, unless that begins with a
digit. -/
theorem IsFirstDie.append {t ds more : Text} (h : IsFirstDie t ds)
    (hmore : ∀ c ∈ more.head?, Text.isDigit c = false) : IsFirstDie (t ++ more) ds := by
  obtain ⟨u, d, rest, rfl, ⟨hletter, hlast, c, hc, hdigit⟩, rfl, hfirst⟩ := h
  obtain ⟨rest, rfl⟩ := List.head?_eq_some_iff.mp hc
  refine ⟨u, d, c :: rest ++ more, by simp, ⟨hletter, hlast, c, rfl, hdigit⟩, ?_, ?_⟩
  · rw [Text.takeWhile_append_of_stop hmore]
  · intro u' d' rest' ht hstarts
    by_contra hless
    -- a die that starts before the letter starts in the text without what comes behind
    have hprefix : u' ++ [d'] <+: u := by
      refine List.prefix_of_prefix_length_le ⟨rest', ?_⟩
        (List.prefix_append u (d :: c :: rest ++ more)) ?_
      · rw [← List.append_cons, ← ht, List.append_assoc]
      · rw [List.length_append, List.length_singleton]
        omega
    obtain ⟨w, rfl⟩ := hprefix
    have hrest : rest' = (w ++ d :: c :: rest) ++ more := by
      simpa using ht.symm
    refine hless (hfirst u' d' (w ++ d :: c :: rest) (by simp) ⟨hstarts.1, hstarts.2.1, ?_⟩)
    obtain ⟨e, he, hdigit'⟩ := hstarts.2.2
    refine ⟨e, ?_, hdigit'⟩
    rwa [hrest, List.head?_append_of_ne_nil _ (by simp)] at he

/-! ## The pattern of a die -/

/-- The letter d behind no Latin letter, and a run of digits as a group. -/
def diePattern : Pattern :=
  (Pattern.here fun before _ => !(before.map isLatinLetter).getD false).andThen
    ((Pattern.one Dice.isDieLetter).andThen .digits)

theorem first?_diePattern (before : Option Char) (c : Char) (t : Text) :
    diePattern.first? ⟨before.toList, c :: t, []⟩
      = if Dice.isDieLetter c && !(before.map isLatinLetter).getD false then
          (Text.takeDigits? t).map fun r =>
            (Text.Place.mk before.toList (c :: t) []).after (c :: r.1) r.2 [r.1]
        else none := by
  have hhead : before.toList.head? = before := by cases before <;> rfl
  rw [diePattern, Pattern.first?_andThen, Pattern.ends, hhead]
  cases (before.map isLatinLetter).getD false with
  | true => simp
  | false =>
      rw [if_pos (by rfl), List.findSome?_singleton, Pattern.first?_andThen,
        Pattern.ends_one_cons rfl]
      cases Dice.isDieLetter c with
      | false => rfl
      | true =>
          rw [if_pos rfl, List.findSome?_singleton, Pattern.first?_digits]
          simp

/-- **The die that is read is the one that the pattern of a die finds.** -/
theorem search?_diePattern (before : Option Char) (t : Text) :
    (diePattern.search? before t).map (fun r => r.2.groups)
      = (dieDigitsAfter before t).map fun ds => [ds] := by
  induction t generalizing before with
  | nil =>
      have hnone : diePattern.first? ⟨before.toList, [], []⟩ = none :=
        Pattern.first?_andThen_eq_none fun x hx => by
          obtain ⟨-, rfl⟩ := Pattern.mem_ends_here.mp hx
          rfl
      rw [Pattern.search?, hnone]
      rfl
  | cons c t ih =>
      have hlater : ((diePattern.search? (some c) t).map fun r => (c :: r.1, r.2)).map
          (fun r => r.2.groups) = (dieDigitsAfter (some c) t).map fun ds => [ds] := by
        rw [Option.map_map]
        exact ih (some c)
      rw [Pattern.search?, first?_diePattern, dieDigitsAfter]
      cases Dice.isDieLetter c && !(before.map isLatinLetter).getD false with
      | false => exact hlater
      | true =>
          rw [if_pos rfl, if_pos rfl]
          cases Text.takeDigits? t with
          | some r => rfl
          | none => exact hlater

end Gamebook.Table
