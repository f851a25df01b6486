import Gamebook.Proofs.Fallible
import Gamebook.Proofs.Number.Decimal
import Gamebook.Proofs.Text.Words
import Gamebook.Table.DieSize

/-!
# The die that a text names

`IsDieNumber t ds` says where a die number stands in a text: behind a letter d that
follows no Latin letter. `dieDigits?` reads from the left and gives the first such number
(`dieDigitsAfter_cases`), so a text whose die numbers all have a readable length has a die
or has none, and no error comes of it.
-/

namespace Gamebook.Table

/-- A run of digits behind a letter d that follows no Latin letter. -/
def IsDieNumber (t ds : Text) : Prop :=
  ∃ u d v, t = u ++ d :: (ds ++ v) ∧ Dice.isDieLetter d = true
    ∧ (∀ c ∈ u.getLast?, isLatinLetter c = false)
    ∧ ds ≠ [] ∧ ∀ c ∈ ds, Text.isDigit c = true

/-- All die numbers of a text are short enough to be read. -/
def ReadableDice (t : Text) : Prop := ∀ ds, IsDieNumber t ds → ds.length ≤ digitLimit

/-- A text that is no longer than the longest number has no die number that is too long. -/
theorem readableDice_of_length {t : Text} (h : t.length ≤ digitLimit) : ReadableDice t := by
  rintro ds ⟨u, d, v, ht, _⟩
  have hlength := congrArg List.length ht
  simp only [List.length_append, List.length_cons] at hlength
  omega

/-! ## Reading from the left -/

/-- A die starts with the letter `d` between `u` and `t`. -/
def StartsDie (u : Text) (d : Char) (t : Text) : Prop :=
  Dice.isDieLetter d = true ∧ (∀ c ∈ u.getLast?, isLatinLetter c = false)
    ∧ ∃ c ∈ t.head?, Text.isDigit c = true

theorem dieDigitsAfter_of_starts {u rest : Text} {d : Char} (h : StartsDie u d rest) :
    dieDigitsAfter u.getLast? (d :: rest) = some (rest.takeWhile Text.isDigit) := by
  obtain ⟨hletter, hlast, hdigit⟩ := h
  rw [dieDigitsAfter, if_pos, Text.takeDigits?_of_digit hdigit]
  cases hu : u.getLast? with
  | none => simp [hletter]
  | some c => simp [hletter, hlast c hu]

theorem dieDigitsAfter_of_not_starts {u rest : Text} {d : Char} (h : ¬StartsDie u d rest) :
    dieDigitsAfter u.getLast? (d :: rest) = dieDigitsAfter (some d) rest := by
  rw [dieDigitsAfter]
  split
  · rename_i hletter
    rw [Bool.and_eq_true, Bool.not_eq_true'] at hletter
    rw [Text.takeDigits?_of_not_digit]
    intro hdigit
    refine h ⟨hletter.1, fun c hc => ?_, hdigit⟩
    simpa [Option.mem_def.mp hc] using hletter.2
  · rfl

/-- Behind the text `w`, the first letter of `t` at which a die starts is read, if there is one. -/
theorem dieDigitsAfter_cases (w t : Text) :
    (dieDigitsAfter w.getLast? t = none
      ∧ ∀ u d rest, t = u ++ d :: rest → ¬StartsDie (w ++ u) d rest)
    ∨ ∃ u d rest, t = u ++ d :: rest ∧ StartsDie (w ++ u) d rest
      ∧ dieDigitsAfter w.getLast? t = some (rest.takeWhile Text.isDigit)
      ∧ ∀ u' d' rest', t = u' ++ d' :: rest' → StartsDie (w ++ u') d' rest' →
        u.length ≤ u'.length := by
  induction t generalizing w with
  | nil => exact .inl ⟨rfl, fun u d rest h => absurd h (by simp)⟩
  | cons c t ih =>
      by_cases hstarts : StartsDie w c t
      · refine .inr ⟨[], c, t, rfl, ?_, dieDigitsAfter_of_starts hstarts, fun _ _ _ _ _ => ?_⟩
        · rwa [List.append_nil]
        · exact Nat.zero_le _
      · have hsnoc (u : Text) : w ++ c :: u = (w ++ [c]) ++ u := by simp
        have hcases := ih (w ++ [c])
        rw [List.getLast?_concat] at hcases
        rw [dieDigitsAfter_of_not_starts hstarts]
        rcases hcases with ⟨hnone, hnowhere⟩ | ⟨u, d, rest, rfl, hu, hsome, hfirst⟩
        · refine .inl ⟨hnone, fun u d rest h => ?_⟩
          cases u with
          | nil =>
              obtain ⟨rfl, rfl⟩ := List.cons.inj h
              rwa [List.append_nil]
          | cons e u =>
              obtain ⟨rfl, ht⟩ := List.cons.inj h
              rw [hsnoc]
              exact hnowhere u d rest ht
        · refine .inr ⟨c :: u, d, rest, rfl, by rwa [hsnoc], hsome, fun u' d' rest' h hu' => ?_⟩
          cases u' with
          | nil =>
              obtain ⟨rfl, rfl⟩ := List.cons.inj h
              rw [List.append_nil] at hu'
              exact absurd hu' hstarts
          | cons e u' =>
              obtain ⟨rfl, ht⟩ := List.cons.inj h
              rw [hsnoc] at hu'
              exact Nat.succ_le_succ (hfirst u' d' rest' ht hu')

/-- What is read is a die number of the text. -/
theorem isDieNumber_of_dieDigits? {t ds : Text} (h : dieDigits? t = some ds) :
    IsDieNumber t ds := by
  rcases dieDigitsAfter_cases [] t with
    ⟨hnone, -⟩ | ⟨u, d, rest, rfl, ⟨hletter, hlast, c, hc, hdigit⟩, hsome, -⟩
  · exact absurd (hnone.symm.trans h) (by simp)
  · obtain rfl := Option.some.inj (hsome.symm.trans h)
    obtain ⟨rest, rfl⟩ := List.head?_eq_some_iff.mp hc
    refine ⟨u, d, (c :: rest).dropWhile Text.isDigit, ?_, hletter, hlast, ?_,
      fun x hx => List.mem_takeWhile_imp hx⟩
    · rw [List.takeWhile_append_dropWhile]
    · rw [List.takeWhile_cons_of_pos hdigit]
      exact List.cons_ne_nil c _

/-! ## Sizes that can be read -/

/-- The size of a die is what its digits denote. -/
theorem dieSize?_of_digits {t ds : Text} (h : dieDigits? t = some ds)
    (hshort : ds.length ≤ digitLimit) : dieSize? t = .ok (some (Text.digitsValue ds)) := by
  rw [dieSize?, h]
  dsimp only
  rw [Number.read_of_length hshort]
  rfl

/-- A die is refused exactly if the digits of the first one named are too many. -/
theorem dieSize?_eq_error_iff {t : Text} {e : NumeralError} :
    dieSize? t = .error e
      ↔ ∃ ds, dieDigits? t = some ds ∧ digitLimit < ds.length ∧ e = .tooLongToRead ds.length := by
  unfold dieSize?
  cases hds : dieDigits? t with
  | none =>
      constructor
      · intro h
        exact absurd h (by simp)
      · rintro ⟨ds, he, -⟩
        exact absurd he (by simp)
  | some ds =>
      dsimp only
      rw [Fallible.map_eq_error_iff, Number.read_eq_error_iff]
      simp

end Gamebook.Table
