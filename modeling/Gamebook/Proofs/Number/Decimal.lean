import Gamebook.Number.Decimal
import Gamebook.Proofs.Fallible
import Mathlib.Algebra.Group.Nat.Defs
import Mathlib.Data.List.Induction

/-!
# Decimal forms are read back

Every number that is written is read back as itself, as long as its decimal form is
no longer than what is read at all. A longer run of digits is refused, and a reading that
fails for nothing else succeeds exactly if none of its runs is longer (`exists_ok_iff_short`).
-/

namespace Gamebook.Number

open Text

theorem writeNat_ne_nil (n : Nat) : writeNat n ≠ [] := Nat.toDigits_ne_nil

theorem digitValue?_of_isDigit {c : Char} (h : c.isDigit = true) :
    digitValue? c = some (c.toNat - 48) := by
  have hc : 48 ≤ c.toNat ∧ c.toNat ≤ 57 := Char.isDigit_iff_toNat.mp h
  unfold digitValue?
  rw [if_pos (by omega), if_neg (by omega), if_pos (by omega)]

theorem isDigit_of_mem_writeNat {n : Nat} {c : Char} (h : c ∈ writeNat n) : isDigit c = true := by
  rw [isDigit, digitValue?_of_isDigit (Nat.isDigit_of_mem_toDigits (by decide) (by decide) h)]
  rfl

/-- The digits of a number denote it. -/
theorem digitsValue_writeNat (n : Nat) : digitsValue (writeNat n) = n := by
  have hsame : ∀ (ds : List Char) (acc : Nat), (∀ c ∈ ds, c.isDigit = true) →
      digitsValueFrom acc ds = Nat.ofDigitChars 10 ds acc := by
    intro ds
    induction ds with
    | nil => intro acc _; rfl
    | cons d ds ih =>
        intro acc hds
        have hd : digitValue d = d.toNat - 48 := by
          rw [digitValue, digitValue?_of_isDigit (hds d (by simp))]
          rfl
        rw [Nat.ofDigitChars_cons, ← ih _ (fun c hc => hds c (by simp [hc])), digitsValueFrom,
          List.foldl_cons, hd]
        rfl
  have hdigits : ∀ c ∈ Nat.toDigits 10 n, c.isDigit = true :=
    fun c hc => Nat.isDigit_of_mem_toDigits (by decide) (by decide) hc
  rw [digitsValue, writeNat, hsame _ _ hdigits]
  exact Nat.ofDigitChars_ten_toDigits

theorem writeNat_injective : Function.Injective writeNat := fun m n h => by
  rw [← digitsValue_writeNat m, h, digitsValue_writeNat]

/-- An integer is told by its decimal form. -/
theorem writeInt_injective : Function.Injective writeInt := by
  -- no decimal form of a natural number begins with a sign
  have hsign (m : Nat) (t : Text) : writeNat m ≠ '-' :: t := fun h => by
    have hdigit : isDigit '-' = true := isDigit_of_mem_writeNat (by simp [h] : '-' ∈ writeNat m)
    exact absurd hdigit (by decide)
  intro y z h
  unfold writeInt at h
  split at h
  · split at h
    · have := writeNat_injective (List.cons.inj h).2
      omega
    · exact absurd h.symm (hsign _ _)
  · split at h
    · exact absurd h (hsign _ _)
    · have := writeNat_injective h
      omega

/-- A number has as many digits as can be read exactly if it is less than that power of ten. -/
theorem length_writeNat_le_iff (n : Nat) :
    (writeNat n).length ≤ digitLimit ↔ n < 10 ^ digitLimit :=
  Nat.length_toDigits_le_iff (by decide) (by decide)

/-- The least number that is too long has one digit more than can be read. -/
theorem length_writeNat_of_eq {n : Nat} (h : n = 10 ^ digitLimit) :
    (writeNat n).length = digitLimit + 1 := by
  have hmore : ¬ (writeNat n).length ≤ digitLimit := by
    rw [length_writeNat_le_iff]
    omega
  have hless : (writeNat n).length ≤ digitLimit + 1 := by
    refine (Nat.length_toDigits_le_iff (by decide) (by decide)).mpr ?_
    rw [h]
    exact Nat.pow_lt_pow_right (by decide) (by omega)
  omega

/-- A run of digits that is short enough is read as the number it denotes. -/
theorem read_of_length {ds : Text} (h : ds.length ≤ digitLimit) :
    read ds = .ok (digitsValue ds) := if_pos h

theorem read_writeNat {n : Nat} (h : (writeNat n).length ≤ digitLimit) :
    read (writeNat n) = .ok n := by
  rw [read_of_length h, digitsValue_writeNat]

theorem digitValue_lt (c : Char) : digitValue c < 10 := by
  unfold digitValue digitValue?
  split
  · split
    · decide
    · split
      · simp only [Option.getD_some]
        omega
      · decide
  · cases hfind : digitZeros.find? fun z => z ≤ c.toNat && c.toNat < z + 10 with
    | none => exact Nat.zero_lt_succ 9
    | some z =>
        have hz := List.find?_some hfind
        simp only [Bool.and_eq_true, decide_eq_true_eq] at hz
        show c.toNat - z < 10
        omega

theorem digitsValue_lt (ds : Text) : digitsValue ds < 10 ^ ds.length := by
  rw [digitsValue]
  induction ds using List.reverseRecOn with
  | nil => decide
  | append_singleton ds d ih =>
      have hd := digitValue_lt d
      rw [digitsValueFrom] at ih
      rw [digitsValueFrom, List.foldl_append, List.foldl_cons, List.foldl_nil, List.length_append,
        List.length_singleton, pow_succ]
      omega

/-- A number that is read has a decimal form that can be read. -/
theorem lt_of_read {ds : Text} {n : Nat} (h : read ds = .ok n) : n < 10 ^ digitLimit := by
  unfold read at h
  split at h
  · rename_i hshort
    injection h with h
    rw [← h]
    exact Nat.lt_of_lt_of_le (digitsValue_lt ds) (Nat.pow_le_pow_right (by decide) hshort)
  · exact absurd h (by simp)

/-- A run of digits is refused exactly if it is too long. -/
theorem read_eq_error_iff {ds : Text} {e : NumeralError} :
    read ds = .error e ↔ digitLimit < ds.length ∧ e = .tooLongToRead ds.length := by
  unfold read
  split
  · rename_i hshort
    exact ⟨fun h => absurd h (by simp), fun h => absurd h.1 (by omega)⟩
  · rename_i hlong
    rw [Except.error.injEq]
    exact ⟨fun h => ⟨by omega, h.symm⟩, fun h => h.2.symm⟩

/-- What fails exactly for a run of digits that is too long succeeds exactly if every run is short
enough. -/
theorem exists_ok_iff_short {α : Type} {x : Except NumeralError α} {runs : Text → Prop}
    (h : ∀ e, x = .error e
      ↔ ∃ ds, runs ds ∧ digitLimit < ds.length ∧ e = .tooLongToRead ds.length) :
    (∃ a, x = .ok a) ↔ ∀ ds, runs ds → ds.length ≤ digitLimit := by
  rw [Fallible.exists_ok_iff]
  constructor
  · intro hok ds hds
    by_contra hlong
    exact hok _ ((h _).mpr ⟨ds, hds, Nat.lt_of_not_le hlong, rfl⟩)
  · intro hshort e he
    obtain ⟨ds, hds, hlong, -⟩ := (h e).mp he
    exact absurd (hshort ds hds) (Nat.not_le_of_lt hlong)

end Gamebook.Number
