import Gamebook.Proofs.Number.Decimal
import Gamebook.Proofs.Table.RowKey
import Mathlib.Data.List.Forall2

/-!
# Tables that leave no roll out

The keys of a complete table stand for intervals that follow each other from one to the
size of the die. `IsKey low high` says how such a key is written, and `Tiles` that the
intervals leave no gap and do not overlap. Every roll of the die then lies in exactly one
of them (`Tiles.exists_unique`), so it leads to exactly one row, which is the last one that
it leads to (`resolveRow_of_tiles`).
-/

namespace Gamebook.Table

/-! ## How an interval is written -/

/-- A decimal form of a number: the one that is written for it, or any other run of digits that can
be read, with zeros in front or in another script. -/
inductive IsDecimal (n : Nat) : Text → Prop where
  | plain : IsDecimal n (Number.writeNat n)
  | other {ds : Text} : ds ≠ [] → (∀ c ∈ ds, Text.isDigit c = true) → Text.digitsValue ds = n →
      ds.length ≤ digitLimit → IsDecimal n ds

/-- A key for the numbers from `low` to `high`: the two with a dash between them, or the one number
if they are the same. Blanks may stand around the whole and around the dash. -/
inductive IsKey (low high : Nat) : Text → Prop where
  | range {before first left right second after : Text} {dash : Char} :
      (∀ c ∈ before ++ left ++ right ++ after, Text.isBlank c = true) →
      RowKey.isDash dash = true → IsDecimal low first → IsDecimal high second →
      IsKey low high (before ++ (first ++ (left ++ dash :: (right ++ second)) ++ after))
  | single {before digits after : Text} :
      low = high → (∀ c ∈ before ++ after, Text.isBlank c = true) → IsDecimal low digits →
      IsKey low high (before ++ (digits ++ after))

namespace IsDecimal

variable {n : Nat} {ds : Text}

theorem ne_nil (h : IsDecimal n ds) : ds ≠ [] := by
  cases h with
  | plain => exact Number.writeNat_ne_nil n
  | other hne _ _ _ => exact hne

theorem isDigit (h : IsDecimal n ds) : ∀ c ∈ ds, Text.isDigit c = true := by
  cases h with
  | plain => exact fun c hc => Number.isDigit_of_mem_writeNat hc
  | other _ hdigits _ _ => exact hdigits

theorem read (h : IsDecimal n ds) (hshort : n < 10 ^ digitLimit) : Number.read ds = .ok n := by
  cases h with
  | plain => exact Number.read_writeNat ((Number.length_writeNat_le_iff n).mpr hshort)
  | other _ _ hvalue hlength => rw [Number.read_of_length hlength, hvalue]

end IsDecimal

/-- Only the blanks around a text are trimmed if it begins and ends with digits. -/
theorem trim_between {before t after : Text} (hblank : ∀ c ∈ before ++ after, Text.isBlank c = true)
    (hfirst : ∀ c ∈ t.head?, Text.isDigit c = true)
    (hlast : ∀ c ∈ t.getLast?, Text.isDigit c = true) :
    Text.trim (before ++ (t ++ after)) = t := by
  rw [Text.trim_blanks_append fun c hc => hblank c (by simp [hc]),
    Text.trim_append_blanks fun c hc => hblank c (by simp [hc])]
  exact Text.trim_eq_self (fun c hc => Text.isBlank_of_isDigit (hfirst c hc))
    (fun c hc => Text.isBlank_of_isDigit (hlast c hc))

/-- Two runs of digits with a dash between them are read as a range. -/
theorem read_range {before low left right high after : Text} {dash : Char}
    (hblank : ∀ c ∈ before ++ left ++ right ++ after, Text.isBlank c = true)
    (hdash : RowKey.isDash dash = true)
    (hlow : low ≠ []) (hlowDigits : ∀ c ∈ low, Text.isDigit c = true)
    (hhigh : high ≠ []) (hhighDigits : ∀ c ∈ high, Text.isDigit c = true) :
    RowKey.read (before ++ (low ++ (left ++ dash :: (right ++ high)) ++ after))
      = .range low high := by
  have hnotDash : Text.isBlank dash = false ∧ Text.isDigit dash = false := by
    simp only [RowKey.isDash, Bool.or_eq_true, beq_iff_eq] at hdash
    rcases hdash with rfl | rfl <;> decide
  have htrim : Text.trim (before ++ (low ++ (left ++ dash :: (right ++ high)) ++ after))
      = low ++ (left ++ dash :: (right ++ high)) := by
    refine trim_between (fun c hc => hblank c (by simp at hc ⊢; tauto)) ?_ ?_
    · intro c hc
      rw [List.head?_append_of_ne_nil _ hlow] at hc
      exact hlowDigits c (List.mem_of_head? hc)
    · intro c hc
      have hshape : low ++ (left ++ dash :: (right ++ high))
          = (low ++ (left ++ dash :: right)) ++ high := by simp
      rw [hshape, List.getLast?_append_of_ne_nil _ hhigh] at hc
      exact hhighDigits c (List.mem_of_getLast? hc)
  have htakeLow : Text.takeDigits? (low ++ (left ++ dash :: (right ++ high)))
      = some (low, left ++ dash :: (right ++ high)) := by
    refine Text.takeDigits?_append hlow hlowDigits ?_
    intro c hc
    cases left with
    | nil => exact Option.some.inj hc ▸ hnotDash.2
    | cons l left =>
        have hl := hblank c (by simp [Option.some.inj hc])
        by_contra hdigit
        rw [Text.isBlank_of_isDigit (by simpa using hdigit)] at hl
        exact absurd hl (by decide)
  have htakeHigh : Text.takeDigits? high = some (high, []) :=
    Text.takeDigits?_eq_self hhigh hhighDigits
  have hafterLow : Text.trimStart (left ++ dash :: (right ++ high)) = dash :: (right ++ high) :=
    Text.trimStart_blanks_append (fun c hc => hblank c (by simp [hc])) (by simp [hnotDash.1])
  have hafterDash : Text.trimStart (right ++ high) = high :=
    Text.trimStart_blanks_append (fun c hc => hblank c (by simp [hc]))
      fun c hc => Text.isBlank_of_isDigit (hhighDigits c (List.mem_of_head? hc))
  rw [RowKey.read, htrim, htakeLow]
  split
  · rename_i h
    exact absurd h (by simp)
  · rename_i h
    exact absurd h (by simp)
  · rename_i low' rest _ h
    injection h with h
    injection h with h1 h2
    subst h1; subst h2
    simp only [hafterLow, hdash, if_true, hafterDash, htakeHigh]

theorem read_single {before digits after : Text}
    (hblank : ∀ c ∈ before ++ after, Text.isBlank c = true)
    (hne : digits ≠ []) (hdigits : ∀ c ∈ digits, Text.isDigit c = true) :
    RowKey.read (before ++ (digits ++ after)) = .single digits := by
  have htrim : Text.trim (before ++ (digits ++ after)) = digits :=
    trim_between hblank (fun c hc => hdigits c (List.mem_of_head? hc))
      fun c hc => hdigits c (List.mem_of_getLast? hc)
  rw [← RowKey.read_trim, htrim, RowKey.read_digits hne hdigits]

/-- **A key leads the numbers of its interval to its row, and no others.** -/
theorem IsKey.rowMatches {low high : Nat} {cell : Text} (h : IsKey low high cell) (hle : low ≤ high)
    (hshort : high < 10 ^ digitLimit) (rolled : Int) :
    Table.rowMatches rolled cell = .ok (decide (low ≤ rolled ∧ rolled ≤ high)) := by
  cases h with
  | range hblank hdash hfirst hsecond =>
      rw [Table.rowMatches, read_range hblank hdash hfirst.ne_nil hfirst.isDigit hsecond.ne_nil
        hsecond.isDigit, RowKey.covers,
        hfirst.read (Nat.lt_of_le_of_lt hle hshort), hsecond.read hshort]
      simp [bind, Except.bind, pure, Except.pure]
  | single hsame hblank hdigits =>
      subst hsame
      rw [Table.rowMatches, read_single hblank hdigits.ne_nil hdigits.isDigit, RowKey.covers,
        hdigits.read hshort]
      have hsame : ((low : Int) == rolled) = decide (low ≤ rolled ∧ rolled ≤ low) := by
        rw [Bool.eq_iff_iff, beq_iff_eq, decide_eq_true_iff]
        omega
      rw [← hsame]
      rfl

/-! ## Intervals without a gap -/

/-- Intervals that follow each other from `next` to `size`. -/
def Tiles (next size : Nat) : List (Nat × Nat) → Prop
  | [] => next = size + 1
  | (low, high) :: parts => low = next ∧ low ≤ high ∧ Tiles (high + 1) size parts

/-- Decided from the first part on. -/
instance decidableTiles (next size : Nat) (parts : List (Nat × Nat)) :
    Decidable (Tiles next size parts) :=
  match parts with
  | [] => inferInstanceAs (Decidable (next = size + 1))
  | (low, high) :: parts =>
    have : Decidable (Tiles (high + 1) size parts) := decidableTiles (high + 1) size parts
    inferInstanceAs (Decidable (low = next ∧ low ≤ high ∧ Tiles (high + 1) size parts))

theorem Tiles.next_le {next size : Nat} {parts : List (Nat × Nat)} (h : Tiles next size parts) :
    next ≤ size + 1 := by
  induction parts generalizing next with
  | nil => exact Nat.le_of_eq h
  | cons p parts ih =>
      obtain ⟨hlow, hle, htail⟩ := h
      have := ih htail
      omega

/-- Every interval is ordered and lies where the intervals go. -/
theorem Tiles.bounds {next size : Nat} {parts : List (Nat × Nat)} (h : Tiles next size parts)
    {p : Nat × Nat} (hp : p ∈ parts) : next ≤ p.1 ∧ p.1 ≤ p.2 ∧ p.2 ≤ size := by
  induction parts generalizing next with
  | nil => exact absurd hp (by simp)
  | cons q parts ih =>
      obtain ⟨hlow, hle, htail⟩ := h
      have hnext := htail.next_le
      rcases List.mem_cons.mp hp with rfl | hp
      · omega
      · have := ih htail hp
        omega

/-- **Every number up to the size lies in exactly one interval.** -/
theorem Tiles.exists_unique {next size : Nat} {parts : List (Nat × Nat)} (h : Tiles next size parts)
    {r : Int} (hlow : next ≤ r) (hhigh : r ≤ size) :
    ∃ row, (∃ p : Nat × Nat, parts[row]? = some p ∧ p.1 ≤ r ∧ r ≤ p.2)
      ∧ ∀ (other : Nat) (p : Nat × Nat), parts[other]? = some p → p.1 ≤ r → r ≤ p.2 →
        other = row := by
  induction parts generalizing next with
  | nil =>
      have hend : next = size + 1 := h
      omega
  | cons q parts ih =>
      obtain ⟨hfirst, hle, htail⟩ := h
      by_cases hr : r ≤ q.2
      · -- the first interval has the number, and all others begin behind it
        refine ⟨0, ⟨q, rfl, by omega, hr⟩, ?_⟩
        intro other p hp hp1 _
        cases other with
        | zero => rfl
        | succ other =>
            have := (htail.bounds (List.mem_of_getElem? hp)).1
            omega
      · obtain ⟨row, ⟨p, hp, hin⟩, hunique⟩ := ih htail (by omega)
        refine ⟨row + 1, ⟨p, hp, hin⟩, ?_⟩
        intro other p' hp' hp1 hp2
        cases other with
        | zero =>
            have hsame : q = p' := Option.some.inj hp'
            subst hsame
            omega
        | succ other => rw [hunique other p' hp' hp1 hp2]

/-! ## Complete tables -/

/-- **A complete table resolves every roll of its die to the one row whose interval has it.** -/
theorem resolveRow_of_tiles {size : Nat} {parts : List (Nat × Nat)} {cells : List Text}
    (hparts : Tiles 1 size parts)
    (hkeys : List.Forall₂ (fun p cell => IsKey p.1 p.2 cell) parts cells)
    (hshort : size < 10 ^ digitLimit) {r : Int} (hlow : 1 ≤ r) (hhigh : r ≤ size) :
    ∃ row, resolveRow r cells = .ok (some row)
      ∧ (∃ p : Nat × Nat, parts[row]? = some p ∧ p.1 ≤ r ∧ r ≤ p.2)
      ∧ ∀ (other : Nat) (p : Nat × Nat), parts[other]? = some p → p.1 ≤ r → r ≤ p.2 →
        other = row := by
  obtain ⟨row, ⟨p, hp, hin⟩, hunique⟩ := hparts.exists_unique hlow hhigh
  refine ⟨row, ?_, ⟨p, hp, hin⟩, hunique⟩
  obtain ⟨hlength, hkey⟩ := List.forall₂_iff_get.mp hkeys
  -- what the roll finds in the row of an interval
  have hmatches {n : Nat} {cell : Text} (hcell : cells[n]? = some cell) :
      ∃ q : Nat × Nat, parts[n]? = some q
        ∧ rowMatches r cell = .ok (decide (q.1 ≤ r ∧ r ≤ q.2)) := by
    obtain ⟨hn, rfl⟩ := List.getElem?_eq_some_iff.mp hcell
    have hbounds := hparts.bounds (List.getElem_mem (hlength ▸ hn))
    refine ⟨parts[n], List.getElem?_eq_getElem (hlength ▸ hn), ?_⟩
    exact (hkey n (hlength ▸ hn) hn).rowMatches hbounds.2.1
      (Nat.lt_of_le_of_lt hbounds.2.2 hshort) r
  have hread : ∀ cell ∈ cells, ∃ b, rowMatches r cell = .ok b := by
    intro cell hcell
    obtain ⟨n, hn⟩ := List.mem_iff_getElem?.mp hcell
    obtain ⟨q, -, hq⟩ := hmatches hn
    exact ⟨_, hq⟩
  obtain ⟨found, hfound⟩ := resolveRow_isOk_iff.mpr hread
  have hlast : IsLastMatch r cells row := by
    constructor
    · have hrow : row < cells.length := hlength ▸ (List.getElem?_eq_some_iff.mp hp).1
      obtain ⟨q, hq, hmatch⟩ := hmatches (List.getElem?_eq_getElem hrow)
      have hsame : p = q := Option.some.inj (hp.symm.trans hq)
      exact ⟨_, List.getElem?_eq_getElem hrow, by rw [hmatch, ← hsame, decide_eq_true hin]⟩
    · intro later cell hlater hcell
      obtain ⟨q, hq, hmatch⟩ := hmatches hcell
      have houtside : ¬(q.1 ≤ r ∧ r ≤ q.2) := by
        rintro ⟨hfrom, hto⟩
        have hsame := hunique later q hq hfrom hto
        omega
      rw [hmatch, decide_eq_false houtside]
  rw [hfound, (resolveRow_eq_iff hfound row).mpr hlast]

end Gamebook.Table
