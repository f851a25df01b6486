import Gamebook.Proofs.Table.Interval

/-!
# What a row stands for

A first cell denotes an interval of rolls: a number stands for itself, two numbers with a dash
between them for all numbers from the first to the second, and any other text for none
(`denotes_iff`). The end may be below the beginning, and then no roll lies between them.

A roll leads to the last row whose interval it lies in, and to none if it lies in no interval
(`resolveRow_by_interval`). So rows that are put behind others decide first
(`resolveRow_append`).
-/

namespace Gamebook.Table

/-- The interval that a first cell denotes, read off the cell without the blanks around it. -/
inductive Denotes (cell : Text) : Nat → Nat → Prop where
  | number {digits : Text} :
      digits ≠ [] → (∀ c ∈ digits, Text.isDigit c = true) → Text.trim cell = digits →
      Denotes cell (Text.digitsValue digits) (Text.digitsValue digits)
  | range {low left right high : Text} {dash : Char} :
      low ≠ [] → high ≠ [] → (∀ c ∈ low ++ high, Text.isDigit c = true) →
      (∀ c ∈ left ++ right, Text.isBlank c = true) → dash ∈ ['-', '–'] →
      Text.trim cell = low ++ (left ++ dash :: (right ++ high)) →
      Denotes cell (Text.digitsValue low) (Text.digitsValue high)

/-- Whether a roll lies in the interval that a cell denotes. -/
def IsDenoted (rolled : Int) (cell : Text) : Prop :=
  ∃ low high : Nat, Denotes cell low high ∧ low ≤ rolled ∧ rolled ≤ high

/-- The ends of the interval of a row key. -/
def RowKey.interval? : RowKey → Option (Nat × Nat)
  | single ds => some (Text.digitsValue ds, Text.digitsValue ds)
  | range low high => some (Text.digitsValue low, Text.digitsValue high)
  | other => none

theorem RowKey.isDash_iff {c : Char} : RowKey.isDash c = true ↔ c ∈ ['-', '–'] := by
  simp [RowKey.isDash]

/-- **A cell denotes the interval that is read off it.** -/
theorem denotes_iff {cell : Text} {low high : Nat} :
    Denotes cell low high ↔ (RowKey.read cell).interval? = some (low, high) := by
  constructor
  · intro h
    rw [← RowKey.read_trim]
    cases h with
    | number hne hdigits htrim => rw [htrim, RowKey.read_digits hne hdigits]; rfl
    | @range low left right high dash hlow hhigh hdigits hblank hdash htrim =>
        have hread := @read_range [] low left right high [] dash
          (by simpa using hblank) (RowKey.isDash_iff.mpr hdash) hlow
          (fun c hc => hdigits c (List.mem_append_left _ hc)) hhigh
          fun c hc => hdigits c (List.mem_append_right _ hc)
        rw [List.nil_append, List.append_nil] at hread
        rw [htrim, hread]
        rfl
  · intro h
    cases hread : RowKey.read cell with
    | other => exact absurd h (by simp [hread, RowKey.interval?])
    | single ds =>
        obtain ⟨htrim, hdigits, hne⟩ := RowKey.read_eq_single hread
        rw [hread] at h
        obtain ⟨rfl, rfl⟩ := Prod.mk.inj (Option.some.inj h)
        exact .number hne hdigits htrim
    | range first second =>
        obtain ⟨left, dash, right, htrim, hdigits, hblank, hdash, hfirst, hsecond⟩ :=
          RowKey.read_eq_range hread
        rw [hread] at h
        obtain ⟨rfl, rfl⟩ := Prod.mk.inj (Option.some.inj h)
        exact .range hfirst hsecond hdigits hblank (RowKey.isDash_iff.mp hdash) htrim

/-- A cell denotes one interval at most. -/
theorem Denotes.unique {cell : Text} {low high low' high' : Nat} (h : Denotes cell low high)
    (h' : Denotes cell low' high') : low = low' ∧ high = high' :=
  Prod.mk.inj (Option.some.inj ((denotes_iff.mp h).symm.trans (denotes_iff.mp h')))

/-- **A roll leads to a row exactly if it lies in the interval of its first cell**, where the
numbers in the cell can be read. -/
theorem rowMatches_iff_isDenoted {cell : Text} (h : ReadableRuns cell) (rolled : Int) :
    ∃ b, rowMatches rolled cell = .ok b ∧ (b = true ↔ IsDenoted rolled cell) := by
  simp only [IsDenoted, denotes_iff, rowMatches]
  cases hread : RowKey.read cell with
  | other => exact ⟨false, rfl, by simp [RowKey.interval?]⟩
  | single ds =>
      obtain ⟨htrim, hdigits, -⟩ := RowKey.read_eq_single hread
      rw [RowKey.covers, h.read (htrim ▸ List.infix_rfl) hdigits]
      refine ⟨_, rfl, ?_⟩
      simp only [RowKey.interval?, Option.some.injEq, Prod.mk.injEq, beq_iff_eq]
      constructor
      · rintro rfl
        exact ⟨_, _, ⟨rfl, rfl⟩, Int.le_refl _, Int.le_refl _⟩
      · rintro ⟨_, _, ⟨rfl, rfl⟩, hlow, hhigh⟩
        exact Int.le_antisymm hlow hhigh
  | range low high =>
      obtain ⟨left, dash, right, htrim, hdigits, -⟩ := RowKey.read_eq_range hread
      have hlow : low <:+: Text.trim cell := ⟨[], _, by rw [htrim]; rfl⟩
      have hhigh : high <:+: Text.trim cell :=
        ⟨low ++ (left ++ dash :: right), [], by rw [htrim]; simp⟩
      rw [RowKey.covers, h.read hlow fun c hc => hdigits c (List.mem_append_left _ hc),
        h.read hhigh fun c hc => hdigits c (List.mem_append_right _ hc)]
      refine ⟨_, rfl, ?_⟩
      simp only [RowKey.interval?, Option.some.injEq, Prod.mk.injEq, Bool.and_eq_true,
        decide_eq_true_eq]
      constructor
      · exact fun hin => ⟨_, _, ⟨rfl, rfl⟩, hin⟩
      · rintro ⟨_, _, ⟨rfl, rfl⟩, hin⟩
        exact hin

/-! ## Rows behind others -/

/-- **The rows that stand behind others decide first.** -/
theorem resolveRow_append (rolled : Int) (xs ys : List Text) :
    resolveRow rolled (xs ++ ys)
      = (do
          let before ← resolveRow rolled xs
          let behind ← resolveRow rolled ys
          return (behind.map (xs.length + ·)).or before) := by
  induction ys using List.reverseRecOn with
  | nil =>
      rw [List.append_nil]
      cases resolveRow rolled xs <;> rfl
  | append_singleton ys y ih =>
      rw [← List.append_assoc, resolveRow_concat, ih, resolveRow_concat]
      cases resolveRow rolled xs with
      | error e => rfl
      | ok before =>
          cases resolveRow rolled ys with
          | error e => rfl
          | ok behind =>
              cases rowMatches rolled y with
              | error e => rfl
              | ok b => cases b <;> simp [bind, Except.bind, pure, Except.pure]

/--
**Which row a roll leads to.**

If the numbers in the cells can be read, every roll is resolved. It leads to a row exactly if it
lies in the interval that the first cell of the row denotes and in the interval of no later one,
and to no row exactly if it lies in none of the intervals. A cell denotes one interval at most.
So where some rows stand behind others, the roll leads to the row that it leads to among them, and
else to the row that it leads to among the others.
-/
theorem resolveRow_by_interval {rolled : Int} {cells : List Text}
    (h : ∀ cell ∈ cells, ReadableRuns cell) :
    (∀ (cell : Text) (low high low' high' : Nat), Denotes cell low high →
        Denotes cell low' high' → low = low' ∧ high = high')
      ∧ ∃ found, resolveRow rolled cells = .ok found
        ∧ (∀ row, found = some row
          ↔ (∃ cell, cells[row]? = some cell ∧ IsDenoted rolled cell)
            ∧ ∀ later cell, row < later → cells[later]? = some cell → ¬IsDenoted rolled cell)
        ∧ (found = none ↔ ∀ cell ∈ cells, ¬IsDenoted rolled cell)
        ∧ ∀ xs ys, cells = xs ++ ys →
          ∃ before behind, resolveRow rolled xs = .ok before ∧ resolveRow rolled ys = .ok behind
            ∧ (∀ row, behind = some row → found = some (xs.length + row))
            ∧ (behind = none → found = before) := by
  have hmatches {cell : Text} (hcell : cell ∈ cells) :
      (rowMatches rolled cell = .ok true ↔ IsDenoted rolled cell)
        ∧ (rowMatches rolled cell = .ok false ↔ ¬IsDenoted rolled cell) := by
    obtain ⟨b, hb, hdenoted⟩ := rowMatches_iff_isDenoted (h cell hcell) rolled
    rw [hb, ← hdenoted]
    cases b <;> simp
  obtain ⟨found, hfound⟩ := resolveRow_ok h rolled
  have hrow (row : Nat) : found = some row
      ↔ (∃ cell, cells[row]? = some cell ∧ IsDenoted rolled cell)
        ∧ ∀ later cell, row < later → cells[later]? = some cell → ¬IsDenoted rolled cell := by
    rw [resolveRow_eq_iff hfound]
    constructor
    · rintro ⟨⟨cell, hcell, hmatch⟩, hlater⟩
      refine ⟨⟨cell, hcell, (hmatches (List.mem_of_getElem? hcell)).1.mp hmatch⟩, ?_⟩
      intro later x hx hget
      exact (hmatches (List.mem_of_getElem? hget)).2.mp (hlater later x hx hget)
    · rintro ⟨⟨cell, hcell, hin⟩, hlater⟩
      refine ⟨⟨cell, hcell, (hmatches (List.mem_of_getElem? hcell)).1.mpr hin⟩, ?_⟩
      intro later x hx hget
      exact (hmatches (List.mem_of_getElem? hget)).2.mpr (hlater later x hx hget)
  refine ⟨fun _ _ _ _ _ hd hd' => hd.unique hd', found, hfound, hrow, ?_, ?_⟩
  · rw [resolveRow_eq_none_iff hfound]
    exact forall₂_congr fun cell hcell => (hmatches hcell).2
  · rintro xs ys rfl
    rw [List.forall_mem_append] at h
    obtain ⟨before, hbefore⟩ := resolveRow_ok h.1 rolled
    obtain ⟨behind, hbehind⟩ := resolveRow_ok h.2 rolled
    have happend := resolveRow_append rolled xs ys
    rw [hfound, hbefore, hbehind] at happend
    obtain rfl : found = (behind.map (xs.length + ·)).or before := Except.ok.inj happend
    refine ⟨before, behind, hbefore, hbehind, ?_, ?_⟩
    · rintro row rfl
      rfl
    · rintro rfl
      rfl

/-- Keys of two scripts with blanks in them, one with its ends the wrong way round, and one that is
no key. -/
def mixedKeys : List Text :=
  ["1 –\t٣".toList, " 02 ".toList, "5-4".toList, "4\u20105".toList, "2-".toList]

theorem resolveRow_by_interval_mixedKeys :
    (∀ cell ∈ mixedKeys, ReadableRuns cell)
      ∧ resolveRow 2 mixedKeys = .ok (some 1) ∧ resolveRow 5 mixedKeys = .ok none
      ∧ IsDenoted 2 " 02 ".toList ∧ ¬IsDenoted 2 "2-".toList
      ∧ (∀ cell ∈ mixedKeys, ¬IsDenoted 5 cell)
      ∧ ∃ before behind, resolveRow 2 (mixedKeys.take 1) = .ok before
        ∧ resolveRow 2 (mixedKeys.drop 1) = .ok behind ∧ before = some 0 ∧ behind = some 0 := by
  have hruns : ∀ cell ∈ mixedKeys, ReadableRuns cell := by
    have hshort : ∀ cell ∈ mixedKeys, cell.length ≤ digitLimit := by decide
    exact fun cell hcell ds hds _ => hds.length_le.trans (hshort cell hcell)
  have htwo : resolveRow 2 mixedKeys = .ok (some 1) := by decide
  have hfive : resolveRow 5 mixedKeys = .ok none := by decide
  obtain ⟨-, found, hfound, hrow, -, hparts⟩ := @resolveRow_by_interval 2 mixedKeys hruns
  obtain ⟨-, found', hfound', -, hnone, -⟩ := @resolveRow_by_interval 5 mixedKeys hruns
  obtain rfl := Except.ok.inj (hfound.symm.trans htwo)
  obtain rfl := Except.ok.inj (hfound'.symm.trans hfive)
  obtain ⟨⟨cell, hcell, hin⟩, hlater⟩ := (hrow 1).mp rfl
  obtain rfl := Option.some.inj hcell
  obtain ⟨before, behind, hbefore, hbehind, -⟩ := hparts _ _ (List.take_append_drop 1 _).symm
  exact ⟨hruns, htwo, hfive, hin, hlater 4 _ (by decide) rfl, hnone.mp rfl, before, behind,
    hbefore, hbehind, (Except.ok.inj hbefore).symm, (Except.ok.inj hbehind).symm⟩

end Gamebook.Table
