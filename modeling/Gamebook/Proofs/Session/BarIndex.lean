import Gamebook.Proofs.Session.Bars

/-!
# The two indexes of a bar

A stat can be counted from the start of its list or, with a negative index, from the end, so it
has two indexes. What a bar was set to is kept under the index that was given, and the two
indexes are not brought together: each of them has an account of its own. The two
show the same value exactly if their accounts end in the same value (`bar_indexes_agree_iff`).

The texts of the two tell no less than the values, unless the greatest value is too long to be
written. It cannot happen that both values are too long and differ, for only the value of the
definition can be longer than the greatest one.
-/

namespace Gamebook.Session

/-! ## Two indexes for one stat -/

theorem indexed?_natCast {α : Type} (xs : List α) (i : Nat) : indexed? xs i = xs[i]? := by
  rw [indexed?, if_pos (Int.natCast_nonneg i), Int.toNat_natCast]

/-- The index less the length counts the same entry from the end. -/
theorem indexed?_sub_length {α : Type} {xs : List α} {i : Nat} (hi : i < xs.length) :
    indexed? xs (i - xs.length) = xs[i]? := by
  have hfromEnd : ((xs.length : Int) + (i - xs.length)).toNat = i := by omega
  rw [indexed?, if_neg (by omega), if_pos (by omega), hfromEnd]

theorem stat_eq_ok {term : Text} {index : Int} {s : Session} {stats : List Stat} {stat : Stat}
    (hentity : s.definition? term = some (.entity stats)) (hsize : isOversized index = false)
    (hindexed : indexed? stats index = some stat) : s.stat term index = .ok stat := by
  simp only [Session.stat, hentity, hsize, hindexed]
  rfl

/-- **Both indexes name the same stat.** -/
theorem stat_both {term : Text} {s : Session} {stats : List Stat} {stat : Stat} {i : Nat}
    (hentity : s.definition? term = some (.entity stats))
    (hlength : (stats.length : Int) ≤ lengthBound) (hstat : stats[i]? = some stat) :
    s.stat term i = .ok stat ∧ s.stat term (i - stats.length) = .ok stat := by
  obtain ⟨hi, -⟩ := List.getElem?_eq_some_iff.mp hstat
  have hsize (index : Int) (hlow : -lengthBound ≤ index) (hhigh : index < lengthBound) :
      isOversized index = false := by
    simp [isOversized, hlow, hhigh]
  constructor
  · exact stat_eq_ok hentity (hsize _ (by omega) (by omega))
      ((indexed?_natCast stats i).trans hstat)
  · exact stat_eq_ok hentity (hsize _ (by omega) (by omega)) ((indexed?_sub_length hi).trans hstat)

/-! ## What a bar shows -/

/-- The text of a bar. -/
def barText (now maximum : Int) : Except SessionError Text := do
  let current ← writeNumber now
  return current ++ '/' :: (← writeNumber maximum)

theorem statValue_eq_barText {term label : Text} {index current maximum now : Int} {s : Session}
    (h : s.stat term index = .ok (.bar label current maximum))
    (hnow : s.barCurrent term index = .ok now) : s.statValue term index = barText now maximum := by
  rw [statValue, h]
  simp only [bind, Except.bind, hnow]
  rfl

/-- Whether a number can be written. -/
def IsShort (z : Int) : Prop := (Number.writeNat z.natAbs).length ≤ digitLimit

theorem isShort_iff {z : Int} : IsShort z ↔ z.natAbs < 10 ^ digitLimit :=
  Number.length_writeNat_le_iff z.natAbs

theorem writeNumber_of_not_short {z : Int} (h : ¬IsShort z) :
    writeNumber z = .error (.numeral .tooLongToWrite) :=
  congrArg (Except.mapError SessionError.numeral) (if_neg h)

/-- What is written tells the number, and all numbers that are too long are refused alike. -/
theorem writeNumber_eq_iff {y z : Int} :
    writeNumber y = writeNumber z ↔ y = z ∨ ¬IsShort y ∧ ¬IsShort z := by
  constructor
  · intro h
    by_cases hy : IsShort y
    · rw [writeNumber_of_length hy] at h
      by_cases hz : IsShort z
      · rw [writeNumber_of_length hz] at h
        exact .inl (Number.writeInt_injective (Except.ok.inj h))
      · rw [writeNumber_of_not_short hz] at h
        exact absurd h (by simp)
    · by_cases hz : IsShort z
      · rw [writeNumber_of_not_short hy, writeNumber_of_length hz] at h
        exact absurd h (by simp)
      · exact .inr ⟨hy, hz⟩
  · rintro (rfl | ⟨hy, hz⟩)
    · rfl
    · rw [writeNumber_of_not_short hy, writeNumber_of_not_short hz]

theorem barText_of_short {maximum : Int} (h : IsShort maximum) (now : Int) :
    barText now maximum
      = (writeNumber now).map fun t => t ++ '/' :: Number.writeInt maximum := by
  rw [barText, writeNumber_of_length h]
  cases writeNumber now <;> rfl

/-- A bar whose greatest value is too long has no text, whatever its value is. -/
theorem barText_of_not_short {maximum : Int} (h : ¬IsShort maximum) (now : Int) :
    barText now maximum = .error (.numeral .tooLongToWrite) := by
  rw [barText, writeNumber_of_not_short h]
  by_cases hnow : IsShort now
  · rw [writeNumber_of_length hnow]
    rfl
  · rw [writeNumber_of_not_short hnow]
    rfl

theorem barText_eq_iff {now now' maximum : Int} (h : IsShort maximum) :
    barText now maximum = barText now' maximum ↔ writeNumber now = writeNumber now' := by
  rw [barText_of_short h, barText_of_short h]
  constructor
  · intro heq
    cases hnow : writeNumber now with
    | error e =>
        rw [hnow] at heq
        exact (Fallible.map_eq_error_iff.mp heq.symm).symm
    | ok t =>
        rw [hnow] at heq
        obtain ⟨t', hnow', ht⟩ := Fallible.map_eq_ok_iff.mp heq.symm
        rw [hnow', List.append_cancel_right ht]
  · intro heq
    rw [heq]

/-! ## What a run leaves under an index -/

/-- The value of a bar after some actions: what it was last set to under the index since all bars
were reset, or else the value of the definition. -/
def valueAfter (actions : List Action) (begun : Session) (term : Text) (index current : Int) :
    Int :=
  (lastSet? (barTrace term index actions begun)).getD current

section Run

variable {settings : Settings} {cartridge : Cartridge} {source : Dice.Source}
  {limit : Option Int} {begun : Session} {term label : Text} {index current maximum : Int}

theorem stat_run (actions : List Action) (s : Session) (term : Text) (index : Int) :
    (run actions s).stat term index = s.stat term index := by
  unfold stat definition?
  rw [(run_fixed actions s).1]

theorem barCurrent_run (h : startUnder settings cartridge source limit = .ok begun)
    (hstat : begun.stat term index = .ok (.bar label current maximum)) (actions : List Action) :
    (run actions begun).barCurrent term index
      = .ok (valueAfter actions begun term index current) := by
  have hbar := bar_of_stat ((stat_run actions begun term index).trans hstat)
  rw [barCurrent_eq hbar, setValue?_run term index (bars_start h)]
  rfl

theorem statValue_run (h : startUnder settings cartridge source limit = .ok begun)
    (hstat : begun.stat term index = .ok (.bar label current maximum)) (actions : List Action) :
    (run actions begun).statValue term index
      = barText (valueAfter actions begun term index current) maximum :=
  statValue_eq_barText ((stat_run actions begun term index).trans hstat)
    (barCurrent_run h hstat actions)

/-- A value that is longer than the greatest one was not set, but is that of the definition. -/
theorem valueAfter_of_not_short (hstat : begun.stat term index = .ok (.bar label current maximum))
    (hmax : IsShort maximum) {actions : List Action}
    (h : ¬IsShort (valueAfter actions begun term index current)) :
    valueAfter actions begun term index current = current := by
  unfold valueAfter at h ⊢
  cases hlast : lastSet? (barTrace term index actions begun) with
  | none => rfl
  | some v =>
      obtain ⟨event, hevent, hvalue⟩ := Option.bind_eq_some_iff.mp hlast
      have hset : .setTo v ∈ barTrace term index actions begun := by
        cases event with
        | reset => exact absurd hvalue (by simp [BarEvent.value?])
        | setTo w => exact Option.some.inj hvalue ▸ List.mem_of_getLast? hevent
      have hbounds := bounds_of_mem_barTrace (bar_of_stat hstat) hset
      rw [hlast, Option.getD_some, isShort_iff] at h
      rw [isShort_iff] at hmax
      omega

/--
**When the two indexes of a bar agree.**

After any actions both indexes of a bar name the bar, and each shows the value that was last
set under it since all bars were reset, or else the value of the definition. So they show one
value exactly if these are the same, and one text too, unless the greatest value of the bar is too
long and there is no text at all. A value that is set under one of them is not brought to the
other. The list of stats has room for an index of each of them, as every list has.
-/
theorem bar_indexes_agree_iff (h : startUnder settings cartridge source limit = .ok begun)
    (actions : List Action) {stats : List Stat}
    (hentity : begun.definition? term = some (.entity stats))
    (hlength : (stats.length : Int) ≤ lengthBound) {i : Nat}
    (hbar : stats[i]? = some (.bar label current maximum)) :
    (∀ index ∈ [(i : Int), i - stats.length],
        (run actions begun).stat term index = .ok (.bar label current maximum)
          ∧ (run actions begun).barCurrent term index
            = .ok (valueAfter actions begun term index current))
      ∧ ((run actions begun).barCurrent term i
          = (run actions begun).barCurrent term (i - stats.length)
        ↔ valueAfter actions begun term i current
          = valueAfter actions begun term (i - stats.length) current)
      ∧ ((run actions begun).statValue term i
          = (run actions begun).statValue term (i - stats.length)
        ↔ valueAfter actions begun term i current
            = valueAfter actions begun term (i - stats.length) current
          ∨ digitLimit < (Number.writeNat maximum.natAbs).length) := by
  obtain ⟨hstart, hend⟩ := stat_both hentity hlength hbar
  refine ⟨fun index hindex => ?_, ?_, ?_⟩
  · have hstat : begun.stat term index = .ok (.bar label current maximum) := by
      rcases List.mem_cons.mp hindex with rfl | hindex
      · exact hstart
      · rw [List.mem_singleton.mp hindex]
        exact hend
    exact ⟨(stat_run actions begun term index).trans hstat, barCurrent_run h hstat actions⟩
  · rw [barCurrent_run h hstart, barCurrent_run h hend, Except.ok.injEq]
  · rw [statValue_run h hstart, statValue_run h hend]
    by_cases hmax : IsShort maximum
    · rw [barText_eq_iff hmax, writeNumber_eq_iff, or_iff_left (Nat.not_lt_of_le hmax),
        or_iff_left_iff_imp]
      rintro ⟨hlong, hlong'⟩
      rw [valueAfter_of_not_short hstart hmax hlong, valueAfter_of_not_short hend hmax hlong']
    · rw [barText_of_not_short hmax, barText_of_not_short hmax]
      exact iff_of_true rfl (.inr (Nat.lt_of_not_le hmax))

end Run

/-- An entity whose second and last stat is a bar. -/
def orc : Cartridge :=
  Cartridge.ofParts
    [("Orc".toList, .entity [.static "AC".toList "13".toList, .bar "HP".toList 5 12])] []

/-- Set under both indexes, the bar shows one value under both. -/
theorem bar_indexes_agree_healedTwice :
    ∃ begun, startUnder Settings.standard orc (Dice.Source.ofList []) none = .ok begun
      ∧ begun.definition? "Orc".toList
        = some (.entity [.static "AC".toList "13".toList, .bar "HP".toList 5 12])
      ∧ (run [.setBar "Orc".toList 1 7, .setBar "Orc".toList (-1) 9,
          .adjustBar "Orc".toList 1 2] begun).barCurrent "Orc".toList 1
        = (run [.setBar "Orc".toList 1 7, .setBar "Orc".toList (-1) 9,
          .adjustBar "Orc".toList 1 2] begun).barCurrent "Orc".toList (-1) := by
  refine ⟨_, rfl, rfl, ?_⟩
  exact (@bar_indexes_agree_iff Settings.standard orc _ none _ "Orc".toList "HP".toList 5 12 rfl _
    _ rfl (by decide) 1 rfl).2.1.mpr (by decide +kernel)

/-- Set under one index, the bar shows two values. -/
theorem bar_indexes_disagree_healedOnce :
    ∃ begun, startUnder Settings.standard orc (Dice.Source.ofList []) none = .ok begun
      ∧ (run [.setBar "Orc".toList 1 7] begun).stat "Orc".toList 1
        = (run [.setBar "Orc".toList 1 7] begun).stat "Orc".toList (-1)
      ∧ (run [.setBar "Orc".toList 1 7] begun).barCurrent "Orc".toList 1
        ≠ (run [.setBar "Orc".toList 1 7] begun).barCurrent "Orc".toList (-1)
      ∧ (run [.setBar "Orc".toList 1 7] begun).statValue "Orc".toList 1
        ≠ (run [.setBar "Orc".toList 1 7] begun).statValue "Orc".toList (-1) :=
  ⟨_, rfl, rfl, by decide +kernel, by decide +kernel⟩

end Gamebook.Session
