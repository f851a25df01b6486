import Gamebook.Proofs.Definition.Stat
import Gamebook.Proofs.Number.Decimal

/-!
# Numbers that are too long for a text

A field of text takes integers, and an integer of too many digits cannot be written. Where a value
is spelled out for a field this is one of the problems of the field. Where a field takes texts and
numbers it cuts the reading short: no problems come out, of this field or of any other. This file
says exactly when that is: one of the `textFields` of the definition holds such an integer
(`read_cutShort_iff`). Put together, checks are cut short by the numbers of their parts
(`Checked.CutShortBy`).
-/

namespace Gamebook

open Value (Entries field?)

/-- An integer that has more digits than can be written. -/
def Value.IsOverlong (v : Value) : Prop :=
  ∃ z : Int, v = .int z ∧ digitLimit < (Number.writeNat z.natAbs).length

/-- The least such integer. -/
theorem Value.isOverlong_power : IsOverlong (.int (10 ^ digitLimit : Nat)) := by
  refine ⟨_, rfl, ?_⟩
  rw [Int.natAbs_natCast, Number.length_writeNat_of_eq rfl]
  exact Nat.lt_succ_self digitLimit

namespace Checked

/-- A check is cut short by the overlong numbers among some values, and by nothing else. -/
def CutShortBy {α : Type} (values : List Value) (x : Checked α) : Prop :=
  ∀ e, x = .error e ↔ (∃ v ∈ values, v.IsOverlong) ∧ e = .tooLongToWrite

variable {α β γ : Type} {x : Checked α} {y : Checked β} {vs ws : List Value}

theorem CutShortBy.never (h : ∀ e, x ≠ .error e) : x.CutShortBy [] :=
  fun e => ⟨fun he => absurd he (h e), by rintro ⟨⟨v, hv, -⟩, -⟩; exact absurd hv (by simp)⟩

theorem CutShortBy.within (h : x.CutShortBy vs) (step : Text) : (x.within step).CutShortBy vs :=
  fun e => within_eq_numeral_iff.trans (h e)

theorem CutShortBy.map (h : x.CutShortBy vs) (f : α → β) : (x.map f).CutShortBy vs :=
  fun e => map_eq_numeral_iff.trans (h e)

/-- Two checks together are cut short by the numbers of both. -/
theorem CutShortBy.both (hx : x.CutShortBy vs) (hy : y.CutShortBy ws) (f : α → β → γ) :
    (both f x y).CutShortBy (vs ++ ws) := by
  intro e
  rw [both_eq_numeral_iff, hx e, hy e]
  simp only [ne_eq, hx _, not_and, List.mem_append, or_and_right, exists_or]
  by_cases h : ∃ v ∈ vs, v.IsOverlong <;> simp [h]

end Checked

namespace Value

theorem asText_cutShort (v : Value) : v.asText.CutShortBy [v] := by
  intro e
  simp only [List.mem_singleton, exists_eq_left]
  cases v with
  | int z =>
      rw [asText, Number.write]
      by_cases h : (Number.writeNat z.natAbs).length ≤ digitLimit
      · rw [if_pos h]
        simp [Checked.value, IsOverlong, Nat.not_lt.mpr h]
      · rw [if_neg h]
        simp [IsOverlong, Nat.lt_of_not_le h, eq_comm]
  | bytes bs =>
      rw [asText]
      split <;> simp [Checked.value, Checked.fault, IsOverlong]
  | _ => simp [asText, Checked.value, Checked.fault, IsOverlong]

theorem asSpelling_cutShort (v : Value) : v.asSpelling.CutShortBy [] := by
  refine .never fun e => ?_
  unfold asSpelling
  split
  · simp [Checked.value]
  · split <;> simp [Checked.value, Checked.fault]

theorem asIntegerField_cutShort (v : Value) : v.asIntegerField.CutShortBy [] := by
  refine .never fun e => ?_
  unfold asIntegerField
  split <;> simp [Checked.value, Checked.fault]

end Value

theorem Checked.fault_cutShort {α : Type} (f : Fault) : (fault f : Checked α).CutShortBy [] :=
  .never fun _ => by simp [fault]

theorem Checked.value_cutShort {α : Type} (a : α) : (value a).CutShortBy [] :=
  .never fun _ => by simp [value]

namespace Definition

variable {α : Type} {check : Value → Checked α} {own : Value → List Value}

theorem required_cutShort (hcheck : ∀ v, (check v).CutShortBy (own v)) (name : Text)
    (entries : Entries) :
    (required name check entries).CutShortBy ((field? name entries).toList.flatMap own) := by
  unfold required
  cases field? name entries with
  | none => exact (Checked.fault_cutShort _).within name
  | some v => simpa using (hcheck v).within name

theorem optional_cutShort (hcheck : ∀ v, (check v).CutShortBy (own v)) (name : Text)
    (fallback : α) (entries : Entries) :
    (optional name fallback check entries).CutShortBy
      ((field? name entries).toList.flatMap own) := by
  unfold optional
  cases field? name entries with
  | none => exact Checked.value_cutShort fallback
  | some v => simpa using (hcheck v).within name

theorem requiredText_cutShort (name : Text) (entries : Entries) :
    (required name Value.asText entries).CutShortBy (field? name entries).toList := by
  simpa using required_cutShort Value.asText_cutShort name entries

/-- A field whose check is never cut short adds nothing. -/
theorem required_never (hcheck : ∀ v, (check v).CutShortBy []) (name : Text) (entries : Entries) :
    (required name check entries).CutShortBy [] := by
  have hnone : ((field? name entries).toList.flatMap fun _ => ([] : List Value)) = [] :=
    List.flatMap_eq_nil_iff.mpr fun _ _ => rfl
  exact hnone ▸ required_cutShort hcheck name entries

theorem optional_never (hcheck : ∀ v, (check v).CutShortBy []) (name : Text) (fallback : α)
    (entries : Entries) : (optional name fallback check entries).CutShortBy [] := by
  have hnone : ((field? name entries).toList.flatMap fun _ => ([] : List Value)) = [] :=
    List.flatMap_eq_nil_iff.mpr fun _ _ => rfl
  exact hnone ▸ optional_cutShort hcheck name fallback entries

end Definition

namespace Stat

/-- The values in the fields of a stat that take texts and numbers. A bar whose value cannot be
taken apart has none that is looked at. -/
def textFields (v : Value) : List Value :=
  match v.head with
  | .map entries =>
    match kindOf entries with
    | .ok .static => (field? "label".toList entries).toList
    | .ok .roll =>
      (field? "label".toList entries).toList ++ (field? "formula".toList entries).toList
    | .ok .bar =>
      match barNumbers? entries with
      | .ok _ => (field? "label".toList entries).toList
      | .error _ => []
    | .error _ => []
  | _ => []

theorem maximumField_cutShort (entries : Entries) : (maximumField entries).CutShortBy [] := by
  unfold maximumField
  split
  · exact (Value.asIntegerField_cutShort _).within _
  · exact Definition.required_never Value.asIntegerField_cutShort _ entries

theorem barOf_cutShort (entries : Entries) :
    (barOf entries).CutShortBy (field? "label".toList entries).toList := by
  have hcurrent := Definition.required_never Value.asIntegerField_cutShort "current".toList entries
  have hnumbers := hcurrent.both (maximumField_cutShort entries) Prod.mk
  have hlabel := Definition.requiredText_cutShort "label".toList entries
  rw [← List.append_nil (Option.toList _)]
  exact hlabel.both hnumbers _

theorem read_cutShort (v : Value) : (read v).CutShortBy (textFields v) := by
  unfold read textFields
  cases v.head with
  | map entries =>
      dsimp only
      cases kindOf entries with
      | error f => exact Checked.fault_cutShort f
      | ok kind =>
          refine Checked.CutShortBy.within ?_ kind.name
          have hlabel := Definition.requiredText_cutShort "label".toList entries
          cases kind with
          | static =>
              have hval := Definition.optional_never Value.asSpelling_cutShort "val".toList []
                entries
              rw [← List.append_nil (Option.toList _)]
              exact hlabel.both hval static
          | roll => exact hlabel.both (Definition.requiredText_cutShort _ entries) _
          | bar =>
              rw [ofEntries_bar]
              rcases barNumbers? entries with e | _ | ⟨current, maximum⟩
              · exact Checked.fault_cutShort _
              · exact barOf_cutShort entries
              -- the label stays where the numbers are put in place
              · have hbar := barOf_cutShort (withNumbers current maximum entries)
                rwa [field?_withNumbers (by decide) (by decide) (by decide)] at hbar
  | _ => exact Checked.fault_cutShort _

/-- Stats are cut short by the numbers of any of them. -/
theorem readAllFrom_cutShort (index : Nat) (vs : List Value) :
    (readAllFrom index vs).CutShortBy (vs.flatMap textFields) := by
  induction vs generalizing index with
  | nil => exact Checked.value_cutShort []
  | cons v vs ih => exact ((read_cutShort v).within _).both (ih (index + 1)) _

end Stat

namespace Definition

/-- The stats of an entity as they are written. -/
def writtenStats (v : Value) : List Value :=
  match v.head with
  | .list items => items
  | .set items => items
  | .pair a b => [a, b]
  | _ => []

/-- The values in the fields of a definition that take texts and numbers. -/
def textFields (v : Value) : List Value :=
  match v.head with
  | .map entries =>
    match kindOf entries with
    | .ok .entity =>
      (field? "stats".toList entries).toList.flatMap fun v =>
        (writtenStats v).flatMap Stat.textFields
    | .ok .lore => (field? "desc".toList entries).toList ++ (field? "jump".toList entries).toList
    | .error _ => []
  | _ => []

theorem readStats_cutShort (v : Value) :
    (readStats v).CutShortBy ((writtenStats v).flatMap Stat.textFields) := by
  unfold readStats writtenStats
  cases v.head with
  | null => exact Checked.value_cutShort []
  | list items => exact Stat.readAllFrom_cutShort 0 items
  | set items => exact Stat.readAllFrom_cutShort 0 items
  | pair a b => exact Stat.readAllFrom_cutShort 0 [a, b]
  | _ => exact Checked.fault_cutShort _

theorem readJump_cutShort (v : Value) : (readJump v).CutShortBy [v] := by
  cases v with
  | null => exact fun e => by simp [readJump, Checked.value, Value.IsOverlong]
  | _ => exact (Value.asText_cutShort _).map some

theorem check_cutShort (v : Value) : (check v).CutShortBy (textFields v) := by
  unfold check textFields
  cases v.head with
  | text t => exact Checked.value_cutShort _
  | broken codes => exact Checked.value_cutShort _
  | map entries =>
      dsimp only [checkEntries]
      cases kindOf entries with
      | error f => exact Checked.fault_cutShort f
      | ok kind =>
          refine Checked.CutShortBy.within ?_ kind.name
          cases kind with
          | entity => exact (optional_cutShort readStats_cutShort _ _ entries).map entity
          | lore =>
              have hdesc := optional_cutShort Value.asText_cutShort "desc".toList [] entries
              have hjump := optional_cutShort readJump_cutShort "jump".toList none entries
              rw [List.flatMap_singleton'] at hdesc hjump
              exact hdesc.both hjump lore
  | _ => exact Checked.fault_cutShort _

/-- **The reading of a definition is cut short exactly by an integer that is too long for one of
its texts.** -/
theorem read_cutShort_iff {v : Value} {e : NumeralError} :
    read v = .error (.numeral e)
      ↔ (∃ w ∈ textFields v, w.IsOverlong) ∧ e = .tooLongToWrite := by
  rw [read_eq_numeral_iff, check_cutShort v e]

end Definition

end Gamebook
