import Gamebook.Proofs.Definition.Checked
import Gamebook.Proofs.Fallible
import Gamebook.Proofs.Value.Field

/-!
# What a stat is read from

A stat is read from its fields by name: the order of the fields and fields of other names do not
matter (`ofEntries_congr`). For a bar this needs an account of what is done with a value such as
`3/10`. It is read first, where there is no current value (`barNumbers?`), and then its numbers
take the place of the missing fields (`withNumbers`).
-/

namespace Gamebook

open Value (Entries field? hasField field?_insertEntry field?_remove)

namespace Definition

theorem required_congr {α : Type} {name : Text} {entries entries' : Entries}
    (h : field? name entries = field? name entries') (check : Value → Checked α) :
    required name check entries = required name check entries' := by
  rw [required, h, required]

theorem optional_congr {α : Type} {name : Text} {entries entries' : Entries}
    (h : field? name entries = field? name entries') (fallback : α) (check : Value → Checked α) :
    optional name fallback check entries = optional name fallback check entries' := by
  rw [optional, h, optional]

end Definition

namespace Stat

open Definition (required_congr optional_congr)

/-! ## The numbers of a bar -/

/-- The two numbers in the value of a bar, if it stands for them: there is no current value, and
the value has the form of two numbers. -/
def barNumbers? (entries : Entries) : Except NumeralError (Option (Int × Int)) :=
  match field? "val".toList entries with
  | none => .ok none
  | some v =>
    if hasField "current".toList entries then .ok none
    else do
      match splitBar? (← v.spell) with
      | none => return none
      | some (current, maximum) => return some (← readSigned current, ← readSigned maximum)

/-- The fields of a bar with the two numbers in the place of the value. A greatest value that is
given stays. -/
def withNumbers (current maximum : Int) (entries : Entries) : Entries :=
  let kept := entries.filter fun e => !e.1.sameKey (.text "val".toList)
  let kept := Value.insertEntry (.text "current".toList) (.int current) kept
  if hasField "max".toList kept then kept
  else Value.insertEntry (.text "max".toList) (.int maximum) kept

theorem spreadBar_eq (entries : Entries) :
    spreadBar entries
      = (barNumbers? entries).map fun
          | none => entries
          | some (current, maximum) => withNumbers current maximum entries := by
  unfold spreadBar barNumbers?
  cases field? "val".toList entries with
  | none => rfl
  | some v =>
      dsimp only
      split
      · rfl
      · cases v.spell with
        | error e => rfl
        | ok t =>
            dsimp only [bind, Except.bind]
            cases splitBar? t with
            | none => rfl
            | some halves =>
                obtain ⟨a, b⟩ := halves
                dsimp only
                cases readSigned a with
                | error e => rfl
                | ok current => cases readSigned b <;> rfl

theorem hasField_max_kept (current : Int) (entries : Entries) :
    hasField "max".toList (Value.insertEntry (.text "current".toList) (.int current)
        (entries.filter fun e => !e.1.sameKey (.text "val".toList)))
      = hasField "max".toList entries := by
  simp [hasField]

theorem field?_withNumbers_current (current maximum : Int) (entries : Entries) :
    field? "current".toList (withNumbers current maximum entries) = some (.int current) := by
  unfold withNumbers
  dsimp only
  split <;> simp

theorem field?_withNumbers_max (current maximum : Int) (entries : Entries) :
    field? "max".toList (withNumbers current maximum entries)
      = (field? "max".toList entries).or (some (.int maximum)) := by
  unfold withNumbers
  dsimp only
  rw [hasField_max_kept]
  cases h : field? "max".toList entries with
  | none =>
      rw [if_neg (by rw [hasField, h]; decide), field?_insertEntry, if_pos rfl]
      rfl
  | some v =>
      rw [if_pos (by rw [hasField, h]; rfl), field?_insertEntry, if_neg (by decide),
        field?_remove, if_neg (by decide), h]
      rfl

/-- The other fields stay, but for the value that was taken apart. -/
theorem field?_withNumbers {name : Text} (hcurrent : "current".toList ≠ name)
    (hmax : "max".toList ≠ name) (hval : "val".toList ≠ name) (current maximum : Int)
    (entries : Entries) :
    field? name (withNumbers current maximum entries) = field? name entries := by
  unfold withNumbers
  dsimp only
  split
  · rw [field?_insertEntry, if_neg hcurrent, field?_remove, if_neg hval]
  · rw [field?_insertEntry, if_neg hmax, field?_insertEntry, if_neg hcurrent, field?_remove,
      if_neg hval]

/-! ## Fields by name -/

/-- A bar from its fields, once a value of two numbers is taken apart. -/
def barOf (entries : Entries) : Checked Stat :=
  .both (fun label numbers => bar label numbers.1 numbers.2)
    (Definition.required "label".toList Value.asText entries)
    (.both Prod.mk (Definition.required "current".toList Value.asIntegerField entries)
      (maximumField entries))

theorem ofEntries_bar (entries : Entries) :
    ofEntries .bar entries
      = match barNumbers? entries with
        | .error e => .fault (.refused e)
        | .ok none => barOf entries
        | .ok (some (current, maximum)) => barOf (withNumbers current maximum entries) := by
  rw [ofEntries, spreadBar_eq]
  rcases barNumbers? entries with e | _ | ⟨current, maximum⟩ <;> rfl

theorem barOf_congr {entries entries' : Entries}
    (hlabel : field? "label".toList entries = field? "label".toList entries')
    (hcurrent : field? "current".toList entries = field? "current".toList entries')
    (hmax : field? "max".toList entries = field? "max".toList entries')
    (hmaximum : field? "maximum".toList entries = field? "maximum".toList entries') :
    barOf entries = barOf entries' := by
  have hgreatest : maximumField entries = maximumField entries' := by
    rw [maximumField, required_congr hmax, hmax, hmaximum, maximumField]
  rw [barOf, required_congr hlabel, required_congr hcurrent, hgreatest, barOf]

/-- A bar whose numbers are put in place is read like any bar that has them. -/
theorem barOf_withNumbers {current maximum : Int} {entries bar : Entries}
    (hlabel : field? "label".toList bar = field? "label".toList entries)
    (hcurrent : field? "current".toList bar = some (.int current))
    (hmax : field? "max".toList bar = (field? "max".toList entries).or (some (.int maximum)))
    (hmaximum : field? "maximum".toList bar = field? "maximum".toList entries) :
    barOf (withNumbers current maximum entries) = barOf bar := by
  refine barOf_congr ?_ ?_ ?_ ?_
  · rw [field?_withNumbers (by decide) (by decide) (by decide), hlabel]
  · rw [field?_withNumbers_current, hcurrent]
  · rw [field?_withNumbers_max, hmax]
  · rw [field?_withNumbers (by decide) (by decide) (by decide), hmaximum]

/-- **A stat is read from its fields by name**, and its type is none of them. -/
theorem ofEntries_congr {entries entries' : Entries}
    (h : ∀ name, name ≠ "type".toList → field? name entries = field? name entries')
    (kind : Kind) : ofEntries kind entries = ofEntries kind entries' := by
  have hlabel := h "label".toList (by decide)
  cases kind with
  | static =>
      rw [ofEntries, required_congr hlabel, optional_congr (h "val".toList (by decide)), ofEntries]
  | roll =>
      rw [ofEntries, required_congr hlabel, required_congr (h "formula".toList (by decide)),
        ofEntries]
  | bar =>
      have hcurrent := h "current".toList (by decide)
      have hmax := h "max".toList (by decide)
      have hmaximum := h "maximum".toList (by decide)
      have hnumbers : barNumbers? entries = barNumbers? entries' := by
        rw [barNumbers?, hasField, h "val".toList (by decide), hcurrent, barNumbers?, hasField]
      rw [ofEntries_bar, ofEntries_bar, hnumbers]
      rcases barNumbers? entries' with e | _ | ⟨current, maximum⟩
      · rfl
      · exact barOf_congr hlabel hcurrent hmax hmaximum
      -- with the numbers put in place the fields still agree
      · refine barOf_withNumbers ?_ (field?_withNumbers_current ..) ?_ ?_
        · rw [field?_withNumbers (by decide) (by decide) (by decide), hlabel]
        · rw [field?_withNumbers_max, hmax]
        · rw [field?_withNumbers (by decide) (by decide) (by decide), hmaximum]

end Stat

end Gamebook
