import Gamebook.Value.Basic

/-!
# Fields of a mapping

A field is looked up by its name, and a name is the same key as itself only. So setting a field
changes what is found under its name and nothing else (`field?_insertEntry`), and taking a field
out leaves the others as they are (`field?_remove`).
-/

namespace Gamebook.Value

theorem sameKey_text {key : Value} {name : Text} :
    key.sameKey (text name) = true ↔ key = text name := by
  cases key <;> simp [sameKey, keyNumber?]

@[simp] theorem field?_nil (name : Text) : field? name [] = none := rfl

@[simp] theorem field?_cons (name key : Text) (v : Value) (es : Entries) :
    field? name ((text key, v) :: es) = if key = name then some v else field? name es := by
  by_cases h : key = name <;> simp [field?, h, sameKey, keyNumber?]

theorem field?_cons_of_ne {name : Text} {e : Value × Value} (h : e.1 ≠ text name) (es : Entries) :
    field? name (e :: es) = field? name es := by
  have hkey : ¬e.1.sameKey (text name) = true := fun hsame => h (sameKey_text.mp hsame)
  unfold field?
  rw [List.find?_cons_of_neg (by exact hkey)]

/-- A change of one field among entries is the same change behind an entry with another key. -/
theorem field?_cons_change {name key : Text} {x : Option Value} {e : Value × Value}
    {es es' : Entries} (hkey : e.1 ≠ text key)
    (h : field? name es' = if key = name then x else field? name es) :
    field? name (e :: es') = if key = name then x else field? name (e :: es) := by
  obtain ⟨k, w⟩ := e
  by_cases hk : k = text name
  · subst hk
    have hne : key ≠ name := fun he => hkey (by rw [he])
    rw [if_neg hne, field?_cons, if_pos rfl, field?_cons, if_pos rfl]
  · rw [field?_cons_of_ne hk, field?_cons_of_ne hk, h]

@[simp] theorem field?_insertEntry (name key : Text) (v : Value) (es : Entries) :
    field? name (insertEntry (text key) v es) = if key = name then some v else field? name es := by
  induction es with
  | nil => exact field?_cons name key v []
  | cons e es ih =>
      obtain ⟨k, w⟩ := e
      rw [insertEntry]
      by_cases hk : k = text key
      · subst hk
        rw [if_pos (sameKey_text.mpr rfl), field?_cons, field?_cons]
        split <;> rfl
      · rw [if_neg fun hsame => hk (sameKey_text.mp hsame)]
        exact field?_cons_change hk ih

/-- Taking a field out leaves the others as they are. -/
@[simp] theorem field?_remove (name key : Text) (es : Entries) :
    field? name (es.filter fun e => !e.1.sameKey (text key))
      = if key = name then none else field? name es := by
  induction es with
  | nil => simp
  | cons e es ih =>
      obtain ⟨k, w⟩ := e
      by_cases hk : k = text key
      · subst hk
        rw [List.filter_cons_of_neg (by simp [sameKey_text]), ih, field?_cons]
        split <;> rfl
      · have hkeep : ¬k.sameKey (text key) = true := by rwa [sameKey_text]
        rw [List.filter_cons_of_pos (by simpa using hkeep)]
        exact field?_cons_change hk ih

theorem hasField_eq_false {name : Text} {es : Entries} :
    hasField name es = false ↔ field? name es = none := by
  simp [hasField]

end Gamebook.Value
