import Gamebook.Entries
import Mathlib.Data.List.Induction

/-!
# Entries by key

What is put under a key stands there, and the other keys keep what they had. If entries are made by
putting one value after the other, the last value of a key stands under it (`entryOf?_collect`),
and the keys come in the order of their first values (`keys_collect`).
-/

namespace Gamebook

theorem entryOf?_putEntry {α : Type} (key k : Text) (value : α) (entries : List (Text × α)) :
    entryOf? key (putEntry k value entries)
      = if k = key then some value else entryOf? key entries := by
  unfold entryOf?
  induction entries with
  | nil => by_cases h : k = key <;> simp [putEntry, h]
  | cons e entries ih =>
      obtain ⟨k', v⟩ := e
      rw [putEntry]
      by_cases hk : k' = k
      · by_cases h : k = key <;> simp [hk, h]
      · rw [if_neg hk]
        by_cases h : k' = key
        · have hne : k ≠ key := fun he => hk (h.trans he.symm)
          simp [h, hne]
        · rw [List.find?_cons_of_neg (by simpa using h),
            List.find?_cons_of_neg (by simpa using h), ih]

theorem keys_putEntry {α : Type} (key : Text) (value : α) (entries : List (Text × α)) :
    (putEntry key value entries).map Prod.fst
      = if key ∈ entries.map Prod.fst then entries.map Prod.fst
        else entries.map Prod.fst ++ [key] := by
  induction entries with
  | nil => rfl
  | cons e entries ih =>
      obtain ⟨k, v⟩ := e
      rw [putEntry]
      by_cases hk : k = key
      · simp [hk]
      · have hne : key ≠ k := Ne.symm hk
        rw [if_neg hk, List.map_cons, ih]
        by_cases h : key ∈ entries.map Prod.fst
        · simp [h]
        · simp [h, hne]

theorem putEntry_of_not_mem {α : Type} {key : Text} {entries : List (Text × α)}
    (h : key ∉ entries.map Prod.fst) (value : α) :
    putEntry key value entries = entries ++ [(key, value)] := by
  induction entries with
  | nil => rfl
  | cons e entries ih =>
      obtain ⟨k, v⟩ := e
      rw [List.map_cons, List.mem_cons, not_or] at h
      rw [putEntry, if_neg (Ne.symm h.1), ih h.2, List.cons_append]

/-! ## One value after the other -/

section Collect

variable {α β : Type}

/-- Entries with some values put into them, one after the other. -/
def putAll (entries puts : List (Text × α)) : List (Text × α) :=
  puts.foldl (fun es p => putEntry p.1 p.2 es) entries

theorem putAll_filterMap_cons (f : β → Option (Text × α)) (x : β) (xs : List β)
    (entries : List (Text × α)) :
    putAll entries ((x :: xs).filterMap f)
      = putAll (putAll entries (f x).toList) (xs.filterMap f) := by
  cases h : f x <;> simp [putAll, h]

/-- The last element of a list that passes a test. -/
def IsLast (p : β → Prop) (xs : List β) (x : β) : Prop :=
  ∃ before after, xs = before ++ x :: after ∧ p x ∧ ∀ y ∈ after, ¬p y

theorem isLast_concat {p : β → Prop} {xs : List β} {x y : β} :
    IsLast p (xs ++ [x]) y ↔ p x ∧ y = x ∨ ¬p x ∧ IsLast p xs y := by
  constructor
  · rintro ⟨before, after, hxs, hy, hafter⟩
    rcases List.eq_nil_or_concat after with rfl | ⟨after, z, rfl⟩
    · obtain ⟨-, hx⟩ := List.append_inj' hxs rfl
      obtain rfl := (List.cons.inj hx).1
      exact .inl ⟨hy, rfl⟩
    · rw [List.concat_eq_append, ← List.cons_append, ← List.append_assoc] at hxs
      obtain ⟨rfl, hx⟩ := List.append_inj' hxs rfl
      obtain rfl := (List.cons.inj hx).1
      rw [List.concat_eq_append, List.forall_mem_append, List.forall_mem_singleton] at hafter
      exact .inr ⟨hafter.2, before, after, rfl, hy, hafter.1⟩
  · rintro (⟨hx, rfl⟩ | ⟨hx, before, after, rfl, hy, hafter⟩)
    · exact ⟨xs, [], rfl, hx, by simp⟩
    · refine ⟨before, after ++ [x], by simp, hy, ?_⟩
      rw [List.forall_mem_append, List.forall_mem_singleton]
      exact ⟨hafter, hx⟩

theorem not_isLast_nil {p : β → Prop} {x : β} : ¬IsLast p [] x := by
  rintro ⟨before, after, h, -⟩
  exact absurd h (by simp)

/-- **Under a key stands its last value.** -/
theorem entryOf?_collect (f : β → Option (Text × α)) (xs : List β) (key : Text) (value : α) :
    entryOf? key (putAll [] (xs.filterMap f)) = some value
      ↔ ∃ x, IsLast (fun x => ∃ v, f x = some (key, v)) xs x ∧ f x = some (key, value) := by
  induction xs using List.reverseRecOn with
  | nil => simp [putAll, entryOf?, not_isLast_nil]
  | append_singleton xs x ih =>
      rw [List.filterMap_append, List.filterMap_cons, List.filterMap_nil]
      simp only [isLast_concat]
      cases hx : f x with
      | none => simpa [hx] using ih
      | some p =>
          obtain ⟨k, v⟩ := p
          rw [putAll, List.foldl_append, List.foldl_cons, List.foldl_nil, ← putAll,
            entryOf?_putEntry]
          by_cases hk : k = key
          · subst hk
            simp [hx, eq_comm]
          · simpa [hk, hx] using ih

/-- **The keys come in the order of their first values.** -/
theorem keys_collect (puts : List (Text × α)) :
    (putAll [] puts).map Prod.fst = (puts.map Prod.fst).eraseDups := by
  induction puts using List.reverseRecOn with
  | nil => rfl
  | append_singleton puts p ih =>
      rw [putAll, List.foldl_append, List.foldl_cons, List.foldl_nil, ← putAll, keys_putEntry, ih,
        List.map_append, List.eraseDups_append]
      by_cases h : p.1 ∈ puts.map Prod.fst
      · rw [if_pos (List.mem_eraseDups.mpr h)]
        simp [List.removeAll, h]
      · rw [if_neg fun hm => h (List.mem_eraseDups.mp hm)]
        simp [List.removeAll, h, List.eraseDups_cons]

/-- Values of different keys stand as they were put. -/
theorem collect_of_nodup {puts : List (Text × α)} (h : (puts.map Prod.fst).Nodup) :
    putAll [] puts = puts := by
  induction puts using List.reverseRecOn with
  | nil => rfl
  | append_singleton puts p ih =>
      rw [List.map_append, List.nodup_append] at h
      obtain ⟨hputs, -, hdisjoint⟩ := h
      rw [putAll, List.foldl_append, List.foldl_cons, List.foldl_nil, ← putAll, ih hputs,
        putEntry_of_not_mem fun hmem => hdisjoint _ hmem _ (by simp) rfl]

end Collect

end Gamebook
