/-!
# What can fail

Most readers give a value or an error. They are put together in four ways: what comes out is
changed, the error is changed, one reading is followed by another, and a list is read one by
one. This file says for each when the whole succeeds and when it fails, and with what. So a
proof about a long reader names the step that failed and does not go through the steps that
did not.
-/

namespace Gamebook.Fallible

variable {α β ε ε' : Type}

theorem toOption_eq_some_iff {x : Except ε α} {a : α} : x.toOption = some a ↔ x = .ok a := by
  cases x <;> simp [Except.toOption]

theorem map_eq_ok_iff {x : Except ε α} {f : α → β} {b : β} :
    x.map f = .ok b ↔ ∃ a, x = .ok a ∧ f a = b := by
  cases x <;> simp [Except.map]

theorem map_eq_error_iff {x : Except ε α} {f : α → β} {e : ε} :
    x.map f = .error e ↔ x = .error e := by
  cases x <;> simp [Except.map]

theorem exists_map_iff {x : Except ε α} {f : α → β} :
    (∃ b, x.map f = .ok b) ↔ ∃ a, x = .ok a := by
  cases x <;> simp [Except.map]

theorem mapError_eq_error_iff {x : Except ε α} {f : ε → ε'} {e : ε'} :
    x.mapError f = .error e ↔ ∃ e', x = .error e' ∧ f e' = e := by
  cases x with
  | error e' =>
      show Except.error (f e') = .error e ↔ _
      simp
  | ok a =>
      show Except.ok a = .error e ↔ _
      simp

theorem mapError_eq_ok_iff {x : Except ε α} {f : ε → ε'} {a : α} :
    x.mapError f = .ok a ↔ x = .ok a := by
  cases x with
  | error e =>
      show Except.error (f e) = .ok a ↔ _
      simp
  | ok b =>
      show Except.ok b = .ok a ↔ _
      simp

theorem bind_eq_error_iff {x : Except ε α} {f : α → Except ε β} {e : ε} :
    x >>= f = .error e ↔ x = .error e ∨ ∃ a, x = .ok a ∧ f a = .error e := by
  cases x <;> simp [bind, Except.bind]

/-- What follows a reading and cannot fail does not add to what fails. -/
theorem bind_eq_error_iff_of_ok {x : Except ε α} {f : α → Except ε β} {e : ε}
    (hf : ∀ a, ∃ b, f a = .ok b) : x >>= f = .error e ↔ x = .error e := by
  rw [bind_eq_error_iff]
  refine or_iff_left ?_
  rintro ⟨a, -, ha⟩
  obtain ⟨b, hb⟩ := hf a
  rw [hb] at ha
  exact absurd ha (by simp)

theorem bind_eq_ok_iff {x : Except ε α} {f : α → Except ε β} {b : β} :
    x >>= f = .ok b ↔ ∃ a, x = .ok a ∧ f a = .ok b := by
  cases x <;> simp [bind, Except.bind]

theorem exists_bind_iff {x : Except ε α} {f : α → Except ε β} :
    (∃ b, x >>= f = .ok b) ↔ ∃ a, x = .ok a ∧ ∃ b, f a = .ok b := by
  cases x <;> simp [bind, Except.bind]

theorem map_bind {γ : Type} (x : Except ε α) (f : α → Except ε β) (g : β → γ) :
    (x >>= f).map g = x >>= fun a => (f a).map g := by
  cases x <;> rfl

/-- There is a value exactly if there is no error. -/
theorem exists_ok_iff {x : Except ε α} : (∃ a, x = .ok a) ↔ ∀ e, x ≠ .error e := by
  cases x <;> simp

/-! ## One by one -/

theorem mapM_ok {f : α → Except ε β} {g : α → β} {xs : List α} (h : ∀ x ∈ xs, f x = .ok (g x)) :
    xs.mapM f = .ok (xs.map g) := by
  induction xs with
  | nil => rfl
  | cons x xs ih =>
      rw [List.mapM_cons, h x (by simp), ih fun y hy => h y (by simp [hy])]
      rfl

theorem mapM_nil_eq_ok_iff {f : α → Except ε β} {ys : List β} :
    [].mapM f = .ok ys ↔ ys = [] := by
  rw [List.mapM_nil]
  exact ⟨fun h => (Except.ok.inj h).symm, fun h => h ▸ rfl⟩

theorem mapM_cons_eq_ok_iff {f : α → Except ε β} {x : α} {xs : List α} {ys : List β} :
    (x :: xs).mapM f = .ok ys
      ↔ ∃ z zs, f x = .ok z ∧ xs.mapM f = .ok zs ∧ ys = z :: zs := by
  rw [List.mapM_cons]
  constructor
  · intro h
    obtain ⟨z, hz, h⟩ := bind_eq_ok_iff.mp h
    obtain ⟨zs, hzs, h⟩ := bind_eq_ok_iff.mp h
    exact ⟨z, zs, hz, hzs, (Except.ok.inj h).symm⟩
  · rintro ⟨z, zs, hz, hzs, rfl⟩
    rw [hz, hzs]
    rfl

/-- What fails for a list fails for one of its elements. -/
theorem mapM_eq_error {f : α → Except ε β} {xs : List α} {e : ε} (h : xs.mapM f = .error e) :
    ∃ x ∈ xs, f x = .error e := by
  induction xs with
  | nil => exact absurd h (by simp [pure, Except.pure])
  | cons x xs ih =>
      rw [List.mapM_cons] at h
      rcases bind_eq_error_iff.mp h with hx | ⟨y, -, h⟩
      · exact ⟨x, by simp, hx⟩
      · rcases bind_eq_error_iff.mp h with hxs | ⟨ys, -, h⟩
        · obtain ⟨x', hx', hf⟩ := ih hxs
          exact ⟨x', List.mem_cons_of_mem x hx', hf⟩
        · exact absurd h (by simp [pure, Except.pure])

/-- A list is gone through exactly if each of its elements can be. -/
theorem exists_mapM_iff {f : α → Except ε β} {xs : List α} :
    (∃ ys, xs.mapM f = .ok ys) ↔ ∀ x ∈ xs, ∃ y, f x = .ok y := by
  induction xs with
  | nil => simp [pure, Except.pure]
  | cons x xs ih =>
      rw [List.mapM_cons, List.forall_mem_cons, ← ih]
      cases f x with
      | error e => simp [bind, Except.bind]
      | ok y => cases xs.mapM f <;> simp [bind, Except.bind, pure, Except.pure]

end Gamebook.Fallible
