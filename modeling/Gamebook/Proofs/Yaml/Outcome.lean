import Gamebook.Document.Split

/-!
# Readings whose faults are contained

`Yields post r` says of a reading that it ends in a result with a property, or in a fault
that costs the definitions only. `Does` says it of a reading with a state. Both are carried
from the steps of a reading to the whole of it by `bind`, so each function needs one
statement about itself, and its callers use nothing else.
-/

namespace Gamebook.Yaml

variable {α β σ : Type}

/-- The result has the property, or the fault is contained. -/
def Yields (post : α → Prop) : Reading α → Prop
  | .ok a => post a
  | .error f => f.isContained = true

namespace Yields

variable {post post' : α → Prop} {r : Reading α}

theorem placed (f : PlacedFault) : Yields post (.error (.placed f)) := rfl

theorem mono (h : Yields post r) (himp : ∀ a, post a → post' a) : Yields post' r := by
  cases r with
  | ok a => exact himp a h
  | error f => exact h

theorem bind {next : β → Prop} {k : α → Reading β} (h : Yields post r)
    (hk : ∀ a, post a → Yields next (k a)) : Yields next (r >>= k) := by
  cases r with
  | ok a => exact hk a h
  | error f => exact h

theorem ite {p : Prop} [Decidable p] {r' : Reading α} (h : p → Yields post r)
    (h' : ¬p → Yields post r') : Yields post (if p then r else r') := by
  by_cases hp : p
  · rw [if_pos hp]
    exact h hp
  · rw [if_neg hp]
    exact h' hp

theorem of_ok (h : Yields post r) {a : α} (hr : r = .ok a) : post a := by
  subst hr
  exact h

theorem of_error (h : Yields post r) {f : Fault} (hr : r = .error f) : f.isContained = true := by
  subst hr
  exact h

end Yields

/-- From a state a reading comes to a result and a state with the property, or to a contained
fault. -/
def Does (s : σ) (post : α → σ → Prop) (m : StateT σ (Except Fault) α) : Prop :=
  Yields (fun r => post r.1 r.2) (m s)

namespace Does

variable {s : σ} {post post' : α → σ → Prop} {m : StateT σ (Except Fault) α}

theorem mono (h : Does s post m) (himp : ∀ a t, post a t → post' a t) : Does s post' m :=
  Yields.mono h fun r => himp r.1 r.2

theorem bind {next : β → σ → Prop} {k : α → StateT σ (Except Fault) β} (h : Does s post m)
    (hk : ∀ a t, post a t → Does t next (k a)) : Does s next (m >>= k) :=
  Yields.bind h fun r => hk r.1 r.2

theorem map {next : β → σ → Prop} {f : α → β} (h : Does s (fun a t => next (f a) t) m) :
    Does s next (f <$> m) :=
  Yields.bind h fun _ hr => hr

theorem ite {p : Prop} [Decidable p] {m' : StateT σ (Except Fault) α} (h : p → Does s post m)
    (h' : ¬p → Does s post m') : Does s post (if p then m else m') := by
  by_cases hp : p
  · rw [if_pos hp]
    exact h hp
  · rw [if_neg hp]
    exact h' hp

theorem get_bind {next : β → σ → Prop} {k : σ → StateT σ (Except Fault) β} (h : Does s next (k s)) :
    Does s next (get >>= k) := h

theorem set_bind {t : σ} {next : β → σ → Prop} {k : PUnit → StateT σ (Except Fault) β}
    (h : Does t next (k ⟨⟩)) : Does s next (set t >>= k) := h

theorem modify_bind {f : σ → σ} {next : β → σ → Prop} {k : PUnit → StateT σ (Except Fault) β}
    (h : Does (f s) next (k ⟨⟩)) : Does s next (modify f >>= k) := h

/-- A reading without a state, as a step of one with a state. -/
theorem lift {r : Reading α} (h : Yields (fun a => post a s) r) :
    Does s post (liftM r : StateT σ (Except Fault) α) := by
  cases r with
  | ok a => exact h
  | error f => exact h

end Does

end Gamebook.Yaml
