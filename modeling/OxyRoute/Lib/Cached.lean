import Mathlib.Data.Option.Basic

/-!
# Cached results

A value next to the cached result of a function of it. Whoever changes the value has to drop the
result; whoever reads fills it in.

## Main definitions

- `Cached.Fresh` — a cached result is the one of the current value
- `Cached.read` — read through the cache

## Main results

- `Cached.Fresh.read_eq`, `Cached.Fresh.read` — reading returns the current result and keeps it
- `Cached.Fresh.replace_iff` — what it takes to change the value and leave the result
-/

namespace Cached

variable {α β : Type*} {f : α → β} {c : α × Option β}

/-- The cached result, if there is one, is the one of the current value. -/
def Fresh (f : α → β) (c : α × Option β) : Prop := ∀ b, c.2 = some b → b = f c.1

/-- The result, from the cache or put there. -/
def read (f : α → β) (c : α × Option β) : β × (α × Option β) :=
  match c.2 with
  | some b => (b, c)
  | none => (f c.1, (c.1, some (f c.1)))

theorem read_of_some {b : β} (h : c.2 = some b) : read f c = (b, c) := by
  simp only [read, h]

theorem read_of_none (h : c.2 = none) : read f c = (f c.1, (c.1, some (f c.1))) := by
  simp only [read, h]

/-- A dropped result is fresh for every value. -/
theorem fresh_drop (f : α → β) (a : α) : Fresh f (a, none) := by
  intro b hb
  cases hb

theorem Fresh.read_eq (h : Fresh f c) : (Cached.read f c).1 = f c.1 := by
  cases hc : c.2 with
  | none => rw [read_of_none hc]
  | some b =>
    rw [read_of_some hc]
    exact h b hc

theorem Fresh.read (h : Fresh f c) : Fresh f (Cached.read f c).2 := by
  cases hc : c.2 with
  | none =>
    rw [read_of_none hc]
    intro b hb
    exact (Option.some.inj hb).symm
  | some b =>
    rw [read_of_some hc]
    exact h

/-- Reading leaves the value as it is. -/
theorem read_value (f : α → β) (c : α × Option β) : (Cached.read f c).2.1 = c.1 := by
  cases hc : c.2 with
  | none => rw [read_of_none hc]
  | some b => rw [read_of_some hc]

/-- A new value next to the old result is fresh exactly when there is no result, or the new
value has the same one. -/
theorem Fresh.replace_iff (h : Fresh f c) (a : α) :
    Fresh f (a, c.2) ↔ c.2 = none ∨ f a = f c.1 := by
  constructor
  · intro hf
    cases hc : c.2 with
    | none => exact .inl rfl
    | some b =>
      have hnew : b = f a := hf b hc
      have hold : b = f c.1 := h b hc
      exact .inr (hnew.symm.trans hold)
  · rintro (hc | ha) b hb
    · have hnone : c.2 = some b := hb
      rw [hc] at hnone
      cases hnone
    · have hold : b = f c.1 := h b hb
      exact hold.trans ha.symm

end Cached
