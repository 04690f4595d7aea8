import Mathlib.Data.List.Basic

/-!
# Batches

A list cut into batches of one size, of which only the last may be shorter, and the cutting done
element by element: full batches are put aside, and what is left at the end is the last batch.

## Main definitions

- `Batched` — the batches of a list
- `Filling` — the full batches and the open one, while elements still arrive

## Main results

- `Filling.push_lt`, `Filling.push_full` — an element arrives
- `Filling.batched_full`, `Filling.batched_rest` — no more elements arrive
-/

/-- The batches of a list: all but the last have `n` elements, the last has at most `n`, and none
is empty. -/
structure Batched {α : Type*} (n : ℕ) (l : List α) (batches : List (List α)) : Prop where
  flatten : batches.flatten = l
  full : ∀ b ∈ batches.dropLast, b.length = n
  last : ∀ b ∈ batches.getLast?, 1 ≤ b.length ∧ b.length ≤ n
  ne_nil : ∀ b ∈ batches, b ≠ []

/-- The full batches and the open batch of the elements that arrived. -/
structure Filling {α : Type*} (n : ℕ) (l : List α) (full : List (List α)) (rest : List α) :
    Prop where
  flatten : full.flatten ++ rest = l
  full_length : ∀ b ∈ full, b.length = n
  rest_length : rest.length < n

namespace Filling

variable {α : Type*} {n : ℕ} {l : List α} {full : List (List α)} {rest : List α}

theorem start (h : 0 < n) : Filling n ([] : List α) [] [] where
  flatten := rfl
  full_length _ hb := absurd hb List.not_mem_nil
  rest_length := h

/-- An element that does not fill the open batch. -/
theorem push_lt (h : Filling n l full rest) (x : α) (hlt : (rest ++ [x]).length < n) :
    Filling n (l ++ [x]) full (rest ++ [x]) where
  flatten := by rw [← List.append_assoc, h.flatten]
  full_length := h.full_length
  rest_length := hlt

/-- An element that fills it: the next batch is opened. -/
theorem push_full (h : Filling n l full rest) (x : α) (hge : n ≤ (rest ++ [x]).length) :
    Filling n (l ++ [x]) (full ++ [rest ++ [x]]) [] where
  flatten := by
    rw [List.flatten_concat, List.append_nil, ← List.append_assoc, h.flatten]
  full_length := by
    intro b hb
    rcases List.mem_append.mp hb with hb | hb
    · exact h.full_length b hb
    · have hlt := h.rest_length
      rw [List.length_append, List.length_singleton] at hge
      rw [List.mem_singleton.mp hb, List.length_append, List.length_singleton]
      omega
  rest_length := Nat.zero_lt_of_lt h.rest_length

theorem ne_nil_of_mem (h : Filling n l full rest) {b : List α} (hb : b ∈ full) : b ≠ [] := by
  intro hnil
  have hlength := h.full_length b hb
  have hlt := h.rest_length
  rw [hnil, List.length_nil] at hlength
  omega

/-- Without an open batch the full ones are all of them. -/
theorem batched_full (h : Filling n l full []) : Batched n l full where
  flatten := by rw [← h.flatten, List.append_nil]
  full b hb := h.full_length b (List.dropLast_subset full hb)
  last b hb := by
    have hmem : b ∈ full := List.mem_of_getLast? hb
    have hlength := h.full_length b hmem
    have hpos := List.length_pos_of_ne_nil (h.ne_nil_of_mem hmem)
    omega
  ne_nil _ hb := h.ne_nil_of_mem hb

/-- The open batch is the last one. -/
theorem batched_rest (h : Filling n l full rest) (hrest : rest ≠ []) :
    Batched n l (full ++ [rest]) where
  flatten := by rw [List.flatten_concat, h.flatten]
  full b hb := by
    rw [List.dropLast_concat] at hb
    exact h.full_length b hb
  last b hb := by
    rw [List.getLast?_concat] at hb
    have hlt := h.rest_length
    have hpos := List.length_pos_of_ne_nil hrest
    rw [← Option.some.inj hb]
    omega
  ne_nil b hb := by
    rcases List.mem_append.mp hb with hb | hb
    · exact h.ne_nil_of_mem hb
    · rw [List.mem_singleton.mp hb]
      exact hrest

end Filling
