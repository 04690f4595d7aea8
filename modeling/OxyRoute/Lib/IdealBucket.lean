import Mathlib.Algebra.Order.Floor.Semiring
import Mathlib.Order.Bounds.Defs
import OxyRoute.Lib.TokenBucket

/-!
# The ideal bucket

A bucket that is brought up to date at every request, admitted or not. A bucket that is written
only on admission makes the same decisions, since looking at a bucket changes nothing that can be
seen later.

## Main definitions

- `request`, `decisions` — the ideal bucket
- `Level.lazy` — the level that is written only on admission
- `Agrees` — two levels that hold the same from a reading on

## Main results

- `refilled_refilled` — the inflow up to the capacity may be collected in between
- `Agrees.decides` — the decisions of the two
- `admittedAmong_replicate` — how many more are admitted at one instant
- `isLeast_allowed` — the seconds until a request is admitted again
-/

namespace TokenBucket

variable {K : Type*} [Field K] [LinearOrder K] {b : TokenBucket K} {s s' : Level K} {t t' now : K}

/-- The level at a reading, with what has flowed in. -/
def advance (b : TokenBucket K) (s : Level K) (now : K) : Level K := ⟨b.refilled s now, now⟩

/-- The decision on a request, and the level after it. -/
def request (b : TokenBucket K) (s : Level K) (now : K) : Bool × Level K :=
  if 1 ≤ b.refilled s now then (true, ⟨b.refilled s now - 1, now⟩) else (false, b.advance s now)

/-- The decisions on requests in the order of their readings. -/
def decisions (b : TokenBucket K) : Level K → List K → List Bool
  | _, [] => []
  | s, now :: readings => (b.request s now).1 :: decisions b (b.request s now).2 readings

/-- The level after requests. -/
def after (b : TokenBucket K) (s : Level K) (readings : List K) : Level K :=
  readings.foldl (fun s now => (b.request s now).2) s

theorem decisions_concat (b : TokenBucket K) (s : Level K) (readings : List K) (now : K) :
    b.decisions s (readings ++ [now]) =
      b.decisions s readings ++ [(b.request (b.after s readings) now).1] := by
  induction readings generalizing s with
  | nil => rfl
  | cons t readings ih =>
    have hrest := ih (b.request s t).2
    rw [List.cons_append, decisions, decisions, hrest]
    rfl

theorem after_concat (b : TokenBucket K) (s : Level K) (readings : List K) (now : K) :
    b.after s (readings ++ [now]) = (b.request (b.after s readings) now).2 := by
  rw [after, List.foldl_append]
  rfl

/-- A bucket that is written only on admission. -/
def Level.lazy (b : TokenBucket K) (s : Level K) (now : K) : Level K := (b.take s now).getD s

theorem take_eq_none_iff : b.take s now = none ↔ b.refilled s now < 1 := by
  unfold take
  by_cases h : 1 ≤ b.refilled s now
  · simp [h]
  · simp [h, not_le.mp h]

theorem request_fst : (b.request s now).1 = decide (1 ≤ b.refilled s now) := by
  unfold request
  by_cases h : 1 ≤ b.refilled s now
  · simp [h]
  · simp [h]

theorem isSome_take : (b.take s now).isSome = decide (1 ≤ b.refilled s now) := by
  unfold take
  by_cases h : 1 ≤ b.refilled s now
  · simp [h]
  · simp [h]

theorem refilled_self (h : s.tokens ≤ b.capacity) : b.refilled s s.lastUpdate = s.tokens := by
  rw [refilled, sub_self, max_self, zero_mul, add_zero]
  exact min_eq_left h

/-- From a reading on the two levels hold the same. -/
structure Agrees (b : TokenBucket K) (s s' : Level K) (t : K) : Prop where
  left_le : s.lastUpdate ≤ t
  right_le : s'.lastUpdate ≤ t
  refilled : ∀ now, t ≤ now → b.refilled s now = b.refilled s' now

theorem Agrees.later (h : Agrees b s s' t) (hle : t ≤ t') : Agrees b s s' t' where
  left_le := h.left_le.trans hle
  right_le := h.right_le.trans hle
  refilled now hnow := h.refilled now (hle.trans hnow)

variable [IsStrictOrderedRing K]

/-- A full bucket stays full. -/
theorem refilled_full (b : TokenBucket K) (start now : K) :
    b.refilled ⟨b.capacity, start⟩ now = b.capacity :=
  min_eq_right (le_add_of_nonneg_right (mul_nonneg (le_max_left _ _) b.rate_nonneg))

/-- What flows in up to a reading may be collected at a reading before it. -/
theorem refilled_refilled (h : s.lastUpdate ≤ t) (h' : t ≤ t') :
    b.refilled (b.advance s t) t' = b.refilled s t' := by
  have hflow : 0 ≤ (t' - t) * b.rate := mul_nonneg (sub_nonneg.mpr h') b.rate_nonneg
  have hsum : s.tokens + (t - s.lastUpdate) * b.rate + (t' - t) * b.rate =
      s.tokens + (t' - s.lastUpdate) * b.rate := by ring
  have hcap : min (b.capacity + (t' - t) * b.rate) b.capacity = b.capacity :=
    min_eq_right (le_add_of_nonneg_right hflow)
  show min (min (s.tokens + max 0 (t - s.lastUpdate) * b.rate) b.capacity +
    max 0 (t' - t) * b.rate) b.capacity = min (s.tokens + max 0 (t' - s.lastUpdate) * b.rate) _
  rw [max_eq_right (sub_nonneg.mpr h), max_eq_right (sub_nonneg.mpr h'),
    max_eq_right (sub_nonneg.mpr (h.trans h')), min_add, hsum, min_assoc, hcap]

/-- Both decide alike, and agree after the request. -/
theorem Agrees.decides (h : Agrees b s s' t) (hle : t ≤ now) :
    (b.take s now).isSome = (b.request s' now).1 ∧
      Agrees b (s.lazy b now) (b.request s' now).2 now := by
  have heq := h.refilled now hle
  constructor
  · rw [isSome_take, request_fst, heq]
  · unfold Level.lazy take request
    rw [heq]
    by_cases hone : 1 ≤ b.refilled s' now
    · rw [if_pos hone, if_pos hone]
      exact ⟨le_rfl, le_rfl, fun _ _ => rfl⟩
    · rw [if_neg hone, if_neg hone]
      refine ⟨h.left_le.trans hle, le_rfl, fun later hlater => ?_⟩
      have hold := h.refilled later (hle.trans hlater)
      have hflow := refilled_refilled (b := b) (h.right_le.trans hle) hlater
      exact hold.trans hflow.symm

variable [FloorSemiring K]

/-- How many of a number of requests at the reading of a level are admitted. -/
def admittedAmong (b : TokenBucket K) (s : Level K) : ℕ → ℕ
  | 0 => 0
  | n + 1 => (if (b.take s s.lastUpdate).isSome then 1 else 0) +
      admittedAmong b (s.lazy b s.lastUpdate) n

/-- At one instant there are as many admissions as there are whole tokens. -/
theorem admittedAmong_eq (h0 : 0 ≤ s.tokens) (h : s.tokens ≤ b.capacity) (n : ℕ) :
    b.admittedAmong s n = min n ⌊s.tokens⌋₊ := by
  induction n generalizing s with
  | zero => simp [admittedAmong]
  | succ n ih =>
    have hself := refilled_self h
    by_cases hone : 1 ≤ s.tokens
    · have htake : b.take s s.lastUpdate = some ⟨s.tokens - 1, s.lastUpdate⟩ := by
        rw [take, hself, if_pos hone]
      have hnext := ih (s := ⟨s.tokens - 1, s.lastUpdate⟩) (sub_nonneg.mpr hone)
        ((sub_le_self _ zero_le_one).trans h)
      have hfloor : ⌊s.tokens⌋₊ = ⌊s.tokens - 1⌋₊ + 1 := by
        rw [← Nat.floor_add_one (sub_nonneg.mpr hone), sub_add_cancel]
      rw [admittedAmong, Level.lazy, htake]
      simp only [Option.isSome_some, if_true, Option.getD_some, hnext, hfloor]
      omega
    · have htake : b.take s s.lastUpdate = none := by
        rw [take, hself, if_neg hone]
      have hfloor : ⌊s.tokens⌋₊ = 0 := Nat.floor_eq_zero.mpr (not_le.mp hone)
      have hnext := ih h0 h
      rw [admittedAmong, Level.lazy, htake]
      simp only [Option.isSome_none, Bool.false_eq_true, if_false, Option.getD_none, hnext, hfloor]
      omega

/-- The least number of units of time after which a refused request is admitted. -/
theorem isLeast_admitted (hle : s.lastUpdate ≤ now) (hno : b.refilled s now < 1)
    (hcap : 1 ≤ b.capacity) (hrate : 0 < b.rate) :
    IsLeast {n : ℕ | 0 < n ∧ 1 ≤ b.refilled s (now + n)} ⌈(1 - b.refilled s now) / b.rate⌉₊ := by
  have hiff : ∀ n : ℕ, 1 ≤ b.refilled s (now + n) ↔
      ⌈(1 - b.refilled s now) / b.rate⌉₊ ≤ n := by
    intro n
    have hn : now ≤ now + n := le_add_of_nonneg_right (Nat.cast_nonneg n)
    have hflow : b.refilled s (now + n) = min (b.refilled s now + n * b.rate) b.capacity := by
      rw [← refilled_refilled hle hn]
      show min (b.refilled s now + max 0 (now + n - now) * b.rate) b.capacity = _
      rw [add_sub_cancel_left, max_eq_right (Nat.cast_nonneg n)]
    rw [hflow, le_min_iff, and_iff_left hcap, Nat.ceil_le, div_le_iff₀ hrate, sub_le_iff_le_add']
  constructor
  · refine ⟨?_, (hiff _).mpr le_rfl⟩
    exact Nat.ceil_pos.mpr (div_pos (sub_pos.mpr hno) hrate)
  · intro n hn
    exact (hiff n).mp hn.2

end TokenBucket
