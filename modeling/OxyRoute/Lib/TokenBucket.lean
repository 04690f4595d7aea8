import Mathlib.Algebra.Order.Field.Basic
import Mathlib.Data.List.Count
import Mathlib.Tactic.Linarith
import Mathlib.Tactic.Ring

/-!
# Token buckets

A bucket refills at a constant rate up to its capacity, and every admission takes one token out.
The readings of the clock need not be ordered; a reading before the last one refills nothing, and
becomes the last one if it is admitted.

## Main definitions

- `TokenBucket`, `Level`, `take` — the bucket
- `setback` — how far the admitted readings go back in all
- `Accounted` — what the admissions so far have left in the bucket

## Main results

- `Accounted.take` — an admission is paid for
- `Accounted.within` — an interval holds no more admissions than the capacity, what flows in
  during it, and what flows in again after the clock went back
-/

/-- A bucket: what it holds, and what flows in per unit of time. -/
structure TokenBucket (K : Type*) [Zero K] [LE K] where
  capacity : K
  rate : K
  rate_nonneg : 0 ≤ rate

namespace TokenBucket

/-- The content of a bucket, and the reading of its last admission. -/
structure Level (K : Type*) where
  tokens : K
  lastUpdate : K
  deriving DecidableEq, Repr

section

variable {K : Type*} [LinearOrder K] {ts : List K}

/-- How many readings lie in an interval. -/
def countWithin (a c : K) (ts : List K) : ℕ := ts.countP fun t => a ≤ t ∧ t ≤ c

/-- The oldest reading of an interval, if it holds any: what it holds was admitted since. -/
theorem exists_split_of_countWithin {a c : K} (h : countWithin a c ts ≠ 0) :
    ∃ recent t older, ts = recent ++ t :: older ∧ a ≤ t ∧
      countWithin a c ts ≤ recent.length + 1 := by
  induction ts with
  | nil => exact absurd rfl h
  | cons t ts ih =>
    by_cases hts : countWithin a c ts = 0
    · have ht : a ≤ t ∧ t ≤ c := by
        by_contra hno
        rw [countWithin, List.countP_cons_of_neg (by simpa using hno)] at h
        exact h hts
      refine ⟨[], t, ts, rfl, ht.1, ?_⟩
      rw [countWithin, List.countP_cons_of_pos (by simpa using ht)]
      exact Nat.succ_le_succ (le_of_eq hts)
    · obtain ⟨recent, t', older, rfl, hle, hcount⟩ := ih hts
      have hstep := List.countP_cons (p := fun t => decide (a ≤ t ∧ t ≤ c)) (a := t)
        (l := recent ++ t' :: older)
      refine ⟨t :: recent, t', older, rfl, hle, ?_⟩
      rw [countWithin, hstep, List.length_cons]
      have hone : (if decide (a ≤ t ∧ t ≤ c) = true then 1 else 0) ≤ 1 := by
        split <;> simp
      unfold countWithin at hcount
      omega

end

variable {K : Type*} [Field K] [LinearOrder K] {b : TokenBucket K} {s s' : Level K} {ts : List K}
  {now : K}

/-- The content at a reading, before an admission. -/
def refilled (b : TokenBucket K) (s : Level K) (now : K) : K :=
  min (s.tokens + max 0 (now - s.lastUpdate) * b.rate) b.capacity

/-- The level after an admission; none where less than a token is left. -/
def take (b : TokenBucket K) (s : Level K) (now : K) : Option (Level K) :=
  if 1 ≤ b.refilled s now then some ⟨b.refilled s now - 1, now⟩ else none

/-- How far readings, newest first, go back in all. -/
def setback : List K → K
  | t :: t' :: ts => max 0 (t' - t) + setback (t' :: ts)
  | _ => 0

theorem take_eq_some (h : b.take s now = some s') :
    s' = ⟨b.refilled s now - 1, now⟩ ∧ 1 ≤ b.refilled s now := by
  unfold take at h
  split at h
  · next hle => exact ⟨(Option.some.inj h).symm, hle⟩
  · cases h

theorem refilled_le_capacity (b : TokenBucket K) (s : Level K) (now : K) :
    b.refilled s now ≤ b.capacity :=
  min_le_right _ _

theorem refilled_le (b : TokenBucket K) (s : Level K) (now : K) :
    b.refilled s now ≤ s.tokens + b.rate * max 0 (now - s.lastUpdate) := by
  rw [mul_comm b.rate]
  exact min_le_left _ _

variable [IsStrictOrderedRing K]

theorem setback_nonneg (ts : List K) : 0 ≤ setback ts := by
  fun_induction setback ts with
  | case1 t t' ts ih => exact add_nonneg (le_max_left _ _) ih
  | case2 => exact le_rfl

theorem setback_le_cons (t : K) (ts : List K) : setback ts ≤ setback (t :: ts) := by
  cases ts with
  | nil => exact le_rfl
  | cons t' ts => exact le_add_of_nonneg_left (le_max_left _ _)

/-- The readings that were admitted, newest first, led to the level. -/
structure Accounted (b : TokenBucket K) (s : Level K) (ts : List K) : Prop where
  tokens_nonneg : 0 ≤ s.tokens
  last : ∀ t ∈ ts.head?, t = s.lastUpdate
  /-- What is left and what was taken since a reading fit into the bucket and its inflow. -/
  credit : ∀ recent t older, ts = recent ++ t :: older →
    s.tokens + (recent.length + 1) ≤ b.capacity + b.rate * (s.lastUpdate - t + setback ts)
  within : ∀ a c, a ≤ c →
    (countWithin a c ts : K) ≤ b.capacity + b.rate * (c - a + setback ts)

/-- A full bucket. -/
theorem Accounted.full (hcapacity : 0 ≤ b.capacity) (now : K) :
    Accounted b ⟨b.capacity, now⟩ [] where
  tokens_nonneg := hcapacity
  last t h := by cases h
  credit recent t older h := by simp at h
  within a c hac := by
    have hflow : 0 ≤ b.rate * (c - a + setback []) :=
      mul_nonneg b.rate_nonneg (add_nonneg (sub_nonneg.mpr hac) le_rfl)
    have hcount : countWithin a c ([] : List K) = 0 := rfl
    rw [hcount, Nat.cast_zero]
    linarith

/-- What flows in again after the clock went back is what it went back. -/
theorem Accounted.setback_cons (h : Accounted b s ts) (hts : ts ≠ []) (now : K) :
    s.lastUpdate + max 0 (now - s.lastUpdate) + setback ts = now + setback (now :: ts) := by
  cases ts with
  | nil => exact absurd rfl hts
  | cons t ts =>
    obtain rfl : t = s.lastUpdate := h.last t rfl
    have hmax : s.lastUpdate + max 0 (now - s.lastUpdate) =
        now + max 0 (s.lastUpdate - now) := by
      rcases le_total now s.lastUpdate with hle | hle
      · rw [max_eq_left (sub_nonpos.mpr hle), max_eq_right (sub_nonneg.mpr hle)]
        ring
      · rw [max_eq_right (sub_nonneg.mpr hle), max_eq_left (sub_nonpos.mpr hle)]
        ring
    rw [hmax]
    simp only [setback]
    ring

/-- The credit after an admission: the new reading is paid from the bucket, older ones from the
credit before it. -/
theorem Accounted.credit_take (h : Accounted b s ts) {recent older : List K} {t : K}
    (hsplit : now :: ts = recent ++ t :: older) :
    b.refilled s now - 1 + (recent.length + 1) ≤
      b.capacity + b.rate * (now - t + setback (now :: ts)) := by
  cases recent with
  | nil =>
    obtain ⟨rfl, -⟩ := List.cons.inj hsplit
    have hfull := b.refilled_le_capacity s now
    have hflow : 0 ≤ b.rate * (now - now + setback (now :: ts)) := by
      rw [sub_self, zero_add]
      exact mul_nonneg b.rate_nonneg (setback_nonneg _)
    rw [List.length_nil, Nat.cast_zero]
    linarith
  | cons t' recent =>
    obtain ⟨rfl, hts⟩ := List.cons.inj hsplit
    have hcredit := h.credit recent t older hts
    have hinflow := b.refilled_le s now
    have hback := h.setback_cons (by simp [hts]) now
    have hrate : b.rate * max 0 (now - s.lastUpdate) + b.rate * (s.lastUpdate - t + setback ts) =
        b.rate * (now - t + setback (now :: ts)) := by
      rw [← mul_add]
      congr 1
      linarith
    rw [List.length_cons, Nat.cast_succ]
    linarith

/-- An admission is paid for. -/
theorem Accounted.take (h : Accounted b s ts) (htake : b.take s now = some s') :
    Accounted b s' (now :: ts) := by
  obtain ⟨rfl, hone⟩ := take_eq_some htake
  refine ⟨sub_nonneg.mpr hone, ?_, fun recent t older => h.credit_take, ?_⟩
  · rintro t ⟨⟩
    rfl
  · intro a c hac
    by_cases hnow : a ≤ now ∧ now ≤ c
    · have hne : countWithin a c (now :: ts) ≠ 0 := by
        rw [countWithin, List.countP_cons_of_pos (by simpa using hnow)]
        exact Nat.succ_ne_zero _
      obtain ⟨recent, t, older, hsplit, hat, hcount⟩ := exists_split_of_countWithin hne
      have hcredit := h.credit_take hsplit
      have hcast : (countWithin a c (now :: ts) : K) ≤ recent.length + 1 := by
        exact_mod_cast hcount
      have hrate : b.rate * (now - t + setback (now :: ts)) ≤
          b.rate * (c - a + setback (now :: ts)) :=
        mul_le_mul_of_nonneg_left (by linarith [hnow.2]) b.rate_nonneg
      linarith
    · have hsame : countWithin a c (now :: ts) = countWithin a c ts := by
        rw [countWithin, List.countP_cons_of_neg (by simpa using hnow)]
        rfl
      have hold := h.within a c hac
      have hrate : b.rate * (c - a + setback ts) ≤ b.rate * (c - a + setback (now :: ts)) :=
        mul_le_mul_of_nonneg_left (by linarith [setback_le_cons now ts]) b.rate_nonneg
      rw [hsame]
      linarith

end TokenBucket
