import Mathlib.Analysis.Real.Sqrt
import OxyRoute.Lib.Transition

/-!
# The adaptive concurrency limiter

The limiter of `oxyroute/resilience.py` over the real numbers. A completed request with a 2xx
status moves the limit towards the limit times the gradient of the latencies plus the square root
of the limit. The limits that are set on the application stay between the bounds, and latencies
within bounds cannot push the limit below a bound that depends on their ratio only.

## Main definitions

- `AdaptiveConcurrencyLimiter`, `AdaptiveState` — the settings of a limiter, and what it changes
- `AdaptiveConcurrencyLimiter.onRequestCompleted` — the step for a completed request
- `adaptiveSystem` — the runs of a limiter

## Main results

- `le_gradient_target` — where the target of a step is not below a bound
- `limiter_limits` — the limits that are set, and the limit under bounded latencies
-/

namespace OxyRoute

-- ════════════════════════════════════════════════════════════════════════
-- The limiter
-- ════════════════════════════════════════════════════════════════════════

/-- `int(x)`: rounding towards zero. -/
noncomputable def pyInt (x : ℝ) : ℤ := if 0 ≤ x then ⌊x⌋ else ⌈x⌉

/-- The keyword arguments of a limiter with their defaults. -/
structure LimiterArgs where
  minLimit : ℝ := 4
  maxLimit : ℝ := 1024
  initialLimit : ℝ := 32
  alpha : ℝ := 0.1
  smoothing : ℝ := 0.2
  rttWindowSize : ℤ := 100

/-- The attributes of a limiter that do not change. -/
structure AdaptiveConcurrencyLimiter where
  minLimit : ℝ
  maxLimit : ℝ
  alpha : ℝ
  smoothing : ℝ
  rttWindowSize : ℤ
  one_le_minLimit : 1 ≤ minLimit
  minLimit_le : minLimit ≤ maxLimit

/-- The attributes that change, and the limits that were set on the application. -/
structure AdaptiveState where
  currentLimit : ℝ
  rttSamples : List ℝ
  minRtt : Option ℝ
  avgRtt : Option ℝ
  published : List ℤ

/-- `deque.append` with a maximal length: the oldest elements are dropped. -/
def appendBounded (maxlen : ℤ) (l : List ℝ) (x : ℝ) : List ℝ :=
  (l ++ [x]).drop (l.length + 1 - maxlen.toNat)

namespace AdaptiveConcurrencyLimiter

/-- The attributes that `__init__` sets for good. -/
noncomputable def new (a : LimiterArgs) : AdaptiveConcurrencyLimiter where
  minLimit := max 1 a.minLimit
  maxLimit := max (max 1 a.minLimit) a.maxLimit
  alpha := a.alpha
  smoothing := a.smoothing
  rttWindowSize := max 10 a.rttWindowSize
  one_le_minLimit := le_max_left _ _
  minLimit_le := le_max_left _ _

variable (lim : AdaptiveConcurrencyLimiter)

/-- The state after `__init__`. -/
noncomputable def start (initialLimit : ℝ) : AdaptiveState :=
  let currentLimit := min (max initialLimit lim.minLimit) lim.maxLimit
  { currentLimit := currentLimit
    rttSamples := []
    minRtt := none
    avgRtt := none
    published := [pyInt currentLimit] }

/-- The step of an exponential average. -/
def smooth (old new : ℝ) : ℝ := (1 - lim.smoothing) * old + lim.smoothing * new

/-- The average latency after a sample. -/
def nextAvg (avgRtt : Option ℝ) (latencySeconds : ℝ) : ℝ :=
  match avgRtt with
  | none => latencySeconds
  | some avg => lim.smooth avg latencySeconds

/-- The limit after a sample. -/
noncomputable def nextLimit (currentLimit minRtt avgRtt : ℝ) : ℝ :=
  let gradient := min 1 (minRtt / avgRtt)
  let headroom := max lim.alpha (Real.sqrt currentLimit)
  let target := currentLimit * gradient + headroom
  max lim.minLimit (min lim.maxLimit (lim.smooth currentLimit target))

/-- `on_request_completed`: the state after it, and the limit it returns. -/
noncomputable def onRequestCompleted (st : AdaptiveState) (latencySeconds : ℝ) (status : ℤ) :
    AdaptiveState × ℤ :=
  if latencySeconds ≤ 0 ∨ ¬ (200 ≤ status ∧ status < 300) then (st, pyInt st.currentLimit)
  else
    let samples := appendBounded lim.rttWindowSize st.rttSamples latencySeconds
    -- the latency is one of the samples
    let minRtt := samples.foldr min latencySeconds
    let avgRtt := lim.nextAvg st.avgRtt latencySeconds
    let sampled := { st with rttSamples := samples, minRtt := some minRtt, avgRtt := some avgRtt }
    if 0 < minRtt ∧ 0 < avgRtt then
      let currentLimit := lim.nextLimit st.currentLimit minRtt avgRtt
      let newLimit := pyInt currentLimit
      ({ sampled with
          currentLimit := currentLimit
          published := st.published ++ [newLimit] }, newLimit)
    else (sampled, pyInt st.currentLimit)

/-- The hook of `as_access_log_hook`. -/
noncomputable def accessLogHook (st : AdaptiveState) (status : ℤ) (durationMs : ℝ) : AdaptiveState :=
  (lim.onRequestCompleted st (durationMs / 1000) status).1

end AdaptiveConcurrencyLimiter

/-- A completed request. -/
structure Completion where
  latencySeconds : ℝ
  status : ℤ

/-- What the hook of `as_access_log_hook` reports of a request. -/
noncomputable def Completion.ofHook (status : ℤ) (durationMs : ℝ) : Completion :=
  ⟨durationMs / 1000, status⟩

/-- A request whose latency is sampled. -/
def Completion.Sampled (c : Completion) : Prop :=
  0 < c.latencySeconds ∧ 200 ≤ c.status ∧ c.status < 300

/-- The runs of a limiter with an initial limit. -/
def adaptiveSystem (lim : AdaptiveConcurrencyLimiter) (initialLimit : ℝ) :
    TransitionSystem AdaptiveState Completion where
  init st := st = lim.start initialLimit
  step st c st' := st' = (lim.onRequestCompleted st c.latencySeconds c.status).1

-- ════════════════════════════════════════════════════════════════════════
-- Bounds of a step
-- ════════════════════════════════════════════════════════════════════════

theorem pyInt_of_nonneg {x : ℝ} (h : 0 ≤ x) : pyInt x = ⌊x⌋ := if_pos h

theorem forall_mem_appendBounded {p : ℝ → Prop} {maxlen : ℤ} {l : List ℝ} {x : ℝ}
    (hl : ∀ y ∈ l, p y) (hx : p x) : ∀ y ∈ appendBounded maxlen l x, p y := by
  intro y hy
  rcases List.mem_append.mp (List.mem_of_mem_drop hy) with hy | hy
  · exact hl y hy
  · rw [List.mem_singleton.mp hy]
    exact hx

theorem le_foldr_min {c x : ℝ} {l : List ℝ} (hl : ∀ y ∈ l, c ≤ y) (hx : c ≤ x) :
    c ≤ l.foldr min x := by
  induction l with
  | nil => exact hx
  | cons y l ih =>
    exact le_min (hl y List.mem_cons_self) (ih fun z hz => hl z (List.mem_cons_of_mem y hz))

/-- What is not above a limit with this ratio of latencies is not above the target of a step. The
root of the limit makes up for the gradient. -/
theorem le_gradient_target {bound limit ratio : ℝ} (hratio : 0 < ratio) (hone : ratio < 1)
    (hlimit : 0 ≤ limit) (hle : bound ≤ limit) (hbound : bound ≤ 1 / (1 - ratio) ^ 2) :
    bound ≤ limit * ratio + Real.sqrt limit := by
  have hroot := Real.sqrt_nonneg limit
  by_cases hpos : bound ≤ 0
  · have hproduct : 0 ≤ limit * ratio := mul_nonneg hlimit hratio.le
    linarith
  · have hnonneg : 0 ≤ bound := (not_le.mp hpos).le
    have hgap : 0 < 1 - ratio := by linarith
    have hsmall : Real.sqrt bound * (1 - ratio) ≤ 1 := by
      have hsq : (Real.sqrt bound * (1 - ratio)) ^ 2 ≤ 1 := by
        rw [mul_pow, Real.sq_sqrt hnonneg]
        exact (le_div_iff₀ (pow_pos hgap 2)).mp hbound
      nlinarith [Real.sqrt_nonneg bound, mul_nonneg (Real.sqrt_nonneg bound) hgap.le]
    calc bound = bound * ratio + Real.sqrt bound * (Real.sqrt bound * (1 - ratio)) := by
          rw [← mul_assoc, Real.mul_self_sqrt hnonneg]
          ring
      _ ≤ bound * ratio + Real.sqrt bound * 1 := by
          gcongr
      _ ≤ limit * ratio + Real.sqrt limit := by
          rw [mul_one]
          gcongr

namespace AdaptiveConcurrencyLimiter

variable {lim : AdaptiveConcurrencyLimiter}

theorem le_smooth (h0 : 0 ≤ lim.smoothing) (h1 : lim.smoothing ≤ 1) {c old new : ℝ}
    (hold : c ≤ old) (hnew : c ≤ new) : c ≤ lim.smooth old new := by
  have hrest : 0 ≤ 1 - lim.smoothing := by linarith
  calc c = (1 - lim.smoothing) * c + lim.smoothing * c := by ring
    _ ≤ (1 - lim.smoothing) * old + lim.smoothing * new := by gcongr

theorem smooth_le (h0 : 0 ≤ lim.smoothing) (h1 : lim.smoothing ≤ 1) {c old new : ℝ}
    (hold : old ≤ c) (hnew : new ≤ c) : lim.smooth old new ≤ c := by
  have hrest : 0 ≤ 1 - lim.smoothing := by linarith
  calc lim.smooth old new = (1 - lim.smoothing) * old + lim.smoothing * new := rfl
    _ ≤ (1 - lim.smoothing) * c + lim.smoothing * c := by gcongr
    _ = c := by ring

theorem nextAvg_le (h0 : 0 ≤ lim.smoothing) (h1 : lim.smoothing ≤ 1) {c latency : ℝ}
    {avgRtt : Option ℝ} (havg : ∀ avg ∈ avgRtt, avg ≤ c) (hlatency : latency ≤ c) :
    lim.nextAvg avgRtt latency ≤ c := by
  cases avgRtt with
  | none => exact hlatency
  | some avg => exact smooth_le h0 h1 (havg avg rfl) hlatency

theorem minLimit_le_nextLimit (current minRtt avgRtt : ℝ) :
    lim.minLimit ≤ lim.nextLimit current minRtt avgRtt :=
  le_max_left _ _

theorem nextLimit_le_maxLimit (current minRtt avgRtt : ℝ) :
    lim.nextLimit current minRtt avgRtt ≤ lim.maxLimit :=
  max_le lim.minLimit_le (min_le_left _ _)

/-- A step does not go below a bound if the ratio of the latencies does not. -/
theorem le_nextLimit (h0 : 0 ≤ lim.smoothing) (h1 : lim.smoothing ≤ 1)
    {bound current minRtt avgRtt ratio : ℝ} (hratio : 0 < ratio) (hone : ratio < 1)
    (hgradient : ratio ≤ minRtt / avgRtt) (hcurrent : 0 ≤ current) (hle : bound ≤ current)
    (hmax : bound ≤ lim.maxLimit) (hbound : bound ≤ 1 / (1 - ratio) ^ 2) :
    bound ≤ lim.nextLimit current minRtt avgRtt := by
  have htarget : bound ≤
      current * min 1 (minRtt / avgRtt) + max lim.alpha (Real.sqrt current) := by
    calc bound ≤ current * ratio + Real.sqrt current :=
          le_gradient_target hratio hone hcurrent hle hbound
      _ ≤ current * min 1 (minRtt / avgRtt) + max lim.alpha (Real.sqrt current) := by
          have hmin : ratio ≤ min 1 (minRtt / avgRtt) := le_min hone.le hgradient
          gcongr
          exact le_max_right _ _
  exact le_max_of_le_right (le_min hmax (le_smooth h0 h1 hle htarget))

theorem not_sampled_iff {c : Completion} :
    ¬ c.Sampled ↔ c.latencySeconds ≤ 0 ∨ ¬ (200 ≤ c.status ∧ c.status < 300) := by
  rw [Completion.Sampled, not_and_or, not_lt]

/-- A request that is not sampled changes nothing. -/
theorem onRequestCompleted_of_not_sampled {st : AdaptiveState} {c : Completion}
    (h : ¬ c.Sampled) : (lim.onRequestCompleted st c.latencySeconds c.status).1 = st := by
  rw [onRequestCompleted, if_pos (not_sampled_iff.mp h)]

/-- What the step for a sampled request does. -/
structure Samples (lim : AdaptiveConcurrencyLimiter) (st : AdaptiveState) (latency : ℝ)
    (st' : AdaptiveState) : Prop where
  rttSamples : st'.rttSamples = appendBounded lim.rttWindowSize st.rttSamples latency
  avgRtt : st'.avgRtt = some (lim.nextAvg st.avgRtt latency)
  limit : (st'.currentLimit = st.currentLimit ∧ st'.published = st.published) ∨
    (0 < lim.nextAvg st.avgRtt latency ∧
      st'.currentLimit = lim.nextLimit st.currentLimit (st'.rttSamples.foldr min latency)
        (lim.nextAvg st.avgRtt latency) ∧
      st'.published = st.published ++ [pyInt st'.currentLimit])

variable (lim) in
theorem onRequestCompleted_of_sampled (st : AdaptiveState) {c : Completion} (h : c.Sampled) :
    lim.Samples st c.latencySeconds (lim.onRequestCompleted st c.latencySeconds c.status).1 := by
  rw [onRequestCompleted, if_neg fun hno => not_sampled_iff.mpr hno h]
  dsimp only
  split
  · next hpos => exact ⟨rfl, rfl, .inr ⟨hpos.2, rfl, rfl⟩⟩
  · exact ⟨rfl, rfl, .inl ⟨rfl, rfl⟩⟩

-- ════════════════════════════════════════════════════════════════════════
-- Runs
-- ════════════════════════════════════════════════════════════════════════

/-- A limit that may be set on the application. -/
def Admits (lim : AdaptiveConcurrencyLimiter) (n : ℤ) : Prop :=
  pyInt lim.minLimit ≤ n ∧ (n : ℝ) ≤ lim.maxLimit ∧ 1 ≤ n

/-- The limit is between its bounds, and so are those that were set. -/
structure Within (lim : AdaptiveConcurrencyLimiter) (st : AdaptiveState) : Prop where
  minLimit_le : lim.minLimit ≤ st.currentLimit
  le_maxLimit : st.currentLimit ≤ lim.maxLimit
  published : ∀ n ∈ st.published, lim.Admits n

theorem admits_pyInt {limit : ℝ} (hmin : lim.minLimit ≤ limit) (hmax : limit ≤ lim.maxLimit) :
    lim.Admits (pyInt limit) := by
  have hone := lim.one_le_minLimit
  rw [Admits, pyInt_of_nonneg (by linarith), pyInt_of_nonneg (by linarith)]
  refine ⟨Int.floor_le_floor hmin, (Int.floor_le limit).trans hmax, Int.le_floor.mpr ?_⟩
  rw [Int.cast_one]
  linarith

theorem within_start (initialLimit : ℝ) : lim.Within (lim.start initialLimit) := by
  have hmin : lim.minLimit ≤ (lim.start initialLimit).currentLimit :=
    le_min (le_max_right _ _) lim.minLimit_le
  have hmax : (lim.start initialLimit).currentLimit ≤ lim.maxLimit := min_le_right _ _
  refine ⟨hmin, hmax, fun n hn => ?_⟩
  rw [List.mem_singleton.mp hn]
  exact admits_pyInt hmin hmax

/-- One step keeps the limits between the bounds. -/
theorem Within.step {st : AdaptiveState} (h : lim.Within st) (c : Completion) :
    lim.Within (lim.onRequestCompleted st c.latencySeconds c.status).1 := by
  by_cases hc : c.Sampled
  · obtain ⟨-, -, ⟨hlimit, hpublished⟩ | ⟨-, hlimit, hpublished⟩⟩ :=
      onRequestCompleted_of_sampled lim st hc
    · exact ⟨hlimit ▸ h.minLimit_le, hlimit ▸ h.le_maxLimit, hpublished ▸ h.published⟩
    · have hmin : lim.minLimit ≤
          (lim.onRequestCompleted st c.latencySeconds c.status).1.currentLimit := by
        rw [hlimit]
        exact minLimit_le_nextLimit _ _ _
      have hmax : (lim.onRequestCompleted st c.latencySeconds c.status).1.currentLimit ≤
          lim.maxLimit := by
        rw [hlimit]
        exact nextLimit_le_maxLimit _ _ _
      refine ⟨hmin, hmax, fun n hn => ?_⟩
      rw [hpublished] at hn
      rcases List.mem_append.mp hn with hn | hn
      · exact h.published n hn
      · rw [List.mem_singleton.mp hn]
        exact admits_pyInt hmin hmax
  · rw [onRequestCompleted_of_not_sampled hc]
    exact h

theorem within_of_reached {initialLimit : ℝ} {st : AdaptiveState}
    (h : (adaptiveSystem lim initialLimit).Reached st) : lim.Within st := by
  refine TransitionSystem.Reached.invariant (P := lim.Within) ?_ ?_ h
  · rintro st rfl
    exact within_start initialLimit
  · rintro st c st' hst rfl
    exact hst.step c

/-- The samples are not below `m`, their average is not above `M`, and the limit is not below the
bound. -/
structure Steady (m M bound : ℝ) (st : AdaptiveState) : Prop where
  rttSamples : ∀ x ∈ st.rttSamples, m ≤ x
  avgRtt : ∀ avg ∈ st.avgRtt, avg ≤ M
  limit : bound ≤ st.currentLimit

/-- One step with a latency between `m` and `M` keeps the limit above the bound. -/
theorem Steady.step (h0 : 0 ≤ lim.smoothing) (h1 : lim.smoothing ≤ 1) {m M bound : ℝ}
    (hm : 0 < m) (hM : m < M) (hmax : bound ≤ lim.maxLimit)
    (hbound : bound ≤ 1 / (1 - m / M) ^ 2) {st : AdaptiveState} (hwithin : lim.Within st)
    (h : Steady m M bound st) {c : Completion}
    (hc : c.Sampled → m ≤ c.latencySeconds ∧ c.latencySeconds ≤ M) :
    Steady m M bound (lim.onRequestCompleted st c.latencySeconds c.status).1 := by
  by_cases hsampled : c.Sampled
  · obtain ⟨hlow, hhigh⟩ := hc hsampled
    obtain ⟨hsamples, havg, hlimit⟩ := onRequestCompleted_of_sampled lim st hsampled
    have hsamples' : ∀ x ∈ (lim.onRequestCompleted st c.latencySeconds c.status).1.rttSamples,
        m ≤ x := by
      rw [hsamples]
      exact forall_mem_appendBounded h.rttSamples hlow
    have havg' : lim.nextAvg st.avgRtt c.latencySeconds ≤ M := nextAvg_le h0 h1 h.avgRtt hhigh
    refine ⟨hsamples', fun avg hin => ?_, ?_⟩
    · rw [havg] at hin
      rw [← Option.some.inj hin]
      exact havg'
    · rcases hlimit with ⟨hlimit, -⟩ | ⟨hpos, hlimit, -⟩
      · rw [hlimit]
        exact h.limit
      · have hM' : 0 < M := hm.trans hM
        have hone := lim.one_le_minLimit
        have hmin := hwithin.minLimit_le
        rw [hlimit]
        -- the smallest sample is not below `m`, the average is not above `M`
        refine le_nextLimit h0 h1 (div_pos hm hM') ((div_lt_one hM').mpr hM) ?_ (by linarith)
          h.limit hmax hbound
        exact div_le_div₀ (hm.le.trans (le_foldr_min hsamples' hlow))
          (le_foldr_min hsamples' hlow) hpos havg'
  · rw [onRequestCompleted_of_not_sampled hsampled]
    exact h

/-- **Adaptive limiter.** For every limiter whose smoothing is between 0 and 1, in every state of
every run: each limit that was set on the application is between the bounds and at least 1, a
request that is not sampled changes nothing, and while all sampled latencies are between `m` and
`M` the limit is never below the smaller one of the initial limit and `1 / (1 - m / M) ^ 2`. -/
theorem limiter_limits (initialLimit : ℝ) (h0 : 0 ≤ lim.smoothing) (h1 : lim.smoothing ≤ 1) :
    (∀ st, (adaptiveSystem lim initialLimit).Reached st → ∀ n ∈ st.published, lim.Admits n) ∧
      (∀ st (c : Completion), ¬ c.Sampled →
        (lim.onRequestCompleted st c.latencySeconds c.status).1 = st) ∧
      ∀ m M : ℝ, 0 < m → m < M → ∀ st,
        (adaptiveSystem lim initialLimit).ReachedUnder
          (fun _ c => c.Sampled → m ≤ c.latencySeconds ∧ c.latencySeconds ≤ M) st →
        min (lim.start initialLimit).currentLimit (1 / (1 - m / M) ^ 2) ≤ st.currentLimit := by
  refine ⟨fun st h => (within_of_reached h).published,
    fun st c hc => onRequestCompleted_of_not_sampled hc, fun m M hm hM st h => ?_⟩
  have hmax : min (lim.start initialLimit).currentLimit (1 / (1 - m / M) ^ 2) ≤ lim.maxLimit :=
    (min_le_left _ _).trans (within_start initialLimit).le_maxLimit
  have hsteady :
      Steady m M (min (lim.start initialLimit).currentLimit (1 / (1 - m / M) ^ 2)) st := by
    refine TransitionSystem.ReachedUnder.strengthen (P := Steady m M _)
      (I := lim.Within) (fun _ => within_of_reached) ?_ ?_ h
    · rintro st rfl
      exact ⟨by simp [start], by simp [start], min_le_left _ _⟩
    · rintro st c st' hwithin hst hc rfl
      exact hst.step h0 h1 hm hM hmax (min_le_right _ _) hwithin hc
  exact hsteady.limit

end AdaptiveConcurrencyLimiter

/-- The limiter with the default settings. -/
theorem default_limiter_limits :
    (∀ st, (adaptiveSystem (.new {}) 32).Reached st → ∀ n ∈ st.published,
        (AdaptiveConcurrencyLimiter.new {}).Admits n) ∧
      (∀ st (c : Completion), ¬ c.Sampled →
        ((AdaptiveConcurrencyLimiter.new {}).onRequestCompleted st c.latencySeconds c.status).1 =
          st) ∧
      ∀ m M : ℝ, 0 < m → m < M → ∀ st,
        (adaptiveSystem (.new {}) 32).ReachedUnder
          (fun _ c => c.Sampled → m ≤ c.latencySeconds ∧ c.latencySeconds ≤ M) st →
        min ((AdaptiveConcurrencyLimiter.new {}).start 32).currentLimit (1 / (1 - m / M) ^ 2) ≤
          st.currentLimit :=
  AdaptiveConcurrencyLimiter.limiter_limits 32 (by norm_num [AdaptiveConcurrencyLimiter.new])
    (by norm_num [AdaptiveConcurrencyLimiter.new])

end OxyRoute
