import OxyRoute.Native.Concurrency
import OxyRoute.Resilience.AdaptiveLimiter

/-!
# An application under its limiter

The adaptive limiter as the access log hook of the application whose limit it sets. Requests come
and go in atomic steps; after a request has ended its hook runs, and sets a limit if the request is
sampled. A request that was shed ended with the status 503, so that it does not count. A request
that is cancelled while its future runs has its hook run at once, and the future is dropped later.

## Main definitions

- `LimitedServer`, `LimitedEvent`, `limitedSystem` — the server, the limiter and the hooks to run
- `Regulated` — the limits in use are above a floor

## Main results

- `server_reached`, `limiter_reached` — the parts run as they do alone
- `closed_loop_law` — how many requests are admitted, and when one is shed
-/

namespace OxyRoute

-- ════════════════════════════════════════════════════════════════════════
-- The system
-- ════════════════════════════════════════════════════════════════════════

/-- An application whose requests end with a hook. -/
structure LimitedServer where
  server : Server
  limiter : AdaptiveState
  /-- For each call of the server, whether its hook has run. -/
  hooked : List Bool
  /-- The statuses of the requests whose hook has not run. -/
  ended : List ℤ

/-- What happens next. -/
inductive LimitedEvent
  /-- An atomic step of a request; if it ends the request, the last status it sent. -/
  | request (e : ServerEvent) (status : ℤ)
  /-- The hook of a request that has ended. -/
  | hook (i : ℕ) (durationMs : ℝ)
  /-- The hook of a request that is cancelled while its future runs. -/
  | cancelled (i : ℕ) (status : ℤ) (durationMs : ℝ)

/-- The call that ends with the step. -/
def ServerEvent.ends? : ServerEvent → Option ℕ
  | .fetchSub i | .shortCircuit i .answered | .shortCircuit i .raised | .bridge i false
  | .complete i => some i
  | _ => none

/-- Only the limiter sets the limit, and a request that is shed was answered with 503. -/
def LimitedEvent.isProper : LimitedEvent → Bool
  | .request (.setMaxConcurrency _) _ => false
  | .request (.fetchSub _) status => status = 503
  | _ => true

/-- The calls of `set_max_concurrency`. -/
def Server.setLimits (s : Server) (limits : List ℤ) : Server :=
  limits.foldl (fun s limit => { s with maxConcurrency := limit.toNat }) s

namespace LimitedServer

variable (lim : AdaptiveConcurrencyLimiter)

/-- A request has ended: its hook is to run, unless it was cancelled before. -/
def endCall (s : LimitedServer) (server : Server) (i : ℕ) (status : ℤ) : LimitedServer :=
  { s with
    server := server
    hooked := s.hooked.eraseIdx i
    ended := if s.hooked[i]? = some true then s.ended else s.ended ++ [status] }

/-- The hook of a request. -/
noncomputable def runHook (s : LimitedServer) (status : ℤ) (durationMs : ℝ) : LimitedServer :=
  let limiter := lim.accessLogHook s.limiter status durationMs
  { s with
    server := s.server.setLimits (limiter.published.drop s.limiter.published.length)
    limiter := limiter }

/-- One step; there is none where an event is not enabled. -/
noncomputable def next (s : LimitedServer) : LimitedEvent → Option LimitedServer
  | .request e status =>
    if (LimitedEvent.request e status).isProper then
      (s.server.next e).map fun server =>
        match e, e.ends? with
        | .arrive, _ => { s with server := server, hooked := s.hooked ++ [false] }
        | _, some i => s.endCall server i status
        | _, none => { s with server := server }
    else none
  | .hook i durationMs =>
    s.ended[i]?.map fun status =>
      { s.runHook lim status durationMs with ended := s.ended.eraseIdx i }
  | .cancelled i status durationMs =>
    if s.server.calls[i]? = some .running ∧ s.hooked[i]? = some false then
      some { s.runHook lim status durationMs with hooked := s.hooked.set i true }
    else none

end LimitedServer

/-- The status and the duration that the hook of the step is called with. -/
def LimitedEvent.hookOf (s : LimitedServer) : LimitedEvent → Option (ℤ × ℝ)
  | .request _ _ => none
  | .hook i durationMs => s.ended[i]?.map (·, durationMs)
  | .cancelled _ status durationMs => some (status, durationMs)

/-- An application that its limiter was created for before the first request. -/
noncomputable def limitedSystem (lim : AdaptiveConcurrencyLimiter) (initialLimit : ℝ) :
    TransitionSystem LimitedServer LimitedEvent where
  init s := s = ⟨Server.setLimits ⟨0, 0, [], usizeSize_pos⟩ (lim.start initialLimit).published,
    lim.start initialLimit, [], []⟩
  step s e s' := s.next lim e = some s'

/-- The latencies of the requests that are sampled lie between `m` and `M`. -/
def LatenciesWithin (m M : ℝ) (s : LimitedServer) (e : LimitedEvent) : Prop :=
  ∀ status durationMs, e.hookOf s = some (status, durationMs) →
    (Completion.ofHook status durationMs).Sampled →
      m ≤ (Completion.ofHook status durationMs).latencySeconds ∧
        (Completion.ofHook status durationMs).latencySeconds ≤ M

-- ════════════════════════════════════════════════════════════════════════
-- The parts
-- ════════════════════════════════════════════════════════════════════════

section

variable {lim : AdaptiveConcurrencyLimiter} {initialLimit : ℝ} {s s' : LimitedServer}

/-- What a step can do: a request goes on, or a hook runs. -/
theorem LimitedServer.next_cases {e : LimitedEvent} (h : s.next lim e = some s') :
    (∃ e' status, e = .request e' status ∧ e.isProper = true ∧
      s.server.next e' = some s'.server ∧ s'.limiter = s.limiter) ∨
    ∃ status durationMs, e.hookOf s = some (status, durationMs) ∧
      s'.limiter = lim.accessLogHook s.limiter status durationMs ∧
      s'.server = s.server.setLimits (s'.limiter.published.drop s.limiter.published.length) := by
  cases e with
  | request e' status =>
    simp only [LimitedServer.next] at h
    split at h
    · next hproper =>
      obtain ⟨server, hserver, rfl⟩ := Option.map_eq_some_iff.mp h
      refine .inl ⟨e', status, rfl, hproper, ?_, ?_⟩ <;> split
      all_goals first | exact hserver | rfl
    · cases h
  | hook i durationMs =>
    obtain ⟨status, hstatus, rfl⟩ := Option.map_eq_some_iff.mp h
    exact .inr ⟨status, durationMs, congrArg (Option.map _) hstatus, rfl, rfl⟩
  | cancelled i status durationMs =>
    simp only [LimitedServer.next] at h
    split at h
    · cases h
      exact .inr ⟨status, durationMs, rfl, rfl, rfl⟩
    · cases h

/-- The limiter runs as it does alone, on the completions its hooks are called with. -/
theorem limiter_reached {guard : LimitedServer → LimitedEvent → Prop} {guard' : Completion → Prop}
    (hguard : ∀ s e status durationMs, guard s e → e.hookOf s = some (status, durationMs) →
      guard' (.ofHook status durationMs))
    (hs : (limitedSystem lim initialLimit).ReachedUnder guard s) :
    (adaptiveSystem lim initialLimit).ReachedUnder (fun _ c => guard' c) s.limiter := by
  refine hs.invariant (P := fun s => (adaptiveSystem lim initialLimit).ReachedUnder _ s.limiter)
    ?_ ?_
  · rintro s rfl
    exact .init rfl
  · intro s e s' hreached hg hstep
    rcases LimitedServer.next_cases hstep with ⟨e', status, -, -, -, hlimiter⟩ |
      ⟨status, durationMs, hhook, hlimiter, -⟩
    · rw [hlimiter]
      exact hreached
    · exact .step (i := .ofHook status durationMs) hreached (hguard _ _ _ _ hg hhook) hlimiter

/-- A hook sets one limit or none. -/
theorem published_accessLogHook (st : AdaptiveState) (status : ℤ) (durationMs : ℝ) :
    (lim.accessLogHook st status durationMs).published = st.published ∨
      ∃ n, (lim.accessLogHook st status durationMs).published = st.published ++ [n] := by
  have hhook : lim.accessLogHook st status durationMs =
      (lim.onRequestCompleted st (Completion.ofHook status durationMs).latencySeconds
        (Completion.ofHook status durationMs).status).1 := rfl
  rw [hhook]
  by_cases hc : (Completion.ofHook status durationMs).Sampled
  · obtain ⟨-, -, ⟨-, hpublished⟩ | ⟨-, -, hpublished⟩⟩ :=
      AdaptiveConcurrencyLimiter.onRequestCompleted_of_sampled lim st hc
    · exact .inl hpublished
    · exact .inr ⟨_, hpublished⟩
  · rw [AdaptiveConcurrencyLimiter.onRequestCompleted_of_not_sampled hc]
    exact .inl rfl

theorem Server.setCall_maxConcurrency (s : Server) (i : ℕ) (c : Call) (n : ℕ) :
    (s.setCall i c n).maxConcurrency = s.maxConcurrency := rfl

theorem Server.endCall_maxConcurrency (s : Server) (i n : ℕ) :
    (s.endCall i n).maxConcurrency = s.maxConcurrency := rfl

/-- A step of a request leaves the limit alone. -/
theorem Server.next_maxConcurrency {s s' : Server} {e : ServerEvent} {status : ℤ}
    (hproper : (LimitedEvent.request e status).isProper = true) (h : s.next e = some s') :
    s'.maxConcurrency = s.maxConcurrency := by
  cases e with
  | setMaxConcurrency limit => exact absurd hproper Bool.false_ne_true
  | arrive =>
    simp only [Server.next] at h
    split at h
    · rw [← Option.some.inj h]
    · cases h
  | loadLimit i | compare i =>
    simp only [Server.next] at h
    split at h
    · rw [← Option.some.inj h, Server.setCall_maxConcurrency]
    · cases h
  | fetchSub i | complete i =>
    simp only [Server.next, Server.dropGuard] at h
    split at h
    · rw [← Option.some.inj h, Server.endCall_maxConcurrency]
    · cases h
  | fetchAdd i =>
    simp only [Server.next] at h
    split at h
    · split at h
      · rw [← Option.some.inj h, Server.setCall_maxConcurrency]
      · rw [← Option.some.inj h, Server.setCall_maxConcurrency]
    · cases h
  | shortCircuit i out =>
    simp only [Server.next, Server.dropGuard] at h
    split at h
    · rw [← Option.some.inj h, Server.setCall_maxConcurrency]
    · rw [← Option.some.inj h, Server.endCall_maxConcurrency]
    · cases h
  | bridge i ok =>
    simp only [Server.next, Server.dropGuard] at h
    split at h
    · rw [← Option.some.inj h]
      split
      · exact Server.setCall_maxConcurrency _ _ _ _
      · exact Server.endCall_maxConcurrency _ _ _
    · cases h

/-- Setting limits is a number of steps of the server. -/
theorem reachedUnder_setLimits {bound : ℕ} {s : Server}
    (hs : serverSystem.ReachedUnder (LimitWithin bound) s) (limits : List ℤ) :
    serverSystem.ReachedUnder (LimitWithin bound) (s.setLimits limits) := by
  induction limits generalizing s with
  | nil => exact hs
  | cons limit limits ih =>
    have hguard : LimitWithin bound s (.setMaxConcurrency limit.toNat) := fun h =>
      absurd h Bool.false_ne_true
    exact ih (hs.step hguard rfl)

-- ════════════════════════════════════════════════════════════════════════
-- The limits in use
-- ════════════════════════════════════════════════════════════════════════

/-- The server has the limit that was set last, and no request has read a smaller one than the
floor. -/
structure Regulated (floor : ℕ) (s : LimitedServer) : Prop where
  last : s.limiter.published.getLast? = some (s.server.maxConcurrency : ℤ)
  limits : ∀ maxC, Call.limited maxC ∈ s.server.calls → floor ≤ maxC

theorem Regulated.current {floor : ℕ} (h : Regulated floor s) :
    (s.server.maxConcurrency : ℤ) ∈ s.limiter.published :=
  List.mem_of_mem_getLast? h.last

/-- One step, where no limit that is set is below the floor. -/
theorem Regulated.next {floor : ℕ} {e : LimitedEvent} (hs : Regulated floor s)
    (hfloor : ∀ n ∈ s'.limiter.published, (floor : ℤ) ≤ n)
    (h : s.next lim e = some s') : Regulated floor s' := by
  rcases LimitedServer.next_cases h with ⟨e', status, rfl, hproper, hserver, hlimiter⟩ |
    ⟨status, durationMs, -, hlimiter, hserver⟩
  · have hmax := Server.next_maxConcurrency hproper hserver
    refine ⟨?_, fun maxC hmem => ?_⟩
    · rw [hlimiter, hmax]
      exact hs.last
    · rcases Server.next_cases hserver with ⟨-, hcalls, -⟩ | ⟨i, old, c, -, hs', -, -, -, hlim⟩ |
        ⟨i, maxC', c, -, hs', -, rfl⟩ | ⟨i, old, -, -, -, hs'⟩
      · rcases hcalls with hcalls | hcalls
        · exact hs.limits maxC (hcalls ▸ hmem)
        · rw [hcalls, List.mem_append, List.mem_singleton] at hmem
          rcases hmem with hmem | hmem
          · exact hs.limits maxC hmem
          · cases hmem
      · rw [hs'] at hmem
        rcases List.mem_or_eq_of_mem_set hmem with hmem | hmem
        · exact hs.limits maxC hmem
        · -- the limit is the one that is set
          obtain ⟨-, rfl⟩ := hlim maxC hmem.symm
          exact Int.ofNat_le.mp (hfloor _ (hlimiter ▸ hs.current))
      · rw [hs'] at hmem
        rcases List.mem_or_eq_of_mem_set hmem with hmem | hmem
        · exact hs.limits maxC hmem
        · split at hmem <;> cases hmem
      · rw [hs'] at hmem
        exact hs.limits maxC (List.mem_of_mem_eraseIdx hmem)
  · rcases @published_accessLogHook lim s.limiter status durationMs with hsame | ⟨n, hnew⟩
    · rw [← hlimiter] at hsame
      rw [hsame, List.drop_length] at hserver
      refine ⟨?_, fun maxC hmem => ?_⟩
      · rw [hsame, hserver]
        exact hs.last
      · rw [hserver] at hmem
        exact hs.limits maxC hmem
    · rw [← hlimiter] at hnew
      rw [hnew, List.drop_left] at hserver
      have hn : (floor : ℤ) ≤ n :=
        hfloor n (hnew ▸ List.mem_append_right _ (List.mem_singleton_self n))
      refine ⟨?_, fun maxC hmem => ?_⟩
      · rw [hnew, hserver, List.getLast?_append_of_ne_nil _ (List.cons_ne_nil n [])]
        exact congrArg some (Int.toNat_of_nonneg ((Int.natCast_nonneg floor).trans hn)).symm
      · rw [hserver] at hmem
        exact hs.limits maxC hmem

/-- Runs whose limits are not below the floor. -/
theorem regulated_of_reached {floor : ℕ} {guard : LimitedServer → LimitedEvent → Prop}
    (hfloor : ∀ s, (limitedSystem lim initialLimit).ReachedUnder guard s →
      ∀ n ∈ s.limiter.published, (floor : ℤ) ≤ n)
    (hs : (limitedSystem lim initialLimit).ReachedUnder guard s) : Regulated floor s := by
  induction hs with
  | init h0 =>
    have hpublished := hfloor _ (.init h0)
    rw [show _ = _ from h0] at hpublished ⊢
    refine ⟨?_, fun maxC hmem => absurd hmem List.not_mem_nil⟩
    have hn := hpublished _ (List.mem_singleton_self _)
    exact congrArg some (Int.toNat_of_nonneg ((Int.natCast_nonneg floor).trans hn)).symm
  | step hr hg hst ih => exact ih.next (hfloor _ (.step hr hg hst)) hst

/-- No limit that is set is below the lower bound of the limiter. -/
theorem floor_minLimit_le (hs : (limitedSystem lim initialLimit).Reached s) :
    ∀ n ∈ s.limiter.published, (⌊lim.minLimit⌋₊ : ℤ) ≤ n := by
  intro n hn
  have hlimiter : (adaptiveSystem lim initialLimit).Reached s.limiter :=
    limiter_reached (fun _ _ _ _ _ _ => trivial) hs
  have hpos : 0 ≤ lim.minLimit := zero_le_one.trans lim.one_le_minLimit
  obtain ⟨hmin, -, -⟩ := (AdaptiveConcurrencyLimiter.within_of_reached hlimiter).published n hn
  rw [pyInt_of_nonneg hpos] at hmin
  rw [Int.natCast_floor_eq_floor hpos]
  exact hmin

/-- Where the limits stay while the latencies are between `m` and `M`. -/
noncomputable def steadyLimit (lim : AdaptiveConcurrencyLimiter) (initialLimit m M : ℝ) : ℝ :=
  min (lim.start initialLimit).currentLimit (1 / (1 - m / M) ^ 2)

theorem steadyLimit_nonneg (m M : ℝ) : 0 ≤ steadyLimit lim initialLimit m M := by
  refine le_min ?_ (div_nonneg zero_le_one (sq_nonneg _))
  exact (zero_le_one.trans lim.one_le_minLimit).trans
    (AdaptiveConcurrencyLimiter.within_start initialLimit).minLimit_le

/-- A limit that is not below the bound is not below it when it is rounded. -/
theorem floor_le_pyInt {bound limit : ℝ} (hbound : 0 ≤ bound) (h : bound ≤ limit) :
    (⌊bound⌋₊ : ℤ) ≤ pyInt limit := by
  rw [Int.natCast_floor_eq_floor hbound, pyInt_of_nonneg (hbound.trans h)]
  exact Int.floor_le_floor h

/-- The limits that are set while the latencies are between `m` and `M`. -/
theorem floor_steadyLimit_le (h0 : 0 ≤ lim.smoothing) (h1 : lim.smoothing ≤ 1) {m M : ℝ}
    (hm : 0 < m) (hM : m < M) {st : AdaptiveState}
    (h : (adaptiveSystem lim initialLimit).ReachedUnder
      (fun _ c => c.Sampled → m ≤ c.latencySeconds ∧ c.latencySeconds ≤ M) st) :
    ∀ n ∈ st.published, (⌊steadyLimit lim initialLimit m M⌋₊ : ℤ) ≤ n := by
  have hmax : steadyLimit lim initialLimit m M ≤ lim.maxLimit :=
    (min_le_left _ _).trans (AdaptiveConcurrencyLimiter.within_start initialLimit).le_maxLimit
  have hboth : AdaptiveConcurrencyLimiter.Steady m M (steadyLimit lim initialLimit m M) st ∧
      ∀ n ∈ st.published, (⌊steadyLimit lim initialLimit m M⌋₊ : ℤ) ≤ n := by
    refine TransitionSystem.ReachedUnder.strengthen (I := lim.Within)
      (P := fun st => AdaptiveConcurrencyLimiter.Steady m M (steadyLimit lim initialLimit m M) st ∧
        ∀ n ∈ st.published, (⌊steadyLimit lim initialLimit m M⌋₊ : ℤ) ≤ n)
      (fun _ => AdaptiveConcurrencyLimiter.within_of_reached) ?_ ?_ h
    · rintro st rfl
      refine ⟨⟨fun x hx => absurd hx List.not_mem_nil,
        fun avg havg => absurd havg (Option.not_mem_none avg), min_le_left _ _⟩, fun n hn => ?_⟩
      rw [List.mem_singleton.mp hn]
      exact floor_le_pyInt (steadyLimit_nonneg m M) (min_le_left _ _)
    · rintro st c st' hwithin ⟨hst, hpublished⟩ hc rfl
      have hsteady := hst.step h0 h1 hm hM hmax (min_le_right _ _) hwithin hc
      refine ⟨hsteady, fun n hn => ?_⟩
      by_cases hsampled : c.Sampled
      · obtain ⟨-, -, ⟨-, hsame⟩ | ⟨-, -, hnew⟩⟩ :=
          AdaptiveConcurrencyLimiter.onRequestCompleted_of_sampled lim st hsampled
        · exact hpublished n (hsame ▸ hn)
        · rw [hnew] at hn
          rcases List.mem_append.mp hn with hn | hn
          · exact hpublished n hn
          · rw [List.mem_singleton.mp hn]
            exact floor_le_pyInt (steadyLimit_nonneg m M) hsteady.limit
      · rw [AdaptiveConcurrencyLimiter.onRequestCompleted_of_not_sampled hsampled] at hn
        exact hpublished n hn
  exact hboth.2

-- ════════════════════════════════════════════════════════════════════════
-- Requests that are shed
-- ════════════════════════════════════════════════════════════════════════

/-- A request that is counted now finds that it is over its limit. -/
def ShedsNext (lim : AdaptiveConcurrencyLimiter) (s : LimitedServer) : Prop :=
  ∃ i status s' c, s.next lim (.request (.fetchAdd i) status) = some s' ∧
    s'.server.calls[i]? = some c ∧ c.isShed = true

/-- A request is shed only if as many are in flight as the floor says. -/
theorem Regulated.floor_le {floor : ℕ} (hs : Regulated floor s) (hsheds : ShedsNext lim s) :
    floor ≤ s.server.inFlight := by
  obtain ⟨i, status, s', c, hnext, hc, hshed⟩ := hsheds
  rcases LimitedServer.next_cases hnext with ⟨e', status', heq, -, hserver, -⟩ |
    ⟨status', durationMs, hhook, -⟩
  · cases heq
    simp only [Server.next] at hserver
    split at hserver
    · next maxC hold =>
      have hmem := hs.limits maxC (List.mem_of_getElem? hold)
      obtain ⟨hi, -⟩ := List.getElem?_eq_some_iff.mp hold
      split at hserver
      · rw [← Option.some.inj hserver] at hc
        have hset : (s.server.calls.set i (.compared maxC s.server.inFlight))[i]? = some c := hc
        rw [List.getElem?_set_self hi] at hset
        cases hset
        exact hmem.trans (of_decide_eq_true hshed)
      · rw [← Option.some.inj hserver] at hc
        have hset : (s.server.calls.set i .guarded)[i]? = some c := hc
        rw [List.getElem?_set_self hi] at hset
        cases hset
        cases hshed
    · cases hserver
  · cases hhook

/-- The server runs as it does alone, under limits that are at least 1 and at most the upper
bound of the limiter. -/
theorem server_reached (hs : (limitedSystem lim initialLimit).Reached s) :
    serverSystem.ReachedUnder (LimitWithin ⌊lim.maxLimit⌋₊) s.server := by
  induction hs with
  | init h0 =>
    rw [show _ = _ from h0]
    exact reachedUnder_setLimits (.init rfl) _
  | @step s s' e hr _ hst ih =>
    rcases LimitedServer.next_cases hst with ⟨e', status, -, hproper, hserver, -⟩ |
      ⟨status, durationMs, -, -, hserver⟩
    · refine ih.step (fun _ => ?_) hserver
      have hregulated := regulated_of_reached (fun _ h => floor_minLimit_le h) hr
      have hlimiter : (adaptiveSystem lim initialLimit).Reached s.limiter :=
        limiter_reached (fun _ _ _ _ _ _ => trivial) hr
      obtain ⟨-, hmax, hone⟩ := (AdaptiveConcurrencyLimiter.within_of_reached hlimiter).published _
        hregulated.current
      exact ⟨Int.ofNat_le.mp hone, Nat.le_floor (by exact_mod_cast hmax)⟩
    · rw [hserver]
      exact reachedUnder_setLimits ih _

/-- **The closed loop.** In every state of every run the limit of the application is between the
bounds of its limiter and at least 1; the counter is the number of requests that are admitted and
being shed, and no more than the upper bound are admitted; the hook of a request that was shed, or
ended without success, changes nothing; a request is shed only if at least as many are in flight as
the lower bound says; and while the latencies of successful requests are between `m` and `M`, only
if there are as many as the initial limit, or `1 / (1 - m / M) ^ 2`. -/
theorem closed_loop_law (h0 : 0 ≤ lim.smoothing) (h1 : lim.smoothing ≤ 1)
    (hs : (limitedSystem lim initialLimit).Reached s) :
    lim.Admits s.server.maxConcurrency ∧
    s.server.inFlight = s.server.admitted + s.server.shed ∧
    s.server.admitted ≤ ⌊lim.maxLimit⌋₊ ∧
    (∀ e status durationMs s', s.next lim e = some s' →
      e.hookOf s = some (status, durationMs) → ¬ (200 ≤ status ∧ status < 300) →
      s'.limiter = s.limiter ∧ s'.server = s.server) ∧
    (ShedsNext lim s → ⌊lim.minLimit⌋₊ ≤ s.server.inFlight) ∧
    ∀ m M : ℝ, 0 < m → m < M →
      (limitedSystem lim initialLimit).ReachedUnder (LatenciesWithin m M) s →
      ShedsNext lim s → ⌊steadyLimit lim initialLimit m M⌋₊ ≤ s.server.inFlight := by
  have hregulated := regulated_of_reached (fun _ h => floor_minLimit_le h) hs
  have hlimiter : (adaptiveSystem lim initialLimit).Reached s.limiter :=
    limiter_reached (fun _ _ _ _ _ _ => trivial) hs
  have hserver := server_reached hs
  have hbalanced := balanced_of_reached hserver.reached
  refine ⟨(AdaptiveConcurrencyLimiter.within_of_reached hlimiter).published _ hregulated.current,
    hbalanced.trans (countP_isCounted _), ?_, ?_, hregulated.floor_le, ?_⟩
  · have hbounded : Bounded ⌊lim.maxLimit⌋₊ s.server := by
      refine hserver.strengthen (I := Balanced) (P := Bounded _) (fun _ => balanced_of_reached)
        ?_ ?_
      · rintro s rfl
        exact ⟨fun maxC hmem => absurd hmem List.not_mem_nil, Nat.zero_le _⟩
      · intro s e s' hI hP hlimit hstep
        exact hP.next hI hlimit hstep
    exact hbounded.admitted
  · intro e status durationMs s' hnext hhook hfailed
    rcases LimitedServer.next_cases hnext with ⟨e', status', rfl, -⟩ |
      ⟨status', durationMs', hhook', hl, hserver'⟩
    · cases hhook
    · obtain ⟨rfl, rfl⟩ := Prod.mk.inj (Option.some.inj (hhook.symm.trans hhook'))
      have hunsampled : ¬ (Completion.ofHook status durationMs).Sampled := fun h => hfailed h.2
      have hsame : s'.limiter = s.limiter :=
        hl.trans (AdaptiveConcurrencyLimiter.onRequestCompleted_of_not_sampled hunsampled)
      refine ⟨hsame, ?_⟩
      rw [hserver', hsame, List.drop_length]
      rfl
  · intro m M hm hM hwithin hsheds
    refine (regulated_of_reached (fun _ h => ?_) hwithin).floor_le hsheds
    exact floor_steadyLimit_le h0 h1 hm hM (limiter_reached
      (fun _ _ _ _ hguard hhook => hguard _ _ hhook) h)

/-- Steps of requests that end with the status 200, and the state they lead to. -/
theorem reached_requests {es : List ServerEvent} {server : Server}
    (hproper : ∀ e ∈ es, (LimitedEvent.request e 200).isProper = true)
    (hs : (limitedSystem lim initialLimit).Reached s)
    (h : es.foldlM Server.next s.server = some server) :
    ∃ hooked ended, (limitedSystem lim initialLimit).Reached ⟨server, s.limiter, hooked, ended⟩ := by
  induction es generalizing s with
  | nil =>
    cases h
    exact ⟨s.hooked, s.ended, hs⟩
  | cons e es ih =>
    rw [List.foldlM_cons] at h
    obtain ⟨server₁, hserver₁, h⟩ := Option.bind_eq_some_iff.mp h
    obtain ⟨s₁, hnext⟩ : ∃ s₁, s.next lim (.request e 200) = some s₁ := by
      rw [LimitedServer.next, if_pos (hproper e List.mem_cons_self), hserver₁]
      exact ⟨_, rfl⟩
    have hreached : (limitedSystem lim initialLimit).Reached s₁ :=
      hs.step (i := .request e 200) trivial hnext
    rcases LimitedServer.next_cases hnext with ⟨e', status, heq, -, hserver, hlimiter⟩ |
      ⟨status, durationMs, hhook, -⟩
    · obtain ⟨rfl, -⟩ := LimitedEvent.request.inj heq
      obtain rfl : s₁.server = server₁ := Option.some.inj (hserver.symm.trans hserver₁)
      rw [← hlimiter]
      exact ih (fun e' he' => hproper e' (List.mem_cons_of_mem e he')) hreached h
    · cases hhook

end

/-- A limiter that admits one request at a time. -/
noncomputable def oneAtATime : AdaptiveConcurrencyLimiter := .new { minLimit := 1, maxLimit := 1 }

/-- The first of two requests has been counted, the second one is shed. -/
theorem oneAtATime_sheds :
    ∃ s, (limitedSystem oneAtATime 1).Reached s ∧ ShedsNext oneAtATime s ∧
      s.server.admitted ≤ ⌊oneAtATime.maxLimit⌋₊ ∧ ⌊oneAtATime.minLimit⌋₊ ≤ s.server.inFlight := by
  have hlimits : (oneAtATime.start 1).published = [1] := by
    simp [AdaptiveConcurrencyLimiter.start, oneAtATime, AdaptiveConcurrencyLimiter.new, pyInt]
  have hrun : ∃ server, [ServerEvent.arrive, .arrive, .loadLimit 0, .loadLimit 1,
      .fetchAdd 0].foldlM Server.next (Server.setLimits ⟨0, 0, [], usizeSize_pos⟩ [1]) =
        some server ∧ server.calls = [.compared 1 0, .limited 1] ∧ server.inFlight = 1 := by
    have hcomputed : ([ServerEvent.arrive, .arrive, .loadLimit 0, .loadLimit 1,
        .fetchAdd 0].foldlM Server.next (Server.setLimits ⟨0, 0, [], usizeSize_pos⟩ [1])).map
          (fun s => (s.calls, s.inFlight)) = some ([.compared 1 0, .limited 1], 1) := by
      decide +kernel
    obtain ⟨server, hserver, heq⟩ := Option.map_eq_some_iff.mp hcomputed
    exact ⟨server, hserver, congrArg Prod.fst heq, congrArg Prod.snd heq⟩
  obtain ⟨server, hserver, hcalls, hone⟩ := hrun
  rw [← hlimits] at hserver
  obtain ⟨hooked, ended, hreached⟩ := reached_requests (by decide) (.init rfl) hserver
  have hsmoothing : oneAtATime.smoothing = 0.2 := rfl
  obtain ⟨-, -, hadmitted, -, hfloor, -⟩ := closed_loop_law (by norm_num [hsmoothing])
    (by norm_num [hsmoothing]) hreached
  have hsheds : ShedsNext oneAtATime ⟨server, oneAtATime.start 1, hooked, ended⟩ := by
    have hsecond : server.calls[1]? = some (.limited 1) := by rw [hcalls]; rfl
    have hnext : server.next (.fetchAdd 1) =
        some (server.setCall 1 (.compared 1 server.inFlight) (fetchAddOne server.inFlight)) := by
      simp only [Server.next, hsecond, Nat.zero_lt_one, if_true]
    refine ⟨1, 200, _, .compared 1 server.inFlight,
      congrArg (Option.map _) hnext, ?_, ?_⟩
    · show (server.calls.set 1 (.compared 1 server.inFlight))[1]? = _
      rw [hcalls]
      rfl
    · rw [hone]
      decide
  exact ⟨_, hreached, hsheds, hadmitted, hfloor hsheds⟩

end OxyRoute
