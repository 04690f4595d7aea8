import Mathlib.Data.List.Perm.Basic
import Mathlib.Algebra.Order.Ring.Nat
import OxyRoute.Lib.Transition

/-!
# The concurrency limit

`handle_rsgi` counts the requests in flight with an atomic counter: it adds one, compares what
was there with the limit it had read, and takes the one off again if the request is shed. An
admitted request owns an `InFlightGuard`, which takes its one off when it is dropped. Every
atomic operation is a step of its own, and the limit may be set at any moment.

## Main definitions

- `Call` — how far a call of `handle_rsgi` has come
- `Server`, `ServerEvent`, `serverSystem` — the transition system
- `LimitWithin` — the limit that an arrival reads lies between 1 and a bound

## Main results

- `Balanced` — the counter is the number of requests that are counted
- `in_flight_law` — the same for every run, with the bound on admitted requests
-/

namespace OxyRoute

/-- How many values a `usize` has. -/
@[irreducible] def usizeSize : ℕ := 2 ^ 64

theorem usizeSize_pos : 0 < usizeSize := by
  unfold usizeSize
  decide

/-- `AtomicUsize::fetch_add(1)`: the value that is stored; what was there is returned. -/
def fetchAddOne (n : ℕ) : ℕ := (n + 1) % usizeSize

/-- `AtomicUsize::fetch_sub(1)`. -/
def fetchSubOne (n : ℕ) : ℕ := (n + (usizeSize - 1)) % usizeSize

/-- A call of `handle_rsgi`. -/
inductive Call
  | arrived
  /-- It read the limit. -/
  | limited (maxC : ℕ)
  /-- It added one under a limit, and compares what was there. -/
  | compared (maxC current : ℕ)
  /-- It is over the limit. -/
  | overLimit
  /-- It owns its guard, and the short circuit runs. -/
  | guarded
  /-- It moved its guard into a future, which is handed to the event loop. -/
  | bridged
  /-- `run_rsgi` runs. -/
  | running
  deriving DecidableEq, Repr

namespace Call

/-- Admitted, or bound to be: the comparison has the value it will succeed with. -/
def isAdmitted : Call → Bool
  | compared maxC current => current < maxC
  | guarded | bridged | running => true
  | _ => false

/-- Between the `fetch_add` and the `fetch_sub` of a request that is shed. -/
def isShed : Call → Bool
  | compared maxC current => maxC ≤ current
  | overLimit => true
  | _ => false

/-- It has added one to the counter. -/
def isCounted (c : Call) : Bool := c.isAdmitted || c.isShed

end Call

/-- The counter, the limit, and the calls that have not returned. Each call has its own frame in
memory, so there are fewer of them than addresses. -/
structure Server where
  inFlight : ℕ
  maxConcurrency : ℕ
  calls : List Call
  fits : calls.length < usizeSize

/-- How the short circuit of an admitted request ends. -/
inductive ShortCircuit
  | answered
  | raised
  | left
  deriving DecidableEq, Repr

/-- The atomic steps. -/
inductive ServerEvent
  | setMaxConcurrency (limit : ℕ)
  | arrive
  | loadLimit (i : ℕ)
  | fetchAdd (i : ℕ)
  | compare (i : ℕ)
  | fetchSub (i : ℕ)
  | shortCircuit (i : ℕ) (out : ShortCircuit)
  | bridge (i : ℕ) (ok : Bool)
  | complete (i : ℕ)

namespace Server

/-- Replace a call. -/
def setCall (s : Server) (i : ℕ) (c : Call) (inFlight : ℕ) : Server where
  inFlight := inFlight
  maxConcurrency := s.maxConcurrency
  calls := s.calls.set i c
  fits := by
    rw [List.length_set]
    exact s.fits

/-- A call returns. -/
def endCall (s : Server) (i : ℕ) (inFlight : ℕ) : Server where
  inFlight := inFlight
  maxConcurrency := s.maxConcurrency
  calls := s.calls.eraseIdx i
  fits := Nat.lt_of_le_of_lt (List.length_eraseIdx_le s.calls i) s.fits

/-- `InFlightGuard::drop`, in the call that owns the guard. -/
def dropGuard (s : Server) (i : ℕ) : Server := s.endCall i (fetchSubOne s.inFlight)

/-- One step; there is none where an event is not enabled. -/
def next (s : Server) : ServerEvent → Option Server
  | .setMaxConcurrency limit => some { s with maxConcurrency := limit }
  | .arrive =>
    if h : (s.calls ++ [Call.arrived]).length < usizeSize then
      some { s with calls := s.calls ++ [.arrived], fits := h }
    else none
  | .loadLimit i =>
    match s.calls[i]? with
    | some .arrived => some (s.setCall i (.limited s.maxConcurrency) s.inFlight)
    | _ => none
  | .fetchAdd i =>
    match s.calls[i]? with
    | some (.limited maxC) =>
      if 0 < maxC then some (s.setCall i (.compared maxC s.inFlight) (fetchAddOne s.inFlight))
      else some (s.setCall i .guarded (fetchAddOne s.inFlight))
    | _ => none
  | .compare i =>
    match s.calls[i]? with
    | some (.compared maxC current) =>
      some (s.setCall i (if maxC ≤ current then .overLimit else .guarded) s.inFlight)
    | _ => none
  | .fetchSub i =>
    match s.calls[i]? with
    -- the answer with status 503 follows, and the call returns
    | some .overLimit => some (s.endCall i (fetchSubOne s.inFlight))
    | _ => none
  | .shortCircuit i out =>
    match s.calls[i]?, out with
    | some .guarded, .left => some (s.setCall i .bridged s.inFlight)
    | some .guarded, _ => some (s.dropGuard i)
    | _, _ => none
  | .bridge i ok =>
    match s.calls[i]? with
    | some .bridged => some (if ok then s.setCall i .running s.inFlight else s.dropGuard i)
    | _ => none
  | .complete i =>
    match s.calls[i]? with
    | some .running => some (s.dropGuard i)
    | _ => none

/-- The admitted requests that have not finished. -/
def admitted (s : Server) : ℕ := s.calls.countP Call.isAdmitted

/-- The requests between their `fetch_add` and `fetch_sub`. -/
def shed (s : Server) : ℕ := s.calls.countP Call.isShed

end Server

/-- `App::new`, and the calls of `handle_rsgi` and `set_max_concurrency` in any order. -/
def serverSystem : TransitionSystem Server ServerEvent where
  init s := s = ⟨0, 0, [], usizeSize_pos⟩
  step s e s' := s.next e = some s'

/-- A step that takes one off the counter. -/
def ServerEvent.subtracts : ServerEvent → Bool
  | .fetchSub _ | .shortCircuit _ .answered | .shortCircuit _ .raised | .bridge _ false
  | .complete _ => true
  | _ => false

/-- A step that reads the limit. -/
def ServerEvent.loadsLimit : ServerEvent → Bool
  | .loadLimit _ => true
  | _ => false

/-- The limit an arrival reads lies between 1 and a bound. -/
def LimitWithin (bound : ℕ) (s : Server) (e : ServerEvent) : Prop :=
  e.loadsLimit = true → 1 ≤ s.maxConcurrency ∧ s.maxConcurrency ≤ bound

instance (bound : ℕ) (s : Server) (e : ServerEvent) : Decidable (LimitWithin bound s e) :=
  inferInstanceAs (Decidable (_ → _))

-- ════════════════════════════════════════════════════════════════════════
-- Counting calls
-- ════════════════════════════════════════════════════════════════════════

section

variable {s s' : Server} {i : ℕ} {old : Call}

theorem countP_set_add {l : List Call} (hold : l[i]? = some old) (c : Call) (p : Call → Bool) :
    (l.set i c).countP p + (p old).toNat = l.countP p + (p c).toNat := by
  obtain ⟨hi, rfl⟩ := List.getElem?_eq_some_iff.mp hold
  have hpos : p l[i] = true → 0 < l.countP p := fun hp =>
    List.countP_pos_iff.mpr ⟨_, List.getElem_mem hi, hp⟩
  rw [List.countP_set hi]
  cases hp : p l[i] with
  | false => cases p c <;> simp
  | true =>
    have := hpos hp
    cases p c <;> simp <;> omega

theorem countP_eraseIdx_add {l : List Call} (hold : l[i]? = some old) (p : Call → Bool) :
    (l.eraseIdx i).countP p + (p old).toNat = l.countP p := by
  obtain ⟨hi, rfl⟩ := List.getElem?_eq_some_iff.mp hold
  rw [← (List.getElem_cons_eraseIdx_perm hi).countP_eq p, List.countP_cons]
  cases p l[i] <;> rfl

/-- No call is both admitted and shed. -/
theorem countP_isCounted (l : List Call) :
    l.countP Call.isCounted = l.countP Call.isAdmitted + l.countP Call.isShed := by
  induction l with
  | nil => rfl
  | cons c l ih =>
    have hone : (if c.isCounted then 1 else 0) =
        (if c.isAdmitted then 1 else 0) + if c.isShed then 1 else 0 := by
      cases c with
      | compared maxC current =>
        by_cases h : current < maxC
        · simp [Call.isCounted, Call.isAdmitted, Call.isShed, h, Nat.not_le.mpr h]
        · simp [Call.isCounted, Call.isAdmitted, Call.isShed, h, Nat.not_lt.mp h]
      | _ => rfl
    rw [List.countP_cons, List.countP_cons, List.countP_cons, hone, ih]
    omega

/-- What a step can do: it leaves the counter and the counted calls alone, or moves one call
without counting it anew, or counts a call that had read its limit, or ends a counted call. -/
theorem Server.next_cases {e : ServerEvent} (h : s.next e = some s') :
    (s'.inFlight = s.inFlight ∧ (s'.calls = s.calls ∨ s'.calls = s.calls ++ [.arrived]) ∧
      e.subtracts = false) ∨
    (∃ i old c, s.calls[i]? = some old ∧ s' = s.setCall i c s.inFlight ∧
      c.isAdmitted = old.isAdmitted ∧ c.isShed = old.isShed ∧ e.subtracts = false ∧
      ∀ maxC, c = .limited maxC → e = .loadLimit i ∧ maxC = s.maxConcurrency) ∨
    (∃ i maxC c, s.calls[i]? = some (.limited maxC) ∧
      s' = s.setCall i c (fetchAddOne s.inFlight) ∧ e.subtracts = false ∧
      c = if 0 < maxC then .compared maxC s.inFlight else .guarded) ∨
    ∃ i old, s.calls[i]? = some old ∧ old.isCounted = true ∧ e.subtracts = true ∧
      s' = s.endCall i (fetchSubOne s.inFlight) := by
  cases e with
  | setMaxConcurrency limit =>
    cases h
    exact .inl ⟨rfl, .inl rfl, rfl⟩
  | arrive =>
    simp only [Server.next] at h
    split at h
    · cases h
      exact .inl ⟨rfl, .inr rfl, rfl⟩
    · cases h
  | loadLimit i =>
    simp only [Server.next] at h
    split at h
    · next hold =>
      cases h
      refine .inr (.inl ⟨i, _, _, hold, rfl, rfl, rfl, rfl, ?_⟩)
      rintro maxC ⟨⟩
      exact ⟨rfl, rfl⟩
    · cases h
  | fetchAdd i =>
    simp only [Server.next] at h
    split at h
    · next maxC hold =>
      refine .inr (.inr (.inl ⟨i, maxC, _, hold, ?_, rfl, rfl⟩))
      split at h
      · next hpos => rw [if_pos hpos]; exact (Option.some.inj h).symm
      · next hpos => rw [if_neg hpos]; exact (Option.some.inj h).symm
    · cases h
  | compare i =>
    simp only [Server.next] at h
    split at h
    · next maxC current hold =>
      cases h
      refine .inr (.inl ⟨i, _, _, hold, rfl, ?_, ?_, rfl, ?_⟩)
      · by_cases hover : maxC ≤ current
        · simp [Call.isAdmitted, hover]
        · simp [Call.isAdmitted, hover, Nat.not_le.mp hover]
      · by_cases hover : maxC ≤ current
        · simp [Call.isShed, hover]
        · simp [Call.isShed, hover]
      · intro maxC' hc
        split at hc <;> cases hc
    · cases h
  | fetchSub i =>
    simp only [Server.next] at h
    split at h
    · next hold =>
      cases h
      exact .inr (.inr (.inr ⟨i, _, hold, rfl, rfl, rfl⟩))
    · cases h
  | shortCircuit i out =>
    cases out with
    | left =>
      simp only [Server.next] at h
      split at h
      · next hold _ =>
        cases h
        exact .inr (.inl ⟨i, _, _, hold, rfl, rfl, rfl, rfl, nofun⟩)
      · next hleft => exact (hleft rfl).elim
      · cases h
    | answered | raised =>
      simp only [Server.next] at h
      split at h
      · next hleft => cases hleft
      · next hold _ =>
        cases h
        exact .inr (.inr (.inr ⟨i, _, hold, rfl, rfl, rfl⟩))
      · cases h
  | bridge i ok =>
    simp only [Server.next] at h
    split at h
    · next hold =>
      cases ok with
      | true =>
        cases h
        exact .inr (.inl ⟨i, _, _, hold, rfl, rfl, rfl, rfl, nofun⟩)
      | false =>
        cases h
        exact .inr (.inr (.inr ⟨i, _, hold, rfl, rfl, rfl⟩))
    · cases h
  | complete i =>
    simp only [Server.next] at h
    split at h
    · next hold =>
      cases h
      exact .inr (.inr (.inr ⟨i, _, hold, rfl, rfl, rfl⟩))
    · cases h

-- ════════════════════════════════════════════════════════════════════════
-- The counter
-- ════════════════════════════════════════════════════════════════════════

/-- The counter is the number of calls that have added one and not taken it off. -/
def Balanced (s : Server) : Prop := s.inFlight = s.calls.countP Call.isCounted

theorem fetchAddOne_eq {n : ℕ} (h : n + 1 < usizeSize) : fetchAddOne n = n + 1 := Nat.mod_eq_of_lt h

theorem fetchSubOne_succ {n : ℕ} (h : n < usizeSize) : fetchSubOne (n + 1) = n := by
  have hsum : n + 1 + (usizeSize - 1) = n + usizeSize := by
    have := usizeSize_pos
    omega
  rw [fetchSubOne, hsum, Nat.add_mod_right, Nat.mod_eq_of_lt h]

theorem Balanced.setCall (h : Balanced s) {c : Call} (hold : s.calls[i]? = some old)
    (hsame : c.isCounted = old.isCounted) : Balanced (s.setCall i c s.inFlight) := by
  have hcount := countP_set_add hold c Call.isCounted
  rw [hsame, ← h] at hcount
  exact (Nat.add_right_cancel hcount).symm

/-- Adding one does not wrap around: the call that adds it was not counted before. -/
theorem Balanced.add (h : Balanced s) {c : Call} (hold : s.calls[i]? = some old)
    (hnew : old.isCounted = false) (hc : c.isCounted = true) :
    Balanced (s.setCall i c (fetchAddOne s.inFlight)) := by
  have hcount := countP_set_add hold c Call.isCounted
  rw [hnew, hc, ← h] at hcount
  have hle : s.inFlight + 1 ≤ (s.calls.set i c).length :=
    hcount.symm.le.trans List.countP_le_length
  rw [List.length_set] at hle
  exact (fetchAddOne_eq (Nat.lt_of_le_of_lt hle s.fits)).trans hcount.symm

/-- Taking one off does not wrap around: the call that takes it off was counted. -/
theorem Balanced.endCall (h : Balanced s) (hold : s.calls[i]? = some old)
    (hcounted : old.isCounted = true) :
    fetchSubOne s.inFlight + 1 = s.inFlight ∧
      Balanced (s.endCall i (fetchSubOne s.inFlight)) := by
  have hcount := countP_eraseIdx_add hold Call.isCounted
  rw [hcounted, ← h] at hcount
  have hlt : (s.calls.eraseIdx i).countP Call.isCounted < usizeSize :=
    Nat.lt_of_le_of_lt (List.countP_le_length.trans (List.length_eraseIdx_le s.calls i)) s.fits
  have hsub : fetchSubOne s.inFlight = (s.calls.eraseIdx i).countP Call.isCounted := by
    rw [← hcount]
    exact fetchSubOne_succ hlt
  refine ⟨?_, hsub⟩
  rw [hsub]
  exact hcount

/-- A call that adds one is counted from then on. -/
theorem isCounted_of_added (maxC current : ℕ) :
    (if 0 < maxC then Call.compared maxC current else .guarded).isCounted = true := by
  split
  · rcases Nat.lt_or_ge current maxC with h | h
    · simp [Call.isCounted, Call.isAdmitted, h]
    · simp [Call.isCounted, Call.isShed, h]
  · rfl

/-- Each step keeps the balance, and one that takes one off has one to take. -/
theorem Balanced.next {e : ServerEvent} (hs : Balanced s) (h : s.next e = some s') :
    Balanced s' ∧ (e.subtracts = true → s'.inFlight + 1 = s.inFlight) := by
  rcases Server.next_cases h with ⟨hflight, hcalls, he⟩ | ⟨i, old, c, hold, rfl, hadm, hshed, he, -⟩ |
    ⟨i, maxC, c, hold, rfl, he, rfl⟩ | ⟨i, old, hold, hcounted, -, rfl⟩
  · refine ⟨?_, fun hsub => absurd (he.symm.trans hsub) Bool.false_ne_true⟩
    unfold Balanced
    rw [hflight, hs]
    rcases hcalls with hcalls | hcalls
    · rw [hcalls]
    · rw [hcalls, List.countP_append]
      rfl
  · refine ⟨hs.setCall hold ?_, fun hsub => absurd (he.symm.trans hsub) Bool.false_ne_true⟩
    unfold Call.isCounted
    rw [hadm, hshed]
  · exact ⟨hs.add hold rfl (isCounted_of_added maxC _),
      fun hsub => absurd (he.symm.trans hsub) Bool.false_ne_true⟩
  · obtain ⟨hsub, hbal⟩ := hs.endCall hold hcounted
    exact ⟨hbal, fun _ => hsub⟩

theorem balanced_of_reached (hs : serverSystem.Reached s) : Balanced s := by
  refine hs.invariant (P := Balanced) ?_ ?_
  · rintro s rfl
    rfl
  · intro s e s' hbal hstep
    exact (hbal.next hstep).1

-- ════════════════════════════════════════════════════════════════════════
-- The bound
-- ════════════════════════════════════════════════════════════════════════

/-- No more requests are admitted than the bound, and the limits that arrivals read are within
it. -/
structure Bounded (bound : ℕ) (s : Server) : Prop where
  limits : ∀ maxC, Call.limited maxC ∈ s.calls → 1 ≤ maxC ∧ maxC ≤ bound
  admitted : s.admitted ≤ bound

theorem Bounded.next {bound : ℕ} {e : ServerEvent} (hs : Bounded bound s) (hbal : Balanced s)
    (hlimit : LimitWithin bound s e) (h : s.next e = some s') : Bounded bound s' := by
  rcases Server.next_cases h with ⟨-, hcalls, -⟩ | ⟨i, old, c, hold, rfl, hadm, -, -, hlim⟩ |
    ⟨i, maxC, c, hold, rfl, -, rfl⟩ | ⟨i, old, hold, -, -, rfl⟩
  · rcases hcalls with hcalls | hcalls
    · exact ⟨fun maxC hmem => hs.limits maxC (hcalls ▸ hmem), by
        unfold Server.admitted
        rw [hcalls]
        exact hs.admitted⟩
    · constructor
      · intro maxC hmem
        rw [hcalls, List.mem_append, List.mem_singleton] at hmem
        rcases hmem with hmem | hmem
        · exact hs.limits maxC hmem
        · cases hmem
      · unfold Server.admitted
        rw [hcalls, List.countP_append]
        exact hs.admitted
  · constructor
    · intro maxC hmem
      rcases List.mem_or_eq_of_mem_set hmem with hmem | hmem
      · exact hs.limits maxC hmem
      · obtain ⟨rfl, rfl⟩ := hlim maxC hmem.symm
        exact hlimit rfl
    · have hcount := countP_set_add hold c Call.isAdmitted
      rw [hadm] at hcount
      exact (Nat.add_right_cancel hcount).trans_le hs.admitted
  · have hwithin := hs.limits maxC (List.mem_of_getElem? hold)
    constructor
    · intro maxC' hmem
      rcases List.mem_or_eq_of_mem_set hmem with hmem | hmem
      · exact hs.limits maxC' hmem
      · split at hmem <;> cases hmem
    · -- the value that was there is below the limit, and all admitted requests are counted in it
      have hpos : 0 < maxC := hwithin.1
      have hcount := countP_set_add hold (Call.compared maxC s.inFlight) Call.isAdmitted
      rw [if_pos hpos]
      show (s.calls.set i (.compared maxC s.inFlight)).countP Call.isAdmitted ≤ bound
      have hle : s.admitted ≤ s.inFlight := by
        rw [hbal, countP_isCounted]
        exact Nat.le_add_right _ _
      have hold' : (Call.limited maxC).isAdmitted.toNat = 0 := rfl
      have hadm := hs.admitted
      unfold Server.admitted at hle hadm
      by_cases hlt : s.inFlight < maxC
      · have hnew : (Call.compared maxC s.inFlight).isAdmitted.toNat = 1 := by
          simp [Call.isAdmitted, hlt]
        omega
      · have hnew : (Call.compared maxC s.inFlight).isAdmitted.toNat = 0 := by
          simp [Call.isAdmitted, hlt]
        omega
  · constructor
    · intro maxC hmem
      exact hs.limits maxC (List.mem_of_mem_eraseIdx hmem)
    · have hcount := countP_eraseIdx_add hold Call.isAdmitted
      exact (Nat.le_of_add_right_le hcount.le).trans hs.admitted

end

/-- **Requests in flight.** In every state of every run the counter is the number of admitted
requests that have not finished and of requests that are being shed; it is zero when there are
none; a step that takes one off finds at least one; and if all limits that arrivals read were
between 1 and a bound, no more requests are admitted than the bound. -/
theorem in_flight_law {s : Server} (hs : serverSystem.Reached s) :
    s.inFlight = s.admitted + s.shed ∧
      ((∀ c ∈ s.calls, c.isCounted = false) → s.inFlight = 0) ∧
      (∀ e s', s.next e = some s' → e.subtracts = true → s'.inFlight + 1 = s.inFlight) ∧
      ∀ bound, serverSystem.ReachedUnder (LimitWithin bound) s → s.admitted ≤ bound := by
  have hbal := balanced_of_reached hs
  refine ⟨hbal.trans (countP_isCounted s.calls), ?_, ?_, ?_⟩
  · intro hidle
    rw [hbal, List.countP_eq_zero]
    intro c hc
    rw [hidle c hc]
    exact Bool.false_ne_true
  · intro e s' hstep hsub
    exact (hbal.next hstep).2 hsub
  · intro bound hbound
    have hboth : Bounded bound s := by
      refine hbound.strengthen (I := Balanced) (P := Bounded bound)
        (fun _ => balanced_of_reached) ?_ ?_
      · rintro s rfl
        exact ⟨nofun, Nat.zero_le _⟩
      · intro s e s' hI hP hlimit hstep
        exact hP.next hI hlimit hstep
    exact hboth.admitted

/-- Events one after the other, each of them under a limit that is within a bound. -/
def Server.runWithin (bound : ℕ) : Server → List ServerEvent → Option Server
  | s, [] => some s
  | s, e :: es =>
    if LimitWithin bound s e then (s.next e).bind fun s' => s'.runWithin bound es else none

theorem reachedUnder_of_runWithin {bound : ℕ} {s s' : Server} {es : List ServerEvent}
    (hs : serverSystem.ReachedUnder (LimitWithin bound) s) (h : s.runWithin bound es = some s') :
    serverSystem.ReachedUnder (LimitWithin bound) s' := by
  induction es generalizing s with
  | nil =>
    obtain rfl := Option.some.inj h
    exact hs
  | cons e es ih =>
    rw [Server.runWithin] at h
    split at h
    · next hlimit =>
      obtain ⟨s'', hs'', hrun⟩ := Option.bind_eq_some_iff.mp h
      exact ih (.step hs hlimit hs'') hrun
    · cases h

/-- Two arrivals under the limit 1: the second one is over it. -/
def twoArrivals : List ServerEvent :=
  [.setMaxConcurrency 1, .arrive, .arrive, .loadLimit 0, .loadLimit 1, .fetchAdd 0, .fetchAdd 1,
    .compare 1, .compare 0]

theorem twoArrivals_in_flight :
    ∃ s : Server, s.calls = [.guarded, .overLimit] ∧ s.inFlight = s.admitted + s.shed ∧
      s.admitted ≤ 1 := by
  have hcalls : (Server.runWithin 1 ⟨0, 0, [], usizeSize_pos⟩ twoArrivals).map (·.calls) =
      some [.guarded, .overLimit] := by decide +kernel
  obtain ⟨s, hrun, hcalls⟩ := Option.map_eq_some_iff.mp hcalls
  have hs := reachedUnder_of_runWithin (.init rfl) hrun
  obtain ⟨hcount, -, -, hbound⟩ := in_flight_law hs.reached
  exact ⟨s, hcalls, hcount, hbound 1 hs⟩

end OxyRoute
