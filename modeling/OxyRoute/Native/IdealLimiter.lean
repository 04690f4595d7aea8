import OxyRoute.Lib.IdealBucket
import OxyRoute.Native.Buckets

/-!
# The limiter and the ideal bucket

A bucket of the limiter is written only when a check is admitted. Its decisions are those of a
bucket that is full at the start and filled continuously, and they say what the next checks of the
key will be told.

## Main definitions

- `ClockOrdered` — the readings of a key do not go back
- `Foretells` — what a decision says about the next checks

## Main results

- `check_ideal` — the decisions of a key in every run that keeps its bucket
- `long_wait_saturates` — the seconds to wait are at most the largest `u64`
-/

namespace OxyRoute

open TokenBucket

namespace LimiterState

/-- The checks of a key, in their order. -/
def checksOfKey (s : LimiterState) (key : String) : List Checked :=
  (s.log.filter fun c => c.key = truncateKey key).reverse

/-- What a check would be told. -/
def decision (rl : ExactLimiter) (hashing : Hashing) (s : LimiterState) (key : String) (now : ℚ) :
    RateLimitDecision :=
  (checkShard rl hashing (s.shards (shardIndex hashing (truncateKey key))) (truncateKey key) now).1

/-- A check would be allowed. -/
def allows (rl : ExactLimiter) (hashing : Hashing) (s : LimiterState) (key : String) (now : ℚ) :
    Bool :=
  (Checked.mk key now (s.decision rl hashing key now)).isAllowed

/-- The limiter after a number of checks of a key at one instant. -/
def again (rl : ExactLimiter) (hashing : Hashing) (s : LimiterState) (key : String) (now : ℚ)
    (n : ℕ) : LimiterState :=
  (List.replicate n now).foldl (fun s now => s.check rl hashing key now) s

end LimiterState

/-- A check of a key reads the clock no earlier than those before. -/
def ClockOrdered (key : String) (s : LimiterState) (i : String × ℚ) : Prop :=
  truncateKey i.1 = truncateKey key → ∀ c ∈ s.checksOfKey key, c.now ≤ i.2

/-- The state after an allowed check admits as many checks at its instant as are said to remain.
After a denied one a check is allowed after the seconds that it was told, and not before; a larger
number of seconds is told as the largest there is. -/
def Foretells (rl : ExactLimiter) (hashing : Hashing) (key : String) (s : LimiterState) (now : ℚ) :
    RateLimitDecision → Prop
  | .allowed _ remaining _ => ∀ n,
      ((s.again rl hashing key now n).admitted key).length =
        (s.admitted key).length + min n remaining
  | .denied _ secs => ∃ n : ℕ,
      IsLeast {n : ℕ | 0 < n ∧ s.allows rl hashing key (now + n)} n ∧ secs = min n (2 ^ 64 - 1)

variable {rl : ExactLimiter} {hashing : Hashing} {key : String} {s : LimiterState}
  {i : String × ℚ}

/-- The bucket a check of the key finds. -/
def LimiterState.levelAt (s : LimiterState) (rl : ExactLimiter) (hashing : Hashing) (key : String)
    (now : ℚ) : BucketState :=
  (s.bucket? hashing key).getD ⟨rl.limit, now⟩

variable (rl hashing s) in
theorem entryFor_fst (key : String) (now : ℚ) :
    (entryFor rl hashing (s.shards (shardIndex hashing (truncateKey key))) (truncateKey key) now).1 =
      s.levelAt rl hashing key now := by
  unfold entryFor LimiterState.levelAt LimiterState.bucket?
  split
  · next level h => rw [h, Option.getD_some]
  · next h => rw [h, Option.getD_none]

theorem decision_of_take {now : ℚ} {level : BucketState}
    (h : rl.bucket.take (s.levelAt rl hashing key now) now = some level) :
    s.decision rl hashing key now = allowedAt rl level.tokens := by
  rw [← entryFor_fst] at h
  simp only [LimiterState.decision, checkShard, h]

theorem decision_of_take_none {now : ℚ}
    (h : rl.bucket.take (s.levelAt rl hashing key now) now = none) :
    s.decision rl hashing key now = .denied rl.limit
      (resetSecs rl (1 - rl.bucket.refilled (s.levelAt rl hashing key now) now)) := by
  rw [← entryFor_fst] at h ⊢
  simp only [LimiterState.decision, checkShard, h]

theorem allows_eq (now : ℚ) : s.allows rl hashing key now =
    (rl.bucket.take (s.levelAt rl hashing key now) now).isSome := by
  cases h : rl.bucket.take (s.levelAt rl hashing key now) now with
  | some level =>
    rw [LimiterState.allows, decision_of_take h]
    rfl
  | none =>
    rw [LimiterState.allows, decision_of_take_none h]
    rfl

/-- A check is logged with its decision. -/
theorem log_check (rl : ExactLimiter) (hashing : Hashing) (s : LimiterState) (i : String × ℚ) :
    (s.check rl hashing i.1 i.2).log =
      ⟨truncateKey i.1, i.2, s.decision rl hashing i.1 i.2⟩ :: s.log :=
  rfl

variable (rl hashing s) in
theorem checksOfKey_check_of_ne (hne : truncateKey i.1 ≠ truncateKey key) :
    (s.check rl hashing i.1 i.2).checksOfKey key = s.checksOfKey key := by
  rw [LimiterState.checksOfKey, log_check, List.filter_cons_of_neg (by simpa using hne)]
  rfl

variable (rl hashing s) in
theorem checksOfKey_check_of_eq (heq : truncateKey i.1 = truncateKey key) :
    (s.check rl hashing i.1 i.2).checksOfKey key =
      s.checksOfKey key ++ [⟨truncateKey i.1, i.2, s.decision rl hashing i.1 i.2⟩] := by
  rw [LimiterState.checksOfKey, log_check, List.filter_cons_of_pos (by simpa using heq),
    List.reverse_cons]
  rfl

/-- The bucket after a check of the key. -/
theorem bucket?_check_of_eq (heq : truncateKey i.1 = truncateKey key) :
    (s.check rl hashing i.1 i.2).bucket? hashing key =
      some ((s.levelAt rl hashing key i.2).lazy rl.bucket i.2) := by
  obtain ⟨level, rfl, ⟨level', htake, hget, -⟩ | ⟨htake, hget, -⟩⟩ :=
    LimiterState.check_of_eq rl hashing (s := s) heq
  · rw [hget, Level.lazy, LimiterState.levelAt, htake, Option.getD_some]
  · rw [hget, Level.lazy, LimiterState.levelAt, htake, Option.getD_none]

variable (rl hashing s) in
theorem levelAt_of_eq (heq : truncateKey i.1 = truncateKey key) (now : ℚ) :
    s.levelAt rl hashing i.1 now = s.levelAt rl hashing key now := by
  rw [LimiterState.levelAt, LimiterState.bucket?, heq]
  rfl

-- ════════════════════════════════════════════════════════════════════════
-- Runs
-- ════════════════════════════════════════════════════════════════════════

/-- The bucket of a key holds, from its last reading on, what the ideal bucket holds. -/
structure IdealSoFar (rl : ExactLimiter) (hashing : Hashing) (key : String) (start : ℚ)
    (s : LimiterState) : Prop where
  decisions : (s.checksOfKey key).map (·.isAllowed) =
    rl.bucket.decisions ⟨rl.limit, start⟩ ((s.checksOfKey key).map (·.now))
  agrees : ∀ t, start ≤ t → (∀ c ∈ s.checksOfKey key, c.now ≤ t) →
    Agrees rl.bucket (s.levelAt rl hashing key t)
      (rl.bucket.after ⟨rl.limit, start⟩ ((s.checksOfKey key).map (·.now))) t

theorem IdealSoFar.init (start : ℚ) : IdealSoFar rl hashing key start ⟨fun _ => .empty, []⟩ where
  decisions := rfl
  agrees t hstart _ := by
    refine ⟨le_rfl, hstart, fun now _ => ?_⟩
    exact (rl.bucket.refilled_full t now).trans (rl.bucket.refilled_full start now).symm

theorem IdealSoFar.check {start : ℚ} (h : IdealSoFar rl hashing key start s)
    (hkept : KeepsBucket hashing key s i) (hclock : ClockOrdered key s i)
    (hstart : truncateKey i.1 = truncateKey key → start ≤ i.2) :
    IdealSoFar rl hashing key start (s.check rl hashing i.1 i.2) := by
  by_cases heq : truncateKey i.1 = truncateKey key
  · have hlevel := levelAt_of_eq rl hashing s heq i.2
    obtain ⟨hdecides, hagrees⟩ := (h.agrees i.2 (hstart heq) (hclock heq)).decides le_rfl
    have hchecks := checksOfKey_check_of_eq rl hashing s heq
    refine ⟨?_, fun t ht hle => ?_⟩
    · have hallowed : Checked.isAllowed ⟨truncateKey i.1, i.2, s.decision rl hashing i.1 i.2⟩ =
          s.allows rl hashing i.1 i.2 := rfl
      rw [hchecks, List.map_append, List.map_append, List.map_singleton, List.map_singleton,
        decisions_concat, h.decisions, hallowed, allows_eq, hlevel, hdecides]
    · have hlast : i.2 ≤ t := by
        apply hle ⟨truncateKey i.1, i.2, s.decision rl hashing i.1 i.2⟩
        rw [hchecks]
        exact List.mem_append_right _ List.mem_cons_self
      rw [LimiterState.levelAt, bucket?_check_of_eq heq, Option.getD_some, hchecks,
        List.map_append, List.map_singleton, after_concat]
      exact hagrees.later hlast
  · obtain ⟨hget, -⟩ := LimiterState.check_of_ne rl heq hkept
    have hchecks := checksOfKey_check_of_ne rl hashing s heq
    refine ⟨?_, fun t ht hle => ?_⟩
    · rw [hchecks]
      exact h.decisions
    · rw [hchecks] at hle ⊢
      rw [LimiterState.levelAt, hget]
      exact h.agrees t ht hle

theorem idealSoFar_of_reached
    (hs : (limiterSystem rl hashing).ReachedUnder
      (fun s i => KeepsBucket hashing key s i ∧ ClockOrdered key s i) s) :
    ∀ start, (∀ c ∈ s.checksOfKey key, start ≤ c.now) → IdealSoFar rl hashing key start s := by
  refine hs.invariant (P := fun s => ∀ start, (∀ c ∈ s.checksOfKey key, start ≤ c.now) →
    IdealSoFar rl hashing key start s) ?_ ?_
  · rintro s rfl start -
    exact .init start
  · rintro s i s' ih ⟨hkept, hclock⟩ rfl start hstart
    by_cases heq : truncateKey i.1 = truncateKey key
    · rw [checksOfKey_check_of_eq rl hashing s heq] at hstart
      apply (ih start fun c hc => hstart c (List.mem_append_left _ hc)).check hkept hclock
      intro _
      exact hstart _ (List.mem_append_right _ List.mem_cons_self)
    · rw [checksOfKey_check_of_ne rl hashing s heq] at hstart
      exact (ih start hstart).check hkept hclock fun h => absurd h heq

theorem exists_start (checks : List Checked) (now : ℚ) :
    ∃ start ≤ now, ∀ c ∈ checks, start ≤ c.now := by
  induction checks with
  | nil => exact ⟨now, le_rfl, by simp⟩
  | cons c checks ih =>
    obtain ⟨start, hle, hstart⟩ := ih
    refine ⟨min start c.now, (min_le_left _ _).trans hle, fun c' hc' => ?_⟩
    rcases List.mem_cons.mp hc' with rfl | hc'
    · exact min_le_right _ _
    · exact (min_le_left _ _).trans (hstart c' hc')

variable (rl) in
/-- Checks at one instant are admitted as the bucket admits requests. -/
theorem admitted_again {level : BucketState} (hlevel : s.bucket? hashing key = some level)
    (n : ℕ) :
    ((s.again rl hashing key level.lastUpdate n).admitted key).length =
      (s.admitted key).length + rl.bucket.admittedAmong level n := by
  induction n generalizing s level with
  | zero => rfl
  | succ n ih =>
    have hdecided := LimiterState.check_of_eq rl hashing (i := (key, level.lastUpdate)) (s := s) rfl
    dsimp only at hdecided
    rw [hlevel, Option.getD_some] at hdecided
    obtain ⟨_, hsame, hdecided⟩ := hdecided
    rw [hsame] at hdecided
    rw [LimiterState.again, List.replicate_succ, List.foldl_cons, admittedAmong, Level.lazy]
    rcases hdecided with ⟨level', htake, hget, hadm⟩ | ⟨htake, hget, hadm⟩
    · have hlast : level'.lastUpdate = level.lastUpdate := by
        rw [(take_eq_some htake).1]
      have hnext := ih hget
      rw [hlast, hadm, List.length_cons] at hnext
      rw [htake]
      simp only [Option.isSome_some, if_true, Option.getD_some]
      exact hnext.trans (by omega)
    · have hnext := ih hget
      rw [hadm] at hnext
      rw [htake]
      simp only [Option.isSome_none, Bool.false_eq_true, if_false, Option.getD_none, Nat.zero_add]
      exact hnext

/-- An admission leaves as many tokens as are said to remain. -/
theorem foretells_allowed {level : BucketState} {now : ℚ} (hlimit : rl.limit < 2 ^ 64)
    (htake : rl.bucket.take (s.levelAt rl hashing key now) now = some level)
    (heq : truncateKey i.1 = truncateKey key) (hnow : i.2 = now) :
    Foretells rl hashing key (s.check rl hashing i.1 i.2) now (allowedAt rl level.tokens) := by
  obtain ⟨hlevel, hone⟩ := take_eq_some htake
  have hcap := rl.bucket.refilled_le_capacity (s.levelAt rl hashing key now) now
  have htokens : level.tokens ≤ rl.limit - 1 := by
    rw [hlevel]
    exact sub_le_sub_right hcap 1
  have hremaining : asU64 ⌊level.tokens⌋₊ = ⌊level.tokens⌋₊ := by
    apply min_eq_left
    have hfloor : ⌊level.tokens⌋₊ ≤ rl.limit := by
      apply Nat.floor_le_of_le
      linarith
    omega
  have hget : (s.check rl hashing i.1 i.2).bucket? hashing key = some level := by
    rw [bucket?_check_of_eq heq, hnow, Level.lazy, htake, Option.getD_some]
  intro n
  have hlast : level.lastUpdate = now := congrArg Level.lastUpdate hlevel
  have hagain := admitted_again rl hget n
  rw [hlast] at hagain
  rw [hremaining, hagain, admittedAmong_eq]
  · rw [hlevel]
    exact sub_nonneg.mpr hone
  · exact htokens.trans (sub_le_self _ zero_le_one)

theorem foretells_denied {now : ℚ}
    (hlast : (s.levelAt rl hashing key now).lastUpdate ≤ now)
    (htake : rl.bucket.take (s.levelAt rl hashing key now) now = none)
    (heq : truncateKey i.1 = truncateKey key) (hnow : i.2 = now) :
    Foretells rl hashing key (s.check rl hashing i.1 i.2) now
      (.denied rl.limit (resetSecs rl
        (1 - rl.bucket.refilled (s.levelAt rl hashing key now) now))) := by
  have hget : (s.check rl hashing i.1 i.2).bucket? hashing key =
      some (s.levelAt rl hashing key now) := by
    rw [bucket?_check_of_eq heq, hnow, Level.lazy, htake, Option.getD_none]
  have hrate : 0 < rl.bucket.rate :=
    div_pos (Nat.cast_pos.mpr rl.limit_pos) rl.windowSecs_pos
  have hcap : 1 ≤ rl.bucket.capacity := Nat.one_le_cast.mpr rl.limit_pos
  have hleast := isLeast_admitted hlast (take_eq_none_iff.mp htake) hcap hrate
  refine ⟨⌈(1 - rl.bucket.refilled (s.levelAt rl hashing key now) now) / rl.bucket.rate⌉₊, ?_, ?_⟩
  · have hallows : ∀ n : ℕ, (s.check rl hashing i.1 i.2).allows rl hashing key (now + n) ↔
        1 ≤ rl.bucket.refilled (s.levelAt rl hashing key now) (now + n) := by
      intro n
      rw [allows_eq, LimiterState.levelAt, hget, Option.getD_some, isSome_take, decide_eq_true_eq]
    simp only [hallows]
    exact hleast
  · have hpos : 1 ≤ ⌈(1 - rl.bucket.refilled (s.levelAt rl hashing key now) now) /
        rl.bucket.rate⌉₊ := hleast.1.1
    have hceil : max 1 ⌈(1 - rl.bucket.refilled (s.levelAt rl hashing key now) now) /
        rl.refillRatePerSec⌉₊ = ⌈(1 - rl.bucket.refilled (s.levelAt rl hashing key now) now) /
        rl.bucket.rate⌉₊ := max_eq_right hpos
    rw [resetSecs, hceil]
    rfl

/-- **The ideal bucket.** In every run that does not evict the bucket of a key, with readings of
the key that do not go back: the checks of the key are decided as by the bucket that is full at a
start before them and filled continuously, and the next decision says how many checks at its
instant are still allowed, or after how many seconds one is, up to the largest `u64`. -/
theorem check_ideal (hlimit : rl.limit < 2 ^ 64)
    (hs : (limiterSystem rl hashing).ReachedUnder
      (fun s i => KeepsBucket hashing key s i ∧ ClockOrdered key s i) s) :
    (∀ start, (∀ c ∈ s.checksOfKey key, start ≤ c.now) →
      (s.checksOfKey key).map (·.isAllowed) =
        rl.bucket.decisions ⟨rl.limit, start⟩ ((s.checksOfKey key).map (·.now))) ∧
    ∀ i : String × ℚ, truncateKey i.1 = truncateKey key → ClockOrdered key s i →
      Foretells rl hashing key (s.check rl hashing i.1 i.2) i.2
        (s.decision rl hashing i.1 i.2) := by
  refine ⟨fun start hstart => (idealSoFar_of_reached hs start hstart).decisions, ?_⟩
  intro i heq hclock
  have hlevel := levelAt_of_eq rl hashing s heq i.2
  cases htake : rl.bucket.take (s.levelAt rl hashing key i.2) i.2 with
  | some level =>
    rw [decision_of_take (hlevel ▸ htake)]
    exact foretells_allowed hlimit htake heq rfl
  | none =>
    obtain ⟨start, hle, hstart⟩ := exists_start (s.checksOfKey key) i.2
    have hlast := ((idealSoFar_of_reached hs start hstart).agrees i.2 hle (hclock heq)).left_le
    rw [decision_of_take_none (hlevel ▸ htake), hlevel]
    exact foretells_denied hlast htake heq rfl

/-- Two checks at one instant, of three. -/
theorem twoPerSecond_ideal :
    (checksOf twoPerSecond plainHashing "client" [0, 0]).checksOfKey "client" ≠ [] ∧
    Foretells twoPerSecond plainHashing "client"
      ((checksOf twoPerSecond plainHashing "client" [0, 0]).check twoPerSecond plainHashing
        "client" 0) 0 (.denied 2 1) := by
  have hrun : (limiterSystem twoPerSecond plainHashing).ReachedUnder
      (fun s i => KeepsBucket plainHashing "client" s i ∧ ClockOrdered "client" s i)
      (checksOf twoPerSecond plainHashing "client" [0, 0]) := by
    refine .step (i := ("client", 0)) (.step (i := ("client", 0)) (.init rfl)
      ⟨keepsBucket_self _ _ _ _, ?_⟩ rfl) ⟨keepsBucket_self _ _ _ _, ?_⟩ rfl
    · intro _ c hc
      cases hc
    · intro _ c hc
      rw [checksOfKey_check_of_eq _ _ _ rfl] at hc
      rw [List.mem_singleton.mp hc]
  have hclock : ClockOrdered "client" (checksOf twoPerSecond plainHashing "client" [0, 0])
      ("client", 0) := by
    intro _
    decide +kernel
  have hdecision : (checksOf twoPerSecond plainHashing "client" [0, 0]).decision twoPerSecond
      plainHashing "client" 0 = .denied 2 1 := by decide +kernel
  have hideal := (check_ideal (by decide) hrun).2 ("client", 0) rfl hclock
  refine ⟨by decide +kernel, ?_⟩
  rw [← hdecision]
  exact hideal

/-- One request in ten to the thirtieth seconds. -/
def onePerAge : ExactLimiter := ⟨1, 10 ^ 30, by decide, by decide⟩

/-- A check is told to wait the largest number of seconds there is, and denied after that too. -/
theorem long_wait_saturates :
    (limiterSystem onePerAge plainHashing).ReachedUnder
      (fun s i => KeepsBucket plainHashing "client" s i ∧ ClockOrdered "client" s i)
      (checksOf onePerAge plainHashing "client" [0]) ∧
    (checksOf onePerAge plainHashing "client" [0]).decision onePerAge plainHashing "client" 0 =
      .denied 1 (2 ^ 64 - 1) ∧
    ¬ IsLeast {n : ℕ | 0 < n ∧ ((checksOf onePerAge plainHashing "client" [0]).check onePerAge
      plainHashing "client" 0).allows onePerAge plainHashing "client" (0 + n)} (2 ^ 64 - 1) := by
  refine ⟨.step (i := ("client", 0)) (.init rfl) ⟨keepsBucket_self _ _ _ _, ?_⟩ rfl,
    by decide +kernel, ?_⟩
  · intro _ c hc
    cases hc
  · intro hleast
    have hdenied : ((checksOf onePerAge plainHashing "client" [0]).check onePerAge plainHashing
        "client" 0).allows onePerAge plainHashing "client" (0 + (2 ^ 64 - 1 : ℕ)) = false := by
      decide +kernel
    have hallowed := hleast.1.2
    rw [hdenied] at hallowed
    cases hallowed

end OxyRoute
