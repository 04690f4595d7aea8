import Mathlib.Algebra.Order.Floor.Semiring
import Mathlib.Data.Rat.Floor
import OxyRoute.Lib.TokenBucket
import OxyRoute.Lib.Transition
import OxyRoute.Native.RateStrings
import OxyRoute.Native.Runtime

/-!
# The rate limiter

`RateLimiter::check` over exact numbers. A check reads the clock, then takes the lock of its
shard; so in the order of the locks the readings need not increase, and an admitted check makes
its own reading the `last_update` of the bucket even if a later one was there.

## Main definitions

- `ExactLimiter` — a limiter with a positive limit and window
- `LimiterState`, `LimiterState.check` — the shards and one critical section
- `limiterSystem` — the checks of all keys, in the order of the locks
- `ClockKept` — no admitted check sets a bucket back

## Main results

- `admitted_within_setback` — the bound of a run, with what its readings go back
- `admitted_within` — the bound of a run whose checks satisfy `ClockKept`
-/

namespace OxyRoute

open TokenBucket

/-- `RateLimiter`, in exact arithmetic. -/
structure ExactLimiter where
  limit : ℕ
  windowSecs : ℚ
  limit_pos : 0 < limit
  windowSecs_pos : 0 < windowSecs

namespace ExactLimiter

def refillRatePerSec (rl : ExactLimiter) : ℚ := rl.limit / rl.windowSecs

/-- The bucket of every key. -/
def bucket (rl : ExactLimiter) : TokenBucket ℚ where
  capacity := rl.limit
  rate := rl.refillRatePerSec
  rate_nonneg := div_nonneg (Nat.cast_nonneg _) rl.windowSecs_pos.le

end ExactLimiter

/-- `BucketState`. -/
abbrev BucketState := Level ℚ

/-- A shard: the buckets of its keys. -/
abbrev Shard := Dict String BucketState

def numShards : ℕ := 16

def maxShardEntries : ℕ := 8192

def maxKeyLen : ℕ := 256

/-- The longest beginning of a text that has at most so many bytes. -/
def beginningWithin : ℕ → List Char → List Char
  | _, [] => []
  | n, c :: cs => if c.utf8Size ≤ n then c :: beginningWithin (n - c.utf8Size) cs else []

/-- `truncate_key`. -/
def truncateKey (key : String) : String :=
  if key.utf8ByteSize ≤ maxKeyLen then key
  else String.ofList (beginningWithin maxKeyLen key.toList)

/-- What the hash tables decide: the hash of a key, and which of its keys a table yields first. -/
structure Hashing where
  hash : String → ℕ
  firstKey : Shard → Option String
  firstKey_isSome : ∀ shard : Shard, shard.keys ≠ [] → (firstKey shard).isSome
  firstKey_mem : ∀ (shard : Shard) (key : String), firstKey shard = some key → key ∈ shard.keys

/-- `shard_index`. -/
def shardIndex (hashing : Hashing) (key : String) : Fin numShards :=
  ⟨hashing.hash key % numShards, Nat.mod_lt _ (by decide)⟩

/-- The key that makes room for a new one. -/
def evicted (hashing : Hashing) (shard : Shard) (key : String) : Option String :=
  if (shard.get? key).isNone ∧ maxShardEntries ≤ shard.entries.length then hashing.firstKey shard
  else none

/-- The bucket of a key, full if it is new, and the shard with it. -/
def entryFor (rl : ExactLimiter) (hashing : Hashing) (shard : Shard) (key : String) (now : ℚ) :
    BucketState × Shard :=
  match shard.get? key with
  | some level => (level, shard)
  | none =>
    let level : BucketState := ⟨rl.limit, now⟩
    let kept := match evicted hashing shard key with
      | some old => shard.filter fun k _ => k ≠ old
      | none => shard
    (level, kept.set key level)

/-- `as u64` of a rounded number that is not negative. -/
def asU64 (n : ℕ) : ℕ := min n (2 ^ 64 - 1)

/-- Seconds until so many tokens have flowed in, at least one. -/
def resetSecs (rl : ExactLimiter) (missing : ℚ) : ℕ :=
  asU64 (max 1 ⌈missing / rl.refillRatePerSec⌉₊)

/-- The decision about an admitted check. -/
def allowedAt (rl : ExactLimiter) (tokens : ℚ) : RateLimitDecision :=
  let remaining := asU64 ⌊tokens⌋₊
  .allowed rl.limit remaining
    (resetSecs rl (if remaining = 0 then 1 - tokens else rl.limit - tokens))

/-- The check of a key in its shard. -/
def checkShard (rl : ExactLimiter) (hashing : Hashing) (shard : Shard) (key : String) (now : ℚ) :
    RateLimitDecision × Shard :=
  let (level, shard) := entryFor rl hashing shard key now
  match rl.bucket.take level now with
  | some level => (allowedAt rl level.tokens, shard.set key level)
  | none => (.denied rl.limit (resetSecs rl (1 - rl.bucket.refilled level now)), shard)

/-- A check that was decided. -/
structure Checked where
  key : String
  now : ℚ
  decision : RateLimitDecision

/-- The shards of a limiter, and the checks so far, newest first. -/
structure LimiterState where
  shards : Fin numShards → Shard
  log : List Checked

namespace LimiterState

/-- The critical section of `RateLimiter::check`, with the clock as it was read. -/
def check (rl : ExactLimiter) (hashing : Hashing) (s : LimiterState) (key : String) (now : ℚ) :
    LimiterState :=
  let key := truncateKey key
  let idx := shardIndex hashing key
  let out := checkShard rl hashing (s.shards idx) key now
  ⟨Function.update s.shards idx out.2, ⟨key, now, out.1⟩ :: s.log⟩

/-- The bucket of a key. -/
def bucket? (hashing : Hashing) (s : LimiterState) (key : String) : Option BucketState :=
  (s.shards (shardIndex hashing (truncateKey key))).get? (truncateKey key)

end LimiterState

/-- The check was allowed. -/
def Checked.isAllowed (c : Checked) : Bool :=
  match c.decision with
  | .allowed .. => true
  | .denied .. => false

/-- The readings of the allowed checks of a key, newest first. -/
def LimiterState.admitted (s : LimiterState) (key : String) : List ℚ :=
  (s.log.filter fun c => c.key = truncateKey key && c.isAllowed).map (·.now)

/-- The checks of all keys, in the order in which they take the lock of their shard. -/
def limiterSystem (rl : ExactLimiter) (hashing : Hashing) :
    TransitionSystem LimiterState (String × ℚ) where
  init s := s = ⟨fun _ => .empty, []⟩
  step s i s' := s' = s.check rl hashing i.1 i.2

/-- The check does not evict the bucket of a key. -/
def KeepsBucket (hashing : Hashing) (key : String) (s : LimiterState) (i : String × ℚ) : Prop :=
  evicted hashing (s.shards (shardIndex hashing (truncateKey i.1))) (truncateKey i.1) ≠
    some (truncateKey key)

/-- A check of a key whose bucket has a token to spare reads the clock no earlier than the check
that was admitted last. -/
def ClockKept (hashing : Hashing) (key : String) (s : LimiterState) (i : String × ℚ) : Prop :=
  truncateKey i.1 = truncateKey key → ∀ level, s.bucket? hashing key = some level →
    level.lastUpdate ≤ i.2 ∨ level.tokens < 1

-- ════════════════════════════════════════════════════════════════════════
-- One critical section
-- ════════════════════════════════════════════════════════════════════════

section

variable {rl : ExactLimiter} {hashing : Hashing} {key : String}

/-- The bucket that is checked is in the shard. -/
theorem get?_entryFor (shard : Shard) (key : String) (now : ℚ) :
    (entryFor rl hashing shard key now).2.get? key =
      some (entryFor rl hashing shard key now).1 := by
  unfold entryFor
  split
  · next level h => exact h
  · simp

variable (rl) in
/-- The bucket of another key is left alone, unless it is evicted. -/
theorem get?_entryFor_of_ne {shard : Shard} {key' : String} (now : ℚ) (hne : key ≠ key')
    (hkept : evicted hashing shard key' ≠ some key) :
    (entryFor rl hashing shard key' now).2.get? key = shard.get? key := by
  unfold entryFor
  split
  · rfl
  · dsimp only
    rw [Dict.get?_set, if_neg hne]
    split
    · next old hold =>
      have hkeep : decide (key ≠ old) = true := by
        apply decide_eq_true
        rintro rfl
        exact hkept hold
      rw [Dict.get?_filter]
      cases shard.get? key with
      | none => rfl
      | some level => rw [Option.filter_some, if_pos hkeep]
    · rfl

theorem get?_checkShard_of_ne {shard : Shard} {key' : String} {now : ℚ} (hne : key ≠ key')
    (hkept : evicted hashing shard key' ≠ some key) :
    (checkShard rl hashing shard key' now).2.get? key = shard.get? key := by
  have hentry := get?_entryFor_of_ne rl now hne hkept
  unfold checkShard
  dsimp only
  split
  · rw [Dict.get?_set, if_neg hne]
    exact hentry
  · exact hentry

variable (rl hashing) in
/-- The checked bucket: admitted at its new level, or left as it was. -/
theorem checkShard_cases (shard : Shard) (key : String) (now : ℚ) :
    (∃ level, rl.bucket.take (entryFor rl hashing shard key now).1 now = some level ∧
      (checkShard rl hashing shard key now).1 = allowedAt rl level.tokens ∧
      (checkShard rl hashing shard key now).2.get? key = some level) ∨
    (∃ limit secs, rl.bucket.take (entryFor rl hashing shard key now).1 now = none ∧
      (checkShard rl hashing shard key now).1 = .denied limit secs ∧
      (checkShard rl hashing shard key now).2.get? key =
        some (entryFor rl hashing shard key now).1) := by
  unfold checkShard
  dsimp only
  split
  · next level h => exact .inl ⟨level, h, rfl, by simp⟩
  · next h => exact .inr ⟨_, _, h, rfl, get?_entryFor shard key now⟩

namespace LimiterState

variable (rl) in
/-- A check of another key changes neither the bucket nor the admissions of a key. -/
theorem check_of_ne {s : LimiterState} {i : String × ℚ} (hne : truncateKey i.1 ≠ truncateKey key)
    (hkept : KeepsBucket hashing key s i) :
    (s.check rl hashing i.1 i.2).bucket? hashing key = s.bucket? hashing key ∧
      (s.check rl hashing i.1 i.2).admitted key = s.admitted key := by
  constructor
  · unfold bucket? check
    dsimp only
    by_cases hidx : shardIndex hashing (truncateKey key) = shardIndex hashing (truncateKey i.1)
    · rw [hidx, Function.update_self]
      exact get?_checkShard_of_ne hne.symm hkept
    · rw [Function.update_of_ne hidx]
  · unfold admitted check
    rw [List.filter_cons_of_neg (by simp [hne])]

variable (rl hashing) in
/-- A check of a key is decided in its own bucket. -/
theorem check_of_eq {s : LimiterState} {i : String × ℚ} (heq : truncateKey i.1 = truncateKey key) :
    ∃ level, level = (s.bucket? hashing key).getD ⟨rl.limit, i.2⟩ ∧
      ((∃ level', rl.bucket.take level i.2 = some level' ∧
        (s.check rl hashing i.1 i.2).bucket? hashing key = some level' ∧
        (s.check rl hashing i.1 i.2).admitted key = i.2 :: s.admitted key) ∨
      (rl.bucket.take level i.2 = none ∧
        (s.check rl hashing i.1 i.2).bucket? hashing key = some level ∧
        (s.check rl hashing i.1 i.2).admitted key = s.admitted key)) := by
  have hlevel : (entryFor rl hashing (s.shards (shardIndex hashing (truncateKey key)))
      (truncateKey key) i.2).1 = (s.bucket? hashing key).getD ⟨rl.limit, i.2⟩ := by
    unfold entryFor bucket?
    split
    · next level h => rw [h, Option.getD_some]
    · next h => rw [h, Option.getD_none]
  refine ⟨_, hlevel, ?_⟩
  unfold admitted check
  rw [bucket?]
  dsimp only
  rw [heq, Function.update_self]
  rcases checkShard_cases rl hashing
    (s.shards (shardIndex hashing (truncateKey key))) (truncateKey key) i.2 with
    ⟨level', htake, hallowed, hget⟩ | ⟨limit, secs, htake, hdenied, hget⟩
  · refine .inl ⟨level', htake, hget, ?_⟩
    rw [List.filter_cons_of_pos (by simp [hallowed, Checked.isAllowed, allowedAt]), List.map_cons]
  · refine .inr ⟨htake, hget, ?_⟩
    rw [List.filter_cons_of_neg (by simp [hdenied, Checked.isAllowed])]

end LimiterState

-- ════════════════════════════════════════════════════════════════════════
-- Runs
-- ════════════════════════════════════════════════════════════════════════

/-- The bucket of a key accounts for its admissions. -/
def KeyAccounted (rl : ExactLimiter) (hashing : Hashing) (key : String) (s : LimiterState) : Prop :=
  Accounted rl.bucket ((s.bucket? hashing key).getD ⟨rl.limit, 0⟩) (s.admitted key) ∧
    (s.bucket? hashing key = none → s.admitted key = [])

/-- A new bucket is full at any reading. -/
theorem KeyAccounted.level {s : LimiterState} (h : KeyAccounted rl hashing key s) (now : ℚ) :
    Accounted rl.bucket ((s.bucket? hashing key).getD ⟨rl.limit, now⟩) (s.admitted key) := by
  cases hb : s.bucket? hashing key with
  | some level =>
    have := h.1
    rwa [hb] at this
  | none =>
    rw [h.2 hb]
    exact .full (Nat.cast_nonneg rl.limit) now

theorem KeyAccounted.check {s : LimiterState} {i : String × ℚ}
    (h : KeyAccounted rl hashing key s) (hkept : KeepsBucket hashing key s i) :
    KeyAccounted rl hashing key (s.check rl hashing i.1 i.2) := by
  by_cases heq : truncateKey i.1 = truncateKey key
  · obtain ⟨level, hlevel, hdecided⟩ := LimiterState.check_of_eq rl hashing (s := s) heq
    have hacc : Accounted rl.bucket level (s.admitted key) := hlevel ▸ h.level i.2
    unfold KeyAccounted
    rcases hdecided with ⟨level', htake, hget, hadm⟩ | ⟨-, hget, hadm⟩
    · rw [hget, hadm]
      exact ⟨hacc.take htake, nofun⟩
    · rw [hget, hadm]
      exact ⟨hacc, nofun⟩
  · obtain ⟨hget, hadm⟩ := LimiterState.check_of_ne rl heq hkept
    unfold KeyAccounted
    rw [hget, hadm]
    exact h

theorem keyAccounted_of_reached {s : LimiterState}
    (hs : (limiterSystem rl hashing).ReachedUnder (KeepsBucket hashing key) s) :
    KeyAccounted rl hashing key s := by
  refine hs.invariant (P := KeyAccounted rl hashing key) ?_ ?_
  · rintro s rfl
    exact ⟨.full (Nat.cast_nonneg rl.limit) 0, fun _ => rfl⟩
  · rintro s i s' h hkept rfl
    exact h.check hkept

/-- In every run that does not evict the bucket of a key, an interval holds no more admissions
than the limit, what flows in during it, and what flows in again because readings went back. -/
theorem admitted_within_setback {s : LimiterState}
    (hs : (limiterSystem rl hashing).ReachedUnder (KeepsBucket hashing key) s) {a b : ℚ}
    (hab : a ≤ b) :
    (countWithin a b (s.admitted key) : ℚ) ≤
      rl.limit + rl.limit / rl.windowSecs * (b - a + setback (s.admitted key)) :=
  (keyAccounted_of_reached hs).1.within a b hab

/-- The admitted readings of a key never go back. -/
theorem setback_check {s : LimiterState} {i : String × ℚ} (h : KeyAccounted rl hashing key s)
    (hkept : KeepsBucket hashing key s i) (hclock : ClockKept hashing key s i)
    (hzero : setback (s.admitted key) = 0) :
    setback ((s.check rl hashing i.1 i.2).admitted key) = 0 := by
  by_cases heq : truncateKey i.1 = truncateKey key
  · obtain ⟨level, hlevel, ⟨level', htake, -, hadm⟩ | ⟨-, -, hadm⟩⟩ :=
      LimiterState.check_of_eq rl hashing (s := s) heq
    · rw [hadm]
      have hacc : Accounted rl.bucket level (s.admitted key) := hlevel ▸ h.level i.2
      -- the reading is not before the last admission: else nothing flowed in, and a token was left
      have hle : level.lastUpdate ≤ i.2 := by
        cases hb : s.bucket? hashing key with
        | none =>
          rw [hb] at hlevel
          exact le_of_eq (congrArg Level.lastUpdate hlevel)
        | some old =>
          obtain rfl : level = old := by rwa [hb] at hlevel
          rcases hclock heq level hb with hle | hless
          · exact hle
          · by_contra hlt
            have hnone : max 0 (i.2 - level.lastUpdate) = 0 :=
              max_eq_left (by linarith)
            have hrefill := rl.bucket.refilled_le level i.2
            have hone := (take_eq_some htake).2
            rw [hnone, mul_zero] at hrefill
            linarith
      cases hts : s.admitted key with
      | nil => rfl
      | cons t ts =>
        rw [hts] at hacc hzero
        have hback : t - i.2 ≤ 0 := by
          rw [hacc.last t rfl]
          exact sub_nonpos.mpr hle
        rw [setback, max_eq_left hback, zero_add, hzero]
    · rw [hadm]
      exact hzero
  · rw [(LimiterState.check_of_ne rl heq hkept).2]
    exact hzero

end

/-- **Admission bound.** In every run of checks, of any keys and with any readings, in which the
bucket of a key is not evicted and no check of it sets the bucket back: an interval of length `d`
holds at most `limit + limit / window * d` admissions of the key. -/
theorem admitted_within (rl : ExactLimiter) (hashing : Hashing) (key : String) {s : LimiterState}
    (hs : (limiterSystem rl hashing).ReachedUnder
      (fun s i => KeepsBucket hashing key s i ∧ ClockKept hashing key s i) s)
    {a b : ℚ} (hab : a ≤ b) :
    (countWithin a b (s.admitted key) : ℚ) ≤
      rl.limit + rl.limit / rl.windowSecs * (b - a) := by
  have hzero : setback (s.admitted key) = 0 := by
    have hboth : KeyAccounted rl hashing key s ∧ setback (s.admitted key) = 0 := by
      refine hs.invariant (P := fun s => KeyAccounted rl hashing key s ∧
        setback (s.admitted key) = 0) ?_ ?_
      · rintro s rfl
        exact ⟨⟨.full (Nat.cast_nonneg rl.limit) 0, fun _ => rfl⟩, rfl⟩
      · rintro s i s' ⟨hacc, hback⟩ ⟨hkept, hclock⟩ rfl
        exact ⟨hacc.check hkept, setback_check hacc hkept hclock hback⟩
    exact hboth.2
  have hbound := admitted_within_setback (hs.mono fun _ _ h => h.1) hab
  rwa [hzero, add_zero] at hbound

-- ════════════════════════════════════════════════════════════════════════
-- Checks of one key
-- ════════════════════════════════════════════════════════════════════════

/-- A check does not evict the bucket it checks. -/
theorem keepsBucket_self (hashing : Hashing) (key : String) (s : LimiterState) (now : ℚ) :
    KeepsBucket hashing key s (key, now) := by
  intro h
  unfold evicted at h
  split at h
  · next hnew =>
    have hmem := hashing.firstKey_mem _ _ h
    rw [Dict.mem_keys_iff] at hmem
    rw [Option.isNone_iff_eq_none.mp hnew.1] at hmem
    cases hmem
  · cases h

/-- A limiter after checks of one key, with the readings in their order. -/
def checksOf (rl : ExactLimiter) (hashing : Hashing) (key : String) (readings : List ℚ) :
    LimiterState :=
  readings.foldl (fun s now => s.check rl hashing key now) ⟨fun _ => .empty, []⟩

/-- Any readings of one key are a run. -/
theorem checksOf_reached (rl : ExactLimiter) (hashing : Hashing) (key : String)
    (readings : List ℚ) :
    (limiterSystem rl hashing).ReachedUnder (KeepsBucket hashing key)
      (checksOf rl hashing key readings) := by
  have hrun (s : LimiterState)
      (hs : (limiterSystem rl hashing).ReachedUnder (KeepsBucket hashing key) s) :
      (limiterSystem rl hashing).ReachedUnder (KeepsBucket hashing key)
        (readings.foldl (fun s now => s.check rl hashing key now) s) := by
    induction readings generalizing s with
    | nil => exact hs
    | cons now readings ih =>
      exact ih _ (.step (i := (key, now)) hs (keepsBucket_self hashing key s now) rfl)
  exact hrun _ (.init rfl)

/-- Two requests in a second. -/
def twoPerSecond : ExactLimiter := ⟨2, 1, by decide, by decide⟩

/-- Hash tables with one shard in use, in insertion order. -/
def plainHashing : Hashing where
  hash _ := 0
  firstKey shard := shard.keys.head?
  firstKey_isSome shard h := by simpa [List.isSome_head?] using h
  firstKey_mem shard key h := List.mem_of_head? h

/-- Two checks in the order of their readings. -/
theorem twoPerSecond_admitted_within :
    (countWithin 0 1 ((checksOf twoPerSecond plainHashing "client" [0, 1]).admitted "client") : ℚ) ≤
      twoPerSecond.limit + twoPerSecond.limit / twoPerSecond.windowSecs * (1 - 0) := by
  refine admitted_within twoPerSecond plainHashing "client" ?_ zero_le_one
  refine .step (i := ("client", 1)) (.step (i := ("client", 0)) (.init rfl)
    ⟨keepsBucket_self _ _ _ _, ?_⟩ rfl) ⟨keepsBucket_self _ _ _ _, ?_⟩ rfl
  · intro _ level h
    cases h
  · intro _ level h
    have hlevel : (checksOf twoPerSecond plainHashing "client" [0]).bucket? plainHashing "client" =
        some ⟨1, 0⟩ := by decide +kernel
    have heq : (⟨1, 0⟩ : BucketState) = level := Option.some.inj (hlevel.symm.trans h)
    subst heq
    exact .inl zero_le_one

/-- Five checks in one second, each second one with an earlier reading, are all admitted. -/
theorem setback_admits_five :
    ∃ s, (limiterSystem twoPerSecond plainHashing).ReachedUnder (KeepsBucket plainHashing "client") s ∧
      s.admitted "client" = [1, 0, 1, 0, 1] ∧
      (twoPerSecond.limit + twoPerSecond.limit / twoPerSecond.windowSecs * (1 - 0) : ℚ) <
        countWithin 0 1 (s.admitted "client") := by
  have hadm : (checksOf twoPerSecond plainHashing "client" [1, 0, 1, 0, 1]).admitted "client" =
      [1, 0, 1, 0, 1] := by decide +kernel
  refine ⟨_, checksOf_reached twoPerSecond plainHashing "client" [1, 0, 1, 0, 1], hadm, ?_⟩
  rw [hadm]
  decide +kernel

end OxyRoute
