import OxyRoute.Lib.BoundedTable
import OxyRoute.Native.Buckets

/-!
# The limiter in doubles

`RateLimiter::check` as it computes: the tokens of a bucket are a double, and every operation on
them is rounded.

## Main definitions

- `RateLimiter.decide` — the decision in a bucket
- `RateLimiter.check` — one check
- `LimiterKept` — what holds after any checks

## Main results

- `limiterKept_run` — the table stays small and its tokens in range
- `large_limit_exceeded` — the tokens may exceed a large limit less one
-/

namespace OxyRoute

/-- `BucketState`, with its reading in nanoseconds. -/
structure F64Bucket where
  tokens : F64
  lastUpdate : ℕ
  deriving DecidableEq, Repr

/-- `(now - last_update).as_secs_f64()`; readings that went back are no time apart. -/
def elapsedSecs (now lastUpdate : ℕ) : F64 :=
  let nanos := now - lastUpdate
  (F64.ofNat (nanos / 10 ^ 9)).add ((F64.ofNat (nanos % 10 ^ 9)).div (F64.ofNat (10 ^ 9)))

namespace RateLimiter

variable (rl : RateLimiter)

/-- `limit_f64`. -/
def limitF64 : F64 := .ofNat rl.limit

/-- The tokens at a reading. -/
def refilled (bucket : F64Bucket) (now : ℕ) : F64 :=
  (bucket.tokens.add ((elapsedSecs now bucket.lastUpdate).mul rl.refillRatePerSec)).min rl.limitF64

/-- Seconds until so many tokens have flowed in, at least one. -/
def resetSecs (missing : F64) : ℕ :=
  ((missing.div rl.refillRatePerSec).ceil.max (.finite 1)).asU64

/-- The decision in a bucket, which is written only if the check is allowed. -/
def decide (bucket : F64Bucket) (now : ℕ) : RateLimitDecision × F64Bucket :=
  let refilled := rl.refilled bucket now
  if F64.le (.finite 1) refilled then
    let remainingTokens := refilled.sub (.finite 1)
    let remaining := remainingTokens.floor.asU64
    let resetSecs :=
      if remaining = 0 then rl.resetSecs ((F64.finite 1).sub remainingTokens)
      else rl.resetSecs (rl.limitF64.sub remainingTokens)
    (.allowed rl.limit remaining resetSecs, ⟨remainingTokens, now⟩)
  else (.denied rl.limit (rl.resetSecs ((F64.finite 1).sub refilled)), bucket)

/-- A new bucket is full. -/
def bucketRules : EntryRules ℕ F64Bucket RateLimitDecision where
  fresh now := ⟨rl.limitF64, now⟩
  apply := rl.decide

end RateLimiter

/-- What the hash tables decide: the hash of a key, and the entry a full shard gives up. -/
structure KeyHashing where
  hash : String → ℕ
  firstKey : Dict String F64Bucket → Option String
  firstKey_isSome : ∀ shard : Dict String F64Bucket, shard.keys ≠ [] → (firstKey shard).isSome
  firstKey_mem : ∀ (shard : Dict String F64Bucket) (key : String),
    firstKey shard = some key → key ∈ shard.keys

/-- The shards of a limiter. -/
def limiterLayout (hashing : KeyHashing) : TableLayout (Fin numShards) String F64Bucket where
  capacity := maxShardEntries
  shardOf key := ⟨hashing.hash key % numShards, Nat.mod_lt _ (by decide)⟩
  victim := hashing.firstKey
  victim_isSome := hashing.firstKey_isSome
  victim_mem := hashing.firstKey_mem

namespace RateLimiter

/-- `RateLimiter::check`, with the clock as it was read. -/
def check (rl : RateLimiter) (hashing : KeyHashing) (shards : Fin numShards → Dict String F64Bucket)
    (key : String) (now : ℕ) : RateLimitDecision × (Fin numShards → Dict String F64Bucket) :=
  (limiterLayout hashing).access rl.bucketRules shards (truncateKey key) now

/-- The shards after calls, in the order of the locks. -/
def run (rl : RateLimiter) (hashing : KeyHashing) (calls : List (String × ℕ)) :
    Fin numShards → Dict String F64Bucket :=
  calls.foldl (fun shards c => (rl.check hashing shards c.1 c.2).2) fun _ => .empty

end RateLimiter

-- ════════════════════════════════════════════════════════════════════════
-- Keys
-- ════════════════════════════════════════════════════════════════════════

theorem utf8ByteSize_beginningWithin (n : ℕ) (cs : List Char) :
    (String.ofList (beginningWithin n cs)).utf8ByteSize ≤ n := by
  induction cs generalizing n with
  | nil => simp [beginningWithin]
  | cons c cs ih =>
    unfold beginningWithin
    by_cases h : c.utf8Size ≤ n
    · have hrest := ih (n - c.utf8Size)
      rw [if_pos h, String.ofList_cons, String.utf8ByteSize_append, String.utf8ByteSize_singleton]
      omega
    · rw [if_neg h]
      simp

theorem beginningWithin_prefix (n : ℕ) (cs : List Char) : beginningWithin n cs <+: cs := by
  induction cs generalizing n with
  | nil => exact List.nil_prefix
  | cons c cs ih =>
    unfold beginningWithin
    by_cases h : c.utf8Size ≤ n
    · rw [if_pos h]
      exact List.cons_prefix_cons.mpr ⟨rfl, ih _⟩
    · rw [if_neg h]
      exact List.nil_prefix

theorem utf8ByteSize_truncateKey (key : String) : (truncateKey key).utf8ByteSize ≤ maxKeyLen := by
  unfold truncateKey
  split
  · next h => exact h
  · exact utf8ByteSize_beginningWithin _ _

theorem truncateKey_prefix (key : String) : (truncateKey key).toList <+: key.toList := by
  unfold truncateKey
  split
  · exact List.prefix_refl _
  · rw [String.toList_ofList]
    exact beginningWithin_prefix _ _

-- ════════════════════════════════════════════════════════════════════════
-- Tokens
-- ════════════════════════════════════════════════════════════════════════

/-- The most tokens that a check leaves. -/
def mostTokens (limit : ℕ) : ℚ := F64.round (F64.round limit - 1)

/-- The tokens of a bucket that was checked. -/
def TokensKept (limit : ℕ) (bucket : F64Bucket) : Prop :=
  ∃ q, bucket.tokens = .finite q ∧ 0 ≤ q ∧ q ≤ mostTokens limit

variable {rl : RateLimiter} {hashing : KeyHashing}

theorem round_le_two_pow {n : ℕ} (h : n < 2 ^ 64) : F64.round n ≤ 2 ^ 64 := by
  have hn : (n : ℚ) ≤ 2 ^ 64 := by exact_mod_cast h.le
  exact F64.round_le_of_u64 (Nat.cast_nonneg n) hn

/-- An allowed check leaves its bucket in range. -/
theorem RateLimiter.decide_of_le (hlimit : rl.limit < 2 ^ 64) {bucket : F64Bucket} {now : ℕ}
    (h : F64.le (.finite 1) (rl.refilled bucket now)) :
    TokensKept rl.limit (rl.decide bucket now).2 := by
  obtain ⟨q, hq, h1, hle⟩ : ∃ q, rl.refilled bucket now = .finite q ∧ 1 ≤ q ∧
      q ≤ F64.round rl.limit := by
    unfold refilled limitF64 at h ⊢
    rw [F64.ofNat_of_u64 hlimit] at h ⊢
    exact F64.exists_finite_of_le_min h
  have hsub := F64.sub_one h1 (hle.trans (round_le_two_pow hlimit))
  have hdecide : (rl.decide bucket now).2 = ⟨.finite (F64.round (q - 1)), now⟩ := by
    rw [decide, if_pos h, hq, hsub]
  rw [hdecide]
  refine ⟨F64.round (q - 1), rfl, F64.round_nonneg (sub_nonneg.mpr h1), ?_⟩
  exact F64.round_mono (sub_nonneg.mpr h1) (sub_le_sub_right hle 1)

theorem RateLimiter.decide_of_not_le {bucket : F64Bucket} {now : ℕ}
    (h : ¬ F64.le (.finite 1) (rl.refilled bucket now)) : (rl.decide bucket now).2 = bucket := by
  rw [decide, if_neg h]

theorem tokensKept_decide (hlimit : rl.limit < 2 ^ 64) (bucket : F64Bucket) (now : ℕ)
    (hbucket : TokensKept rl.limit bucket) : TokensKept rl.limit (rl.decide bucket now).2 := by
  by_cases h : F64.le (.finite 1) (rl.refilled bucket now)
  · exact RateLimiter.decide_of_le hlimit h
  · rw [RateLimiter.decide_of_not_le h]
    exact hbucket

theorem elapsedSecs_self (now : ℕ) : elapsedSecs now now = .finite 0 := by
  rw [elapsedSecs, Nat.sub_self]
  decide +kernel

/-- At the reading of a bucket nothing has flowed in. -/
theorem RateLimiter.refilled_self {q r : ℚ} (hrate : rl.refillRatePerSec = .finite r)
    (hlimit : rl.limit < 2 ^ 64) (h0 : 0 ≤ q) (hq : F64.round q = q)
    (hle : q ≤ F64.round rl.limit) (now : ℕ) :
    rl.refilled ⟨.finite q, now⟩ now = .finite q := by
  have hflow : (F64.finite 0).mul (.finite r) = .finite 0 := by
    have hzero : (F64.finite 0).mul (.finite r) = F64.ofRat (0 * r) := rfl
    rw [hzero, zero_mul, F64.ofRat_of_lt le_rfl (lt_trans (by norm_num) F64.lt_overflow),
      F64.round_zero]
  have hsum : (F64.finite q).add (.finite 0) = .finite q := by
    have hadd : (F64.finite q).add (.finite 0) = F64.ofRat (q + 0) := rfl
    have hbig := (hle.trans (round_le_two_pow hlimit)).trans_lt F64.lt_overflow
    rw [hadd, add_zero, F64.ofRat_of_lt h0 hbig, hq]
  rw [refilled, elapsedSecs_self, hrate, hflow, hsum, limitF64, F64.ofNat_of_u64 hlimit]
  simp [F64.min, F64.le, hle]

/-- With a rate that is not finite a bucket is always full. -/
theorem RateLimiter.refilled_self_of_not_finite (hrate : ∀ r, rl.refillRatePerSec ≠ .finite r)
    (tokens : F64) (now : ℕ) : rl.refilled ⟨tokens, now⟩ now = rl.limitF64 := by
  have hflow : (F64.finite 0).mul rl.refillRatePerSec = .nan := by
    cases h : rl.refillRatePerSec with
    | nan => rfl
    | inf neg => rfl
    | finite r => exact absurd h (hrate r)
  have hsum : tokens.add .nan = .nan := by
    cases tokens <;> rfl
  rw [refilled, elapsedSecs_self, hflow, hsum]
  rfl

theorem RateLimiter.refilled_fresh (hlimit : rl.limit < 2 ^ 64) (now : ℕ) :
    rl.refilled (rl.bucketRules.fresh now) now = .finite (F64.round rl.limit) := by
  have hfresh : rl.bucketRules.fresh now = ⟨.finite (F64.round rl.limit), now⟩ := by
    rw [← F64.ofNat_of_u64 hlimit]
    rfl
  rw [hfresh]
  cases hrate : rl.refillRatePerSec with
  | finite r =>
    exact refilled_self hrate hlimit (F64.round_nonneg (Nat.cast_nonneg _))
      (F64.round_round (Nat.cast_nonneg _)) le_rfl now
  | nan =>
    rw [refilled_self_of_not_finite (by simp [hrate]), limitF64, F64.ofNat_of_u64 hlimit]
  | inf neg =>
    rw [refilled_self_of_not_finite (by simp [hrate]), limitF64, F64.ofNat_of_u64 hlimit]

theorem one_le_round {n : ℕ} (h : 1 ≤ n) : 1 ≤ F64.round n := by
  have hone : F64.round (1 : ℕ) = (1 : ℕ) := F64.round_natCast (by decide)
  have hle : ((1 : ℕ) : ℚ) ≤ n := by exact_mod_cast h
  have hmono := F64.round_mono (Nat.cast_nonneg 1) hle
  rw [hone] at hmono
  exact_mod_cast hmono

/-- A first check is allowed. -/
theorem tokensKept_fresh (hpos : 1 ≤ rl.limit) (hlimit : rl.limit < 2 ^ 64) (now : ℕ) :
    TokensKept rl.limit (rl.decide (rl.bucketRules.fresh now) now).2 := by
  apply RateLimiter.decide_of_le hlimit
  rw [RateLimiter.refilled_fresh hlimit]
  exact decide_eq_true (one_le_round hpos)

/-- Up to a limit of `2 ^ 53 + 2` a check leaves a token less than the limit. -/
theorem mostTokens_le {limit : ℕ} (h1 : 1 ≤ limit) (h : limit ≤ 2 ^ 53 + 2) :
    mostTokens limit ≤ limit - 1 := by
  by_cases hsmall : limit ≤ 2 ^ 53
  · have hpred : (limit : ℚ) - 1 = (limit - 1 : ℕ) := by
      rw [Nat.cast_sub h1, Nat.cast_one]
    rw [mostTokens, F64.round_natCast hsmall, hpred, F64.round_natCast (by omega)]
  · obtain rfl | rfl : limit = 2 ^ 53 + 1 ∨ limit = 2 ^ 53 + 2 := by omega
    · decide +kernel
    · decide +kernel

-- ════════════════════════════════════════════════════════════════════════
-- Runs
-- ════════════════════════════════════════════════════════════════════════

/-- What holds after calls. -/
structure LimiterKept (rl : RateLimiter) (hashing : KeyHashing) (calls : List (String × ℕ))
    (shards : Fin numShards → Dict String F64Bucket) : Prop where
  bounded : ∀ i, (shards i).entries.length ≤ maxShardEntries
  keys : ∀ i, ∀ key ∈ (shards i).keys, key.utf8ByteSize ≤ maxKeyLen ∧
    ∃ c ∈ calls, key = truncateKey c.1 ∧ key.toList <+: c.1.toList
  placed : ∀ i, ∀ key ∈ (shards i).keys, (limiterLayout hashing).shardOf key = i
  once : ∀ i, (shards i).keys.Nodup
  checked : ∀ c ∈ calls.getLast?, truncateKey c.1 ∈
    (shards ((limiterLayout hashing).shardOf (truncateKey c.1))).keys
  tokens : ∀ i key bucket, (shards i).get? key = some bucket →
    ∃ q, bucket.tokens = .finite q ∧ 0 ≤ q ∧ q ≤ mostTokens rl.limit

/-- The run as a run of the table. -/
theorem RateLimiter.run_eq_after (rl : RateLimiter) (hashing : KeyHashing)
    (calls : List (String × ℕ)) : rl.run hashing calls =
      (limiterLayout hashing).after rl.bucketRules (fun _ => .empty)
        (calls.map fun c => (truncateKey c.1, c.2)) := by
  rw [run, TableLayout.after, List.foldl_map]
  rfl

/-- What the table keeps, of the limiter. -/
theorem RateLimiter.kept_run (rl : RateLimiter) (hpos : 1 ≤ rl.limit) (hlimit : rl.limit < 2 ^ 64)
    (hashing : KeyHashing) (calls : List (String × ℕ)) :
    LimiterKept rl hashing calls (rl.run hashing calls) := by
  have hcap : 0 < maxShardEntries := by decide
  have hempty : TableLayout.Kept (limiterLayout hashing) (fun _ => False) (TokensKept rl.limit)
      fun _ => .empty := .empty
  have hkept : TableLayout.Kept (limiterLayout hashing) _ (TokensKept rl.limit)
      ((limiterLayout hashing).after rl.bucketRules (fun _ => .empty)
        (calls.map fun c => (truncateKey c.1, c.2))) :=
    hempty.after hcap (tokensKept_fresh hpos hlimit) (tokensKept_decide hlimit) _
  rw [← RateLimiter.run_eq_after] at hkept
  refine ⟨hkept.bounded, fun i key hkey => ?_, hkept.placed, fun i => (rl.run hashing calls i).nodup,
    fun c hc => ?_, hkept.values⟩
  · have hin := (hkept.keys i key hkey).resolve_left id
    rw [List.map_map] at hin
    obtain ⟨c, hc, rfl⟩ := List.mem_map.mp hin
    exact ⟨utf8ByteSize_truncateKey c.1, c, hc, rfl, truncateKey_prefix c.1⟩
  · obtain ⟨pre, rfl⟩ := List.getLast?_eq_some_iff.mp hc
    rw [RateLimiter.run, List.foldl_append]
    exact TableLayout.mem_keys_access _ _ _ _ _

/-- **The limiter after any calls.** The shards stay small, every key is short, begins a key that
was checked and is in its own shard only, the key checked last is there, and the tokens of a
bucket are between zero and the limit less one, as doubles; up to a limit of `2 ^ 53 + 2` this is
at most the limit less one. -/
theorem limiterKept_run (rl : RateLimiter) (hpos : 1 ≤ rl.limit) (hlimit : rl.limit < 2 ^ 64)
    (hashing : KeyHashing) (calls : List (String × ℕ)) :
    LimiterKept rl hashing calls (rl.run hashing calls) ∧
      (rl.limit ≤ 2 ^ 53 + 2 → mostTokens rl.limit ≤ rl.limit - 1) :=
  ⟨rl.kept_run hpos hlimit hashing calls, mostTokens_le hpos⟩

/-- The hash tables of one shard, in insertion order. -/
def plainKeyHashing : KeyHashing where
  hash _ := 0
  firstKey shard := shard.keys.head?
  firstKey_isSome shard h := by simpa [List.isSome_head?] using h
  firstKey_mem shard key h := List.mem_of_head? h

/-- A limit in a second. -/
def perSecond (limit : ℕ) : RateLimiter :=
  .new ⟨limit, .finite 1, .ip⟩

theorem limiterKept_ten : LimiterKept (perSecond 10) plainKeyHashing [("client", 0), ("client", 5)]
    ((perSecond 10).run plainKeyHashing [("client", 0), ("client", 5)]) ∧
      ((perSecond 10).limit ≤ 2 ^ 53 + 2 → mostTokens (perSecond 10).limit ≤ 10 - 1) :=
  limiterKept_run (perSecond 10) (by decide) (by decide) plainKeyHashing
    [("client", 0), ("client", 5)]

/-- A limit that is not rounded, but the limit less one is: the first check leaves as many tokens
as it finds. -/
theorem large_limit_exceeded :
    (perSecond (2 ^ 53 + 4)).limit = 2 ^ 53 + 4 ∧
    ∃ bucket, ((perSecond (2 ^ 53 + 4)).run plainKeyHashing [("client", 0)]
      ⟨0, by decide⟩).get? "client" =
        some bucket ∧
      ¬ ∃ q, bucket.tokens = .finite q ∧ 0 ≤ q ∧
        q ≤ ((perSecond (2 ^ 53 + 4)).limit : ℚ) - 1 := by
  have hbucket : ((perSecond (2 ^ 53 + 4)).run plainKeyHashing [("client", 0)]
      ⟨0, by decide⟩).get? "client" =
      some ⟨.finite (2 ^ 53 + 4), 0⟩ := by decide +kernel
  refine ⟨rfl, _, hbucket, ?_⟩
  rintro ⟨q, hq, -, hle⟩
  obtain rfl := F64.finite.inj hq
  have hlimit : ((perSecond (2 ^ 53 + 4)).limit : ℚ) = 2 ^ 53 + 4 := by decide +kernel
  rw [hlimit] at hle
  linarith

end OxyRoute
