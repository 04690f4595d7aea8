import OxyRoute.Native.Isolation
import OxyRoute.Native.RateStrings

/-!
# What a rate means

The limiter of an accepted rate is to refill at a finite positive rate and to deny once its tokens
are taken. A window may be no number or too short for that, and a limit may be so large that
taking a token leaves as many as before.

## Main definitions

- `RateContract` — what a rate string is to mean
- `RateInRange` — the rates that mean it

## Main results

- `rateContract_iff` — when a rate string means what it is to mean
- `nan_window_accepted` — a window that is not a number
-/

namespace OxyRoute

open TableLayout

/-- A rate as it is to be written: a positive count in a finite positive window. -/
structure DocumentedRate (rateStr : String) (n : ℕ) (q : ℚ) : Prop where
  written : WrittenRate rateStr n (.finite q)
  count_pos : 1 ≤ n
  window_pos : 0 < q

/-- The limiter refills, and of the checks of a key at one instant it denies the one after as many
as the limit. -/
structure Limits (rl : RateLimiter) : Prop where
  refills : ∃ r, rl.refillRatePerSec = .finite r ∧ 0 < r
  denies : ∀ (hashing : KeyHashing) (key : String) (now : ℕ), ∃ secs,
    (only key (rl.decisions hashing (fun _ => .empty)
      (List.replicate (rl.limit + 1) (key, now))))[rl.limit]? = some (.denied rl.limit secs)

/-- What a rate string is to mean: it is accepted if it is written as a rate, with the limit and
window that are written, and a limiter of it limits. -/
structure RateContract (rateStr : String) (keyStr : Option String) : Prop where
  accepted : (∃ cfg, RateLimitConfig.parse rateStr keyStr = .ok cfg) ↔
    ∃ n q, DocumentedRate rateStr n q
  limits : ∀ cfg, RateLimitConfig.parse rateStr keyStr = .ok cfg →
    ∃ q, DocumentedRate rateStr cfg.limit q ∧ cfg.windowSecs = .finite q ∧
      Limits (RateLimiter.new cfg)

/-- A count in a window that is not zero or less has a finite window, which is not so short that
the rate overflows, and a count from which one can be taken. -/
def RateInRange (rateStr : String) : Prop :=
  ∀ n x, WrittenRate rateStr n x → 1 ≤ n → x.nonPositive = false →
    ∃ q, x = .finite q ∧ F64.round n / q < F64.overflow ∧ n ≤ 2 ^ 53 + 2

variable {rl : RateLimiter} {hashing : KeyHashing} {key : String}

theorem only_solo_replicate (key : String) (bucket : Option F64Bucket) (n now : ℕ) :
    only key (rl.namedRules.solo bucket (List.replicate n (key, now))) =
      rl.bucketRules.solo bucket (List.replicate n now) := by
  induction n generalizing bucket with
  | zero => rfl
  | succ n ih =>
    rw [List.replicate_succ, List.replicate_succ, EntryRules.solo, EntryRules.solo, only,
      List.filter_cons_of_pos (by simp [RateLimiter.namedRules]), List.map_cons]
    exact congrArg _ (ih _)

/-- A key that is checked alone is decided in its bucket. -/
theorem only_decisions_replicate (rl : RateLimiter) (hashing : KeyHashing) (key : String)
    (n now : ℕ) :
    only key (rl.decisions hashing (fun _ => .empty) (List.replicate n (key, now))) =
      rl.bucketRules.solo none (List.replicate n now) := by
  have hone : (limiterLayout hashing).Fits [truncateKey key] := by
    intro i
    have hlen : ([truncateKey key].filter
        ((limiterLayout hashing).shardOf · = i)).dedup.length ≤ 1 :=
      ((List.dedup_sublist _).length_le).trans (List.length_filter_le _ _)
    exact hlen.trans (by decide : 1 ≤ maxShardEntries)
  have hfits : (limiterLayout hashing).Fits
      ((List.replicate n (key, now)).map fun c => truncateKey c.1) := by
    apply hone.subset
    intro k hk
    rw [List.map_replicate] at hk
    rw [List.eq_of_mem_replicate hk]
    exact List.mem_cons_self
  have hinputs : only (truncateKey key) ((List.replicate n (key, now)).map keyed) =
      List.replicate n (key, now) := by
    simp [only, keyed, List.map_replicate]
  rw [only_decisions hfits, hinputs, only_solo_replicate]

variable {r : ℚ}

theorem decide_one_more (hrate : rl.refillRatePerSec = .finite r) (hlimit : rl.limit < 2 ^ 64)
    {q : ℚ} (h1 : 1 ≤ q) (hq : F64.round q = q) (hle : q ≤ F64.round rl.limit) (now : ℕ) :
    (∃ remaining secs, (rl.decide ⟨.finite q, now⟩ now).1 = .allowed rl.limit remaining secs) ∧
      (rl.decide ⟨.finite q, now⟩ now).2 = ⟨.finite (F64.round (q - 1)), now⟩ := by
  have hrefilled := RateLimiter.refilled_self hrate hlimit (zero_le_one.trans h1) hq hle now
  have hone : F64.le (.finite 1) (rl.refilled ⟨.finite q, now⟩ now) := by
    rw [hrefilled]
    exact decide_eq_true h1
  have hsub := F64.sub_one h1 (hle.trans (round_le_two_pow hlimit))
  rw [RateLimiter.decide, if_pos hone, hrefilled, hsub]
  exact ⟨⟨_, _, rfl⟩, rfl⟩

theorem decide_empty (hrate : rl.refillRatePerSec = .finite r) (hlimit : rl.limit < 2 ^ 64)
    (now : ℕ) : ∃ secs, rl.decide ⟨.finite 0, now⟩ now =
      (.denied rl.limit secs, ⟨.finite 0, now⟩) := by
  have hrefilled := RateLimiter.refilled_self hrate hlimit le_rfl F64.round_zero
    (F64.round_nonneg (Nat.cast_nonneg _)) now
  have hone : ¬ F64.le (.finite 1) (rl.refilled ⟨.finite 0, now⟩ now) := by
    rw [hrefilled]
    decide
  rw [RateLimiter.decide, if_neg hone]
  exact ⟨_, rfl⟩

/-- A bucket with whole tokens denies once they are taken. -/
theorem solo_denies (hrate : rl.refillRatePerSec = .finite r) (hlimit : rl.limit < 2 ^ 64)
    {k m : ℕ} (hk : k ≤ 2 ^ 53) (hle : (k : ℚ) ≤ F64.round rl.limit) (hm : k ≤ m) (now : ℕ) :
    ∃ secs, (rl.bucketRules.solo (some ⟨.finite k, now⟩) (List.replicate (m + 1) now))[m]? =
      some (.denied rl.limit secs) := by
  induction m generalizing k with
  | zero =>
    obtain rfl : k = 0 := Nat.le_zero.mp hm
    obtain ⟨secs, hdenied⟩ := decide_empty hrate hlimit now
    refine ⟨secs, ?_⟩
    simp [EntryRules.solo, RateLimiter.bucketRules, hdenied]
  | succ m ih =>
    rw [List.replicate_succ, EntryRules.solo, List.getElem?_cons_succ, Option.getD_some]
    cases k with
    | zero =>
      obtain ⟨secs, hdenied⟩ := decide_empty hrate hlimit now
      have hnext : (rl.bucketRules.apply ⟨.finite ((0 : ℕ) : ℚ), now⟩ now).2 =
          ⟨.finite ((0 : ℕ) : ℚ), now⟩ := by
        rw [Nat.cast_zero]
        exact congrArg Prod.snd hdenied
      rw [hnext]
      exact ih hk hle (Nat.zero_le m)
    | succ k =>
      have hround : F64.round ((k + 1 : ℕ) : ℚ) = (k + 1 : ℕ) := F64.round_natCast hk
      have h1 : (1 : ℚ) ≤ (k + 1 : ℕ) := by exact_mod_cast Nat.succ_pos k
      have hpred : ((k + 1 : ℕ) : ℚ) - 1 = k := by
        rw [Nat.cast_succ, add_sub_cancel_right]
      have hnext : (rl.bucketRules.apply ⟨.finite ((k + 1 : ℕ) : ℚ), now⟩ now).2 =
          ⟨.finite k, now⟩ := by
        have hdecide := (decide_one_more hrate hlimit h1 hround hle now).2
        rwa [hpred, F64.round_natCast (by omega)] at hdecide
      rw [hnext]
      have hk' : (k : ℚ) ≤ (k + 1 : ℕ) := by exact_mod_cast Nat.le_succ k
      exact ih (by omega) (hk'.trans hle) (by omega)

/-- From `2 ^ 53 + 4` tokens on, one less is rounded to no less than that. -/
theorem solo_allows (hrate : rl.refillRatePerSec = .finite r) (hlimit : rl.limit < 2 ^ 64)
    {q : ℚ} (h : 2 ^ 53 + 4 ≤ q) (hq : F64.round q = q) (hle : q ≤ F64.round rl.limit) (m now : ℕ) :
    ∃ remaining secs,
      (rl.bucketRules.solo (some ⟨.finite q, now⟩) (List.replicate (m + 1) now))[m]? =
        some (.allowed rl.limit remaining secs) := by
  induction m generalizing q with
  | zero =>
    have h1 : 1 ≤ q := le_trans (by norm_num) h
    obtain ⟨⟨remaining, secs, hallowed⟩, -⟩ := decide_one_more hrate hlimit h1 hq hle now
    refine ⟨remaining, secs, ?_⟩
    rw [List.replicate_succ, EntryRules.solo, List.getElem?_cons_zero, Option.getD_some]
    exact congrArg some hallowed
  | succ m ih =>
    have h1 : 1 ≤ q := le_trans (by norm_num) h
    have hpred : (2 ^ 53 + 3 : ℚ) ≤ q - 1 := by linarith
    have htie : F64.round (2 ^ 53 + 3) = 2 ^ 53 + 4 := by decide +kernel
    have hstay : 2 ^ 53 + 4 ≤ F64.round (q - 1) :=
      htie.ge.trans (F64.round_mono (by norm_num) hpred)
    have hless : F64.round (q - 1) ≤ q := by
      have hmono := F64.round_mono (sub_nonneg.mpr h1) (sub_le_self q zero_le_one)
      rwa [hq] at hmono
    have hnext : (rl.bucketRules.apply ⟨.finite q, now⟩ now).2 =
        ⟨.finite (F64.round (q - 1)), now⟩ := (decide_one_more hrate hlimit h1 hq hle now).2
    rw [List.replicate_succ, EntryRules.solo, List.getElem?_cons_succ, Option.getD_some, hnext]
    exact ih hstay (F64.round_round (sub_nonneg.mpr h1)) (hless.trans hle)

/-- A limiter with a finite rate denies exactly if its limit is small enough. -/
theorem denies_iff (hrate : rl.refillRatePerSec = .finite r) (hlimit : rl.limit < 2 ^ 64)
    (hashing : KeyHashing) (key : String) (now : ℕ) :
    (∃ secs, (only key (rl.decisions hashing (fun _ => .empty)
      (List.replicate (rl.limit + 1) (key, now))))[rl.limit]? = some (.denied rl.limit secs)) ↔
    rl.limit ≤ 2 ^ 53 + 2 := by
  have hfresh : rl.bucketRules.solo none (List.replicate (rl.limit + 1) now) =
      rl.bucketRules.solo (some ⟨.finite (F64.round rl.limit), now⟩)
        (List.replicate (rl.limit + 1) now) := by
    have hbucket : rl.bucketRules.fresh now = ⟨.finite (F64.round rl.limit), now⟩ := by
      rw [← F64.ofNat_of_u64 hlimit]
      rfl
    rw [List.replicate_succ, EntryRules.solo, EntryRules.solo, Option.getD_none, Option.getD_some,
      hbucket]
  have hround := F64.round_round (Nat.cast_nonneg (α := ℚ) rl.limit)
  rw [only_decisions_replicate, hfresh]
  constructor
  · rintro ⟨secs, hdenied⟩
    by_contra hlarge
    have hbig : (2 ^ 53 + 3 : ℚ) ≤ rl.limit := by
      have hnat : 2 ^ 53 + 3 ≤ rl.limit := by omega
      exact_mod_cast hnat
    have htie : F64.round (2 ^ 53 + 3) = 2 ^ 53 + 4 := by decide +kernel
    have hstart := htie.ge.trans (F64.round_mono (by norm_num) hbig)
    obtain ⟨remaining, secs', hallowed⟩ := solo_allows hrate hlimit hstart hround le_rfl rl.limit now
    rw [hallowed] at hdenied
    cases hdenied
  · intro hsmall
    by_cases hexact : rl.limit ≤ 2 ^ 53
    · rw [F64.round_natCast hexact]
      exact solo_denies hrate hlimit hexact (F64.round_natCast hexact).ge le_rfl now
    · obtain heq | heq : rl.limit = 2 ^ 53 + 1 ∨ rl.limit = 2 ^ 53 + 2 := by omega
      · have hdown : F64.round rl.limit = (2 ^ 53 : ℕ) := by
          rw [heq]
          decide +kernel
        rw [hdown]
        exact solo_denies hrate hlimit le_rfl hdown.ge (by omega) now
      · have h1 : 1 ≤ F64.round rl.limit := one_le_round (by omega)
        have hdown : F64.round (F64.round rl.limit - 1) = (2 ^ 53 : ℕ) := by
          rw [heq]
          decide +kernel
        have hle : ((2 ^ 53 : ℕ) : ℚ) ≤ F64.round rl.limit := by
          rw [heq]
          decide +kernel
        have hnext : (rl.bucketRules.apply ⟨.finite (F64.round rl.limit), now⟩ now).2 =
            ⟨.finite (2 ^ 53 : ℕ), now⟩ := by
          rw [← hdown]
          exact (decide_one_more hrate hlimit h1 hround le_rfl now).2
        have hlater : ∀ m, m = rl.limit → ∃ secs,
            (rl.bucketRules.solo (some ⟨.finite (F64.round rl.limit), now⟩)
              (List.replicate (m + 1) now))[m]? = some (.denied rl.limit secs) := by
          intro m hm
          obtain rfl : m = 2 ^ 53 + 1 + 1 := by omega
          rw [List.replicate_succ, EntryRules.solo, List.getElem?_cons_succ, Option.getD_some,
            hnext]
          exact solo_denies hrate hlimit le_rfl hle (Nat.le_succ _) now
        exact hlater rl.limit rfl

/-- When the limiter of an accepted rate with a finite window limits. -/
theorem limits_new_iff {cfg : RateLimitConfig} {q : ℚ} (hpos : 1 ≤ cfg.limit)
    (hlimit : cfg.limit < 2 ^ 64) (hwindow : cfg.windowSecs = .finite q) (hq : 0 < q)
    (hle : q ≤ 2 ^ (1024 : ℤ)) :
    Limits (RateLimiter.new cfg) ↔
      F64.round cfg.limit / q < F64.overflow ∧ cfg.limit ≤ 2 ^ 53 + 2 := by
  have hone := one_le_round hpos
  have hquot : 0 ≤ F64.round cfg.limit / q := div_nonneg (zero_le_one.trans hone) hq.le
  have hlimit' : (RateLimiter.new cfg).limit < 2 ^ 64 := hlimit
  have hrate : (RateLimiter.new cfg).refillRatePerSec = F64.ofRat (F64.round cfg.limit / q) := by
    rw [RateLimiter.new, hwindow, F64.ofNat_of_u64 hlimit, F64.div, if_neg hq.ne']
  by_cases hover : F64.round cfg.limit / q < F64.overflow
  · rw [F64.ofRat_of_lt hquot hover] at hrate
    rw [and_iff_right hover]
    constructor
    · intro hlimits
      exact (denies_iff hrate hlimit' plainKeyHashing "" 0).mp (hlimits.denies _ _ _)
    · intro hsmall
      refine ⟨⟨_, hrate, F64.round_div_pos hone hq hle⟩, fun hashing key now => ?_⟩
      exact (denies_iff hrate hlimit' hashing key now).mpr hsmall
  · rw [F64.ofRat_of_le (not_lt.mp hover)] at hrate
    constructor
    · rintro ⟨⟨r, hr, -⟩, -⟩
      rw [hrate] at hr
      cases hr
    · rintro ⟨hlt, -⟩
      exact absurd hlt hover

/-- **Rate strings.** For every pair of strings: a rate is accepted exactly if it is documented,
and a limiter of an accepted one limits as it says, if and only if the window is a finite number,
not so short that the rate overflows, and the limit at most `2 ^ 53 + 2`. -/
theorem rateContract_iff (rateStr : String) (keyStr : Option String) :
    RateContract rateStr keyStr ↔ RateInRange rateStr := by
  constructor
  · intro hcontract n x hwritten hpos hpositive
    obtain ⟨cfg, hlimit, hsecs, hparse⟩ : ∃ cfg : RateLimitConfig, cfg.limit = n ∧
        cfg.windowSecs = x ∧ RateLimitConfig.parse rateStr keyStr = .ok cfg :=
      ⟨⟨n, x, _⟩, rfl, rfl, parse_eq_ok_iff.mpr ⟨hwritten, hpos, hpositive, rfl⟩⟩
    obtain ⟨q, hdoc, hwindow, hlimits⟩ := hcontract.limits cfg hparse
    have hin := (limits_new_iff hdoc.count_pos hdoc.written.lt hwindow hdoc.window_pos
      hdoc.written.le).mp hlimits
    rw [hlimit] at hin
    exact ⟨q, hsecs.symm.trans hwindow, hin⟩
  · intro hrange
    constructor
    · constructor
      · rintro ⟨cfg, hparse⟩
        obtain ⟨hwritten, hpos, hpositive, -⟩ := parse_eq_ok_iff.mp hparse
        obtain ⟨q, hq, -⟩ := hrange _ _ hwritten hpos hpositive
        rw [hq] at hwritten hpositive
        exact ⟨_, q, hwritten, hpos, by simpa [F64.nonPositive] using hpositive⟩
      · rintro ⟨n, q, hdoc⟩
        refine ⟨⟨n, .finite q, (keyStr.map RateLimitKeyStrategy.parse).getD .ip⟩, ?_⟩
        have hpositive : (F64.finite q).nonPositive = false :=
          decide_eq_false (not_le.mpr hdoc.window_pos)
        exact parse_eq_ok_iff.mpr ⟨hdoc.written, hdoc.count_pos, hpositive, rfl⟩
    · intro cfg hparse
      obtain ⟨hwritten, hpos, hpositive, -⟩ := parse_eq_ok_iff.mp hparse
      obtain ⟨q, hq, hin⟩ := hrange _ _ hwritten hpos hpositive
      have hlimit := hwritten.lt
      rw [hq] at hwritten hpositive
      have hwindow : 0 < q := by simpa [F64.nonPositive] using hpositive
      exact ⟨q, ⟨hwritten, hpos, hwindow⟩, hq,
        (limits_new_iff hpos hlimit hq hwindow hwritten.le).mpr hin⟩

/-- A window of `nan` seconds is not zero or less, so it is accepted. -/
theorem nan_window_accepted :
    RateLimitConfig.parse "1/nans" none = .ok ⟨1, .nan, .ip⟩ ∧ ¬ RateContract "1/nans" none := by
  have hparse : RateLimitConfig.parse "1/nans" none = .ok ⟨1, .nan, .ip⟩ := by decide +kernel
  refine ⟨hparse, fun hcontract => ?_⟩
  obtain ⟨q, -, hwindow, -⟩ := hcontract.limits _ hparse
  cases hwindow

end OxyRoute
