import OxyRoute.Native.Limiter

/-!
# Keys of one limiter

The calls of a key are decided in the bucket of what is kept of it, so the calls of another key
matter exactly if the same is kept of both.

## Main definitions

- `RateLimiter.decisions` — what calls are told, with their keys

## Main results

- `isolated_iff` — when the calls of one key do not matter to another
- `long_keys_share` — two long keys with the same beginning
-/

namespace OxyRoute

open TableLayout

namespace RateLimiter

/-- The decisions on calls, in the order of the locks, with their keys. -/
def decisions (rl : RateLimiter) (hashing : KeyHashing) :
    (Fin numShards → Dict String F64Bucket) → List (String × ℕ) → List (String × RateLimitDecision)
  | _, [] => []
  | shards, c :: calls => (c.1, (rl.check hashing shards c.1 c.2).1) ::
      decisions rl hashing (rl.check hashing shards c.1 c.2).2 calls

/-- The rules with the key as it was passed to the call. -/
def namedRules (rl : RateLimiter) :
    EntryRules (String × ℕ) F64Bucket (String × RateLimitDecision) where
  fresh c := rl.bucketRules.fresh c.2
  apply bucket c := ((c.1, (rl.decide bucket c.2).1), (rl.decide bucket c.2).2)

end RateLimiter

/-- A call with what is kept of its key. -/
def keyed (c : String × ℕ) : String × (String × ℕ) := (truncateKey c.1, c)

variable {rl : RateLimiter} {hashing : KeyHashing} {key key' : String}

/-- The decisions are the answers of the table. -/
theorem decisions_eq (shards : Fin numShards → Dict String F64Bucket)
    (calls : List (String × ℕ)) : rl.decisions hashing shards calls =
      ((limiterLayout hashing).answers rl.namedRules shards (calls.map keyed)).map Prod.snd := by
  induction calls generalizing shards with
  | nil => rfl
  | cons c calls ih =>
    rw [RateLimiter.decisions, ih]
    rfl

/-- An answer has the key of its call. -/
theorem keys_answers (shards : Fin numShards → Dict String F64Bucket)
    (calls : List (String × ℕ)) : ∀ d ∈ (limiterLayout hashing).answers rl.namedRules shards
      (calls.map keyed), d.1 = truncateKey d.2.1 := by
  induction calls generalizing shards with
  | nil => simp [answers]
  | cons c calls ih =>
    intro d hd
    rcases List.mem_cons.mp hd with rfl | hd
    · rfl
    · exact ih _ d hd

/-- The decisions on the calls of a key come from the calls of which the same is kept. -/
theorem only_decisions {calls : List (String × ℕ)}
    (hfits : (limiterLayout hashing).Fits (calls.map fun c => truncateKey c.1)) (key : String) :
    only key (rl.decisions hashing (fun _ => .empty) calls) =
      only key (rl.namedRules.solo none (only (truncateKey key) (calls.map keyed))) := by
  have hkeys : (calls.map keyed).map Prod.fst = calls.map fun c => truncateKey c.1 := by
    rw [List.map_map]
    rfl
  rw [← hkeys] at hfits
  rw [← answersTo_eq_solo hfits, decisions_eq, only, only, only, List.filter_map, List.map_map,
    List.filter_map, List.map_map, List.filter_filter]
  congr 1
  apply List.filter_congr
  intro d hd
  have hkey := keys_answers _ calls d hd
  by_cases h : d.2.1 = key
  · simp [h, hkey]
  · simp [h]

/-- With the same beginning kept of both, the first key takes the token of the second. -/
theorem first_key_takes_token {key key' : String} (hne : key ≠ key')
    (heq : truncateKey key = truncateKey key') :
    (limiterLayout plainKeyHashing).Fits
        ([(key, 0), (key', 0)].map fun c : String × ℕ => truncateKey c.1) ∧
      only key' ((perSecond 1).decisions plainKeyHashing (fun _ => .empty) [(key, 0), (key', 0)]) =
        [.denied 1 1] ∧
      only key' ((perSecond 1).decisions plainKeyHashing (fun _ => .empty)
        ([(key, 0), (key', 0)].filter (·.1 ≠ key))) = [.allowed 1 0 1] := by
  have hfits : (limiterLayout plainKeyHashing).Fits
      ([(key, 0), (key', 0)].map fun c : String × ℕ => truncateKey c.1) := by
    intro i
    have hlen : ([truncateKey key, truncateKey key'].filter
        ((limiterLayout plainKeyHashing).shardOf · = i)).dedup.length ≤ 2 :=
      ((List.dedup_sublist _).length_le).trans (List.length_filter_le _ _)
    exact hlen.trans (by decide)
  have hrest : ([(key, 0), (key', 0)] : List (String × ℕ)).filter (·.1 ≠ key) = [(key', 0)] := by
    simp [hne.symm]
  have hfits' : (limiterLayout plainKeyHashing).Fits
      ([(key', 0)].map fun c : String × ℕ => truncateKey c.1) := hfits.subset (by simp)
  have hfirst : (perSecond 1).decide ⟨(perSecond 1).limitF64, 0⟩ 0 =
      (.allowed 1 0 1, ⟨.finite 0, 0⟩) := by decide +kernel
  have hsecond : (perSecond 1).decide ⟨.finite 0, 0⟩ 0 = (.denied 1 1, ⟨.finite 0, 0⟩) := by
    decide +kernel
  refine ⟨hfits, ?_, ?_⟩
  · rw [only_decisions hfits]
    simp [only, keyed, heq, EntryRules.solo, RateLimiter.namedRules, RateLimiter.bucketRules,
      hfirst, hsecond, hne]
  · rw [hrest, only_decisions hfits']
    simp [only, keyed, EntryRules.solo, RateLimiter.namedRules, RateLimiter.bucketRules, hfirst]

/-- **Isolation.** The calls of a key never matter to another key, in any run that fits into the
shards and for any limiter, exactly if different beginnings are kept of the two. -/
theorem isolated_iff {key key' : String} (hne : key ≠ key') :
    (∀ (rl : RateLimiter) (hashing : KeyHashing) (calls : List (String × ℕ)),
      (limiterLayout hashing).Fits (calls.map fun c => truncateKey c.1) →
      only key' (rl.decisions hashing (fun _ => .empty) calls) =
        only key' (rl.decisions hashing (fun _ => .empty) (calls.filter (·.1 ≠ key)))) ↔
    truncateKey key ≠ truncateKey key' := by
  constructor
  · intro hall heq
    obtain ⟨hfits, hdenied, hallowed⟩ := first_key_takes_token hne heq
    have hsame := hall (perSecond 1) plainKeyHashing [(key, 0), (key', 0)] hfits
    rw [hdenied, hallowed] at hsame
    simp at hsame
  · intro hkept rl hashing calls hfits
    have hfits' : (limiterLayout hashing).Fits
        ((calls.filter (·.1 ≠ key)).map fun c => truncateKey c.1) :=
      hfits.subset (List.map_subset _ List.filter_sublist.subset)
    rw [only_decisions hfits, only_decisions hfits']
    congr 2
    rw [only, only, List.filter_map, List.filter_map, List.filter_filter]
    congr 2
    apply List.filter_congr
    intro c _
    by_cases h : truncateKey c.1 = truncateKey key'
    · have hc : c.1 ≠ key := by
        rintro rfl
        exact hkept h
      simp [keyed, h, hc]
    · simp [keyed, h]

/-- The addresses of two clients. -/
theorem addresses_isolated : truncateKey "1.2.3.4" = "1.2.3.4" ∧
    ∀ (rl : RateLimiter) (hashing : KeyHashing) (calls : List (String × ℕ)),
      (limiterLayout hashing).Fits (calls.map fun c => truncateKey c.1) →
      only "5.6.7.8" (rl.decisions hashing (fun _ => .empty) calls) =
        only "5.6.7.8" (rl.decisions hashing (fun _ => .empty) (calls.filter (·.1 ≠ "1.2.3.4"))) :=
  ⟨by decide, (isolated_iff (by decide)).mpr (by decide)⟩

/-- Ascii letters, and one more character. -/
theorem beginningWithin_replicate (n : ℕ) (c : Char) :
    beginningWithin n (List.replicate n 'x' ++ [c]) = List.replicate n 'x' := by
  induction n with
  | zero =>
    have hsize : ¬ c.utf8Size ≤ 0 := Nat.not_le.mpr c.utf8Size_pos
    rw [List.replicate_zero, List.nil_append, beginningWithin, if_neg hsize]
  | succ n ih =>
    have hsize : 'x'.utf8Size = 1 := rfl
    rw [List.replicate_succ, List.cons_append, beginningWithin, hsize, if_pos (by omega),
      Nat.add_sub_cancel, ih]

theorem utf8ByteSize_replicate (n : ℕ) (c : Char) :
    n < (String.ofList (List.replicate n 'x' ++ [c])).utf8ByteSize := by
  induction n with
  | zero =>
    rw [List.replicate_zero, List.nil_append, ← String.singleton_eq_ofList,
      String.utf8ByteSize_singleton]
    exact c.utf8Size_pos
  | succ n ih =>
    have hsize : 'x'.utf8Size = 1 := rfl
    rw [List.replicate_succ, List.cons_append, String.ofList_cons, String.utf8ByteSize_append,
      String.utf8ByteSize_singleton, hsize]
    omega

/-- A key of at least 257 bytes. -/
def longKey (last : Char) : String := String.ofList (List.replicate maxKeyLen 'x' ++ [last])

theorem truncateKey_longKey (c : Char) :
    truncateKey (longKey c) = String.ofList (List.replicate maxKeyLen 'x') := by
  have hlong := utf8ByteSize_replicate maxKeyLen c
  rw [truncateKey, longKey, if_neg (Nat.not_le.mpr hlong), String.toList_ofList,
    beginningWithin_replicate]

theorem longKey_injective {c c' : Char} (h : longKey c = longKey c') : c = c' := by
  have happend := String.ofList_injective h
  exact List.singleton_injective (List.append_cancel_left happend)
/-- Two keys that differ in their last character: a call of the one makes the other be denied. -/
theorem long_keys_share : longKey 'a' ≠ longKey 'b' ∧
    (limiterLayout plainKeyHashing).Fits
      ([(longKey 'a', 0), (longKey 'b', 0)].map fun c : String × ℕ => truncateKey c.1) ∧
    only (longKey 'b') ((perSecond 1).decisions plainKeyHashing (fun _ => .empty)
      [(longKey 'a', 0), (longKey 'b', 0)]) ≠
    only (longKey 'b') ((perSecond 1).decisions plainKeyHashing (fun _ => .empty)
      ([(longKey 'a', 0), (longKey 'b', 0)].filter (·.1 ≠ longKey 'a'))) := by
  have hne : longKey 'a' ≠ longKey 'b' := by
    intro h
    exact absurd (longKey_injective h) (by decide)
  have heq : truncateKey (longKey 'a') = truncateKey (longKey 'b') := by
    rw [truncateKey_longKey, truncateKey_longKey]
  obtain ⟨hfits, hdenied, hallowed⟩ := first_key_takes_token hne heq
  refine ⟨hne, hfits, ?_⟩
  rw [hdenied, hallowed]
  simp

end OxyRoute
