import Mathlib.Data.List.Dedup
import Mathlib.Data.List.Perm.Subperm
import Mathlib.Logic.Function.Basic
import OxyRoute.Lib.Dict

/-!
# Bounded tables

A table of entries in shards. A key has its place in one shard, and a shard that is full gives up
one of its entries to a new key.

## Main definitions

- `TableLayout` — the shards, and which entry is given up
- `EntryRules` — a new entry, and what an input makes of an entry
- `TableLayout.access` — an input for a key
- `EntryRules.solo` — the answers to the inputs of a key that has the table to itself

## Main results

- `TableLayout.Kept.access` — what an access keeps
- `TableLayout.answersTo_eq_solo` — keys that fit into the table do not interfere
-/

/-- The shards of a table, how many entries one may hold, and which one it gives up. -/
structure TableLayout (ι κ ν : Type*) [DecidableEq κ] where
  capacity : ℕ
  shardOf : κ → ι
  victim : Dict κ ν → Option κ
  victim_isSome : ∀ d : Dict κ ν, d.keys ≠ [] → (victim d).isSome
  victim_mem : ∀ (d : Dict κ ν) (k : κ), victim d = some k → k ∈ d.keys

/-- The entry a first input finds, and what an input answers and leaves. -/
structure EntryRules (α ν δ : Type*) where
  fresh : α → ν
  apply : ν → α → δ × ν

/-- The answers to inputs, from an entry on. -/
def EntryRules.solo {α ν δ : Type*} (rules : EntryRules α ν δ) : Option ν → List α → List δ
  | _, [] => []
  | v, a :: as =>
    (rules.apply (v.getD (rules.fresh a)) a).1 ::
      solo rules (some (rules.apply (v.getD (rules.fresh a)) a).2) as

namespace TableLayout

variable {ι κ ν α δ : Type*} [DecidableEq ι] [DecidableEq κ]

/-- A shard with room for a key. -/
def makeRoom (L : TableLayout ι κ ν) (d : Dict κ ν) (k : κ) : Dict κ ν :=
  if (d.get? k).isNone ∧ L.capacity ≤ d.entries.length then
    match L.victim d with
    | some old => d.filter fun k' _ => k' ≠ old
    | none => d
  else d

/-- An input for a key: its answer, and the table after it. -/
def access (L : TableLayout ι κ ν) (rules : EntryRules α ν δ) (t : ι → Dict κ ν) (k : κ) (a : α) :
    δ × (ι → Dict κ ν) :=
  let d := t (L.shardOf k)
  let out := rules.apply ((d.get? k).getD (rules.fresh a)) a
  (out.1, Function.update t (L.shardOf k) ((L.makeRoom d k).set k out.2))

/-- The table after inputs. -/
def after (L : TableLayout ι κ ν) (rules : EntryRules α ν δ) (t : ι → Dict κ ν)
    (inputs : List (κ × α)) : ι → Dict κ ν :=
  inputs.foldl (fun t i => (L.access rules t i.1 i.2).2) t

/-- The answers to inputs, with their keys. -/
def answers (L : TableLayout ι κ ν) (rules : EntryRules α ν δ) :
    (ι → Dict κ ν) → List (κ × α) → List (κ × δ)
  | _, [] => []
  | t, i :: inputs => (i.1, (L.access rules t i.1 i.2).1) ::
      answers L rules (L.access rules t i.1 i.2).2 inputs

/-- The inputs, or the answers, of one key. -/
def only {β : Type*} (k : κ) (l : List (κ × β)) : List β := (l.filter (·.1 = k)).map Prod.snd

/-- No shard has more keys than it may hold. -/
def Fits (L : TableLayout ι κ ν) (ks : List κ) : Prop :=
  ∀ i, (ks.filter (L.shardOf · = i)).dedup.length ≤ L.capacity

-- ════════════════════════════════════════════════════════════════════════
-- One access
-- ════════════════════════════════════════════════════════════════════════

variable {L : TableLayout ι κ ν} {rules : EntryRules α ν δ} {t : ι → Dict κ ν} {k : κ} {a : α}

omit [DecidableEq ι] in
theorem keys_makeRoom_subset (d : Dict κ ν) (k : κ) : (L.makeRoom d k).keys ⊆ d.keys := by
  unfold makeRoom
  split
  · split
    · exact (List.filter_sublist.map _).subset
    · exact List.Subset.refl _
  · exact List.Subset.refl _

omit [DecidableEq ι] in
/-- There is room for the key. -/
theorem length_makeRoom_set (hcap : 0 < L.capacity) {d : Dict κ ν}
    (h : d.entries.length ≤ L.capacity) (k : κ) (v : ν) :
    ((L.makeRoom d k).set k v).entries.length ≤ L.capacity := by
  rw [Dict.length_set]
  by_cases hk : k ∈ d.keys
  · have hsome : ¬ ((d.get? k).isNone ∧ L.capacity ≤ d.entries.length) := by
      rw [Option.isNone_iff_eq_none, Dict.get?_eq_none_iff]
      exact fun hno => hno.1 hk
    rw [makeRoom, if_neg hsome, if_pos hk]
    exact h
  · have hnew : k ∉ (L.makeRoom d k).keys := fun hin => hk (keys_makeRoom_subset d k hin)
    have hnone : (d.get? k).isNone := by
      rwa [Option.isNone_iff_eq_none, Dict.get?_eq_none_iff]
    rw [if_neg hnew]
    by_cases hfull : L.capacity ≤ d.entries.length
    · have hkeys : d.keys ≠ [] := by
        rw [Dict.keys, Ne, List.map_eq_nil_iff]
        rintro hnil
        rw [hnil, List.length_nil] at hfull
        omega
      obtain ⟨old, hold⟩ := Option.isSome_iff_exists.mp (L.victim_isSome d hkeys)
      obtain ⟨e, he, rfl⟩ := List.mem_map.mp (L.victim_mem d old hold)
      have hlt : (d.entries.filter fun e' => e'.1 ≠ e.1).length < d.entries.length :=
        List.length_filter_lt_length_iff_exists.mpr ⟨e, he, by simp⟩
      rw [makeRoom, if_pos ⟨hnone, hfull⟩, hold]
      simp only [Dict.filter] at hlt ⊢
      omega
    · rw [makeRoom, if_neg fun hno => hfull hno.2]
      omega

/-- What a table keeps: no shard grows too large, every key is in its own shard, and keys and
entries have their properties. -/
structure Kept (L : TableLayout ι κ ν) (P : κ → Prop) (Q : ν → Prop) (t : ι → Dict κ ν) : Prop where
  bounded : ∀ i, (t i).entries.length ≤ L.capacity
  placed : ∀ i, ∀ k ∈ (t i).keys, L.shardOf k = i
  keys : ∀ i, ∀ k ∈ (t i).keys, P k
  values : ∀ i k v, (t i).get? k = some v → Q v

variable {P P' : κ → Prop} {Q : ν → Prop}

omit [DecidableEq ι] in
theorem Kept.empty : Kept L P Q fun _ => .empty where
  bounded _ := Nat.zero_le _
  placed _ _ h := absurd h List.not_mem_nil
  keys _ _ h := absurd h List.not_mem_nil
  values _ _ _ h := by cases h

omit [DecidableEq ι] in
theorem Kept.mono (h : Kept L P Q t) (hP : ∀ k, P k → P' k) : Kept L P' Q t where
  bounded := h.bounded
  placed := h.placed
  keys i k hk := hP k (h.keys i k hk)
  values := h.values

theorem access_snd_self (L : TableLayout ι κ ν) (rules : EntryRules α ν δ) (t : ι → Dict κ ν)
    (k : κ) (a : α) : (L.access rules t k a).2 (L.shardOf k) =
      (L.makeRoom (t (L.shardOf k)) k).set k
        (rules.apply (((t (L.shardOf k)).get? k).getD (rules.fresh a)) a).2 :=
  Function.update_self _ _ _

theorem access_snd_of_ne {i : ι} (h : i ≠ L.shardOf k) :
    (L.access rules t k a).2 i = t i :=
  Function.update_of_ne h _ _

/-- The key that was accessed is in the table. -/
theorem mem_keys_access (L : TableLayout ι κ ν) (rules : EntryRules α ν δ) (t : ι → Dict κ ν)
    (k : κ) (a : α) : k ∈ ((L.access rules t k a).2 (L.shardOf k)).keys := by
  rw [access_snd_self, Dict.mem_keys_iff, Dict.get?_set, if_pos rfl]
  rfl

theorem mem_keys_of_access {i : ι} {k' : κ} (h : k' ∈ ((L.access rules t k a).2 i).keys) :
    k' ∈ (t i).keys ∨ k' = k ∧ i = L.shardOf k := by
  by_cases hi : i = L.shardOf k
  · rw [hi, access_snd_self, Dict.keys_set] at h
    split at h
    · left
      rw [hi]
      exact keys_makeRoom_subset _ _ h
    · rcases List.mem_append.mp h with h | h
      · left
        rw [hi]
        exact keys_makeRoom_subset _ _ h
      · exact Or.inr ⟨List.mem_singleton.mp h, hi⟩
  · rw [access_snd_of_ne hi] at h
    exact Or.inl h

omit [DecidableEq ι] in
theorem get?_makeRoom {d : Dict κ ν} {k' : κ} {v : ν} (h : (L.makeRoom d k).get? k' = some v) :
    d.get? k' = some v := by
  unfold makeRoom at h
  split at h
  · split at h
    · rw [Dict.get?_filter] at h
      exact (Option.filter_eq_some_iff.mp h).1
    · exact h
  · exact h

/-- What one access keeps. -/
theorem Kept.access (h : Kept L P Q t) (hcap : 0 < L.capacity) (hk : P k)
    (hfresh : ∀ a, Q (rules.apply (rules.fresh a) a).2)
    (happly : ∀ v a, Q v → Q (rules.apply v a).2) (a : α) :
    Kept L P Q (L.access rules t k a).2 where
  bounded i := by
    by_cases hi : i = L.shardOf k
    · rw [hi, access_snd_self]
      exact length_makeRoom_set hcap (h.bounded _) _ _
    · rw [access_snd_of_ne hi]
      exact h.bounded i
  placed i k' hk' := by
    rcases mem_keys_of_access hk' with hold | ⟨rfl, rfl⟩
    · exact h.placed i k' hold
    · rfl
  keys i k' hk' := by
    rcases mem_keys_of_access hk' with hold | ⟨rfl, rfl⟩
    · exact h.keys i k' hold
    · exact hk
  values i k' v hv := by
    by_cases hi : i = L.shardOf k
    · rw [hi, access_snd_self, Dict.get?_set] at hv
      by_cases hk' : k' = k
      · rw [if_pos hk'] at hv
        obtain rfl := Option.some.inj hv
        cases hget : (t (L.shardOf k)).get? k with
        | none =>
          rw [Option.getD_none]
          exact hfresh a
        | some v =>
          rw [Option.getD_some]
          exact happly v a (h.values _ k v hget)
      · rw [if_neg hk'] at hv
        exact h.values _ k' v (get?_makeRoom hv)
    · rw [access_snd_of_ne hi] at hv
      exact h.values i k' v hv

/-- What a run keeps: the keys in the table were accessed. -/
theorem Kept.after (h : Kept L P Q t) (hcap : 0 < L.capacity)
    (hfresh : ∀ a, Q (rules.apply (rules.fresh a) a).2)
    (happly : ∀ v a, Q v → Q (rules.apply v a).2) (inputs : List (κ × α)) :
    Kept L (fun k => P k ∨ k ∈ inputs.map Prod.fst) Q (L.after rules t inputs) := by
  induction inputs generalizing t P with
  | nil => exact h.mono fun _ => Or.inl
  | cons i inputs ih =>
    have hold : Kept L (fun k => P k ∨ k = i.1) Q t := h.mono fun _ => Or.inl
    have hstep : Kept L (fun k => P k ∨ k = i.1) Q (L.access rules t i.1 i.2).2 :=
      hold.access hcap (Or.inr rfl) hfresh happly i.2
    apply (ih hstep).mono
    rintro k ((hk | rfl) | hk)
    · exact Or.inl hk
    · exact Or.inr List.mem_cons_self
    · exact Or.inr (List.mem_cons_of_mem _ hk)

-- ════════════════════════════════════════════════════════════════════════
-- Keys that do not interfere
-- ════════════════════════════════════════════════════════════════════════

/-- The keys of a table are among some that fit, each in its shard. -/
def Within (L : TableLayout ι κ ν) (ks : List κ) (t : ι → Dict κ ν) : Prop :=
  ∀ i, ∀ k ∈ (t i).keys, k ∈ ks ∧ L.shardOf k = i

theorem Within.access {ks : List κ} (h : Within L ks t) (hk : k ∈ ks) (a : α) :
    Within L ks (L.access rules t k a).2 := by
  intro i k' hk'
  rcases mem_keys_of_access hk' with hold | ⟨rfl, rfl⟩
  · exact h i k' hold
  · exact ⟨hk, rfl⟩

/-- Where the keys fit, none is given up. -/
theorem Within.makeRoom_eq {ks : List κ} (h : Within L ks t) (hfits : L.Fits ks) (hk : k ∈ ks) :
    L.makeRoom (t (L.shardOf k)) k = t (L.shardOf k) := by
  rw [makeRoom, if_neg]
  rintro ⟨hnone, hfull⟩
  rw [Option.isNone_iff_eq_none, Dict.get?_eq_none_iff] at hnone
  have hsub : k :: (t (L.shardOf k)).keys ⊆
      (ks.filter (L.shardOf · = L.shardOf k)).dedup := by
    intro k' hk'
    rw [List.mem_dedup, List.mem_filter, decide_eq_true_eq]
    rcases List.mem_cons.mp hk' with rfl | hk'
    · exact ⟨hk, rfl⟩
    · exact h _ k' hk'
  have hnodup : (k :: (t (L.shardOf k)).keys).Nodup :=
    List.nodup_cons.mpr ⟨hnone, (t (L.shardOf k)).nodup⟩
  have hlen := (List.subperm_of_subset hnodup hsub).length_le
  rw [List.length_cons, Dict.keys, List.length_map] at hlen
  have hcap := hfits (L.shardOf k)
  omega

/-- An input for a key changes its entry and no other. -/
theorem get?_access {ks : List κ} (h : Within L ks t) (hfits : L.Fits ks) (hk : k ∈ ks) (k' : κ) :
    ((L.access rules t k a).2 (L.shardOf k')).get? k' =
      if k' = k then some (rules.apply (((t (L.shardOf k)).get? k).getD (rules.fresh a)) a).2
      else (t (L.shardOf k')).get? k' := by
  by_cases hi : L.shardOf k' = L.shardOf k
  · rw [hi, access_snd_self, h.makeRoom_eq hfits hk, Dict.get?_set]
  · have hne : k' ≠ k := fun heq => hi (congrArg L.shardOf heq)
    rw [access_snd_of_ne hi, if_neg hne]

theorem Fits.subset {ks ks' : List κ} (h : L.Fits ks) (hsub : ks' ⊆ ks) : L.Fits ks' := by
  intro i
  have hdedup : (ks'.filter (L.shardOf · = i)).dedup ⊆ (ks.filter (L.shardOf · = i)).dedup := by
    intro k hk
    rw [List.mem_dedup, List.mem_filter] at hk ⊢
    exact ⟨hsub hk.1, hk.2⟩
  have hlen := (List.subperm_of_subset (List.nodup_dedup _) hdedup).length_le
  exact Nat.le_trans hlen (h i)

/-- The answers to the inputs of a key are those it gets alone. -/
theorem only_answers {ks : List κ} (h : Within L ks t) (hfits : L.Fits ks)
    {inputs : List (κ × α)} (hin : ∀ i ∈ inputs, i.1 ∈ ks) (k : κ) :
    only k (L.answers rules t inputs) =
      rules.solo ((t (L.shardOf k)).get? k) (only k inputs) := by
  induction inputs generalizing t with
  | nil => rfl
  | cons i inputs ih =>
    have hi := hin i List.mem_cons_self
    have hnext : Within L ks (L.access rules t i.1 i.2).2 := h.access hi i.2
    have hrest := ih hnext fun j hj => hin j (List.mem_cons_of_mem _ hj)
    rw [get?_access h hfits hi] at hrest
    by_cases hk : i.1 = k
    · subst hk
      rw [if_pos rfl] at hrest
      rw [answers, only, List.filter_cons_of_pos (by simp), List.map_cons, only,
        List.filter_cons_of_pos (by simp), List.map_cons, EntryRules.solo]
      exact congrArg _ hrest
    · rw [if_neg fun heq => hk heq.symm] at hrest
      rw [answers, only, List.filter_cons_of_neg (by simpa using hk), only,
        List.filter_cons_of_neg (by simpa using hk)]
      exact hrest

/-- In a run whose keys fit, the answers to the inputs of a key are those it gets alone. -/
theorem answersTo_eq_solo {inputs : List (κ × α)} (hfits : L.Fits (inputs.map Prod.fst)) (k : κ) :
    only k (L.answers rules (fun _ => .empty) inputs) = rules.solo none (only k inputs) := by
  have hwithin : Within L (inputs.map Prod.fst) fun _ => (.empty : Dict κ ν) :=
    fun _ _ hk => absurd hk List.not_mem_nil
  rw [only_answers hwithin hfits (fun i hi => List.mem_map_of_mem hi) k, Dict.get?_empty]

end TableLayout
