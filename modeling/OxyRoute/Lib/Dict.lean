import Mathlib.Data.List.Nodup

/-!
# Insertion-ordered dictionaries

A dictionary is a list of bindings with pairwise distinct keys. Assigning to a present key
overwrites the value in place, assigning to a new key appends a binding, and merging assigns
the bindings of the right operand one after the other. Lookups are characterised by one simp
lemma for each operation, so users never unfold the list.

## Main definitions

- `Dict` — bindings with distinct keys
- `Dict.get?`, `Dict.set` — lookup and assignment
- `Dict.update` — merge, the right operand wins
- `Dict.filter` — restriction to the bindings that satisfy a predicate
- `Dict.mapWithKey` — the same keys with new values
-/

/-- Insertion-ordered bindings, at most one for each key. -/
structure Dict (κ ν : Type*) where
  entries : List (κ × ν)
  nodup : (entries.map Prod.fst).Nodup

namespace Dict

variable {κ ν : Type*} [DecidableEq κ]

/-- The dictionary without bindings. -/
def empty : Dict κ ν := ⟨[], List.nodup_nil⟩

/-- The value bound to a key. -/
def get? (d : Dict κ ν) (k : κ) : Option ν :=
  (d.entries.find? fun e => e.1 = k).map Prod.snd

/-- The keys in insertion order. -/
def keys (d : Dict κ ν) : List κ := d.entries.map Prod.fst

/-- The bindings after assigning `v` to `k`. -/
def setEntries (k : κ) (v : ν) : List (κ × ν) → List (κ × ν)
  | [] => [(k, v)]
  | e :: es => if e.1 = k then (k, v) :: es else e :: setEntries k v es

theorem keys_setEntries (k : κ) (v : ν) (es : List (κ × ν)) :
    (setEntries k v es).map Prod.fst =
      if k ∈ es.map Prod.fst then es.map Prod.fst else es.map Prod.fst ++ [k] := by
  induction es with
  | nil => simp [setEntries]
  | cons e es ih =>
    by_cases he : e.1 = k
    · simp [setEntries, he]
    · have hk : k ≠ e.1 := fun h => he h.symm
      simp only [setEntries, he, if_false, List.map_cons, ih, List.mem_cons, hk, false_or]
      split <;> rfl

theorem find?_setEntries (k k' : κ) (v : ν) (es : List (κ × ν)) :
    ((setEntries k v es).find? fun e => e.1 = k').map Prod.snd =
      if k' = k then some v else (es.find? fun e => e.1 = k').map Prod.snd := by
  induction es with
  | nil =>
    by_cases h : k' = k
    · simp [setEntries, h]
    · have hk : k ≠ k' := fun hh => h hh.symm
      simp [setEntries, h, hk]
  | cons e es ih =>
    by_cases he : e.1 = k
    · by_cases h : k' = k
      · simp [setEntries, he, h]
      · have hk : k ≠ k' := fun hh => h hh.symm
        simp [setEntries, h, hk, he]
    · by_cases h : e.1 = k'
      · have hk : k' ≠ k := fun hh => he (h.trans hh)
        simp [setEntries, h, hk]
      · simp only [setEntries, he, if_false, List.find?_cons, h, decide_false]
        exact ih

/-- Assignment: overwrite in place, or append a new binding. -/
def set (d : Dict κ ν) (k : κ) (v : ν) : Dict κ ν where
  entries := setEntries k v d.entries
  nodup := by
    rw [keys_setEntries]
    split
    · exact d.nodup
    · next h => exact d.nodup.append (List.nodup_singleton k) (by simpa using h)

@[simp] theorem get?_empty (k : κ) : (empty : Dict κ ν).get? k = none := rfl

@[simp] theorem get?_set (d : Dict κ ν) (k k' : κ) (v : ν) :
    (d.set k v).get? k' = if k' = k then some v else d.get? k' :=
  find?_setEntries k k' v d.entries

/-- Assign a list of bindings from left to right. -/
def setAll (d : Dict κ ν) (es : List (κ × ν)) : Dict κ ν :=
  es.foldl (fun d e => d.set e.1 e.2) d

@[simp] theorem setAll_nil (d : Dict κ ν) : d.setAll [] = d := rfl

@[simp] theorem setAll_cons (d : Dict κ ν) (e : κ × ν) (es : List (κ × ν)) :
    d.setAll (e :: es) = (d.set e.1 e.2).setAll es := rfl

theorem setAll_append (d : Dict κ ν) (es fs : List (κ × ν)) :
    d.setAll (es ++ fs) = (d.setAll es).setAll fs := List.foldl_append

/-- After a sequence of assignments the last one to a key decides its value. -/
theorem get?_setAll (d : Dict κ ν) (es : List (κ × ν)) (k : κ) :
    (d.setAll es).get? k =
      ((es.reverse.find? fun e => e.1 = k).map Prod.snd).or (d.get? k) := by
  induction es generalizing d with
  | nil => simp
  | cons e es ih =>
    rw [setAll_cons, ih, get?_set, List.reverse_cons, List.find?_append]
    cases hf : es.reverse.find? fun e => e.1 = k with
    | some x => simp
    | none =>
      by_cases hk : k = e.1
      · subst hk; simp
      · have hk' : e.1 ≠ k := fun h => hk h.symm
        simp [hk, hk']

/-- A key that no assignment mentions keeps its value. -/
theorem get?_setAll_of_notMem (d : Dict κ ν) {es : List (κ × ν)} {k : κ}
    (h : k ∉ es.map Prod.fst) : (d.setAll es).get? k = d.get? k := by
  have hn : (es.reverse.find? fun e => e.1 = k) = none := by
    rw [List.find?_eq_none]
    intro e he heq
    exact h (List.mem_map.mpr ⟨e, List.mem_reverse.mp he, of_decide_eq_true heq⟩)
  rw [get?_setAll, hn, Option.map_none, Option.none_or]

/-- The dictionary that a sequence of assignments builds. -/
def ofList (es : List (κ × ν)) : Dict κ ν := empty.setAll es

/-- The later part of a sequence of assignments decides the value of a key it mentions. -/
theorem get?_ofList_append (es fs : List (κ × ν)) (k : κ) :
    (ofList (es ++ fs)).get? k = ((ofList fs).get? k).or ((ofList es).get? k) := by
  rw [ofList, setAll_append, get?_setAll, ofList, ofList, get?_setAll _ fs, get?_empty,
    Option.or_none]

/-- A key that is assigned holds one of the values assigned to it. -/
theorem exists_get?_ofList {es : List (κ × ν)} {k : κ} (h : k ∈ es.map Prod.fst) :
    ∃ v, (k, v) ∈ es ∧ (ofList es).get? k = some v := by
  obtain ⟨e, he, hk⟩ := List.mem_map.mp h
  have hfind : (es.reverse.find? fun e => e.1 = k).isSome = true :=
    List.find?_isSome.mpr ⟨e, List.mem_reverse.mpr he, decide_eq_true hk⟩
  obtain ⟨x, hx⟩ := Option.isSome_iff_exists.mp hfind
  have hxk : x.1 = k := by simpa using List.find?_some hx
  refine ⟨x.2, ?_, ?_⟩
  · rw [← hxk]
    exact List.mem_reverse.mp (List.mem_of_find?_eq_some hx)
  · rw [ofList, get?_setAll, hx]
    rfl

/-- Merge: the bindings of the right operand are assigned last and win. -/
def update (d e : Dict κ ν) : Dict κ ν := d.setAll e.entries

theorem find?_reverse_of_nodup {es : List (κ × ν)} (h : (es.map Prod.fst).Nodup)
    (k : κ) : (es.reverse.find? fun e => e.1 = k) = es.find? fun e => e.1 = k := by
  induction es with
  | nil => rfl
  | cons e es ih =>
    rw [List.map_cons, List.nodup_cons] at h
    rw [List.reverse_cons, List.find?_append, ih h.2, List.find?_cons]
    by_cases hk : e.1 = k
    · have hn : (es.find? fun e => e.1 = k) = none := by
        rw [List.find?_eq_none]
        intro x hx heq
        exact h.1 (hk ▸ List.mem_map.mpr ⟨x, hx, of_decide_eq_true heq⟩)
      simp [hn, hk]
    · cases hf : es.find? fun e => e.1 = k <;> simp [hk, hf]

@[simp] theorem get?_update (d e : Dict κ ν) (k : κ) :
    (d.update e).get? k = (e.get? k).or (d.get? k) := by
  rw [update, get?_setAll, find?_reverse_of_nodup e.nodup]
  rfl

/-- The bindings that satisfy `p`, in order. -/
def filter (d : Dict κ ν) (p : κ → ν → Bool) : Dict κ ν where
  entries := d.entries.filter fun e => p e.1 e.2
  nodup := d.nodup.sublist (List.filter_sublist.map _)

@[simp] theorem get?_filter (d : Dict κ ν) (p : κ → ν → Bool) (k : κ) :
    (d.filter p).get? k = (d.get? k).filter (p k) := by
  obtain ⟨es, hes⟩ := d
  simp only [get?, filter]
  induction es with
  | nil => rfl
  | cons e es ih =>
    rw [List.map_cons, List.nodup_cons] at hes
    by_cases hk : e.1 = k
    · subst hk
      by_cases hp : p e.1 e.2
      · simp [hp, Option.filter_some]
      · have hn : (es.filter fun x => p x.1 x.2).find? (fun x => x.1 = e.1) = none := by
          rw [List.find?_eq_none]
          intro x hx heq
          exact hes.1 (List.mem_map.mpr
            ⟨x, (List.mem_filter.mp hx).1, of_decide_eq_true heq⟩)
        simp [hp, hn, Option.filter_some]
    · by_cases hp : p e.1 e.2
      · simpa [hp, hk] using ih hes.2
      · simpa [hp, hk] using ih hes.2

/-- The bindings with their values replaced. -/
def mapWithKey (d : Dict κ ν) (f : κ → ν → ν) : Dict κ ν where
  entries := d.entries.map fun e => (e.1, f e.1 e.2)
  nodup := by simpa [Function.comp_def] using d.nodup

@[simp] theorem get?_mapWithKey (d : Dict κ ν) (f : κ → ν → ν) (k : κ) :
    (d.mapWithKey f).get? k = (d.get? k).map (f k) := by
  obtain ⟨es, hes⟩ := d
  simp only [get?, mapWithKey, Option.map_map]
  clear hes
  induction es with
  | nil => rfl
  | cons e es ih =>
    by_cases hk : e.1 = k
    · subst hk; simp
    · simpa [hk] using ih

theorem mem_keys_iff (d : Dict κ ν) (k : κ) : k ∈ d.keys ↔ (d.get? k).isSome := by
  simp only [keys, get?, List.mem_map, Option.isSome_map, List.find?_isSome, decide_eq_true_eq]

theorem get?_eq_none_iff (d : Dict κ ν) (k : κ) : d.get? k = none ↔ k ∉ d.keys := by
  rw [mem_keys_iff, Option.isSome_iff_ne_none, not_not]

/-- A bound value comes from an entry. -/
theorem mem_entries_of_get? {d : Dict κ ν} {k : κ} {v : ν} (h : d.get? k = some v) :
    (k, v) ∈ d.entries := by
  obtain ⟨e, he, rfl⟩ := Option.map_eq_some_iff.mp h
  obtain rfl : e.1 = k := by simpa using List.find?_some he
  exact List.mem_of_find?_eq_some he

/-- An entry is what its key is bound to. -/
theorem get?_of_mem_entries {d : Dict κ ν} {k : κ} {v : ν} (h : (k, v) ∈ d.entries) :
    d.get? k = some v := by
  have hs : (d.get? k).isSome := (mem_keys_iff d k).mp (List.mem_map.mpr ⟨_, h, rfl⟩)
  obtain ⟨w, hw⟩ := Option.isSome_iff_exists.mp hs
  have heq := List.inj_on_of_nodup_map d.nodup h (mem_entries_of_get? hw) rfl
  rw [hw, (Prod.mk.inj heq).2]

-- ════════════════════════════════════════════════════════════════════════
-- Dictionaries from lists
-- ════════════════════════════════════════════════════════════════════════

/-- A binding, and the dictionary without its key. -/
theorem perm_entries {d : Dict κ ν} {k : κ} {v : ν} (h : d.get? k = some v) :
    d.entries.Perm ((k, v) :: (d.filter fun k' _ => k' ≠ k).entries) := by
  obtain ⟨l₁, l₂, hl⟩ := List.append_of_mem (mem_entries_of_get? h)
  have hnodup := d.nodup
  rw [hl, List.map_append, List.map_cons, List.nodup_middle, List.nodup_cons,
    ← List.map_append] at hnodup
  have hne : ∀ e ∈ l₁ ++ l₂, e.1 ≠ k := fun e he heq =>
    hnodup.1 (List.mem_map.mpr ⟨e, he, heq⟩)
  have hfilter : (d.filter fun k' _ => k' ≠ k).entries = l₁ ++ l₂ := by
    show d.entries.filter (fun e => decide (e.1 ≠ k)) = _
    rw [hl, List.filter_append, List.filter_cons_of_neg (by simp), ← List.filter_append]
    exact List.filter_eq_self.mpr fun e he => decide_eq_true (hne e he)
  rw [hfilter, hl]
  exact List.perm_middle

theorem keys_set (d : Dict κ ν) (k : κ) (v : ν) :
    (d.set k v).keys = if k ∈ d.keys then d.keys else d.keys ++ [k] :=
  keys_setEntries k v d.entries

theorem setEntries_of_notMem {k : κ} (v : ν) {es : List (κ × ν)} (h : k ∉ es.map Prod.fst) :
    setEntries k v es = es ++ [(k, v)] := by
  induction es with
  | nil => rfl
  | cons e es ih =>
    rw [List.map_cons, List.mem_cons, not_or] at h
    rw [setEntries, if_neg fun he => h.1 he.symm, ih h.2]
    rfl

theorem filter_setEntries (p : κ → Bool) (k : κ) (v : ν) (es : List (κ × ν)) :
    (setEntries k v es).filter (fun e => p e.1) =
      if p k then setEntries k v (es.filter fun e => p e.1) else es.filter fun e => p e.1 := by
  induction es with
  | nil => cases hp : p k <;> simp [setEntries, hp]
  | cons e es ih =>
    by_cases he : e.1 = k
    · subst he
      cases hp : p e.1 <;> simp [setEntries, hp]
    · cases hp : p e.1
      · simp [setEntries, he, hp, ih]
      · cases hk : p k <;> simp [setEntries, he, hp, hk, ih]

/-- The bindings whose keys satisfy `p`, before or after building the dictionary. -/
theorem filter_entries_ofList (p : κ → Bool) (es : List (κ × ν)) :
    (ofList es).entries.filter (fun e => p e.1) = (ofList (es.filter fun e => p e.1)).entries := by
  have hsetAll (d : Dict κ ν) (d' : Dict κ ν)
      (h : d.entries.filter (fun e => p e.1) = d'.entries) :
      (d.setAll es).entries.filter (fun e => p e.1) =
        (d'.setAll (es.filter fun e => p e.1)).entries := by
    induction es generalizing d d' with
    | nil => exact h
    | cons e es ih =>
      have hset := filter_setEntries p e.1 e.2 d.entries
      cases hp : p e.1 with
      | true =>
        rw [List.filter_cons, if_pos hp, setAll_cons, setAll_cons]
        rw [if_pos hp, h] at hset
        exact ih _ _ hset
      | false =>
        rw [List.filter_cons, if_neg (Bool.eq_false_iff.mp hp), setAll_cons]
        rw [if_neg (Bool.eq_false_iff.mp hp), h] at hset
        exact ih _ _ hset
  exact hsetAll empty empty rfl

theorem entries_setAll_of_nodup (d : Dict κ ν) {es : List (κ × ν)}
    (h : ((d.entries ++ es).map Prod.fst).Nodup) : (d.setAll es).entries = d.entries ++ es := by
  induction es generalizing d with
  | nil => exact (List.append_nil _).symm
  | cons e es ih =>
    have hnew : e.1 ∉ d.entries.map Prod.fst := by
      rw [List.map_append, List.nodup_append] at h
      exact fun hmem => h.2.2 _ hmem _ List.mem_cons_self rfl
    have hset : (d.set e.1 e.2).entries = d.entries ++ [e] := setEntries_of_notMem e.2 hnew
    rw [setAll_cons, ih, hset, List.append_assoc]
    · rfl
    · rw [hset, List.append_assoc]
      exact h

/-- Distinct keys are kept as they are. -/
theorem entries_ofList_of_nodup {es : List (κ × ν)} (h : (es.map Prod.fst).Nodup) :
    (ofList es).entries = es :=
  entries_setAll_of_nodup empty h

theorem length_set (d : Dict κ ν) (k : κ) (v : ν) :
    (d.set k v).entries.length =
      if k ∈ d.keys then d.entries.length else d.entries.length + 1 := by
  have hkeys := congrArg List.length (keys_set d k v)
  rw [keys, List.length_map] at hkeys
  rw [hkeys]
  by_cases hk : k ∈ d.keys
  · rw [if_pos hk, if_pos hk, keys, List.length_map]
  · rw [if_neg hk, if_neg hk, List.length_append, keys, List.length_map]
    rfl

theorem length_setAll_le (d : Dict κ ν) (es : List (κ × ν)) :
    (d.setAll es).entries.length ≤ d.entries.length + es.length := by
  induction es generalizing d with
  | nil => exact Nat.le_refl _
  | cons e es ih =>
    have hset : (d.set e.1 e.2).entries.length ≤ d.entries.length + 1 := by
      rw [length_set]
      split <;> omega
    have hrest := ih (d.set e.1 e.2)
    rw [setAll_cons, List.length_cons]
    omega

theorem nodup_of_length_setAll (d : Dict κ ν) {es : List (κ × ν)}
    (h : d.entries.length + es.length ≤ (d.setAll es).entries.length) :
    ((d.entries ++ es).map Prod.fst).Nodup := by
  induction es generalizing d with
  | nil => simpa using d.nodup
  | cons e es ih =>
    have hrest := length_setAll_le (d.set e.1 e.2) es
    rw [setAll_cons, List.length_cons] at h
    by_cases hk : e.1 ∈ d.keys
    · rw [length_set, if_pos hk] at hrest
      omega
    · have hset : (d.set e.1 e.2).entries = d.entries ++ [e] := setEntries_of_notMem e.2 hk
      have hlength : (d.set e.1 e.2).entries.length = d.entries.length + 1 := by
        rw [length_set, if_neg hk]
      have hnodup := ih (d.set e.1 e.2) (by omega)
      rw [hset, List.append_assoc] at hnodup
      exact hnodup

/-- A repeated key is lost. -/
theorem nodup_of_length_ofList {es : List (κ × ν)} (h : es.length ≤ (ofList es).entries.length) :
    (es.map Prod.fst).Nodup :=
  nodup_of_length_setAll empty (Nat.le_trans (Nat.le_of_eq (Nat.zero_add _)) h)

theorem mem_keys_ofList (es : List (κ × ν)) (k : κ) : k ∈ (ofList es).keys ↔ k ∈ es.map Prod.fst := by
  have hsetAll (d : Dict κ ν) : k ∈ (d.setAll es).keys ↔ k ∈ d.keys ∨ k ∈ es.map Prod.fst := by
    induction es generalizing d with
    | nil => simp
    | cons e es ih =>
      rw [setAll_cons, ih, keys_set]
      split
      · next hmem =>
        simp only [List.map_cons, List.mem_cons]
        constructor
        · tauto
        · rintro (h | rfl | h)
          · exact .inl h
          · exact .inl hmem
          · exact .inr h
      · simp only [List.map_cons, List.mem_cons, List.mem_append]
        tauto
  rw [ofList, hsetAll]
  simp [empty, keys]

end Dict
