import Mathlib.Data.List.Basic
import Mathlib.Data.List.Pairwise

/-!
# Tables of mutually compatible keys

A table that refuses a key which clashes with one it already holds. Such tables are built by
repeated insertion; what matters for a whole list of insertions is only whether the keys are
pairwise compatible, so the order in which they come makes no difference.

## Main definitions

- `ExclusiveTable` — entries whose keys do not clash
- `ExclusiveTable.insert`, `ExclusiveTable.insertAll` — checked insertion

## Main results

- `ExclusiveTable.insertAll_isOk_iff` — a list of insertions succeeds iff nothing clashes
-/

variable {κ α : Type*} {clash : κ → κ → Bool}

/-- Entries in insertion order, no key clashing with an earlier one. -/
@[ext]
structure ExclusiveTable (clash : κ → κ → Bool) (α : Type*) where
  entries : List (κ × α)
  compatible : entries.Pairwise fun a b => clash a.1 b.1 = false

namespace ExclusiveTable

/-- The table without entries. -/
def empty : ExclusiveTable clash α := ⟨[], .nil⟩

/-- The keys in insertion order. -/
def keys (t : ExclusiveTable clash α) : List κ := t.entries.map (·.1)

/-- The first key held that clashes with `k`. -/
def clashing (t : ExclusiveTable clash α) (k : κ) : Option κ :=
  t.keys.find? fun k' => clash k' k

theorem clashing_eq_none_iff (t : ExclusiveTable clash α) (k : κ) :
    t.clashing k = none ↔ ∀ k' ∈ t.keys, clash k' k = false := by
  simp [clashing, List.find?_eq_none]

/-- Insert an entry, or report a key it clashes with. -/
def insert (t : ExclusiveTable clash α) (k : κ) (v : α) : Except κ (ExclusiveTable clash α) :=
  match h : t.clashing k with
  | some k' => .error k'
  | none => .ok ⟨t.entries ++ [(k, v)], by
      refine List.pairwise_append.mpr ⟨t.compatible, List.pairwise_singleton _ _, ?_⟩
      intro a ha b hb
      rw [List.mem_singleton.mp hb]
      exact (t.clashing_eq_none_iff k).mp h a.1 (List.mem_map_of_mem ha)⟩

@[simp] theorem keys_empty : (empty : ExclusiveTable clash α).keys = [] := rfl

/-- Insertion succeeds exactly when no held key clashes, and then appends the entry. -/
theorem insert_eq_ok_iff {t t' : ExclusiveTable clash α} {k : κ} {v : α} :
    t.insert k v = .ok t' ↔
      (∀ k' ∈ t.keys, clash k' k = false) ∧ t'.entries = t.entries ++ [(k, v)] := by
  rw [← clashing_eq_none_iff, insert]
  split
  · next h => simp [h]
  · next h =>
    obtain ⟨entries', compatible'⟩ := t'
    simp [h, eq_comm]

theorem keys_insert {t t' : ExclusiveTable clash α} {k : κ} {v : α}
    (h : t.insert k v = .ok t') : t'.keys = t.keys ++ [k] := by
  simp [keys, (insert_eq_ok_iff.mp h).2]

theorem insert_isOk_iff (t : ExclusiveTable clash α) (k : κ) (v : α) :
    (∃ t', t.insert k v = .ok t') ↔ ∀ k' ∈ t.keys, clash k' k = false := by
  rw [← clashing_eq_none_iff, insert]
  split
  · next h => simp [h]
  · next h => simp [h]

/-- Insert a list of entries one after the other, up to the first clash. -/
def insertAll (t : ExclusiveTable clash α) :
    List (κ × α) → Except κ (ExclusiveTable clash α)
  | [] => .ok t
  | e :: l => (t.insert e.1 e.2).bind (·.insertAll l)

/-- What a successful list of insertions adds. -/
theorem insertAll_entries {l : List (κ × α)} {t t' : ExclusiveTable clash α}
    (h : t.insertAll l = .ok t') : t'.entries = t.entries ++ l := by
  induction l generalizing t with
  | nil => cases h; simp
  | cons e l ih =>
    rw [insertAll] at h
    cases hi : t.insert e.1 e.2 with
    | error k' => rw [hi] at h; cases h
    | ok u =>
      rw [hi] at h
      rw [ih h, (insert_eq_ok_iff.mp hi).2, List.append_assoc]
      rfl

/-- A list of insertions succeeds exactly when no key clashes with an earlier one. -/
theorem insertAll_isOk_iff (t : ExclusiveTable clash α) (l : List (κ × α)) :
    (∃ t', t.insertAll l = .ok t') ↔
      (t.entries ++ l).Pairwise fun a b => clash a.1 b.1 = false := by
  induction l generalizing t with
  | nil => simpa [insertAll] using t.compatible
  | cons e l ih =>
    cases hi : t.insert e.1 e.2 with
    | ok u =>
      have hu := (insert_eq_ok_iff.mp hi).2
      simp only [insertAll, hi, Except.bind]
      rw [ih u, hu, List.append_assoc]
      rfl
    | error k' =>
      have hno : ¬ ∀ k' ∈ t.keys, clash k' e.1 = false := by
        rw [← insert_isOk_iff t e.1 e.2, hi]
        simp
      simp only [insertAll, hi, Except.bind, reduceCtorEq, exists_false, false_iff]
      intro hp
      refine hno fun k hk => ?_
      obtain ⟨a, ha, rfl⟩ := List.mem_map.mp hk
      exact (List.pairwise_append.mp hp).2.2 a ha e List.mem_cons_self

variable [DecidableEq κ]

/-- The value held under a key. -/
def get? (t : ExclusiveTable clash α) (k : κ) : Option α :=
  (t.entries.find? fun e => e.1 = k).map (·.2)

theorem mem_entries_of_get? {t : ExclusiveTable clash α} {k : κ} {v : α}
    (h : t.get? k = some v) : (k, v) ∈ t.entries := by
  obtain ⟨⟨k', v'⟩, he, rfl⟩ := Option.map_eq_some_iff.mp h
  obtain rfl : k' = k := by simpa using List.find?_some he
  exact List.mem_of_find?_eq_some he

/-- With keys that clash with themselves, an entry is found under its key. -/
theorem get?_of_mem {t : ExclusiveTable clash α} {k : κ} {v : α}
    (hself : clash k k = true) (h : (k, v) ∈ t.entries) : t.get? k = some v := by
  obtain ⟨entries, hp⟩ := t
  simp only at h
  unfold get?
  induction entries with
  | nil => cases h
  | cons e l ih =>
    rcases List.mem_cons.mp h with rfl | hl
    · simp
    · have hne : e.1 ≠ k := by
        rintro rfl
        simpa [hself] using (List.pairwise_cons.mp hp).1 _ hl
      simpa [hne] using ih (List.pairwise_cons.mp hp).2 hl

end ExclusiveTable
