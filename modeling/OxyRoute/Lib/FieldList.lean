import Mathlib.Data.List.Basic
import Mathlib.Data.List.Nodup

/-!
# Lists of fields

A field has a key, and a list may hold several fields of one key. Two ways of bringing further
fields into a list: those whose keys are new are appended, or all are appended and the fields with
their keys dropped.

## Main definitions

- `FieldList.withKey` — the fields of a key
- `FieldList.addNew` — append the fields whose keys are new
- `FieldList.overwrite` — append the fields and drop what had their keys

## Main results

- `FieldList.withKey_addNew`, `FieldList.withKey_overwrite` — the fields of a key afterwards
- `FieldList.addNew_of_present`, `FieldList.overwrite_overwrite` — a second time changes nothing
-/

namespace FieldList

variable {α τ : Type*} [DecidableEq τ] (key : α → τ)

/-- The fields of a key. -/
def withKey (k : τ) (l : List α) : List α := l.filter fun a => key a = k

/-- The fields whose keys are new are appended. -/
def addNew (extra l : List α) : List α :=
  extra.foldl (fun l a => if l.any fun b => key b = key a then l else l ++ [a]) l

/-- The fields are appended, and the fields that had their keys dropped. -/
def overwrite (extra l : List α) : List α :=
  extra.foldl (fun l a => (l.filter fun b => !decide (key b = key a)) ++ [a]) l

variable {key} {k : τ} {a : α} {l l' extra : List α}

@[simp] theorem withKey_nil : withKey key k [] = [] := rfl

@[simp] theorem withKey_append : withKey key k (l ++ l') = withKey key k l ++ withKey key k l' :=
  List.filter_append _ _

theorem mem_withKey : a ∈ withKey key k l ↔ a ∈ l ∧ key a = k := by
  rw [withKey, List.mem_filter, decide_eq_true_iff]

theorem withKey_cons_self : withKey key (key a) (a :: l) = a :: withKey key (key a) l :=
  List.filter_cons_of_pos (decide_eq_true rfl)

theorem withKey_cons_of_ne (h : key a ≠ k) : withKey key k (a :: l) = withKey key k l :=
  List.filter_cons_of_neg (by rw [decide_eq_true_iff]; exact h)

theorem withKey_ne_nil (h : a ∈ l) : withKey key (key a) l ≠ [] :=
  List.ne_nil_of_mem (mem_withKey.mpr ⟨h, rfl⟩)

theorem withKey_eq_nil_iff : withKey key k l = [] ↔ ∀ a ∈ l, key a ≠ k := by
  rw [withKey, List.filter_eq_nil_iff]
  exact forall₂_congr fun a _ => not_congr decide_eq_true_iff

theorem any_key_iff : (l.any fun b => key b = k) = true ↔ withKey key k l ≠ [] := by
  rw [Ne, withKey_eq_nil_iff, List.any_eq_true]
  simp

/-- A key that is not repeated has one field at most. -/
theorem length_withKey_le (h : (l.map key).Nodup) (k : τ) : (withKey key k l).length ≤ 1 := by
  induction l with
  | nil => exact Nat.zero_le 1
  | cons a l ih =>
    rw [List.map_cons, List.nodup_cons] at h
    by_cases hk : key a = k
    · have hnil : withKey key k l = [] := by
        rw [withKey_eq_nil_iff]
        rintro b hb rfl
        exact h.1 (List.mem_map.mpr ⟨b, hb, hk.symm⟩)
      rw [← hk, withKey_cons_self, hk, hnil]
      exact Nat.le_refl 1
    · rw [withKey_cons_of_ne hk]
      exact ih h.2

theorem addNew_cons : addNew key (a :: extra) l =
    addNew key extra (if l.any fun b => key b = key a then l else l ++ [a]) := rfl

theorem addNew_cons_of_present (h : withKey key (key a) l ≠ []) :
    addNew key (a :: extra) l = addNew key extra l := by
  rw [addNew_cons, if_pos (any_key_iff.mpr h)]

theorem addNew_cons_of_new (h : withKey key (key a) l = []) :
    addNew key (a :: extra) l = addNew key extra (l ++ [a]) := by
  rw [addNew_cons, if_neg fun hany => any_key_iff.mp hany h]

/-- The first of the new fields with a key is appended, if the list had none. -/
theorem withKey_addNew (k : τ) (extra l : List α) :
    withKey key k (addNew key extra l) =
      if withKey key k l = [] then (withKey key k extra).take 1 else withKey key k l := by
  induction extra generalizing l with
  | nil =>
    show withKey key k l = _
    split
    · next h => rw [h, withKey_nil, List.take_nil]
    · rfl
  | cons a extra ih =>
    by_cases hpresent : withKey key (key a) l = []
    · rw [addNew_cons_of_new hpresent, ih, withKey_append]
      by_cases hk : key a = k
      · rw [← hk, hpresent, withKey_cons_self, withKey_cons_self, withKey_nil, List.nil_append,
          if_neg (List.cons_ne_nil _ _), if_pos rfl]
        rfl
      · rw [withKey_cons_of_ne hk, withKey_cons_of_ne hk, withKey_nil, List.append_nil]
    · rw [addNew_cons_of_present hpresent, ih]
      by_cases hk : key a = k
      · rw [← hk, if_neg hpresent, if_neg hpresent]
      · rw [withKey_cons_of_ne hk]

/-- Where every key is present nothing is appended. -/
theorem addNew_of_present (h : ∀ a ∈ extra, withKey key (key a) l ≠ []) :
    addNew key extra l = l := by
  induction extra with
  | nil => rfl
  | cons a extra ih =>
    rw [addNew_cons_of_present (h a List.mem_cons_self)]
    exact ih fun b hb => h b (List.mem_cons_of_mem _ hb)

theorem overwrite_cons : overwrite key (a :: extra) l =
    overwrite key extra ((l.filter fun b => !decide (key b = key a)) ++ [a]) := rfl

/-- The fields whose keys are not overwritten stay, in front. -/
theorem overwrite_append (extra l l' : List α) :
    overwrite key extra (l ++ l') =
      (l.filter fun b => !extra.any fun a => key b = key a) ++ overwrite key extra l' := by
  induction extra generalizing l l' with
  | nil =>
    show l ++ l' = l.filter (fun _ => true) ++ l'
    rw [List.filter_true]
  | cons a extra ih =>
    rw [overwrite_cons, overwrite_cons, List.filter_append, List.append_assoc, ih,
      List.filter_filter]
    refine congrArg (fun p => List.filter p l ++ _) (funext fun b => ?_)
    rw [List.any_cons, Bool.not_or, Bool.and_comm]

theorem overwrite_eq (extra l : List α) : overwrite key extra l =
    (l.filter fun b => !extra.any fun a => key b = key a) ++ overwrite key extra [] := by
  have happend : overwrite key extra (l ++ []) = _ := overwrite_append extra l []
  rwa [List.append_nil] at happend

theorem mem_overwrite_nil (h : a ∈ overwrite key extra []) : a ∈ extra := by
  have hmem : ∀ (extra l : List α), a ∈ overwrite key extra l → a ∈ extra ∨ a ∈ l := by
    intro extra
    induction extra with
    | nil => exact fun l h => .inr h
    | cons b extra ih =>
      intro l h
      rcases ih _ h with h | h
      · exact .inl (List.mem_cons_of_mem _ h)
      · rcases List.mem_append.mp h with h | h
        · exact .inr (List.mem_of_mem_filter h)
        · rw [List.mem_singleton.mp h]
          exact .inl List.mem_cons_self
  exact (hmem extra [] h).resolve_right List.not_mem_nil

/-- Overwriting a second time changes nothing. -/
theorem overwrite_overwrite (extra l : List α) :
    overwrite key extra (overwrite key extra l) = overwrite key extra l := by
  have hnil : (overwrite key extra []).filter (fun b => !extra.any fun a => key b = key a) = [] := by
    rw [List.filter_eq_nil_iff]
    intro b hb
    have hany : (extra.any fun a => key b = key a) = true :=
      List.any_eq_true.mpr ⟨b, mem_overwrite_nil hb, decide_eq_true rfl⟩
    rw [hany]
    decide
  rw [overwrite_eq extra (overwrite key extra l), overwrite_eq extra l, List.filter_append, hnil,
    List.filter_filter, List.append_nil]
  simp only [Bool.and_self]

/-- The fields of a key are those that overwrite it, if there are any. -/
theorem withKey_overwrite (h : (extra.map key).Nodup) (k : τ) (l : List α) :
    withKey key k (overwrite key extra l) =
      if withKey key k extra = [] then withKey key k l else withKey key k extra := by
  induction extra generalizing l with
  | nil => rfl
  | cons a extra ih =>
    rw [List.map_cons, List.nodup_cons] at h
    rw [overwrite_cons, ih h.2, withKey_append]
    by_cases hk : key a = k
    · have hrest : withKey key k extra = [] := by
        rw [withKey_eq_nil_iff]
        rintro b hb rfl
        exact h.1 (List.mem_map.mpr ⟨b, hb, hk.symm⟩)
      have hdropped : withKey key k (l.filter fun b => !decide (key b = key a)) = [] := by
        rw [withKey_eq_nil_iff]
        rintro b hb hkey
        have hne := (List.mem_filter.mp hb).2
        rw [hkey, hk, decide_eq_true rfl] at hne
        cases hne
      rw [if_pos hrest, hdropped, ← hk, withKey_cons_self, withKey_cons_self, hk, hrest,
        withKey_nil, if_neg (List.cons_ne_nil _ _), List.nil_append]
    · have hkept : withKey key k (l.filter fun b => !decide (key b = key a)) = withKey key k l := by
        rw [withKey, withKey, List.filter_filter]
        apply List.filter_congr
        intro b _
        by_cases hb : key b = k
        · simp [hb, Ne.symm hk]
        · simp [hb]
      rw [withKey_cons_of_ne hk, withKey_cons_of_ne hk, withKey_nil, List.append_nil, hkept]

end FieldList
