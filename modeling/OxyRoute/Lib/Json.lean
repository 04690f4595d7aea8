import OxyRoute.Lib.F64

/-!
# JSON values

JSON documents whose objects keep their members sorted by name, and the in-place updates of
objects.

## Main definitions

- `Json` — the values
- `Json.insert`, `Json.orInsert`, `Json.modify` — updates of an object's members
-/

/-- A JSON value. -/
inductive Json
  | null
  | bool (b : Bool)
  | int (n : ℤ)
  | float (x : F64)
  | str (s : String)
  | arr (a : List Json)
  | obj (o : List (String × Json))
  deriving Repr

namespace Json

/-- The members of an object. -/
abbrev Members := List (String × Json)

/-- The member of a name. -/
def get? (o : Members) (k : String) : Option Json := (o.find? fun e => e.1 = k).map (·.2)

/-- Insert a member in name order, replacing one of the same name. -/
def insert (k : String) (v : Json) : Members → Members
  | [] => [(k, v)]
  | (k', v') :: o =>
    if k = k' then (k, v) :: o
    else if k < k' then (k, v) :: (k', v') :: o
    else (k', v') :: insert k v o

/-- Insert a member unless there is one of the name. -/
def orInsert (k : String) (v : Json) (o : Members) : Members :=
  match get? o k with
  | some _ => o
  | none => insert k v o

/-- Update the member of a name, if there is one. -/
def modify (k : String) (f : Json → Json) (o : Members) : Members :=
  match get? o k with
  | some v => insert k (f v) o
  | none => o

/-- An object given by its members in any order. -/
def ofMembers (l : List (String × Json)) : Json := .obj (l.foldl (fun o e => insert e.1 e.2 o) [])

/-- The value reached by a path of member names. -/
def pointer : List String → Json → Option Json
  | [], j => some j
  | k :: ks, .obj o => (get? o k).bind (pointer ks)
  | _ :: _, _ => none

@[simp] theorem get?_insert_self (k : String) (v : Json) (o : Members) :
    get? (insert k v o) k = some v := by
  induction o with
  | nil => simp [insert, get?]
  | cons e o ih =>
    rw [insert]
    split
    · simp [get?]
    · next h =>
      split
      · simp [get?]
      · simpa [get?, Ne.symm h] using ih

theorem get?_insert_of_ne {k k' : String} (h : k' ≠ k) (v : Json) (o : Members) :
    get? (insert k v o) k' = get? o k' := by
  induction o with
  | nil => simp [insert, get?, h.symm]
  | cons e o ih =>
    rw [insert]
    split
    · next he => simp [get?, h.symm, ← he]
    · split
      · simp [get?, h.symm]
      · by_cases he : e.1 = k'
        · simp [get?, he]
        · simpa [get?, he] using ih

/-- The members after inserting one unless it is there. -/
theorem get?_orInsert (k : String) (v : Json) (o : Members) (k' : String) :
    get? (orInsert k v o) k' = if k' = k then some ((get? o k).getD v) else get? o k' := by
  unfold orInsert
  by_cases hk : k' = k
  · subst hk
    rw [if_pos rfl]
    split
    · next v' h => rw [h, Option.getD_some]
    · next h => rw [get?_insert_self, h, Option.getD_none]
  · rw [if_neg hk]
    split
    · rfl
    · exact get?_insert_of_ne hk v o

/-- The members after updating one. -/
theorem get?_modify (k : String) (f : Json → Json) (o : Members) (k' : String) :
    get? (modify k f o) k' = if k' = k then (get? o k).map f else get? o k' := by
  unfold modify
  by_cases hk : k' = k
  · subst hk
    rw [if_pos rfl]
    split
    · next v h => rw [get?_insert_self, h, Option.map_some]
    · next h => rw [h, Option.map_none]
  · rw [if_neg hk]
    split
    · exact get?_insert_of_ne hk _ o
    · rfl

/-- The members after updating an object that is a member, or is inserted. -/
theorem get?_entry {f : Json → Json} {g : Members → Members} (hf : ∀ o, f (.obj o) = .obj (g o))
    {k : String} {o entry : Members} (h : (get? o k).getD (.obj []) = .obj entry) (k' : String) :
    get? (modify k f (orInsert k (.obj []) o)) k' =
      if k' = k then some (.obj (g entry)) else get? o k' := by
  rw [get?_modify, get?_orInsert, get?_orInsert]
  split
  · rw [if_pos rfl, h, Option.map_some, hf]
  · rfl

theorem pointer_cons_obj (k : String) (ks : List String) (o : Members) :
    pointer (k :: ks) (.obj o) = (get? o k).bind (pointer ks) := rfl

theorem pointer_cons_eq_some_iff {k : String} {ks : List String} {j v : Json} :
    pointer (k :: ks) j = some v ↔
      ∃ o w, j = .obj o ∧ get? o k = some w ∧ pointer ks w = some v := by
  constructor
  · intro h
    cases j with
    | obj o =>
      obtain ⟨w, hw, hv⟩ := Option.bind_eq_some_iff.mp h
      exact ⟨o, w, rfl, hw, hv⟩
    | _ => cases h
  · rintro ⟨o, w, rfl, hw, hv⟩
    rw [pointer_cons_obj, hw]
    exact hv

end Json
