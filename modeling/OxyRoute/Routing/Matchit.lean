import OxyRoute.Lib.ExclusiveTable

/-!
# The path matcher

The routing tables rest on the crate `matchit` 0.7, which is not part of the repository. It is
a parameter of everything below: a structure with the operations the code calls and the
documented facts it relies on.

## Main definitions

- `Matchit` — templates that are refused, that conflict, that match a path
- `Matchit.FindsMatching` — a lookup succeeds when some template matches
- `Router` — `matchit::Router`, with `insert` and `atPath`

## Main results

- `Router.insert_isOk_iff` — insertion fails on a refused or conflicting template only
- `Router.atPath_isSome_iff` — lookup succeeds iff some inserted template matches, for a matcher
  that finds matching templates
-/

namespace OxyRoute

/-- The captured parameters of a match, in template order. -/
abbrev PathParams := List (String × String)

/-- `matchit` 0.7. A router refuses a malformed template and a template that conflicts with one
it holds; looking a path up finds the preferred one of the templates that match. -/
structure Matchit where
  /-- The error for a template no router takes. -/
  refusal : String → Option String
  /-- Whether two templates cannot live in one router. -/
  conflicts : String → String → Bool
  /-- The error for a conflict with the given template. -/
  conflictError : String → String
  /-- The parameters a template captures from a path it matches. -/
  captures : String → String → Option PathParams
  /-- The preferred template for a path: static over parameter over catch-all segments. -/
  best : List String → String → Option String
  conflicts_symm : ∀ s t, conflicts s t = conflicts t s
  conflicts_self : ∀ t, conflicts t t = true
  best_mem : ∀ {ts path t}, best ts path = some t → t ∈ ts ∧ (captures t path).isSome

/-- Looking a path up succeeds when some template matches. The crate gives up on a few paths that
a catch-all matches, once it has followed a parameter too far, so this is not a law of the
structure: a result that needs it has it as a hypothesis. -/
def Matchit.FindsMatching (m : Matchit) : Prop :=
  ∀ ts path t, t ∈ ts → (m.captures t path).isSome → (m.best ts path).isSome

/-- `Router<α>`: the inserted templates with their values. -/
@[ext]
structure Router (m : Matchit) (α : Type*) where
  table : ExclusiveTable m.conflicts α
  accepted : ∀ t ∈ table.keys, m.refusal t = none

namespace Router

variable {m : Matchit} {α : Type*}

/-- `Router::new`. -/
def new : Router m α := ⟨.empty, by simp⟩

/-- The templates of a router, in insertion order. -/
def templates (r : Router m α) : List String := r.table.keys

/-- `Router::insert`. -/
def insert (r : Router m α) (template : String) (value : α) : Except String (Router m α) :=
  match hr : m.refusal template with
  | some e => .error e
  | none =>
    match ht : r.table.insert template value with
    | .error other => .error (m.conflictError other)
    | .ok table => .ok ⟨table, by
        rw [ExclusiveTable.keys_insert ht]
        intro t h
        rcases List.mem_append.mp h with h | h
        · exact r.accepted t h
        · rwa [List.mem_singleton.mp h]⟩

/-- Insert a list of templates one after the other, up to the first error. -/
def insertAll (r : Router m α) : List (String × α) → Except String (Router m α)
  | [] => .ok r
  | e :: l => (r.insert e.1 e.2).bind (·.insertAll l)

/-- `Router::at`: the value and the parameters of the preferred matching template. -/
def atPath (r : Router m α) (path : String) : Option (α × PathParams) :=
  (m.best r.templates path).bind fun t =>
    (r.table.get? t).bind fun v => (m.captures t path).map fun params => (v, params)

@[simp] theorem templates_new : (new : Router m α).templates = [] := rfl

/-- No path is found in an empty router. -/
@[simp] theorem atPath_new (path : String) : (new : Router m α).atPath path = none := by
  have hbest : m.best (new : Router m α).templates path = none :=
    Option.eq_none_iff_forall_not_mem.mpr fun t ht => List.not_mem_nil (m.best_mem ht).1
  rw [atPath, hbest]
  rfl

/-- A successful insertion appends the template with its value. -/
theorem insert_eq_ok_iff {r r' : Router m α} {t : String} {v : α} :
    r.insert t v = .ok r' ↔
      m.refusal t = none ∧ (∀ t' ∈ r.templates, m.conflicts t' t = false) ∧
        r'.table.entries = r.table.entries ++ [(t, v)] := by
  rw [insert]
  split
  · next h => simp [h]
  · next h =>
    split
    · next hi =>
      have hno : ¬ ∀ t' ∈ r.templates, m.conflicts t' t = false := by
        rw [templates, ← ExclusiveTable.insert_isOk_iff r.table t v, hi]
        simp
      exact iff_of_false (by simp) fun h => hno h.2.1
    · next table hi =>
      obtain ⟨hc, he⟩ := ExclusiveTable.insert_eq_ok_iff.mp hi
      constructor
      · intro hr
        obtain rfl := Except.ok.inj hr
        exact ⟨h, hc, he⟩
      · rintro ⟨-, -, he'⟩
        exact congrArg Except.ok (Router.ext (ExclusiveTable.ext (he.trans he'.symm)))

theorem insert_isOk_iff (r : Router m α) (t : String) (v : α) :
    (∃ r', r.insert t v = .ok r') ↔
      m.refusal t = none ∧ ∀ t' ∈ r.templates, m.conflicts t' t = false := by
  constructor
  · rintro ⟨r', h⟩
    exact ⟨(insert_eq_ok_iff.mp h).1, (insert_eq_ok_iff.mp h).2.1⟩
  · rintro ⟨hr, hc⟩
    obtain ⟨table, ht⟩ := (ExclusiveTable.insert_isOk_iff r.table t v).mpr hc
    rw [insert]
    split
    · next h => rw [h] at hr; cases hr
    · split
      · next h => rw [h] at ht; cases ht
      · exact ⟨_, rfl⟩

theorem templates_insert {r r' : Router m α} {t : String} {v : α} (h : r.insert t v = .ok r') :
    r'.templates = r.templates ++ [t] := by
  simp [templates, ExclusiveTable.keys, (insert_eq_ok_iff.mp h).2.2]

/-- Inserting a list is a list of insertions into the table of acceptable templates. -/
theorem insertAll_eq_ok_iff {r r' : Router m α} {l : List (String × α)} :
    r.insertAll l = .ok r' ↔
      (∀ e ∈ l, m.refusal e.1 = none) ∧ r.table.insertAll l = .ok r'.table := by
  induction l generalizing r with
  | nil =>
    constructor
    · intro h
      obtain rfl := Except.ok.inj h
      exact ⟨by simp, rfl⟩
    · rintro ⟨-, h⟩
      exact congrArg Except.ok (Router.ext (Except.ok.inj h))
  | cons e l ih =>
    rw [insertAll, ExclusiveTable.insertAll, insert]
    split
    · next hr => simp [Except.bind, hr]
    · next hr =>
      split
      · next hi => simp [Except.bind, hi]
      · next table hi => simp [Except.bind, hi, hr, ih]

theorem insertAll_isOk_iff (r : Router m α) (l : List (String × α)) :
    (∃ r', r.insertAll l = .ok r') ↔ (∀ e ∈ l, m.refusal e.1 = none) ∧
      (r.table.entries ++ l).Pairwise fun a b => m.conflicts a.1 b.1 = false := by
  rw [← ExclusiveTable.insertAll_isOk_iff]
  constructor
  · rintro ⟨r', h⟩
    exact ⟨(insertAll_eq_ok_iff.mp h).1, _, (insertAll_eq_ok_iff.mp h).2⟩
  · rintro ⟨hr, table, ht⟩
    have hk : ∀ t ∈ table.keys, m.refusal t = none := by
      intro t h
      rw [ExclusiveTable.keys, ExclusiveTable.insertAll_entries ht, List.map_append,
        List.mem_append] at h
      rcases h with h | h
      · exact r.accepted t h
      · obtain ⟨e, he, rfl⟩ := List.mem_map.mp h
        exact hr e he
    exact ⟨⟨table, hk⟩, insertAll_eq_ok_iff.mpr ⟨hr, ht⟩⟩

/-- A lookup yields a value that was inserted with a matching template. -/
theorem mem_of_atPath {r : Router m α} {path : String} {v : α} {params : PathParams}
    (h : r.atPath path = some (v, params)) :
    ∃ t, m.best r.templates path = some t ∧ (t, v) ∈ r.table.entries ∧
      m.captures t path = some params := by
  obtain ⟨t, hb, h⟩ := Option.bind_eq_some_iff.mp h
  obtain ⟨v', hg, h⟩ := Option.bind_eq_some_iff.mp h
  obtain ⟨params', hc, h⟩ := Option.map_eq_some_iff.mp h
  obtain ⟨rfl, rfl⟩ := Prod.mk.inj h
  exact ⟨t, hb, ExclusiveTable.mem_entries_of_get? hg, hc⟩

/-- The value of the preferred template is what a lookup returns. -/
theorem atPath_of_best {r : Router m α} {path t : String} {v : α}
    (hb : m.best r.templates path = some t) (hv : (t, v) ∈ r.table.entries) :
    (r.atPath path).map (·.1) = some v := by
  obtain ⟨params, hc⟩ := Option.isSome_iff_exists.mp (m.best_mem hb).2
  simp [atPath, hb, ExclusiveTable.get?_of_mem (m.conflicts_self t) hv, hc]

/-- A lookup succeeds exactly when some inserted template matches the path. -/
theorem atPath_isSome_iff (hfinds : m.FindsMatching) (r : Router m α) (path : String) :
    (r.atPath path).isSome ↔ ∃ t ∈ r.templates, (m.captures t path).isSome := by
  constructor
  · intro h
    obtain ⟨⟨v, params⟩, h⟩ := Option.isSome_iff_exists.mp h
    obtain ⟨t, hb, -, -⟩ := mem_of_atPath h
    exact ⟨t, (m.best_mem hb).1, (m.best_mem hb).2⟩
  · rintro ⟨t, ht, hc⟩
    obtain ⟨b, hb⟩ := Option.isSome_iff_exists.mp (hfinds _ _ _ ht hc)
    obtain ⟨⟨t', v⟩, he, rfl⟩ := List.mem_map.mp (m.best_mem hb).1
    have := atPath_of_best hb he
    rw [Option.map_eq_some_iff] at this
    obtain ⟨x, hx, -⟩ := this
    simp [hx]

end Router

end OxyRoute
