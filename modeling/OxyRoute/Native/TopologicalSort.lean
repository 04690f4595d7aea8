import OxyRoute.Lib.Kahn
import OxyRoute.Native.Dependency
import Mathlib.Data.Finset.Union
import Mathlib.Data.String.Basic

/-!
# The topological sort

`topological_sort` on hash tables that are iterated in any order. The run is checked: it fails
where an in-degree would go below zero, and where the loop has not ended.

## Main definitions

- `IterationOrder` — how the tables of a graph are iterated
- `DependencyGraph.topologicalSortIn` — the checked run
- `DependencyGraph.Edge`, `DependencyGraph.vertices` — what the graph stands for

## Main results

- `DependencyGraph.topologicalSortIn_eq` — the checked run ends, in the order of Kahn's algorithm
- `DependencyGraph.topological_sort_iteration_order` — whatever the order of iteration
-/

namespace OxyRoute

/-- How the hash tables of a graph are iterated: each in some order of its content. -/
structure IterationOrder where
  nodes : List String → List String
  nodes_perm (l) : (nodes l).Perm l
  adj : List (String × List String) → List (String × List String)
  adj_perm (l) : (adj l).Perm l
  dependents : String → List String → List String
  dependents_perm (n l) : (dependents n l).Perm l
  inDegree : List (String × ℕ) → List (String × ℕ)
  inDegree_perm (l) : (inDegree l).Perm l

/-- The order in which the tables are written down. -/
def IterationOrder.asListed : IterationOrder where
  nodes l := l
  nodes_perm _ := .refl _
  adj l := l
  adj_perm _ := .refl _
  dependents _ l := l
  dependents_perm _ _ := .refl _
  inDegree l := l
  inDegree_perm _ := .refl _

namespace DependencyGraph

variable {o : IterationOrder} {g : DependencyGraph}

/-- `in_degree`. -/
def inDegreesIn (o : IterationOrder) (g : DependencyGraph) : Dict String ℕ :=
  let zero := (o.nodes g.nodes).foldl (fun d n => d.set n 0) (Dict.empty : Dict String ℕ)
  (o.adj g.adj.entries).foldl
    (fun d e => (o.dependents e.1 e.2).foldl
      (fun d dep => d.set dep ((d.get? dep).getD 0 + 1)) d) zero

/-- The walk along the edges of a node, with the nodes that became ready. An in-degree that is
zero is not taken down. -/
def relaxChecked : List String → Dict String ℕ → List String → Option (Dict String ℕ × List String)
  | [], inDegree, next => some (inDegree, next)
  | dep :: rest, inDegree, next =>
    match inDegree.get? dep with
    | none => relaxChecked rest inDegree next
    | some 0 => none
    | some (deg + 1) =>
      relaxChecked rest (inDegree.set dep deg) (if deg = 0 then next ++ [dep] else next)

/-- The `while` loop, for as many rounds as it is given. -/
def sortLoopIn (o : IterationOrder) (g : DependencyGraph) :
    ℕ → List String → Dict String ℕ → List String → Option (List String)
  | _, [], _, order => some order
  | 0, _ :: _, _, _ => none
  | fuel + 1, node :: stack, inDegree, order =>
    match relaxChecked (o.dependents node ((g.adj.get? node).getD [])) inDegree [] with
    | none => none
    | some (inDegree, next) =>
      sortLoopIn o g fuel (next.insertionSort (· ≤ ·) ++ stack) inDegree (order ++ [node])

/-- `topological_sort`, for as many rounds as there are in-degrees. -/
def topologicalSortIn (o : IterationOrder) (g : DependencyGraph) :
    Option (Except String (List String)) :=
  let inDegree := g.inDegreesIn o
  let ready := (o.inDegree inDegree.entries).filter (fun e => e.2 = 0) |>.map (·.1)
  (g.sortLoopIn o inDegree.entries.length (ready.insertionSort (· ≤ ·)).reverse inDegree []).map
    fun order =>
      if order.length = g.nodes.length then .ok order else .error "dependency cycle detected"

-- ════════════════════════════════════════════════════════════════════════
-- What the graph stands for
-- ════════════════════════════════════════════════════════════════════════

/-- The dependent has to come after the prerequisite. -/
def Edge (g : DependencyGraph) (prereq dependent : String) : Prop :=
  ∃ e ∈ g.adj.entries, e.1 = prereq ∧ dependent ∈ e.2

/-- Everything that has an in-degree. -/
def vertices (g : DependencyGraph) : Finset String :=
  g.nodes.toFinset ∪ (g.adj.entries.flatMap (·.2)).toFinset

/-- The edges into a node that do not come from `done`. -/
def degree (g : DependencyGraph) (done : List String) (v : String) : ℕ :=
  ((g.adj.entries.filter fun e => e.1 ∉ done).flatMap (·.2)).count v

/-- The in-degrees after the edges from `done` are taken away. -/
def HasDegrees (g : DependencyGraph) (done : List String) (inDegree : Dict String ℕ) : Prop :=
  ∀ v, inDegree.get? v = if v ∈ g.vertices then some (g.degree done v) else none

theorem mem_vertices {v : String} :
    v ∈ g.vertices ↔ v ∈ g.nodes ∨ v ∈ g.adj.entries.flatMap (·.2) := by
  simp [vertices]

theorem degree_eq_zero_iff {done : List String} {v : String} :
    g.degree done v = 0 ↔ Kahn.Ready g.Edge done v := by
  rw [degree, List.count_eq_zero]
  constructor
  · rintro h u ⟨e, he, rfl, hv⟩
    by_contra hu
    apply h
    exact List.mem_flatMap.mpr ⟨e, List.mem_filter.mpr ⟨he, decide_eq_true hu⟩, hv⟩
  · intro h hv
    obtain ⟨e, he, hve⟩ := List.mem_flatMap.mp hv
    have he' := List.mem_filter.mp he
    exact of_decide_eq_true he'.2 (h e.1 ⟨e, he'.1, rfl, hve⟩)

theorem count_flatMap_filter {done : List String} {n v : String} (hn : n ∉ done)
    {es : List (String × List String)} (hes : (es.map Prod.fst).Nodup) :
    ((es.filter fun e => e.1 ∉ done).flatMap (·.2)).count v =
      (((es.find? fun e => e.1 = n).map Prod.snd).getD []).count v +
        ((es.filter fun e => e.1 ∉ done ++ [n]).flatMap (·.2)).count v := by
  induction es with
  | nil => rfl
  | cons e es ih =>
    rw [List.map_cons, List.nodup_cons] at hes
    by_cases he : e.1 = n
    · have hrest : es.filter (fun e => e.1 ∉ done) = es.filter fun e => e.1 ∉ done ++ [n] := by
        apply List.filter_congr
        intro x hx
        have hne : x.1 ≠ n := fun h => hes.1 (List.mem_map.mpr ⟨x, hx, h.trans he.symm⟩)
        simp [hne]
      rw [List.filter_cons_of_pos (by simpa [he] using hn),
        List.filter_cons_of_neg (by simp [he]), List.find?_cons_of_pos (by simpa using he), hrest]
      simp
    · rw [List.find?_cons_of_neg (by simpa using he)]
      have ih := ih hes.2
      by_cases hd : e.1 ∈ done
      · rw [List.filter_cons_of_neg (by simpa using hd),
          List.filter_cons_of_neg (by simp [hd])]
        exact ih
      · rw [List.filter_cons_of_pos (by simpa using hd),
          List.filter_cons_of_pos (by simp [hd, he]), List.flatMap_cons, List.flatMap_cons,
          List.count_append, List.count_append, ih]
        omega

/-- The edges of a node are taken away when it is done. -/
theorem degree_snoc {done : List String} {n v : String} (hn : n ∉ done) :
    g.degree done v = ((g.adj.get? n).getD []).count v + g.degree (done ++ [n]) v :=
  count_flatMap_filter hn g.adj.nodup

theorem get?_foldl_zero (l : List String) (d : Dict String ℕ) (v : String) :
    (l.foldl (fun d n => d.set n 0) d).get? v = if v ∈ l then some 0 else d.get? v := by
  induction l generalizing d with
  | nil => rfl
  | cons n l ih =>
    rw [List.foldl_cons, ih, Dict.get?_set]
    by_cases hl : v ∈ l
    · simp [hl]
    · by_cases hv : v = n
      · simp [hv]
      · simp [hl, hv]

theorem get?_foldl_succ (l : List String) (d : Dict String ℕ) (v : String) :
    (l.foldl (fun d dep => d.set dep ((d.get? dep).getD 0 + 1)) d).get? v =
      if v ∈ l then some ((d.get? v).getD 0 + l.count v) else d.get? v := by
  induction l generalizing d with
  | nil => rfl
  | cons dep l ih =>
    rw [List.foldl_cons, ih, Dict.get?_set]
    by_cases hv : v = dep
    · subst hv
      by_cases hl : v ∈ l
      · simp [hl]
        omega
      · simp [hl, List.count_eq_zero_of_not_mem hl]
    · have hv' : ¬ dep = v := fun h => hv h.symm
      simp [hv, hv']

theorem hasDegrees_inDegreesIn : g.HasDegrees [] (g.inDegreesIn o) := by
  intro v
  have hperm : ((o.adj g.adj.entries).flatMap fun e => o.dependents e.1 e.2).Perm
      (g.adj.entries.flatMap (·.2)) :=
    ((o.adj_perm _).flatMap_right _).trans
      (List.Perm.flatMap_left _ fun e _ => o.dependents_perm e.1 e.2)
  have hfilter : (g.adj.entries.filter fun e => e.1 ∉ ([] : List String)) = g.adj.entries := by
    simp
  rw [inDegreesIn, ← List.foldl_flatMap, get?_foldl_succ, get?_foldl_zero, degree, hfilter]
  simp only [hperm.mem_iff, hperm.count_eq, (o.nodes_perm _).mem_iff]
  by_cases hedge : v ∈ g.adj.entries.flatMap (·.2)
  · rw [if_pos hedge, if_pos (mem_vertices.mpr (Or.inr hedge))]
    by_cases hn : v ∈ g.nodes <;> simp [hn]
  · rw [if_neg hedge]
    by_cases hn : v ∈ g.nodes
    · rw [if_pos hn, if_pos (mem_vertices.mpr (Or.inl hn)), List.count_eq_zero_of_not_mem hedge]
    · rw [if_neg hn, if_neg fun h => (mem_vertices.mp h).elim hn hedge, Dict.get?_empty]

theorem edge_iff {u v : String} : g.Edge u v ↔ v ∈ (g.adj.get? u).getD [] := by
  constructor
  · rintro ⟨e, he, rfl, hv⟩
    rw [Dict.get?_of_mem_entries he]
    exact hv
  · intro hv
    cases hu : g.adj.get? u with
    | none => simp [hu] at hv
    | some dependents =>
      rw [hu] at hv
      exact ⟨(u, dependents), Dict.mem_entries_of_get? hu, rfl, hv⟩

-- ════════════════════════════════════════════════════════════════════════
-- The run
-- ════════════════════════════════════════════════════════════════════════

theorem relaxChecked_eq {V : Finset String} {r : String → ℕ} {deps : List String}
    {inDegree : Dict String ℕ}
    (h : ∀ v, inDegree.get? v = if v ∈ V then some (deps.count v + r v) else none)
    (next : List String) :
    ∃ inDegree' extra, relaxChecked deps inDegree next = some (inDegree', next ++ extra) ∧
      (∀ v, inDegree'.get? v = if v ∈ V then some (r v) else none) ∧
      extra.Nodup ∧ ∀ v, v ∈ extra ↔ v ∈ deps ∧ v ∈ V ∧ r v = 0 := by
  induction deps generalizing inDegree next with
  | nil => exact ⟨inDegree, [], by simp [relaxChecked], by simpa using h, .nil, by simp⟩
  | cons dep deps ih =>
    by_cases hV : dep ∈ V
    · have hget : inDegree.get? dep = some (deps.count dep + r dep + 1) := by
        rw [h, if_pos hV, List.count_cons_self]
        congr 1
        omega
      have hset : ∀ v, (inDegree.set dep (deps.count dep + r dep)).get? v =
          if v ∈ V then some (deps.count v + r v) else none := by
        intro v
        rw [Dict.get?_set]
        by_cases hv : v = dep
        · rw [if_pos hv, hv, if_pos hV]
        · rw [if_neg hv, h, List.count_cons_of_ne fun heq => hv heq.symm]
      by_cases hz : deps.count dep + r dep = 0
      · obtain ⟨inDegree', extra, hrun, hdeg, hnd, hmem⟩ := ih hset (next ++ [dep])
        have hdep : dep ∉ deps := List.count_eq_zero.mp (by omega)
        refine ⟨inDegree', dep :: extra, ?_, hdeg, ?_, ?_⟩
        · rw [relaxChecked, hget]
          dsimp only
          rw [if_pos hz, hrun, List.append_assoc]
          rfl
        · exact List.nodup_cons.mpr ⟨fun hin => hdep ((hmem dep).mp hin).1, hnd⟩
        · intro v
          rw [List.mem_cons, List.mem_cons, hmem]
          by_cases hv : v = dep
          · subst hv
            have hr : r v = 0 := by omega
            simp [hV, hr]
          · simp [hv]
      · obtain ⟨inDegree', extra, hrun, hdeg, hnd, hmem⟩ := ih hset next
        refine ⟨inDegree', extra, ?_, hdeg, hnd, ?_⟩
        · rw [relaxChecked, hget]
          dsimp only
          rw [if_neg hz, hrun]
        · intro v
          rw [List.mem_cons, hmem]
          by_cases hv : v = dep
          · subst hv
            have hcount := List.count_eq_zero (a := v) (l := deps)
            constructor
            · rintro ⟨hin, hvV, hr⟩
              exact ⟨Or.inr hin, hvV, hr⟩
            · rintro ⟨-, hvV, hr⟩
              refine ⟨?_, hvV, hr⟩
              by_contra hin
              have hzero := hcount.mpr hin
              omega
          · simp [hv]
    · have hskip : ∀ v, inDegree.get? v = if v ∈ V then some (deps.count v + r v) else none := by
        intro v
        rw [h]
        by_cases hv : v ∈ V
        · have hne : dep ≠ v := fun heq => hV (heq ▸ hv)
          rw [if_pos hv, if_pos hv, List.count_cons_of_ne hne]
        · rw [if_neg hv, if_neg hv]
      obtain ⟨inDegree', extra, hrun, hdeg, hnd, hmem⟩ := ih hskip next
      refine ⟨inDegree', extra, ?_, hdeg, hnd, ?_⟩
      · rw [relaxChecked, h, if_neg hV]
        exact hrun
      · intro v
        rw [List.mem_cons, hmem]
        constructor
        · rintro ⟨hin, hvV, hr⟩
          exact ⟨Or.inr hin, hvV, hr⟩
        · rintro ⟨hin | hin, hvV, hr⟩
          · exact absurd (hin ▸ hvV) hV
          · exact ⟨hin, hvV, hr⟩

/-- Sorting forgets in which order the elements were found. -/
theorem insertionSort_eq_sort {l : List String} {s : Finset String} (hl : l.Nodup)
    (h : ∀ v, v ∈ l ↔ v ∈ s) : l.insertionSort (· ≤ ·) = s.sort (· ≤ ·) := by
  have hperm : (l.insertionSort (· ≤ ·)).Perm (s.sort (· ≤ ·)) := by
    apply (List.perm_insertionSort _ l).trans
    rw [List.perm_ext_iff_of_nodup hl (Finset.sort_nodup _ _)]
    intro v
    rw [h, Finset.mem_sort]
  exact hperm.eq_of_pairwise' (List.pairwise_insertionSort _ l) (Finset.pairwise_sort _ _)

/-- A round of the loop is a round of Kahn's algorithm. -/
theorem sortLoopIn_eq {fuel : ℕ} {stack order : List String} {inDegree : Dict String ℕ}
    (hp : Kahn.Progress g.vertices g.Edge stack order) (hd : g.HasDegrees order inDegree)
    (hf : g.vertices.card ≤ fuel + order.length) :
    g.sortLoopIn o fuel stack inDegree order =
      some (Kahn.run g.vertices g.Edge fuel stack order) := by
  induction fuel generalizing stack order inDegree with
  | zero =>
    have hlen := hp.length_le
    have hstack : stack = [] := List.length_eq_zero_iff.mp (by omega)
    rw [hstack]
    rfl
  | succ fuel ih =>
    cases stack with
    | nil => rfl
    | cons node stack =>
      have hperm := o.dependents_perm node ((g.adj.get? node).getD [])
      have hwalk : ∀ v, inDegree.get? v = if v ∈ g.vertices then
          some ((o.dependents node ((g.adj.get? node).getD [])).count v +
            g.degree (order ++ [node]) v) else none := by
        intro v
        rw [hd, degree_snoc hp.head_notMem, hperm.count_eq]
      obtain ⟨inDegree', next, hrun, hdeg, hnd, hmem⟩ := relaxChecked_eq hwalk []
      have hnext : next.insertionSort (· ≤ ·) =
          (Kahn.newlyReady g.vertices g.Edge order node).sort (· ≤ ·) := by
        apply insertionSort_eq_sort hnd
        intro v
        rw [hmem, Kahn.mem_newlyReady, hperm.mem_iff, ← edge_iff, degree_eq_zero_iff]
        tauto
      rw [sortLoopIn, hrun]
      dsimp only
      rw [List.nil_append, hnext, Kahn.run]
      apply ih hp.step hdeg
      rw [List.length_append, List.length_singleton]
      omega

theorem HasDegrees.card_entries {done : List String} {inDegree : Dict String ℕ}
    (h : g.HasDegrees done inDegree) : inDegree.entries.length = g.vertices.card := by
  have hkeys : inDegree.keys.toFinset = g.vertices := by
    ext v
    rw [List.mem_toFinset, Dict.mem_keys_iff, h]
    by_cases hv : v ∈ g.vertices <;> simp [hv]
  have hnodup : inDegree.keys.Nodup := inDegree.nodup
  rw [← hkeys, List.toFinset_card_of_nodup hnodup]
  exact (List.length_map _).symm

/-- The nodes of in-degree zero, in whatever order the in-degrees are listed. -/
theorem HasDegrees.sort_ready {inDegree : Dict String ℕ} (h : g.HasDegrees [] inDegree)
    {es : List (String × ℕ)} (hes : es.Perm inDegree.entries) :
    (((es.filter fun e => e.2 = 0).map (·.1)).insertionSort (· ≤ ·)).reverse =
      (Kahn.sources g.vertices g.Edge).sort (· ≥ ·) := by
  have hmem : ∀ v, v ∈ (es.filter fun e => e.2 = 0).map (·.1) ↔
      v ∈ Kahn.sources g.vertices g.Edge := by
    intro v
    rw [Kahn.mem_sources, ← degree_eq_zero_iff]
    constructor
    · intro hv
      obtain ⟨e, he, rfl⟩ := List.mem_map.mp hv
      obtain ⟨hin, hz⟩ := List.mem_filter.mp he
      have hget := Dict.get?_of_mem_entries (hes.mem_iff.mp hin)
      rw [of_decide_eq_true hz, h] at hget
      by_cases hv' : e.1 ∈ g.vertices
      · rw [if_pos hv'] at hget
        exact ⟨hv', Option.some.inj hget⟩
      · rw [if_neg hv'] at hget
        exact absurd hget nofun
    · rintro ⟨hv, hz⟩
      have hget := h v
      rw [if_pos hv, hz] at hget
      have hin := hes.mem_iff.mpr (Dict.mem_entries_of_get? hget)
      exact List.mem_map.mpr ⟨(v, 0), List.mem_filter.mpr ⟨hin, rfl⟩, rfl⟩
  have hnodup : ((es.filter fun e => e.2 = 0).map (·.1)).Nodup :=
    ((hes.map Prod.fst).nodup_iff.mpr inDegree.nodup).sublist (List.filter_sublist.map _)
  have hperm : ((Kahn.sources g.vertices g.Edge).sort (· ≤ ·)).reverse.Perm
      ((Kahn.sources g.vertices g.Edge).sort (· ≥ ·)) := by
    rw [List.perm_ext_iff_of_nodup (List.nodup_reverse.mpr (Finset.sort_nodup _ _))
      (Finset.sort_nodup _ _)]
    intro v
    rw [List.mem_reverse, Finset.mem_sort, Finset.mem_sort]
  rw [insertionSort_eq_sort hnodup hmem]
  exact hperm.eq_of_pairwise' (List.pairwise_reverse.mpr (Finset.pairwise_sort _ _))
    (Finset.pairwise_sort _ _)

/-- The checked run ends without a failure, in the order of Kahn's algorithm. -/
theorem topologicalSortIn_eq : g.topologicalSortIn o =
    some (if (Kahn.order g.vertices g.Edge).length = g.nodes.length
      then .ok (Kahn.order g.vertices g.Edge) else .error "dependency cycle detected") := by
  have hdeg := hasDegrees_inDegreesIn (g := g) (o := o)
  rw [topologicalSortIn, hdeg.sort_ready (o.inDegree_perm _), hdeg.card_entries,
    sortLoopIn_eq Kahn.Progress.init hdeg (Nat.le_add_right _ _)]
  rfl

-- ════════════════════════════════════════════════════════════════════════
-- The unchecked run
-- ════════════════════════════════════════════════════════════════════════

/-- One edge of the walk, read off the definition. -/
theorem relax_eq_foldl : ∃ f : Dict String ℕ × List String → String → Dict String ℕ × List String,
    (∀ deps inDegree, relax deps inDegree = deps.foldl f (inDegree, [])) ∧
    (∀ s dep, s.1.get? dep = none → f s dep = s) ∧
    ∀ s dep deg, s.1.get? dep = some (deg + 1) →
      f s dep = (s.1.set dep deg, if deg = 0 then s.2 ++ [dep] else s.2) := by
  refine ⟨_, fun deps inDegree => rfl, ?_, ?_⟩
  · intro s dep h
    simp only [h]
  · intro s dep deg h
    simp only [h, Nat.add_sub_cancel]

theorem relax_of_relaxChecked {deps : List String} {inDegree : Dict String ℕ}
    {s : Dict String ℕ × List String} (h : relaxChecked deps inDegree [] = some s) :
    relax deps inDegree = s := by
  obtain ⟨f, hrelax, hnone, hsome⟩ := relax_eq_foldl
  have hfold : ∀ deps inDegree next, relaxChecked deps inDegree next = some s →
      deps.foldl f (inDegree, next) = s := by
    intro deps
    induction deps with
    | nil => exact fun _ _ h => Option.some.inj h
    | cons dep deps ih =>
      intro inDegree next h
      rw [relaxChecked] at h
      rw [List.foldl_cons]
      cases hget : inDegree.get? dep with
      | none =>
        rw [hget] at h
        rw [hnone _ _ hget]
        exact ih _ _ h
      | some deg =>
        rw [hget] at h
        cases deg with
        | zero => exact absurd h nofun
        | succ deg =>
          rw [hsome _ _ _ hget]
          exact ih _ _ h
  rw [hrelax]
  exact hfold deps inDegree [] h

theorem sortLoop_of_sortLoopIn {fuel : ℕ} {stack order out : List String}
    {inDegree : Dict String ℕ} (h : g.sortLoopIn .asListed fuel stack inDegree order = some out) :
    g.sortLoop fuel stack inDegree order = out := by
  induction fuel generalizing stack order inDegree with
  | zero =>
    cases stack with
    | nil => exact Option.some.inj h
    | cons node stack => exact absurd h nofun
  | succ fuel ih =>
    cases stack with
    | nil => exact Option.some.inj h
    | cons node stack =>
      rw [sortLoopIn] at h
      cases hrun : relaxChecked ((g.adj.get? node).getD []) inDegree [] with
      | none => simp [IterationOrder.asListed, hrun] at h
      | some s =>
        have hrelax : relax ((g.adj.get? node).getD []) inDegree = s := relax_of_relaxChecked hrun
        rw [sortLoop, hrelax]
        apply ih
        simpa [IterationOrder.asListed, hrun] using h

theorem topologicalSort_eq : g.topologicalSort =
    if (Kahn.order g.vertices g.Edge).length = g.nodes.length
      then .ok (Kahn.order g.vertices g.Edge) else .error "dependency cycle detected" := by
  have hchecked := topologicalSortIn_eq (g := g) (o := .asListed)
  rw [topologicalSortIn] at hchecked
  obtain ⟨out, hout, heq⟩ := Option.map_eq_some_iff.mp hchecked
  have hrun := sortLoop_of_sortLoopIn hout
  rw [← heq, ← hrun]
  rfl

/-- The result does not depend on how the tables are iterated. -/
theorem topological_sort_iteration_order (g : DependencyGraph) (o o' : IterationOrder) :
    g.topologicalSortIn o = g.topologicalSortIn o' ∧
      g.topologicalSortIn o = some g.topologicalSort := by
  rw [topologicalSortIn_eq, topologicalSortIn_eq, topologicalSort_eq]
  exact ⟨rfl, rfl⟩

end DependencyGraph

end OxyRoute
