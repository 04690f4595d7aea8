import OxyRoute.Native.Rejection
import OxyRoute.Native.Registered
import OxyRoute.Native.TopologicalSort

/-!
# Cycles

A graph that is built edge by edge has its edges between its nodes. Its topological sort succeeds
if and only if it has no cycle, and so does the registration of a list of dependencies.

## Main definitions

- `DependencyGraph.Built` — the graphs that the operations build
- `Requires` — the relation between the dependencies of a list

## Main results

- `dependency_cycles` — which graphs are sorted, which lists are accepted
- `positional_cycle_accepted` — positional-only parameters do not count
-/

namespace OxyRoute

namespace DependencyGraph

/-- The graphs that `new`, `ensure_node` and `add_edge` build. -/
inductive Built : DependencyGraph → Prop
  | new : Built .new
  | ensureNode {g : DependencyGraph} (name : String) : Built g → Built (g.ensureNode name)
  | addEdge {g : DependencyGraph} (prereq dependent : String) :
      Built g → Built (g.addEdge prereq dependent)

variable {g : DependencyGraph} {u v : String}

theorem mem_insertElem {s : List String} {x y : String} : y ∈ insertElem s x ↔ y ∈ s ∨ y = x := by
  by_cases hx : x ∈ s
  · rw [insertElem, if_pos hx]
    constructor
    · exact Or.inl
    · rintro (hy | rfl)
      · exact hy
      · exact hx
  · rw [insertElem, if_neg hx]
    simp

theorem nodup_insertElem {s : List String} {x : String} (h : s.Nodup) :
    (insertElem s x).Nodup := by
  by_cases hx : x ∈ s
  · rw [insertElem, if_pos hx]
    exact h
  · rw [insertElem, if_neg hx]
    exact h.append (List.nodup_singleton x) (by simpa using hx)

theorem mem_nodes_ensureNode {name : String} :
    v ∈ (g.ensureNode name).nodes ↔ v ∈ g.nodes ∨ v = name :=
  mem_insertElem

theorem mem_nodes_addEdge {prereq dependent : String} :
    v ∈ (g.addEdge prereq dependent).nodes ↔ v ∈ g.nodes ∨ v = prereq ∨ v = dependent := by
  show v ∈ ((g.ensureNode prereq).ensureNode dependent).nodes ↔ _
  rw [mem_nodes_ensureNode, mem_nodes_ensureNode, or_assoc]

theorem getD_ensureNode {name : String} :
    ((g.ensureNode name).adj.get? u).getD [] = (g.adj.get? u).getD [] := by
  rw [ensureNode]
  cases hname : g.adj.get? name with
  | some dependents => rfl
  | none =>
    by_cases hu : u = name
    · simp [hu, hname]
    · simp [hu]

theorem edge_ensureNode {name : String} : (g.ensureNode name).Edge u v ↔ g.Edge u v := by
  rw [edge_iff, edge_iff, getD_ensureNode]

theorem edge_addEdge {prereq dependent : String} :
    (g.addEdge prereq dependent).Edge u v ↔ g.Edge u v ∨ (u = prereq ∧ v = dependent) := by
  rw [edge_iff, edge_iff, addEdge, Dict.get?_set, getD_ensureNode, getD_ensureNode]
  by_cases hu : u = prereq
  · rw [if_pos hu, Option.getD_some, mem_insertElem, hu]
    simp
  · rw [if_neg hu, getD_ensureNode, getD_ensureNode]
    simp [hu]

/-- What holds of the graphs that are built: the edges are between nodes. -/
structure Consistent (g : DependencyGraph) : Prop where
  nodup : g.nodes.Nodup
  edge_mem : ∀ u v, g.Edge u v → u ∈ g.nodes ∧ v ∈ g.nodes

theorem Built.consistent (h : g.Built) : g.Consistent := by
  induction h with
  | new =>
    refine ⟨List.nodup_nil, fun u v hE => ?_⟩
    obtain ⟨e, he, -⟩ := hE
    exact absurd he List.not_mem_nil
  | ensureNode name _ ih =>
    refine ⟨nodup_insertElem ih.nodup, fun u v hE => ?_⟩
    have hold := ih.edge_mem u v (edge_ensureNode.mp hE)
    exact ⟨mem_nodes_ensureNode.mpr (Or.inl hold.1), mem_nodes_ensureNode.mpr (Or.inl hold.2)⟩
  | addEdge prereq dependent _ ih =>
    refine ⟨nodup_insertElem (nodup_insertElem ih.nodup), fun u v hE => ?_⟩
    rw [mem_nodes_addEdge, mem_nodes_addEdge]
    rcases edge_addEdge.mp hE with hE | ⟨rfl, rfl⟩
    · have hold := ih.edge_mem u v hE
      exact ⟨Or.inl hold.1, Or.inl hold.2⟩
    · exact ⟨Or.inr (Or.inl rfl), Or.inr (Or.inr rfl)⟩

theorem Consistent.mem_vertices (h : g.Consistent) : v ∈ g.vertices ↔ v ∈ g.nodes := by
  rw [DependencyGraph.mem_vertices]
  constructor
  · rintro (hv | hv)
    · exact hv
    · obtain ⟨e, he, hve⟩ := List.mem_flatMap.mp hv
      exact (h.edge_mem e.1 v ⟨e, he, rfl, hve⟩).2
  · exact Or.inl

theorem Consistent.card_vertices (h : g.Consistent) : g.vertices.card = g.nodes.length := by
  rw [← List.toFinset_card_of_nodup h.nodup]
  apply congrArg Finset.card
  ext v
  rw [h.mem_vertices, List.mem_toFinset]

/-- A cycle; an edge from a node to itself is one. -/
def Cyclic (g : DependencyGraph) : Prop := ∃ v, Relation.TransGen g.Edge v v

theorem Consistent.length_order_iff (h : g.Consistent) :
    (Kahn.order g.vertices g.Edge).length = g.nodes.length ↔ ¬ g.Cyclic := by
  rw [← h.card_vertices, Kahn.length_order_iff_acyclic, Cyclic, not_exists]
  intro u v hE
  have hmem := h.edge_mem u v hE
  exact ⟨h.mem_vertices.mpr hmem.1, h.mem_vertices.mpr hmem.2⟩

/-- Without a cycle the sort lists the nodes, prerequisites first. -/
theorem Consistent.sorted (h : g.Consistent) (hacyclic : ¬ g.Cyclic) (o : IterationOrder) :
    ∃ order, g.topologicalSortIn o = some (.ok order) ∧ order.Nodup ∧
      (∀ v, v ∈ order ↔ v ∈ g.nodes) ∧ ∀ u v, g.Edge u v → order.idxOf u < order.idxOf v := by
  have hlen := h.length_order_iff.mpr hacyclic
  have hall : ∀ v, v ∈ Kahn.order g.vertices g.Edge ↔ v ∈ g.nodes := by
    intro v
    rw [← h.mem_vertices]
    constructor
    · exact fun hv => (Kahn.mem_order_iff.mp hv).1
    · exact Kahn.length_order_iff.mp (hlen.trans h.card_vertices.symm) v
  refine ⟨_, by rw [topologicalSortIn_eq, if_pos hlen], Kahn.nodup_order, hall, ?_⟩
  intro u v hE
  exact Kahn.prereqsFirst_order.idxOf_lt Kahn.nodup_order ((hall v).mpr (h.edge_mem u v hE).2) hE

theorem Consistent.refused (h : g.Consistent) (hcyclic : g.Cyclic) (o : IterationOrder) :
    g.topologicalSortIn o = some (.error "dependency cycle detected") := by
  rw [topologicalSortIn_eq, if_neg fun hlen => h.length_order_iff.mp hlen hcyclic]

theorem Built.foldl {α : Type} {f : DependencyGraph → α → DependencyGraph}
    (hf : ∀ g a, g.Built → (f g a).Built) (as : List α) (h : g.Built) : (as.foldl f g).Built := by
  induction as generalizing g with
  | nil => exact h
  | cons a as ih => exact ih (hf g a h)

end DependencyGraph

-- ════════════════════════════════════════════════════════════════════════
-- The graph of a list of dependencies
-- ════════════════════════════════════════════════════════════════════════

variable {Ref : Type} {entries : List (DependencyEntry Ref)} {u v : String}

/-- The factory of the dependency `v` can be given the dependency `u` by name. -/
def Prerequisite (entries : List (DependencyEntry Ref)) (u v : String) : Prop :=
  u ∈ entries.map (·.name) ∧ ∃ e ∈ entries, e.name = v ∧ u ∈ e.factoryParams

theorem built_buildGraphFromEntries : (buildGraphFromEntries entries).Built := by
  apply DependencyGraph.Built.foldl fun g e h =>
    h.foldl (fun g p h => h.addEdge p e.name) _
  exact DependencyGraph.Built.foldl (fun g e h => h.ensureNode e.name) _ .new

section

variable {g : DependencyGraph}

theorem foldl_ensureNode (es : List (DependencyEntry Ref)) :
    (∀ v, v ∈ (es.foldl (fun g e => g.ensureNode e.name) g).nodes ↔
      v ∈ g.nodes ∨ v ∈ es.map (·.name)) ∧
    ∀ u v, (es.foldl (fun g e => g.ensureNode e.name) g).Edge u v ↔ g.Edge u v := by
  induction es generalizing g with
  | nil => simp
  | cons e es ih =>
    constructor
    · intro v
      rw [List.foldl_cons, ih.1, DependencyGraph.mem_nodes_ensureNode, List.map_cons,
        List.mem_cons, or_assoc]
    · intro u v
      rw [List.foldl_cons, ih.2, DependencyGraph.edge_ensureNode]

theorem foldl_addEdge (ps : List String) (name : String) (hps : ∀ p ∈ ps, p ∈ g.nodes)
    (hname : name ∈ g.nodes) :
    (∀ v, v ∈ (ps.foldl (fun g p => g.addEdge p name) g).nodes ↔ v ∈ g.nodes) ∧
    ∀ u v, (ps.foldl (fun g p => g.addEdge p name) g).Edge u v ↔
      g.Edge u v ∨ (u ∈ ps ∧ v = name) := by
  induction ps generalizing g with
  | nil => simp
  | cons p ps ih =>
    have hnodes : ∀ v, v ∈ (g.addEdge p name).nodes ↔ v ∈ g.nodes := by
      intro v
      rw [DependencyGraph.mem_nodes_addEdge]
      constructor
      · rintro (hv | rfl | rfl)
        · exact hv
        · exact hps v List.mem_cons_self
        · exact hname
      · exact Or.inl
    have ih := ih (g := g.addEdge p name)
      (fun q hq => (hnodes q).mpr (hps q (List.mem_cons_of_mem _ hq))) ((hnodes name).mpr hname)
    constructor
    · intro v
      rw [List.foldl_cons, ih.1, hnodes]
    · intro u v
      rw [List.foldl_cons, ih.2, DependencyGraph.edge_addEdge, List.mem_cons]
      tauto

theorem foldl_addEdges (names : List String) (es : List (DependencyEntry Ref))
    (hnames : ∀ p ∈ names, p ∈ g.nodes) (hes : ∀ e ∈ es, e.name ∈ g.nodes) :
    (∀ v, v ∈ (es.foldl (fun g e =>
      (e.factoryParams.filter (· ∈ names)).foldl (fun g p => g.addEdge p e.name) g) g).nodes ↔
        v ∈ g.nodes) ∧
    ∀ u v, (es.foldl (fun g e =>
      (e.factoryParams.filter (· ∈ names)).foldl (fun g p => g.addEdge p e.name) g) g).Edge u v ↔
        g.Edge u v ∨ (u ∈ names ∧ ∃ e ∈ es, e.name = v ∧ u ∈ e.factoryParams) := by
  induction es generalizing g with
  | nil => simp
  | cons e es ih =>
    have hstep := foldl_addEdge (g := g) (e.factoryParams.filter (· ∈ names)) e.name
      (fun p hp => hnames p (of_decide_eq_true (List.mem_filter.mp hp).2))
      (hes e List.mem_cons_self)
    have ih := ih
      (g := (e.factoryParams.filter (· ∈ names)).foldl (fun g p => g.addEdge p e.name) g)
      (fun p hp => (hstep.1 p).mpr (hnames p hp))
      (fun x hx => (hstep.1 _).mpr (hes x (List.mem_cons_of_mem _ hx)))
    constructor
    · intro v
      rw [List.foldl_cons, ih.1, hstep.1]
    · intro u v
      rw [List.foldl_cons, ih.2, hstep.2, List.mem_filter]
      simp only [decide_eq_true_eq, List.mem_cons, exists_eq_or_imp]
      constructor
      · rintro ((hE | ⟨⟨hu, hn⟩, rfl⟩) | ⟨hn, e', he', hv, hu⟩)
        · exact Or.inl hE
        · exact Or.inr ⟨hn, Or.inl ⟨rfl, hu⟩⟩
        · exact Or.inr ⟨hn, Or.inr ⟨e', he', hv, hu⟩⟩
      · rintro (hE | ⟨hn, ⟨rfl, hu⟩ | ⟨e', he', hv, hu⟩⟩)
        · exact Or.inl (Or.inl hE)
        · exact Or.inl (Or.inr ⟨⟨hu, hn⟩, rfl⟩)
        · exact Or.inr ⟨hn, e', he', hv, hu⟩

end

theorem graph_nodes_and_edges :
    (∀ v, v ∈ (buildGraphFromEntries entries).nodes ↔ v ∈ entries.map (·.name)) ∧
    ∀ u v, (buildGraphFromEntries entries).Edge u v ↔ Prerequisite entries u v := by
  have hstart := foldl_ensureNode (g := .new) entries
  have hnodes : ∀ v,
      v ∈ (entries.foldl (fun (g : DependencyGraph) e => g.ensureNode e.name) .new).nodes ↔
      v ∈ entries.map (·.name) := by
    intro v
    rw [hstart.1]
    simp [DependencyGraph.new]
  have hfold := foldl_addEdges (entries.map (·.name)) entries (fun p hp => (hnodes p).mpr hp)
    (fun e he => (hnodes _).mpr (List.mem_map.mpr ⟨e, he, rfl⟩))
  refine ⟨fun v => (hfold.1 v).trans (hnodes v), fun u v => (hfold.2 u v).trans ?_⟩
  rw [hstart.2]
  have hnone : ¬ DependencyGraph.new.Edge u v := by
    rintro ⟨e, he, -⟩
    exact absurd he List.not_mem_nil
  rw [or_iff_right hnone]
  rfl

theorem cyclic_graph_iff : (buildGraphFromEntries entries).Cyclic ↔
    ∃ v, Relation.TransGen (Prerequisite entries) v v := by
  have hE : (buildGraphFromEntries entries).Edge = Prerequisite entries := by
    funext u v
    exact propext (graph_nodes_and_edges.2 u v)
  rw [DependencyGraph.Cyclic, hE]

/-- The dependencies in the order of their names. -/
theorem map_name_filterMap_find {order : List String}
    (h : ∀ n ∈ order, n ∈ entries.map (·.name)) :
    (order.filterMap fun n => entries.find? fun d => d.name = n).map (·.name) = order := by
  induction order with
  | nil => rfl
  | cons n order ih =>
    obtain ⟨e, he, hn⟩ := List.mem_map.mp (h n List.mem_cons_self)
    obtain ⟨d, hd⟩ := Option.isSome_iff_exists.mp
      (List.find?_isSome (p := fun d : DependencyEntry Ref => decide (d.name = n)).mpr
        ⟨e, he, decide_eq_true hn⟩)
    have hname : d.name = n := by simpa using List.find?_some hd
    rw [List.filterMap_cons, hd]
    dsimp only
    rw [List.map_cons, hname, ih fun n hn => h n (List.mem_cons_of_mem _ hn)]

theorem find?_name_eq_some_iff (hnd : (entries.map (·.name)).Nodup) {n : String}
    {e : DependencyEntry Ref} :
    (entries.find? fun d => d.name = n) = some e ↔ e ∈ entries ∧ e.name = n := by
  constructor
  · intro h
    exact ⟨List.mem_of_find?_eq_some h, by simpa using List.find?_some h⟩
  · rintro ⟨he, rfl⟩
    obtain ⟨d, hd⟩ := Option.isSome_iff_exists.mp
      (List.find?_isSome (p := fun d : DependencyEntry Ref => decide (d.name = e.name)).mpr
        ⟨e, he, decide_eq_true rfl⟩)
    have hname : d.name = e.name := by simpa using List.find?_some hd
    rw [hd, List.inj_on_of_nodup_map hnd (List.mem_of_find?_eq_some hd) he hname]

theorem perm_filterMap_find (hnd : (entries.map (·.name)).Nodup) {order : List String}
    (horder : order.Nodup) (hmem : ∀ n, n ∈ order ↔ n ∈ entries.map (·.name)) :
    (order.filterMap fun n => entries.find? fun d => d.name = n).Perm entries := by
  have hnames := map_name_filterMap_find fun n hn => (hmem n).mp hn
  have hstored : (order.filterMap fun n => entries.find? fun d => d.name = n).Nodup := by
    apply List.Nodup.of_map (·.name)
    rw [hnames]
    exact horder
  rw [List.perm_ext_iff_of_nodup hstored (List.Nodup.of_map (·.name) hnd)]
  intro e
  rw [List.mem_filterMap]
  constructor
  · rintro ⟨n, -, hn⟩
    exact List.mem_of_find?_eq_some hn
  · intro he
    have hn : e.name ∈ order := (hmem _).mpr (List.mem_map.mpr ⟨e, he, rfl⟩)
    exact ⟨e.name, hn, (find?_name_eq_some_iff hnd).mpr ⟨he, rfl⟩⟩

/-- What `add_route` stores: the same dependencies, each after its prerequisites. -/
structure Ordered (entries stored : List (DependencyEntry Ref)) : Prop where
  perm : stored.Perm entries
  names : stored.map (·.name) = Kahn.order (buildGraphFromEntries entries).vertices
    (buildGraphFromEntries entries).Edge

theorem orderDependencies_cases (hnd : (entries.map (·.name)).Nodup) :
    ((∃ v, Relation.TransGen (Prerequisite entries) v v) ∧
      orderDependencies entries = .error "dependency cycle detected") ∨
    ((¬ ∃ v, Relation.TransGen (Prerequisite entries) v v) ∧
      ∃ stored, orderDependencies entries = .ok stored ∧ Ordered entries stored) := by
  have hg : (buildGraphFromEntries entries).Consistent := built_buildGraphFromEntries.consistent
  by_cases hc : (buildGraphFromEntries entries).Cyclic
  · left
    refine ⟨cyclic_graph_iff.mp hc, ?_⟩
    have hsort := hg.refused hc .asListed
    rw [(DependencyGraph.topological_sort_iteration_order _ _ .asListed).2] at hsort
    rw [orderDependencies, Option.some.inj hsort]
    rfl
  · right
    refine ⟨fun h => hc (cyclic_graph_iff.mpr h), ?_⟩
    have hlen := hg.length_order_iff.mpr hc
    have hsort : (buildGraphFromEntries entries).topologicalSort = .ok (Kahn.order
        (buildGraphFromEntries entries).vertices (buildGraphFromEntries entries).Edge) := by
      rw [DependencyGraph.topologicalSort_eq, if_pos hlen]
    have hmem : ∀ v, v ∈ Kahn.order (buildGraphFromEntries entries).vertices
        (buildGraphFromEntries entries).Edge ↔ v ∈ entries.map (·.name) := by
      intro v
      rw [← graph_nodes_and_edges.1, ← hg.mem_vertices]
      constructor
      · exact fun hv => (Kahn.mem_order_iff.mp hv).1
      · exact Kahn.length_order_iff.mp (hlen.trans hg.card_vertices.symm) v
    exact ⟨_, by rw [orderDependencies, hsort]; rfl,
      perm_filterMap_find hnd Kahn.nodup_order hmem,
      map_name_filterMap_find fun n hn => (hmem n).mp hn⟩

-- ════════════════════════════════════════════════════════════════════════
-- Reading the list
-- ════════════════════════════════════════════════════════════════════════

/-- What `parse_dependencies` finds out about an item `(name, factory)`. -/
structure ParsedAs (py : Introspection Ref) (it : Ref) (e : DependencyEntry Ref) : Prop where
  item : ∃ first, py.tupleItems it = .ok [first, e.factory] ∧ py.extractString first = .ok e.name
  isAsync : py.isCoroutineFunction e.factory = .ok e.isAsync
  wantsRequest : dependencyWantsRequest py e.factory = .ok e.wantsRequest
  kinds : handlerSignatureKinds py e.factory = .ok (e.factoryParams, e.factoryVarkw)

theorem parseDependenciesFrom_eq_ok_iff {py : Introspection Ref} {seen : List String}
    {deps : List Ref} : parseDependenciesFrom py seen deps = .ok entries ↔
      List.Forall₂ (ParsedAs py) deps entries ∧ (entries.map (·.name)).Nodup ∧
        ∀ e ∈ entries, e.name ∉ seen := by
  induction deps generalizing seen entries with
  | nil =>
    rw [parseDependenciesFrom]
    constructor
    · intro h
      cases h
      exact ⟨.nil, List.nodup_nil, fun e he => absurd he List.not_mem_nil⟩
    · rintro ⟨hall, -⟩
      cases hall
      rfl
  | cons it deps ih =>
    constructor
    · intro h
      rw [parseDependenciesFrom] at h
      obtain ⟨tup, htup, h⟩ := Except.of_bind_eq_ok h
      split at h
      · next first f =>
        obtain ⟨name, hname, h⟩ := Except.of_bind_eq_ok h
        split at h
        · cases h
        · next hseen =>
          obtain ⟨isAsync, hasync, h⟩ := Except.of_bind_eq_ok h
          obtain ⟨wantsRequest, hwants, h⟩ := Except.of_bind_eq_ok h
          obtain ⟨⟨params, varkw⟩, hkinds, h⟩ := Except.of_bind_eq_ok h
          obtain ⟨out, hout, h⟩ := Except.of_bind_eq_ok h
          cases h
          obtain ⟨hall, hnd, hnew⟩ := ih.mp hout
          refine ⟨.cons ⟨⟨first, htup, hname⟩, hasync, hwants, hkinds⟩ hall, ?_, ?_⟩
          · rw [List.map_cons, List.nodup_cons]
            refine ⟨fun hin => ?_, hnd⟩
            obtain ⟨e, he, heq⟩ := List.mem_map.mp hin
            exact hnew e he (heq ▸ List.mem_cons_self)
          · intro e he
            rcases List.mem_cons.mp he with rfl | he
            · exact hseen
            · exact fun hin => hnew e he (List.mem_cons_of_mem _ hin)
      · cases h
    · rintro ⟨hall, hnd, hnew⟩
      obtain ⟨e, rest, hp, hrest, rfl⟩ := List.forall₂_cons_left_iff.mp hall
      rw [List.map_cons, List.nodup_cons] at hnd
      obtain ⟨⟨first, htup, hname⟩, hasync, hwants, hkinds⟩ := hp
      have hout : parseDependenciesFrom py (e.name :: seen) deps = .ok rest := by
        apply ih.mpr ⟨hrest, hnd.2, fun x hx hin => ?_⟩
        rcases List.mem_cons.mp hin with heq | hin
        · exact hnd.1 (heq ▸ List.mem_map.mpr ⟨x, hx, rfl⟩)
        · exact hnew x (List.mem_cons_of_mem _ hx) hin
      have hseen : e.name ∉ seen := hnew e List.mem_cons_self
      simp only [parseDependenciesFrom, htup, hname, hseen, hasync, hwants, hkinds, hout, bind,
        Except.bind, pure, Except.pure, if_false]

theorem parseDependencies_eq_ok_iff {py : Introspection Ref} {deps : List Ref} :
    parseDependencies py deps = .ok entries ↔
      List.Forall₂ (ParsedAs py) deps entries ∧ (entries.map (·.name)).Nodup := by
  rw [parseDependencies, parseDependenciesFrom_eq_ok_iff]
  constructor
  · rintro ⟨hall, hnd, -⟩
    exact ⟨hall, hnd⟩
  · rintro ⟨hall, hnd⟩
    exact ⟨hall, hnd, fun e _ => List.not_mem_nil⟩

/-- An item of a dependency list: its name and its factory. -/
def IsDependency (py : Introspection Ref) (deps : List Ref) (name : String) (f : Ref) : Prop :=
  ∃ it ∈ deps, ∃ first, py.tupleItems it = .ok [first, f] ∧ py.extractString first = .ok name

/-- The factory of the dependency `v` has a parameter of some kind that is named after the
dependency `u`. -/
def Requires (py : Introspection Ref) (kinds : ParamKind → Prop) (deps : List Ref)
    (u v : String) : Prop :=
  (∃ f, IsDependency py deps u f) ∧
    ∃ f params k, IsDependency py deps v f ∧ py.parameters f = .ok params ∧ (u, k) ∈ params ∧
      kinds k

/-- The kinds of parameters that an argument can be given to by name. -/
def ByName (k : ParamKind) : Prop := k = .positionalOrKeyword ∨ k = .keywordOnly

theorem mem_of_handlerSignatureKinds {py : Introspection Ref} {f : Ref} {names : List String}
    {varkw : Bool} (h : handlerSignatureKinds py f = .ok (names, varkw)) :
    ∃ params, py.parameters f = .ok params ∧
      ∀ n, n ∈ names ↔ ∃ k, (n, k) ∈ params ∧ ByName k := by
  rw [handlerSignatureKinds] at h
  obtain ⟨params, hparams, h⟩ := Except.of_bind_eq_ok h
  cases h
  refine ⟨params, hparams, fun n => ?_⟩
  simp [ByName]

theorem exists_parsed_of_mem {py : Introspection Ref} {deps : List Ref}
    (h : List.Forall₂ (ParsedAs py) deps entries) {it : Ref} (hit : it ∈ deps) :
    ∃ e ∈ entries, ParsedAs py it e := by
  induction h with
  | nil => exact absurd hit List.not_mem_nil
  | cons hp _ ih =>
    rcases List.mem_cons.mp hit with rfl | hit
    · exact ⟨_, List.mem_cons_self, hp⟩
    · obtain ⟨e, he, hp⟩ := ih hit
      exact ⟨e, List.mem_cons_of_mem _ he, hp⟩

theorem exists_item_of_mem {py : Introspection Ref} {deps : List Ref}
    (h : List.Forall₂ (ParsedAs py) deps entries) {e : DependencyEntry Ref} (he : e ∈ entries) :
    ∃ it ∈ deps, ParsedAs py it e := by
  induction h with
  | nil => exact absurd he List.not_mem_nil
  | cons hp _ ih =>
    rcases List.mem_cons.mp he with rfl | he
    · exact ⟨_, List.mem_cons_self, hp⟩
    · obtain ⟨it, hit, hp⟩ := ih he
      exact ⟨it, List.mem_cons_of_mem _ hit, hp⟩

theorem isDependency_iff {py : Introspection Ref} {deps : List Ref}
    (h : List.Forall₂ (ParsedAs py) deps entries) {n : String} {f : Ref} :
    IsDependency py deps n f ↔ ∃ e ∈ entries, e.name = n ∧ e.factory = f := by
  constructor
  · rintro ⟨it, hit, first, htup, hname⟩
    obtain ⟨e, he, hp⟩ := exists_parsed_of_mem h hit
    obtain ⟨first', htup', hname'⟩ := hp.item
    rw [htup] at htup'
    cases htup'
    rw [hname] at hname'
    cases hname'
    exact ⟨e, he, rfl, rfl⟩
  · rintro ⟨e, he, rfl, rfl⟩
    obtain ⟨it, hit, hp⟩ := exists_item_of_mem h he
    exact ⟨it, hit, hp.item⟩

theorem requires_iff {py : Introspection Ref} {deps : List Ref}
    (h : parseDependencies py deps = .ok entries) :
    Requires py ByName deps u v ↔ Prerequisite entries u v := by
  obtain ⟨hall, -⟩ := parseDependencies_eq_ok_iff.mp h
  constructor
  · rintro ⟨⟨f, hu⟩, f', params, k, hv, hparams, hk, hby⟩
    obtain ⟨e, he, rfl, -⟩ := (isDependency_iff hall).mp hu
    obtain ⟨e', he', rfl, rfl⟩ := (isDependency_iff hall).mp hv
    obtain ⟨it, -, hp⟩ := exists_item_of_mem hall he'
    obtain ⟨params', hparams', hnames⟩ := mem_of_handlerSignatureKinds hp.kinds
    rw [hparams] at hparams'
    cases hparams'
    exact ⟨List.mem_map.mpr ⟨e, he, rfl⟩, e', he', rfl, (hnames _).mpr ⟨k, hk, hby⟩⟩
  · rintro ⟨hu, e', he', rfl, hin⟩
    obtain ⟨e, he, rfl⟩ := List.mem_map.mp hu
    obtain ⟨it, -, hp⟩ := exists_item_of_mem hall he'
    obtain ⟨params, hparams, hnames⟩ := mem_of_handlerSignatureKinds hp.kinds
    obtain ⟨k, hk, hby⟩ := (hnames _).mp hin
    exact ⟨⟨_, (isDependency_iff hall).mpr ⟨e, he, rfl, rfl⟩⟩, _, params, k,
      (isDependency_iff hall).mpr ⟨e', he', rfl, rfl⟩, hparams, hk, hby⟩

-- ════════════════════════════════════════════════════════════════════════
-- Registration
-- ════════════════════════════════════════════════════════════════════════

variable {m : Matchit} {h : Host Ref} {a : AddRouteArgs Ref} {deps : List Ref}

/-- A list that parses is refused for a cycle, or its dependencies are stored in order. -/
theorem routeDependencies_cases (hparse : parseDependencies h.toIntrospection deps = .ok entries) :
    ((∃ v, Relation.TransGen (Prerequisite entries) v v) ∧
      ∃ e, routeDependencies h (some deps) = .error e) ∨
    ((¬ ∃ v, Relation.TransGen (Prerequisite entries) v v) ∧
      ∃ stored, routeDependencies h (some deps) = .ok stored ∧ Ordered entries stored) := by
  have hnd := (parseDependencies_eq_ok_iff.mp hparse).2
  rcases orderDependencies_cases hnd with ⟨hcycle, horder⟩ | ⟨hacyclic, stored, horder, hord⟩
  · left
    refine ⟨hcycle, .valueError ("dependency cycle detected: " ++ "dependency cycle detected"), ?_⟩
    have hne : entries ≠ [] := by
      rintro rfl
      obtain ⟨v, hv⟩ := hcycle
      obtain ⟨u, huv⟩ := Relation.TransGen.head'_iff.mp hv
      exact absurd huv.1.1 List.not_mem_nil
    simp [routeDependencies, hparse, hne, horder, bind, Except.bind, throw, throwThe,
      MonadExceptOf.throw]
  · right
    refine ⟨hacyclic, stored, ?_, hord⟩
    by_cases hne : entries = []
    · have hnil : stored = [] := by
        rw [hne] at hord
        exact hord.perm.eq_nil
      simp [routeDependencies, hparse, hne, hnil, bind, Except.bind, pure, Except.pure]
    · simp [routeDependencies, hparse, hne, horder, bind, Except.bind, pure, Except.pure]

/-- A route that can be prepared without its dependencies can be prepared with them exactly if
they can be put in order. -/
theorem prepareRoute_withDependencies {r : RouteEntry Ref × String}
    (hbare : prepareRoute h { a with dependencies := none } = .ok r) :
    (∃ r', prepareRoute h a = .ok r') ↔
      ∃ stored, routeDependencies h a.dependencies = .ok stored := by
  unfold prepareRoute at hbare ⊢
  obtain ⟨isAsync, hasync, hbare⟩ := Except.of_bind_eq_ok hbare
  obtain ⟨algs, halgs, hbare⟩ := Except.of_bind_eq_ok hbare
  dsimp only at hbare
  split at hbare
  · obtain ⟨_, ht, _⟩ := Except.of_bind_eq_ok hbare
    cases ht
  · next hbody =>
    split at hbare
    · obtain ⟨_, ht, _⟩ := Except.of_bind_eq_ok hbare
      cases ht
    · next hsecret =>
      obtain ⟨jwt, hjwt, hbare⟩ := Except.of_bind_eq_ok hbare
      obtain ⟨_, -, hbare⟩ := Except.of_bind_eq_ok hbare
      obtain ⟨limiter, hlimiter, hbare⟩ := Except.of_bind_eq_ok hbare
      obtain ⟨opId, hopId, hbare⟩ := Except.of_bind_eq_ok hbare
      obtain ⟨kinds, hkinds, -⟩ := Except.of_bind_eq_ok hbare
      have hjwt' : routeJwtState h a algs = .ok jwt := hjwt
      have hlimiter' : routeRateLimiter a = .ok limiter := hlimiter
      simp only [hasync, halgs, hbody, hsecret, hjwt', bind, Except.bind, pure, Except.pure,
        if_false]
      cases hdeps : routeDependencies h a.dependencies with
      | error e => simp
      | ok stored => simp [hlimiter', hopId, hkinds]

/-- The registration of a route that would be accepted without its dependencies is refused
exactly if they have a cycle. -/
theorem addRoute_refused_iff {st : AppState m Ref} (hdeps : a.dependencies = some deps)
    (hparse : parseDependencies h.toIntrospection deps = .ok entries)
    (hbare : (addRoute h st { a with dependencies := none }).2 = .ok ()) :
    (∃ e, (addRoute h st a).2 = .error e) ↔
      ∃ v, Relation.TransGen (Prerequisite entries) v v := by
  have hfrozen : ¬ st.frozen = true := by
    intro hf
    rw [addRoute, if_pos hf] at hbare
    cases hbare
  rw [addRoute, if_neg hfrozen] at hbare
  cases hprep : prepareRoute h { a with dependencies := none } with
  | error e =>
    rw [hprep] at hbare
    cases hbare
  | ok r =>
    rw [hprep] at hbare
    have hchecks := (commitRoute_isOk_iff h st { a with dependencies := none } r.1 r.2).mp hbare
    have hwith := prepareRoute_withDependencies hprep
    rw [hdeps] at hwith
    rw [addRoute, if_neg hfrozen]
    rcases routeDependencies_cases hparse with ⟨hcycle, e, he⟩ | ⟨hacyclic, stored, hs, -⟩
    · refine ⟨fun _ => hcycle, fun _ => ?_⟩
      cases hr : prepareRoute h a with
      | error e => exact ⟨e, rfl⟩
      | ok r' =>
        obtain ⟨stored, hs⟩ := hwith.mp ⟨r', hr⟩
        rw [he] at hs
        cases hs
    · refine ⟨fun ⟨e, hrefused⟩ => ?_, fun hc => absurd hc hacyclic⟩
      obtain ⟨r', hr⟩ := hwith.mpr ⟨stored, hs⟩
      rw [hr] at hrefused
      have hok := (commitRoute_isOk_iff h st a r'.1 r'.2).mpr
        ⟨hchecks.bodySchema, hchecks.tags, hchecks.extraParams, hchecks.template⟩
      rw [show (commitRoute h st a r'.1 r'.2).2 = .error e from hrefused] at hok
      cases hok

/-- Every graph that is built is sorted to the end, and refused exactly if it has a cycle. A
registration is refused for its dependencies exactly if one can be reached from itself through
parameters that are given by name. -/
theorem dependency_cycles :
    (∀ g : DependencyGraph, g.Built → ∀ o : IterationOrder,
      (¬ g.Cyclic → ∃ order, g.topologicalSortIn o = some (.ok order) ∧ order.Nodup ∧
        (∀ v, v ∈ order ↔ v ∈ g.nodes) ∧ ∀ u v, g.Edge u v → order.idxOf u < order.idxOf v) ∧
      (g.Cyclic → ∃ e, g.topologicalSortIn o = some (.error e))) ∧
    ∀ (h : Host Ref) (st : AppState m Ref) (a : AddRouteArgs Ref) (deps : List Ref),
      a.dependencies = some deps →
      (∃ entries, parseDependencies h.toIntrospection deps = .ok entries) →
      (addRoute h st { a with dependencies := none }).2 = .ok () →
      ((∃ e, (addRoute h st a).2 = .error e) ↔
        ∃ v, Relation.TransGen (Requires h.toIntrospection ByName deps) v v) := by
  constructor
  · intro g hg o
    exact ⟨fun hacyclic => hg.consistent.sorted hacyclic o,
      fun hcyclic => ⟨_, hg.consistent.refused hcyclic o⟩⟩
  · intro h st a deps hdeps ⟨entries, hparse⟩ hbare
    have hE : Requires h.toIntrospection ByName deps = Prerequisite entries := by
      funext u v
      exact propext (requires_iff hparse)
    rw [hE]
    exact addRoute_refused_iff hdeps hparse hbare

/-- Two factories, each with a parameter named after the other. -/
def cycleHost (kind : ParamKind) : Host String where
  toIntrospection :=
    { plainHost.toIntrospection with
      tupleItems := fun it => .ok [it, it]
      parameters := fun f =>
        .ok (if f = "a" then [("b", kind)] else if f = "b" then [("a", kind)] else []) }
  jsonFromStr := plainHost.jsonFromStr
  jsonArrayFromStr := plainHost.jsonArrayFromStr
  algorithmFromStr := plainHost.algorithmFromStr
  readPem := plainHost.readPem
  unicodeLowercase := plainHost.unicodeLowercase

def cycleRoute : AddRouteArgs String := { getRoute "/x" "h" with dependencies := some ["a", "b"] }

theorem requires_cycleHost {kinds : ParamKind → Prop} {kind : ParamKind} (hk : kinds kind) :
    Relation.TransGen (Requires (cycleHost kind).toIntrospection kinds ["a", "b"]) "a" "a" := by
  have ha : IsDependency (cycleHost kind).toIntrospection ["a", "b"] "a" "a" :=
    ⟨"a", by decide, "a", rfl, rfl⟩
  have hb : IsDependency (cycleHost kind).toIntrospection ["a", "b"] "b" "b" :=
    ⟨"b", by decide, "b", rfl, rfl⟩
  have hab : Requires (cycleHost kind).toIntrospection kinds ["a", "b"] "a" "b" :=
    ⟨⟨"a", ha⟩, "b", [("a", kind)], kind, hb, rfl, List.mem_singleton_self _, hk⟩
  have hba : Requires (cycleHost kind).toIntrospection kinds ["a", "b"] "b" "a" :=
    ⟨⟨"b", hb⟩, "a", [("b", kind)], kind, ha, rfl, List.mem_singleton_self _, hk⟩
  exact .tail (.single hab) hba

theorem named_cycle_refused :
    (∃ order, (DependencyGraph.new.ensureNode "a").topologicalSortIn .asListed =
      some (.ok order)) ∧
    ∃ e, (addRoute (cycleHost .keywordOnly) (AppState.new true : AppState segmentMatcher String)
      cycleRoute).2 = .error e := by
  have hcycles := @dependency_cycles String segmentMatcher
  constructor
  · obtain ⟨order, horder, -⟩ :=
      (hcycles.1 (DependencyGraph.new.ensureNode "a") (.ensureNode "a" .new) .asListed).1 (by
        rintro ⟨v, hv⟩
        obtain ⟨u, huv⟩ := Relation.TransGen.head'_iff.mp hv
        rw [DependencyGraph.edge_ensureNode] at huv
        obtain ⟨⟨e, he, -⟩, -⟩ := huv
        exact absurd he List.not_mem_nil)
    exact ⟨order, horder⟩
  · exact (hcycles.2 (cycleHost .keywordOnly) (AppState.new true) cycleRoute ["a", "b"] rfl
      ⟨_, rfl⟩ rfl).mpr ⟨"a", requires_cycleHost (Or.inr rfl)⟩

/-- Parameters that cannot be given by name do not count: the list is accepted, although each
factory has a parameter named after the other. -/
theorem positional_cycle_accepted :
    (∃ entries, parseDependencies (cycleHost .positionalOnly).toIntrospection ["a", "b"] =
      .ok entries) ∧
    (∃ v, Relation.TransGen (Requires (cycleHost .positionalOnly).toIntrospection
      (fun _ => True) ["a", "b"]) v v) ∧
    cycleRoute.dependencies = some ["a", "b"] ∧
    (addRoute (cycleHost .positionalOnly) (AppState.new true : AppState segmentMatcher String)
      cycleRoute).2 = .ok () := by
  refine ⟨⟨_, rfl⟩, ⟨"a", requires_cycleHost trivial⟩, rfl, ?_⟩
  rfl

end OxyRoute
