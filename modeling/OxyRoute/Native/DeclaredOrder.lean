import OxyRoute.Native.DependencyValues

/-!
# Declaration order

A list of dependencies in which every factory names only dependencies declared before it is
accepted. It is stored in the order in which it was declared if and only if that is the order the
worklist of the sort picks.

## Main definitions

- `DeclaredInOrder` — factories name dependencies declared before
- `StableOrder` — the declarations the sort leaves as they are

## Main results

- `declared_order_iff` — when a list is stored and run as it was declared
- `independent_dependencies_reversed` — two dependencies that do not name each other
-/

namespace OxyRoute

open Routine

variable {m : Matchit} {Ref W : Type}

section

variable (entries : List (DependencyEntry Ref))

/-- Each parameter of a factory that names a dependency names one declared earlier. -/
def DeclaredInOrder : Prop :=
  ∀ pre e post, entries = pre ++ e :: post →
    ∀ u ∈ entries.map (·.name), u ∈ e.factoryParams → u ∈ pre.map (·.name)

/-- The declarations up to the last one that the factory names. -/
def lastPrerequisite (e : DependencyEntry Ref) : ℕ :=
  ((entries.map (·.name)).rdropWhile fun u => ¬ u ∈ e.factoryParams).length

/-- Of two dependencies that can be resolved: the one with the later last prerequisite goes
first. With the same one it is the smaller name, without any the greater. -/
def GoesBefore (d e : DependencyEntry Ref) : Prop :=
  lastPrerequisite entries e < lastPrerequisite entries d ∨
    lastPrerequisite entries d = lastPrerequisite entries e ∧
      if lastPrerequisite entries d = 0 then e.name < d.name else d.name < e.name

/-- Each dependency goes before the later ones that could be resolved in its place. -/
def StableOrder : Prop :=
  ∀ i j, (hij : i < j) → (hj : j < entries.length) → lastPrerequisite entries entries[j] ≤ i →
    GoesBefore entries entries[i] entries[j]

end

variable {entries : List (DependencyEntry Ref)}

theorem lastPrerequisite_le_iff {e : DependencyEntry Ref} {k : ℕ} :
    lastPrerequisite entries e ≤ k ↔
      ∀ u ∈ (entries.map (·.name)).drop k, ¬ u ∈ e.factoryParams := by
  exact Kahn.readyAt_le_iff (E := fun u (_ : String) => u ∈ e.factoryParams) (v := e.name)

open scoped Classical in
/-- What a factory names are the edges into its dependency. -/
theorem readyAt_eq (hnd : (entries.map (·.name)).Nodup) {e : DependencyEntry Ref}
    (he : e ∈ entries) : Kahn.readyAt (buildGraphFromEntries entries).Edge
      (entries.map (·.name)) e.name = lastPrerequisite entries e := by
  have hle : ∀ k, Kahn.readyAt (buildGraphFromEntries entries).Edge (entries.map (·.name)) e.name ≤
      k ↔ lastPrerequisite entries e ≤ k := by
    intro k
    rw [Kahn.readyAt_le_iff, lastPrerequisite_le_iff]
    constructor
    · intro hall u hu hparam
      apply hall u hu
      rw [graph_nodes_and_edges.2]
      exact ⟨List.mem_of_mem_drop hu, e, he, rfl, hparam⟩
    · intro hall u hu hE
      rw [graph_nodes_and_edges.2] at hE
      obtain ⟨-, e', he', hname, hparam⟩ := hE
      rw [List.inj_on_of_nodup_map hnd he' he hname] at hparam
      exact hall u hu hparam
  exact le_antisymm ((hle _).mpr le_rfl) ((hle _).mp le_rfl)

open scoped Classical in
theorem stableOrder_iff (hnd : (entries.map (·.name)).Nodup) :
    StableOrder entries ↔
      Kahn.Stable (buildGraphFromEntries entries).Edge (entries.map (·.name)) := by
  have hready : ∀ i (hi : i < entries.length),
      Kahn.readyAt (buildGraphFromEntries entries).Edge (entries.map (·.name)) entries[i].name =
        lastPrerequisite entries entries[i] := fun i hi => readyAt_eq hnd (List.getElem_mem hi)
  have houtranks : ∀ i j (hi : i < entries.length) (hj : j < entries.length),
      Kahn.Outranks (buildGraphFromEntries entries).Edge (entries.map (·.name)) entries[i].name
        entries[j].name ↔ GoesBefore entries entries[i] entries[j] := by
    intro i j hi hj
    rw [Kahn.Outranks, GoesBefore, hready i hi, hready j hj]
  constructor
  · intro h i j hij hj hr
    have hj' : j < entries.length := by simpa using hj
    rw [List.getElem_map] at hr
    rw [hready j hj'] at hr
    rw [List.getElem_map, List.getElem_map, houtranks i j (hij.trans hj') hj']
    exact h i j hij hj' hr
  · intro h i j hij hj hr
    have hj' : j < (entries.map (·.name)).length := by simpa using hj
    have hout := h i j hij hj'
    rw [List.getElem_map, List.getElem_map, houtranks i j (hij.trans hj) hj, hready j hj] at hout
    exact hout hr

theorem eq_of_names (hnd : (entries.map (·.name)).Nodup) {stored : List (DependencyEntry Ref)}
    (hsub : ∀ e ∈ stored, e ∈ entries) (hnames : stored.map (·.name) = entries.map (·.name)) :
    stored = entries := by
  have hlen : stored.length = entries.length := by
    simpa using congrArg List.length hnames
  apply List.ext_getElem hlen
  intro i hi hi'
  have hname : stored[i].name = entries[i].name := by
    simpa [hi, hi'] using congrArg (fun l => l[i]?) hnames
  exact List.inj_on_of_nodup_map hnd (hsub _ (List.getElem_mem hi)) (List.getElem_mem hi') hname

/-- A list in a valid order is stored; the order is kept exactly if it is stable. -/
theorem routeDependencies_declared_iff {h : Host Ref} {deps : List Ref}
    (hparse : parseDependencies h.toIntrospection deps = .ok entries)
    (hvalid : DeclaredInOrder entries) :
    routeDependencies h (some deps) = .ok entries ↔ StableOrder entries := by
  classical
  have hnd := (parseDependencies_eq_ok_iff.mp hparse).2
  have hmem : ∀ v, v ∈ entries.map (·.name) ↔ v ∈ (buildGraphFromEntries entries).vertices := by
    intro v
    rw [built_buildGraphFromEntries.consistent.mem_vertices, graph_nodes_and_edges.1]
  have hfirst : Kahn.PrereqsFirst (buildGraphFromEntries entries).Edge (entries.map (·.name)) := by
    intro pre v post hsplit u hE
    rw [graph_nodes_and_edges.2] at hE
    obtain ⟨hu, e, he, rfl, hparam⟩ := hE
    obtain ⟨pre', rest, rfl, hpre, hrest⟩ := List.map_eq_append_iff.mp hsplit
    obtain ⟨e', post', rfl, hname, -⟩ := List.map_eq_cons_iff.mp hrest
    have he' : e' ∈ pre' ++ e' :: post' := List.mem_append_right _ List.mem_cons_self
    rw [← hpre]
    apply hvalid pre' e' post' rfl u hu
    rw [List.inj_on_of_nodup_map hnd he' he hname]
    exact hparam
  rw [stableOrder_iff hnd, ← Kahn.order_eq_iff hnd hmem hfirst]
  rcases routeDependencies_cases hparse with ⟨hcycle, -⟩ | ⟨-, stored, hstored, hord⟩
  · obtain ⟨v, hv⟩ := hcycle
    have hE : (buildGraphFromEntries entries).Edge = Prerequisite entries := by
      funext u v
      exact propext (graph_nodes_and_edges.2 u v)
    rw [← hE] at hv
    refine absurd hv (hfirst.acyclic hnd (fun u v hE => ?_) v)
    rw [graph_nodes_and_edges.2] at hE
    obtain ⟨-, e, he, rfl, -⟩ := hE
    exact List.mem_map.mpr ⟨e, he, rfl⟩
  · rw [hstored, ← hord.names]
    constructor
    · intro heq
      cases heq
      rfl
    · intro heq
      rw [eq_of_names hnd (fun e he => hord.perm.mem_iff.mp he) heq]

/-- The factories run in the declared order, as far as the request gets, and a factory that takes
everything gets the value of every dependency declared before it. -/
structure RunsAsDeclared (py : Introspection Ref) (entries : List (DependencyEntry Ref))
    (log : List (RequestEvent Ref)) : Prop where
  order : calledNames log <+: entries.map (·.name)
  everything : ∀ pre e post, entries = pre ++ e :: post → ∀ f kw, .factory e.name f kw ∈ log →
    TakesAny py f → ∀ u ∈ pre.map (·.name), ∃ v, .resolved u (.ok v) ∈ log ∧ kw.get? u = some v

theorem runsAsDeclared_of_stored {rt : Runtime m Ref W} {req : HttpRequest Ref}
    {snap : FrozenState m Ref} {entry : RouteEntry Ref} {py : Introspection Ref}
    {log : List (RequestEvent Ref)} (hnd : (entries.map (·.name)).Nodup)
    (hparsed : ∀ e ∈ entries, ∃ it, ParsedAs py it e) (hstored : entry.extra.dependencies = entries)
    (hrun : DependencyRun rt req snap entry (dependencyEvents log)) :
    RunsAsDeclared py entries log := by
  rcases hrun with hnil | ⟨ctx, out, -, hloop⟩
  · have hnone : calledNames log = [] := by
      rw [← calledNames_dependencyEvents, hnil]
      rfl
    refine ⟨hnone ▸ List.nil_prefix, fun pre e post _ f kw hin => ?_⟩
    have hmem := mem_calledNames.mpr ⟨f, kw, hin⟩
    rw [hnone] at hmem
    exact absurd hmem List.not_mem_nil
  · rw [hstored] at hloop
    refine ⟨calledNames_dependencyEvents log ▸ hloop.calledNames_prefix, ?_⟩
    intro pre e post hsplit f kw hin hany u hu
    obtain ⟨pre', dep, post', vals, hsplit', hname, rfl, rfl, hnames, hvals⟩ :=
      hloop.factory_mem (mem_dependencyEvents.mpr ⟨hin, rfl⟩)
    have hall : entries.map (·.name) = pre'.map (·.name) ++ dep.name :: post'.map (·.name) := by
      rw [hsplit', List.map_append, List.map_cons]
    have hpre : pre'.map (·.name) = pre.map (·.name) := by
      rw [hall, List.nodup_middle, List.nodup_cons, List.mem_append, not_or] at hnd
      rw [hsplit, List.map_append, List.map_cons, hname] at hall
      rw [hname] at hnd
      exact ((List.append_cons_inj_of_notMem hnd.1.1 hnd.1.2).mp hall.symm).1
    rw [← hpre, ← hnames] at hu
    obtain ⟨⟨u', v⟩, hv, rfl⟩ := List.mem_map.mp hu
    refine ⟨v, (mem_dependencyEvents.mp (hvals _ hv)).1, ?_⟩
    have hdep : dep ∈ entries := by
      rw [hsplit']
      exact List.mem_append_right _ List.mem_cons_self
    obtain ⟨it, hp⟩ := hparsed dep hdep
    have hvnd : (vals.map Prod.fst).Nodup := by
      rw [hall] at hnd
      rw [hnames]
      exact hnd.of_append_left
    rw [List.nil_append]
    exact (get?_factoryKwargs_iff hvnd).mpr (Or.inl ⟨Or.inl ((takesAny_iff hp.kinds).mp hany), hv⟩)

variable {h : Host Ref} {deps : List Ref} {a : AddRouteArgs Ref}

/-- **Declaration order.** A list of dependencies that is declared in a valid order is stored in
this order, and at every request to a route with it the factories run as declared, exactly when
each dependency goes before the later ones that could be resolved in its place. -/
theorem declared_order_iff (hdeps : a.dependencies = some deps)
    (hparse : parseDependencies h.toIntrospection deps = .ok entries)
    (hvalid : DeclaredInOrder entries) :
    (routeDependencies h (some deps) = .ok entries ∧
      ∀ (rt : Runtime m Ref W) (o : MaskOrder) (req : HttpRequest Ref) (w : World m Ref W)
        (entry : RouteEntry Ref) (opId : String) (idx : ℕ) (params : PathParams),
        prepareRoute h a = .ok (entry, opId) →
        (appSystem m Ref o).Reached w.app →
        .serving idx params ∈ ((dispatch rt req).run w).log →
        w.app.hotSnapshot.routes[idx]? = some entry →
        RunsAsDeclared h.toIntrospection entries ((dispatch rt req).run w).log) ↔
      StableOrder entries := by
  rw [routeDependencies_declared_iff hparse hvalid]
  apply and_iff_left_of_imp
  intro hstable rt o req w entry opId idx params hprep hreached hserving hentry
  have hkept := (routeDependencies_declared_iff hparse hvalid).mpr hstable
  have hroute := (preparedFrom hprep).dependencies
  rw [hdeps, hkept] at hroute
  have hrun := dispatch_dependencyRun (prepared_of_reached hreached) hserving hentry
  obtain ⟨hparsed, hnd⟩ := parseDependencies_eq_ok_iff.mp hparse
  apply runsAsDeclared_of_stored hnd _ (Except.ok.inj hroute).symm hrun
  intro e he
  obtain ⟨it, -, hit⟩ := exists_item_of_mem hparsed he
  exact ⟨it, hit⟩

/-- A route with two dependencies that do not name each other. -/
def pairArgs (n n' : String) : AddRouteArgs String :=
  { getRoute "/x" "h" with dependencies := some [n, n'] }

def pairApp (n n' : String) : AppState segmentMatcher String :=
  (addRoute (valueHost n) (AppState.new true) (pairArgs n n')).1

def pairEntries (n n' : String) : List (DependencyEntry String) :=
  [⟨n, n, false, false, [], false⟩, ⟨n', n', false, false, [], false⟩]

theorem pairEntries_inOrder (n n' : String) : DeclaredInOrder (pairEntries n n') := by
  intro pre e post hsplit u _ hparam
  have he : e ∈ pairEntries n n' := by
    rw [hsplit]
    exact List.mem_append_right _ List.mem_cons_self
  have hnone : e.factoryParams = [] := by
    simp only [pairEntries, List.mem_cons, List.not_mem_nil, or_false] at he
    rcases he with rfl | rfl <;> rfl
  rw [hnone] at hparam
  exact absurd hparam List.not_mem_nil

/-- The names in descending order: `user` is resolved before `settings`, as declared. -/
theorem user_settings_kept :
    routeDependencies (valueHost "user") (some ["user", "settings"]) =
        .ok (pairEntries "user" "settings") ∧
      ∀ (rt : Runtime segmentMatcher String Unit) (o : MaskOrder) (req : HttpRequest String)
        (w : World segmentMatcher String Unit) (entry : RouteEntry String) (opId : String)
        (idx : ℕ) (params : PathParams),
        prepareRoute (valueHost "user") (pairArgs "user" "settings") = .ok (entry, opId) →
        (appSystem segmentMatcher String o).Reached w.app →
        .serving idx params ∈ ((dispatch rt req).run w).log →
        w.app.hotSnapshot.routes[idx]? = some entry →
        RunsAsDeclared (valueHost "user").toIntrospection (pairEntries "user" "settings")
          ((dispatch rt req).run w).log := by
  apply (declared_order_iff (a := pairArgs "user" "settings") rfl rfl
    (pairEntries_inOrder "user" "settings")).mpr
  intro i j hij hj _
  have hj' : j < 2 := hj
  obtain ⟨rfl, rfl⟩ : i = 0 ∧ j = 1 := by omega
  have hfirst : GoesBefore (pairEntries "user" "settings") ⟨"user", "user", false, false, [], false⟩
      ⟨"settings", "settings", false, false, [], false⟩ := Or.inr (by decide)
  exact hfirst

theorem pairApp_reached : (appSystem segmentMatcher String
    (plainRuntime segmentMatcher).maskOrder).Reached (pairApp "auth" "data") :=
  .step (i := .addRoute (valueHost "auth") _) (.init ⟨true, rfl⟩) trivial rfl

/-- The dependencies `auth` and `data`, declared in this order, run in the other one. -/
theorem independent_dependencies_reversed :
    (∃ entry, prepareRoute (valueHost "auth") (pairArgs "auth" "data") = .ok (entry, "h") ∧
      entry.extra.dependencies = pairEntries "data" "auth" ∧
      (pairApp "auth" "data").hotSnapshot.routes[0]? = some entry) ∧
    parseDependencies (valueHost "auth").toIntrospection ["auth", "data"] =
      .ok (pairEntries "auth" "data") ∧
    DeclaredInOrder (pairEntries "auth" "data") ∧
    (appSystem segmentMatcher String (plainRuntime segmentMatcher).maskOrder).Reached
      (pairApp "auth" "data") ∧
    calledNames ((dispatch (plainRuntime segmentMatcher) (plainRequest "GET" "/x")).run
      ⟨pairApp "auth" "data", ()⟩).log = ["data", "auth"] ∧
    ¬ RunsAsDeclared (valueHost "auth").toIntrospection (pairEntries "auth" "data")
      ((dispatch (plainRuntime segmentMatcher) (plainRequest "GET" "/x")).run
        ⟨pairApp "auth" "data", ()⟩).log := by
  have hcalled : calledNames ((dispatch (plainRuntime segmentMatcher) (plainRequest "GET" "/x")).run
      ⟨pairApp "auth" "data", ()⟩).log = ["data", "auth"] := rfl
  refine ⟨⟨_, rfl, rfl, rfl⟩, rfl, pairEntries_inOrder _ _, pairApp_reached, hcalled, fun hrun => ?_⟩
  have horder := hrun.order
  rw [hcalled] at horder
  exact absurd horder (by decide)

end OxyRoute
