import OxyRoute.Native.Cycles
import OxyRoute.Native.Kwargs
import OxyRoute.Native.Resolution

/-!
# Values of dependencies

Each factory is called once, with the values of the dependencies it names, and the handler gets
the values of those it names, unless a keyword that is set later has the same name.

## Main definitions

- `DependencyLaw` — what the calls of a request have to be like
- `DependenciesKept` — no later keyword replaces the value of a dependency

## Main results

- `dependency_law_iff` — when the law holds, for every list that is accepted
-/

namespace OxyRoute

open Routine

variable {m : Matchit} {Ref W : Type}

-- ════════════════════════════════════════════════════════════════════════
-- The stored order
-- ════════════════════════════════════════════════════════════════════════

section

variable {entries stored : List (DependencyEntry Ref)}

/-- A dependency is stored after those that its factory names. -/
theorem Ordered.prerequisite_before (h : Ordered entries stored)
    {pre post : List (DependencyEntry Ref)} {dep : DependencyEntry Ref}
    (hsplit : stored = pre ++ dep :: post) {u : String} (hu : u ∈ entries.map (·.name))
    (hparam : u ∈ dep.factoryParams) : u ∈ pre.map (·.name) := by
  have hdep : dep ∈ entries := by
    apply h.perm.mem_iff.mp
    rw [hsplit]
    exact List.mem_append_right _ List.mem_cons_self
  have hnames := h.names
  rw [hsplit, List.map_append, List.map_cons] at hnames
  apply Kahn.prereqsFirst_order _ _ _ hnames.symm
  exact graph_nodes_and_edges.2 u dep.name |>.mpr ⟨hu, dep, hdep, rfl, hparam⟩

theorem Ordered.nodup_names (h : Ordered entries stored) : (stored.map (·.name)).Nodup := by
  rw [h.names]
  exact Kahn.nodup_order

/-- The order does not depend on how the list was written down. -/
theorem orderDependencies_perm {entries' : List (DependencyEntry Ref)}
    (hperm : entries'.Perm entries) (hnd : (entries.map (·.name)).Nodup) :
    orderDependencies entries' = orderDependencies entries := by
  have hnames : ∀ v, v ∈ entries'.map (·.name) ↔ v ∈ entries.map (·.name) := fun v =>
    (hperm.map (·.name)).mem_iff
  have hE : (buildGraphFromEntries entries').Edge = (buildGraphFromEntries entries).Edge := by
    funext u v
    apply propext
    rw [graph_nodes_and_edges.2, graph_nodes_and_edges.2, Prerequisite, Prerequisite, hnames]
    simp only [hperm.mem_iff]
  have hV : (buildGraphFromEntries entries').vertices = (buildGraphFromEntries entries).vertices := by
    ext v
    rw [built_buildGraphFromEntries.consistent.mem_vertices,
      built_buildGraphFromEntries.consistent.mem_vertices, graph_nodes_and_edges.1,
      graph_nodes_and_edges.1, hnames]
  have hlen : (buildGraphFromEntries entries').nodes.length =
      (buildGraphFromEntries entries).nodes.length := by
    rw [← built_buildGraphFromEntries.consistent.card_vertices,
      ← built_buildGraphFromEntries.consistent.card_vertices, hV]
  have hfind : ∀ n, (entries'.find? fun d => d.name = n) = entries.find? fun d => d.name = n := by
    intro n
    have hnd' : (entries'.map (·.name)).Nodup := (hperm.map (·.name)).nodup_iff.mpr hnd
    ext e
    rw [find?_name_eq_some_iff hnd', find?_name_eq_some_iff hnd, hperm.mem_iff]
  rw [orderDependencies, orderDependencies, DependencyGraph.topologicalSort_eq,
    DependencyGraph.topologicalSort_eq, hE, hV, hlen]
  simp only [hfind]

end

/-- The keywords of a factory, one by one. -/
theorem get?_factoryKwargs_iff {dep : DependencyEntry Ref} {ctx : Option (PyVal Ref)}
    {prev : List (String × PyVal Ref)} (hnd : (prev.map Prod.fst).Nodup) {key : String}
    {v : PyVal Ref} : (factoryKwargs dep ctx prev).get? key = some v ↔
      ((dep.factoryVarkw = true ∨ key ∈ dep.factoryParams) ∧ (key, v) ∈ prev) ∨
      (key = "request" ∧ dep.wantsRequest = true ∧ ctx = some v ∧
        ¬ ((dep.factoryVarkw = true ∨ key ∈ dep.factoryParams) ∧ key ∈ prev.map Prod.fst)) := by
  have htaken : ((prev.filter fun e => dep.factoryVarkw || e.1 ∈ dep.factoryParams).map
      Prod.fst).Nodup := hnd.sublist (List.filter_sublist.map _)
  have hmem : ∀ x, (key, x) ∈ prev.filter (fun e => dep.factoryVarkw || e.1 ∈ dep.factoryParams) ↔
      (dep.factoryVarkw = true ∨ key ∈ dep.factoryParams) ∧ (key, x) ∈ prev := by
    intro x
    rw [List.mem_filter, and_comm]
    simp
  have hget : (factoryKwargs dep ctx prev).get? key =
      ((Dict.mk _ htaken).get? key).or
        (if key = "request" ∧ dep.wantsRequest = true then ctx else none) := by
    have hupdate (base : Dict String (PyVal Ref)) := Dict.get?_update base (Dict.mk _ htaken) key
    cases hwants : dep.wantsRequest with
    | false =>
      simp only [factoryKwargs, hwants]
      apply (hupdate .empty).trans
      simp
    | true =>
      cases ctx with
      | none =>
        simp only [factoryKwargs, hwants]
        apply (hupdate .empty).trans
        simp
      | some rc =>
        simp only [factoryKwargs, hwants]
        apply (hupdate (Dict.empty.set "request" rc)).trans
        simp
  rw [hget]
  cases hd : (Dict.mk _ htaken).get? key with
  | some x =>
    have hx := (hmem x).mp (Dict.mem_entries_of_get? hd)
    rw [Option.some_or, Option.some_inj]
    constructor
    · rintro rfl
      exact Or.inl hx
    · rintro (hv | ⟨-, -, -, hno⟩)
      · have hv' := Dict.get?_of_mem_entries (d := Dict.mk _ htaken) ((hmem v).mpr hv)
        rw [hd] at hv'
        exact Option.some.inj hv'
      · exact absurd ⟨hx.1, List.mem_map.mpr ⟨_, hx.2, rfl⟩⟩ hno
  | none =>
    have hnone : ∀ x, ¬ ((dep.factoryVarkw = true ∨ key ∈ dep.factoryParams) ∧ (key, x) ∈ prev) := by
      intro x hx
      have hx' := Dict.get?_of_mem_entries (d := Dict.mk _ htaken) ((hmem x).mpr hx)
      rw [hd] at hx'
      cases hx'
    rw [Option.none_or]
    constructor
    · intro hctx
      by_cases hreq : key = "request" ∧ dep.wantsRequest = true
      · rw [if_pos hreq] at hctx
        refine Or.inr ⟨hreq.1, hreq.2, hctx, ?_⟩
        rintro ⟨htakes, hin⟩
        obtain ⟨e, he, rfl⟩ := List.mem_map.mp hin
        exact hnone e.2 ⟨htakes, he⟩
      · rw [if_neg hreq] at hctx
        cases hctx
    · rintro (hv | ⟨hkey, hwants, hctx, -⟩)
      · exact absurd hv (hnone v)
      · rw [if_pos ⟨hkey, hwants⟩]
        exact hctx

-- ════════════════════════════════════════════════════════════════════════
-- A route that is accepted
-- ════════════════════════════════════════════════════════════════════════

variable {h : Host Ref} {a : AddRouteArgs Ref} {deps : List Ref} {entry : RouteEntry Ref}
  {opId : String}

/-- Only the stored order of the dependencies counts. -/
theorem prepareRoute_congr {d : Option (List Ref)}
    (hd : routeDependencies h d = routeDependencies h a.dependencies) :
    prepareRoute h { a with dependencies := d } = prepareRoute h a := by
  unfold prepareRoute
  rw [hd]
  rfl

theorem routeDependencies_parsed {stored : List (DependencyEntry Ref)}
    (hroute : routeDependencies h (some deps) = .ok stored) :
    ∃ entries, parseDependencies h.toIntrospection deps = .ok entries ∧ Ordered entries stored := by
  have hparse : ∃ entries, parseDependencies h.toIntrospection deps = .ok entries := by
    rw [routeDependencies] at hroute
    obtain ⟨entries, hentries, -⟩ := Except.of_bind_eq_ok hroute
    exact ⟨entries, hentries⟩
  obtain ⟨entries, hparse⟩ := hparse
  refine ⟨entries, hparse, ?_⟩
  rcases routeDependencies_cases hparse with ⟨-, e, he⟩ | ⟨-, stored', hs, hord⟩
  · rw [he] at hroute
    cases hroute
  · rw [hs] at hroute
    cases hroute
    exact hord

/-- A list that is written down in another order is stored in the same one. -/
theorem routeDependencies_perm {deps' : List Ref} (hperm : deps'.Perm deps)
    {stored : List (DependencyEntry Ref)}
    (hroute : routeDependencies h (some deps) = .ok stored) :
    routeDependencies h (some deps') = .ok stored := by
  obtain ⟨entries, hparse, -⟩ := routeDependencies_parsed hroute
  obtain ⟨hall, hnd⟩ := parseDependencies_eq_ok_iff.mp hparse
  obtain ⟨entries', hall', hperm'⟩ := List.perm_comp_forall₂ hperm hall
  have hparse' : parseDependencies h.toIntrospection deps' = .ok entries' :=
    parseDependencies_eq_ok_iff.mpr ⟨hall', (hperm'.map (·.name)).nodup_iff.mpr hnd⟩
  have hnil : entries' = [] ↔ entries = [] := by
    constructor
    · rintro rfl
      exact hperm'.symm.eq_nil
    · rintro rfl
      exact hperm'.eq_nil
  rw [routeDependencies, hparse] at hroute
  rw [routeDependencies, hparse']
  rw [← hroute]
  simp only [bind, Except.bind, orderDependencies_perm hperm' hnd, hnil]

-- ════════════════════════════════════════════════════════════════════════
-- The law
-- ════════════════════════════════════════════════════════════════════════

/-- The callable has a parameter of this name that can be given by name. -/
def Takes (py : Introspection Ref) (f : Ref) (n : String) : Prop :=
  ∃ params k, py.parameters f = .ok params ∧ (n, k) ∈ params ∧ ByName k

/-- The callable has a parameter of this name. -/
def Declares (py : Introspection Ref) (f : Ref) (n : String) : Prop :=
  ∃ params k, py.parameters f = .ok params ∧ (n, k) ∈ params

/-- The callable has a `**kwargs`. -/
def TakesAny (py : Introspection Ref) (f : Ref) : Prop :=
  ∃ params n, py.parameters f = .ok params ∧ (n, .varKeyword) ∈ params

section

variable (rt : Runtime m Ref W) (req : HttpRequest Ref) (py : Introspection Ref)
  (entry : RouteEntry Ref) (params : PathParams) (deps : List Ref)
  (log : List (RequestEvent Ref))

/-- The keywords a factory has to be called with: the values of the dependencies it names, and
the request where it declares it. -/
inductive FactoryKeyword (f : Ref) : String → PyVal Ref → Prop
  | dependency {n g v} : IsDependency py deps n g → Takes py f n → .resolved n (.ok v) ∈ log →
      FactoryKeyword f n v
  | request {v} : Declares py f "request" →
      rt.newRequest req.scope req.method req.path req.queryString = .ok v →
      (∀ g, IsDependency py deps "request" g → ¬ Takes py f "request") →
      FactoryKeyword f "request" v

/-- What the calls of a request have to be like that uses the dependencies of a list. -/
structure DependencyLaw (snap : FrozenState m Ref) : Prop where
  once : ∀ n f, IsDependency py deps n f → (calledNames log).count n = 1
  declared : ∀ n f kw, .factory n f kw ∈ log → IsDependency py deps n f
  keywords : ∀ n f kw, .factory n f kw ∈ log → ¬ TakesAny py f →
    ∀ key v, kw.get? key = some v ↔ FactoryKeyword rt req py deps log f key v
  resolved : ∀ n f, IsDependency py deps n f → ∃! v, .resolved n (.ok v) ∈ log
  values : ∀ n v, .resolved n (.ok v) ∈ log → ∃ f kw isAsync, .factory n f kw ∈ log ∧
    py.isCoroutineFunction f = .ok isAsync ∧ FactoryValue rt snap isAsync f kw v
  handler : ∀ f kw, .handler f kw ∈ log → ∀ n g, IsDependency py deps n g → Takes py f n →
    ∃ v, .resolved n (.ok v) ∈ log ∧ kw.get? n = some v

/-- The keywords that are set after the dependencies, in order. -/
def afterDependencies (input : HandlerInput Ref) (json : List (String × PyVal Ref)) :
    List (String × PyVal Ref) :=
  claimsKwargs input ++ json ++ bodyKwargs entry req.method input ++ protocolKwargs req entry

/-- When the handler is called, what is set after the dependencies under the name of one that it
takes, if anything, is the value of that dependency. -/
def DependenciesKept : Prop :=
  ∀ input json, Gathered rt req entry params log input →
    json.map Prod.fst =
      (if hasJsonBody entry req.method input.body then jsonTargets entry else []) →
    .handler entry.handler (.ofList (allKwargs req entry input json)) ∈ log →
    ∀ n g, IsDependency py deps n g → Takes py entry.handler n →
      ∀ v, (Dict.ofList (afterDependencies req entry input json)).get? n = some v →
        .resolved n (.ok v) ∈ log

end

section

variable {py : Introspection Ref} {f : Ref} {names : List String} {varkw wants : Bool}

theorem takes_iff (hk : handlerSignatureKinds py f = .ok (names, varkw)) {n : String} :
    Takes py f n ↔ n ∈ names := by
  obtain ⟨params, hparams, hnames⟩ := mem_of_handlerSignatureKinds hk
  rw [hnames]
  constructor
  · rintro ⟨params', k, hparams', hk, hby⟩
    rw [hparams] at hparams'
    cases hparams'
    exact ⟨k, hk, hby⟩
  · rintro ⟨k, hk, hby⟩
    exact ⟨params, k, hparams, hk, hby⟩

theorem takesAny_iff (hk : handlerSignatureKinds py f = .ok (names, varkw)) :
    TakesAny py f ↔ varkw = true := by
  rw [handlerSignatureKinds] at hk
  obtain ⟨params, hparams, hk⟩ := Except.of_bind_eq_ok hk
  cases hk
  constructor
  · rintro ⟨params', n, hparams', hn⟩
    rw [hparams] at hparams'
    cases hparams'
    exact List.any_eq_true.mpr ⟨_, hn, rfl⟩
  · intro hany
    obtain ⟨⟨n, k⟩, hn, hk⟩ := List.any_eq_true.mp hany
    obtain rfl : k = .varKeyword := of_decide_eq_true hk
    exact ⟨params, n, hparams, hn⟩

theorem declares_request_iff (hw : dependencyWantsRequest py f = .ok wants) :
    Declares py f "request" ↔ wants = true := by
  rw [dependencyWantsRequest] at hw
  obtain ⟨params, hparams, hw⟩ := Except.of_bind_eq_ok hw
  cases hw
  constructor
  · rintro ⟨params', k, hparams', hk⟩
    rw [hparams] at hparams'
    cases hparams'
    exact List.any_eq_true.mpr ⟨_, hk, rfl⟩
  · intro hany
    obtain ⟨⟨n, k⟩, hn, hreq⟩ := List.any_eq_true.mp hany
    obtain rfl : n = "request" := of_decide_eq_true hreq
    exact ⟨params, k, hparams, hn⟩

end

variable {rt : Runtime m Ref W} {req : HttpRequest Ref} {w : World m Ref W} {idx : ℕ}
  {params : PathParams}

/-- A request that got to its dependencies, none of which failed, ran through all of them. -/
theorem loopRun_of_reached (hprepared : AllPrepared w.app)
    (hserving : .serving idx params ∈ ((dispatch rt req).run w).log)
    (hentry : w.app.hotSnapshot.routes[idx]? = some entry)
    (hreach : (∃ n f kw, .factory n f kw ∈ ((dispatch rt req).run w).log) ∨
      ∃ f kw, .handler f kw ∈ ((dispatch rt req).run w).log) :
    ∃ ctx out, ContextFor rt req entry ctx ∧
      LoopRun rt w.app.hotSnapshot ctx entry.extra.dependencies []
        (dependencyEvents ((dispatch rt req).run w).log) out := by
  rcases dispatch_dependencyRun hprepared hserving hentry with hnil | hrun
  · have hdeps : entry.extra.dependencies = [] := by
      rcases hreach with ⟨n, f, kw, hin⟩ | ⟨f, kw, hin⟩
      · have hin' := mem_dependencyEvents.mpr ⟨hin, rfl⟩
        rw [hnil] at hin'
        exact absurd hin' List.not_mem_nil
      · obtain ⟨-, input, json, hinput, -⟩ := handler_called hprepared hserving hentry hin
        have hvals : input.deps = [] := by
          apply List.eq_nil_iff_forall_not_mem.mpr
          intro e he
          have hmem := hinput.deps.2.subset (List.mem_map.mpr ⟨e, he, rfl⟩)
          have hmem' := mem_dependencyEvents.mpr ⟨hmem, rfl⟩
          rw [hnil] at hmem'
          exact List.not_mem_nil hmem'
        have hnames := hinput.deps.1
        rw [hvals] at hnames
        exact List.map_eq_nil_iff.mp hnames.symm
    rw [hnil, hdeps]
    refine ⟨none, some [], ?_, .nil⟩
    rw [ContextFor, hdeps]
    rfl
  · exact hrun

/-- The log of a request that ran through all dependencies of an accepted list. -/
structure CompleteRun (rt : Runtime m Ref W) (req : HttpRequest Ref) (snap : FrozenState m Ref)
    (py : Introspection Ref) (deps : List Ref) (entry : RouteEntry Ref)
    (log : List (RequestEvent Ref)) : Prop where
  isDependency : ∀ n f, IsDependency py deps n f ↔
    ∃ e ∈ entry.extra.dependencies, e.name = n ∧ e.factory = f
  parsed : ∀ e ∈ entry.extra.dependencies, ∃ it, ParsedAs py it e
  nodup : (entry.extra.dependencies.map (·.name)).Nodup
  before : ∀ pre dep post, entry.extra.dependencies = pre ++ dep :: post →
    ∀ u ∈ entry.extra.dependencies.map (·.name), u ∈ dep.factoryParams → u ∈ pre.map (·.name)
  succeeded : ∀ n e, .resolved n (.error e) ∉ log
  loop : ∃ ctx out, ContextFor rt req entry ctx ∧
    LoopRun rt snap ctx entry.extra.dependencies [] (dependencyEvents log) out

theorem completeRun_of_reached (hdeps : a.dependencies = some deps)
    (hprep : prepareRoute h a = .ok (entry, opId)) (hprepared : AllPrepared w.app)
    (hserving : .serving idx params ∈ ((dispatch rt req).run w).log)
    (hentry : w.app.hotSnapshot.routes[idx]? = some entry)
    (hreach : (∃ n f kw, .factory n f kw ∈ ((dispatch rt req).run w).log) ∨
      ∃ f kw, .handler f kw ∈ ((dispatch rt req).run w).log)
    (hok : ∀ n e, .resolved n (.error e) ∉ ((dispatch rt req).run w).log) :
    CompleteRun rt req w.app.hotSnapshot h.toIntrospection deps entry
      ((dispatch rt req).run w).log := by
  have hroute := (preparedFrom hprep).dependencies
  rw [hdeps] at hroute
  obtain ⟨entries, hparse, hord⟩ := routeDependencies_parsed hroute
  obtain ⟨hall, -⟩ := parseDependencies_eq_ok_iff.mp hparse
  refine ⟨fun n f => ?_, fun e he => ?_, hord.nodup_names, fun pre dep post hsplit u hu => ?_, hok,
    loopRun_of_reached hprepared hserving hentry hreach⟩
  · rw [isDependency_iff hall]
    simp only [hord.perm.mem_iff]
  · obtain ⟨it, -, hp⟩ := exists_item_of_mem hall (hord.perm.mem_iff.mp he)
    exact ⟨it, hp⟩
  · exact hord.prerequisite_before hsplit ((hord.perm.map (·.name)).mem_iff.mp hu)

namespace CompleteRun

variable {snap : FrozenState m Ref} {py : Introspection Ref} {log : List (RequestEvent Ref)}
  {n : String} {f : Ref} {kw : Dict String (PyVal Ref)}

theorem mem_names (hrun : CompleteRun rt req snap py deps entry log) :
    n ∈ entry.extra.dependencies.map (·.name) ↔ ∃ f, IsDependency py deps n f := by
  rw [List.mem_map]
  constructor
  · rintro ⟨e, he, rfl⟩
    exact ⟨e.factory, (hrun.isDependency _ _).mpr ⟨e, he, rfl, rfl⟩⟩
  · rintro ⟨f, hf⟩
    obtain ⟨e, he, hn, -⟩ := (hrun.isDependency n f).mp hf
    exact ⟨e, he, hn⟩

/-- The factories are called in the stored order. -/
theorem calledNames_eq (hrun : CompleteRun rt req snap py deps entry log) :
    calledNames log = entry.extra.dependencies.map (·.name) := by
  obtain ⟨ctx, out, -, hloop⟩ := hrun.loop
  rw [← calledNames_dependencyEvents]
  exact hloop.calledNames_eq fun n e hin => hrun.succeeded n e (mem_dependencyEvents.mp hin).1

theorem once (hrun : CompleteRun rt req snap py deps entry log) (hn : IsDependency py deps n f) :
    (calledNames log).count n = 1 := by
  rw [hrun.calledNames_eq]
  exact List.count_eq_one_of_mem hrun.nodup (hrun.mem_names.mpr ⟨f, hn⟩)

theorem resolved_unique (hrun : CompleteRun rt req snap py deps entry log) {v v' : PyVal Ref}
    (hv : .resolved n (.ok v) ∈ log) (hv' : .resolved n (.ok v') ∈ log) : v = v' := by
  obtain ⟨ctx, out, -, hloop⟩ := hrun.loop
  have heq := hloop.resolved_unique hrun.nodup (mem_dependencyEvents.mpr ⟨hv, rfl⟩)
    (mem_dependencyEvents.mpr ⟨hv', rfl⟩)
  exact Except.ok.inj heq

theorem exists_resolved (hrun : CompleteRun rt req snap py deps entry log)
    (hn : IsDependency py deps n f) : ∃! v, .resolved n (.ok v) ∈ log := by
  obtain ⟨ctx, out, -, hloop⟩ := hrun.loop
  have hcalled : n ∈ calledNames log := by
    rw [hrun.calledNames_eq]
    exact hrun.mem_names.mpr ⟨f, hn⟩
  obtain ⟨f', kw, hin⟩ := mem_calledNames.mp hcalled
  obtain ⟨r, hr⟩ := hloop.exists_resolved (mem_dependencyEvents.mpr ⟨hin, rfl⟩)
  have hr' := (mem_dependencyEvents.mp hr).1
  cases r with
  | error e => exact absurd hr' (hrun.succeeded n e)
  | ok v => exact ⟨v, hr', fun v' hv' => hrun.resolved_unique hv' hr'⟩

theorem declared (hrun : CompleteRun rt req snap py deps entry log)
    (hin : .factory n f kw ∈ log) : IsDependency py deps n f := by
  obtain ⟨ctx, out, -, hloop⟩ := hrun.loop
  obtain ⟨pre, dep, post, vals, hsplit, hn, hf, -⟩ :=
    hloop.factory_mem (mem_dependencyEvents.mpr ⟨hin, rfl⟩)
  apply (hrun.isDependency n f).mpr
  refine ⟨dep, ?_, hn, hf⟩
  rw [hsplit]
  exact List.mem_append_right _ List.mem_cons_self

theorem value_of_resolved (hrun : CompleteRun rt req snap py deps entry log) {v : PyVal Ref}
    (hin : .resolved n (.ok v) ∈ log) : ∃ f kw isAsync, .factory n f kw ∈ log ∧
      py.isCoroutineFunction f = .ok isAsync ∧ FactoryValue rt snap isAsync f kw v := by
  obtain ⟨ctx, out, -, hloop⟩ := hrun.loop
  obtain ⟨dep, hdep, -, kw, hkw, hv⟩ := hloop.resolved_mem (mem_dependencyEvents.mpr ⟨hin, rfl⟩)
  obtain ⟨it, hp⟩ := hrun.parsed dep hdep
  exact ⟨dep.factory, kw, dep.isAsync, (mem_dependencyEvents.mp hkw).1, hp.isAsync, hv⟩

/-- The keywords of a factory that does not take all. -/
theorem keywords (hrun : CompleteRun rt req snap py deps entry log)
    (hin : .factory n f kw ∈ log) (hany : ¬ TakesAny py f) (key : String) (v : PyVal Ref) :
    kw.get? key = some v ↔ FactoryKeyword rt req py deps log f key v := by
  obtain ⟨ctx, out, hctx, hloop⟩ := hrun.loop
  obtain ⟨pre, dep, post, vals, hsplit, -, rfl, rfl, hnames, hvals⟩ :=
    hloop.factory_mem (mem_dependencyEvents.mpr ⟨hin, rfl⟩)
  have hdep : dep ∈ entry.extra.dependencies := by
    rw [hsplit]
    exact List.mem_append_right _ List.mem_cons_self
  obtain ⟨it, hp⟩ := hrun.parsed dep hdep
  have hvarkw : ¬ dep.factoryVarkw = true := fun hv => hany ((takesAny_iff hp.kinds).mpr hv)
  have hpre : ∀ u ∈ pre.map (·.name), u ∈ entry.extra.dependencies.map (·.name) := by
    intro u hu
    rw [hsplit, List.map_append]
    exact List.mem_append_left _ hu
  have hnd : (vals.map Prod.fst).Nodup := by
    have hall := hrun.nodup
    rw [hsplit, List.map_append] at hall
    rw [hnames]
    exact hall.of_append_left
  have hbefore : ∀ u g, IsDependency py deps u g → Takes py dep.factory u →
      u ∈ vals.map Prod.fst := by
    intro u g hu htakes
    rw [hnames]
    exact hrun.before pre dep post hsplit u (hrun.mem_names.mpr ⟨g, hu⟩)
      ((takes_iff hp.kinds).mp htakes)
  rw [List.nil_append, get?_factoryKwargs_iff hnd, or_iff_right hvarkw]
  constructor
  · rintro (⟨hparam, hv⟩ | ⟨rfl, hwants, hv, hno⟩)
    · have hkey : key ∈ vals.map Prod.fst := List.mem_map.mpr ⟨_, hv, rfl⟩
      rw [hnames] at hkey
      obtain ⟨g, hg⟩ := hrun.mem_names.mp (hpre key hkey)
      exact .dependency hg ((takes_iff hp.kinds).mpr hparam)
        (mem_dependencyEvents.mp (hvals _ hv)).1
    · rw [ContextFor, if_pos (List.any_eq_true.mpr ⟨dep, hdep, hwants⟩)] at hctx
      obtain ⟨rc, hrc, hnew⟩ := hctx
      rw [hrc] at hv
      cases hv
      refine .request ((declares_request_iff hp.wantsRequest).mpr hwants) hnew ?_
      intro g hg htakes
      exact hno ⟨(takes_iff hp.kinds).mp htakes, hbefore _ g hg htakes⟩
  · intro hkw
    cases hkw with
    | @dependency _ g _ hg htakes hv =>
      left
      refine ⟨(takes_iff hp.kinds).mp htakes, ?_⟩
      obtain ⟨e, he, rfl⟩ := List.mem_map.mp (hbefore key g hg htakes)
      have heq := hrun.resolved_unique (mem_dependencyEvents.mp (hvals e he)).1 hv
      rw [← heq]
      exact he
    | request hdecl hnew hno =>
      right
      have hwants := (declares_request_iff hp.wantsRequest).mp hdecl
      rw [ContextFor, if_pos (List.any_eq_true.mpr ⟨dep, hdep, hwants⟩)] at hctx
      obtain ⟨rc, hrc, hnew'⟩ := hctx
      rw [hnew] at hnew'
      cases hnew'
      refine ⟨rfl, hwants, hrc, ?_⟩
      rintro ⟨hparam, hvin⟩
      rw [hnames] at hvin
      obtain ⟨g, hg⟩ := hrun.mem_names.mp (hpre _ hvin)
      exact hno g hg ((takes_iff hp.kinds).mpr hparam)

/-- The value of a dependency is passed to a handler that takes it, unless it is replaced. -/
theorem get?_allKwargs (hrun : CompleteRun rt req snap py deps entry log)
    (hkinds : handlerSignatureKinds py entry.handler =
      .ok (entry.extra.handlerParamNames, entry.handlerVarkw))
    {input : HandlerInput Ref} (hinput : Gathered rt req entry params log input)
    (json : List (String × PyVal Ref)) (hn : IsDependency py deps n f)
    (htakes : Takes py entry.handler n) : ∃ v, .resolved n (.ok v) ∈ log ∧
      (Dict.ofList (allKwargs req entry input json)).get? n =
        ((Dict.ofList (afterDependencies req entry input json)).get? n).or (some v) := by
  have hsplit : allKwargs req entry input json = (pathKwargs entry input ++ queryKwargs input) ++
      depKwargs entry input ++ afterDependencies req entry input json := by
    simp only [allKwargs, afterDependencies, List.append_assoc]
  have hin : n ∈ input.deps.map Prod.fst := by
    rw [hinput.deps.1]
    exact hrun.mem_names.mpr ⟨f, hn⟩
  obtain ⟨⟨n', v⟩, he, rfl⟩ := List.mem_map.mp hin
  have hdep : (n', v) ∈ depKwargs entry input := by
    refine List.mem_filter.mpr ⟨he, ?_⟩
    rw [RouteEntry.wants, Bool.or_eq_true, decide_eq_true_eq]
    exact Or.inr ((takes_iff hkinds).mp htakes)
  have hnd : ((depKwargs entry input).map Prod.fst).Nodup := by
    have hall := hrun.nodup
    rw [← hinput.deps.1] at hall
    exact hall.sublist (List.filter_sublist.map _)
  have hget : (Dict.ofList (depKwargs entry input)).get? n' = some v := by
    apply Dict.get?_of_mem_entries
    rw [Dict.entries_ofList_of_nodup hnd]
    exact hdep
  refine ⟨v, hinput.deps.2.subset (List.mem_map.mpr ⟨_, he, rfl⟩), ?_⟩
  rw [hsplit, Dict.get?_ofList_append, Dict.get?_ofList_append, hget, Option.some_or]

end CompleteRun

/-- **Dependencies.** For every list that is accepted, and every request, in a state an application
reaches, that gets to the dependencies of the route, and none of them fails: each factory is
called once, with the values of the dependencies it names and the request where it declares it,
the handler gets the values of those it names, and any order of the list yields the same route,
exactly when no keyword set later replaces a value the handler takes. -/
theorem dependency_law_iff {o : MaskOrder} (hdeps : a.dependencies = some deps)
    (hprep : prepareRoute h a = .ok (entry, opId))
    (hreached : (appSystem m Ref o).Reached w.app)
    (hserving : .serving idx params ∈ ((dispatch rt req).run w).log)
    (hentry : w.app.hotSnapshot.routes[idx]? = some entry)
    (hreach : (∃ n f kw, .factory n f kw ∈ ((dispatch rt req).run w).log) ∨
      ∃ f kw, .handler f kw ∈ ((dispatch rt req).run w).log)
    (hok : ∀ n e, .resolved n (.error e) ∉ ((dispatch rt req).run w).log) :
    (DependencyLaw rt req h.toIntrospection deps ((dispatch rt req).run w).log w.app.hotSnapshot ∧
      ∀ deps' : List Ref, deps'.Perm deps →
        prepareRoute h { a with dependencies := some deps' } = .ok (entry, opId)) ↔
      DependenciesKept rt req h.toIntrospection entry params deps
        ((dispatch rt req).run w).log := by
  have hprepared := prepared_of_reached hreached
  have hroute := (preparedFrom hprep).dependencies
  have hkinds := (preparedFrom hprep).signature
  have hrun := completeRun_of_reached hdeps hprep hprepared hserving hentry hreach hok
  constructor
  · rintro ⟨hlaw, -⟩ input json hinput - hhandler n g hn htakes v hv
    obtain ⟨v', hv', hget⟩ := hlaw.handler _ _ hhandler n g hn htakes
    obtain ⟨v₀, -, hall⟩ := hrun.get?_allKwargs hkinds hinput json hn htakes
    rw [hall, hv, Option.some_or] at hget
    cases hget
    exact hv'
  · intro hkept
    constructor
    · refine ⟨fun n f => hrun.once, fun n f kw => hrun.declared, fun n f kw => hrun.keywords,
        fun n f => hrun.exists_resolved, fun n v => hrun.value_of_resolved, ?_⟩
      intro f kw hhandler n g hn htakes
      obtain ⟨rfl, input, json, hinput, hjson, rfl⟩ :=
        handler_called hprepared hserving hentry hhandler
      obtain ⟨v, hv, hall⟩ := hrun.get?_allKwargs hkinds hinput json hn htakes
      cases hafter : (Dict.ofList (afterDependencies req entry input json)).get? n with
      | none =>
        rw [hafter, Option.none_or] at hall
        exact ⟨v, hv, hall⟩
      | some v' =>
        rw [hafter, Option.some_or] at hall
        exact ⟨v', hkept input json hinput hjson hhandler n g hn htakes v' hafter, hall⟩
    · intro deps' hperm
      rw [← hprep]
      apply prepareRoute_congr
      rw [hdeps] at hroute ⊢
      rw [routeDependencies_perm hperm hroute, hroute]

/-- A host whose items name a dependency and its factory, with the parameters of each callable. -/
def namedHost (parameters : String → List (String × ParamKind)) : Host String where
  toIntrospection :=
    { plainHost.toIntrospection with
      tupleItems := fun it => .ok [it, it]
      parameters := fun f => .ok (parameters f) }
  jsonFromStr := plainHost.jsonFromStr
  jsonArrayFromStr := plainHost.jsonArrayFromStr
  algorithmFromStr := plainHost.algorithmFromStr
  readPem := plainHost.readPem
  unicodeLowercase := plainHost.unicodeLowercase

/-- The route of a handler `h` with a parameter, before its dependencies are known. -/
def namedRoute (param : String) (dependencies : List (DependencyEntry String)) :
    RouteEntry String where
  handler := "h"
  bodyModel := none
  extra := {
    pathTemplate := "/x"
    jwtCookie := none
    jwtDecodingKey := none
    jwtValidation := none
    dependencies := dependencies
    handlerParamNames := [param]
    bodyParamName := "json"
    rateLimiter := none
    wildcardParams := [] }
  isAsync := false
  requireJwt := false
  readJsonBody := false
  readFormBody := false
  handlerVarkw := false
  trivialSync := false
  hasRateLimit := false

/-- The parameters of `h(user)`, `user(request, db)` and `db()`. -/
def chainHost : Host String :=
  namedHost fun f =>
    if f = "h" then [("user", .positionalOrKeyword)]
    else if f = "user" then [("request", .positionalOrKeyword), ("db", .positionalOrKeyword)]
    else []

/-- A route with two dependencies, of which the first in the list needs the second. -/
def chainArgs : AddRouteArgs String :=
  { getRoute "/x" "h" with dependencies := some ["user", "db"] }

def chainRoute : RouteEntry String :=
  namedRoute "user" [⟨"db", "db", false, false, [], false⟩,
    ⟨"user", "user", false, true, ["request", "db"], false⟩]

def chainApp : AppState segmentMatcher String :=
  (addRoute chainHost (AppState.new true) chainArgs).1

theorem chainApp_reached :
    (appSystem segmentMatcher String (plainRuntime segmentMatcher).maskOrder).Reached chainApp :=
  .step (i := .addRoute chainHost _) (.init ⟨true, rfl⟩) trivial rfl

theorem chain_log : ∃ call,
    ((dispatch (plainRuntime segmentMatcher) (plainRequest "GET" "/x")).run ⟨chainApp, ()⟩).log =
      [.serving 0 [], .factory "db" "db" .empty, .resolved "db" (.ok (.text "db")),
        .factory "user" "user" (.ofList [("request", .object "request"), ("db", .text "db")]),
        .resolved "user" (.ok (.text "user")),
        .handler "h" (.ofList [("user", .text "user")]), .sent call] :=
  ⟨_, rfl⟩

/-- The factory `user` is called with the value of `db` and the request, and its own value is
passed to the handler. -/
theorem chain_dependency_law :
    DependencyLaw (plainRuntime segmentMatcher) (plainRequest "GET" "/x")
        chainHost.toIntrospection ["user", "db"]
        ((dispatch (plainRuntime segmentMatcher) (plainRequest "GET" "/x")).run
          ⟨chainApp, ()⟩).log chainApp.hotSnapshot ∧
      ∀ deps' : List String, deps'.Perm ["user", "db"] →
        prepareRoute chainHost { chainArgs with dependencies := some deps' } =
          .ok (chainRoute, "h") := by
  obtain ⟨call, hlog⟩ := chain_log
  have hprep : prepareRoute chainHost chainArgs = .ok (chainRoute, "h") := rfl
  have hserving : RequestEvent.serving 0 [] ∈ ((dispatch (plainRuntime segmentMatcher)
      (plainRequest "GET" "/x")).run ⟨chainApp, ()⟩).log := by
    rw [hlog]
    simp
  apply (dependency_law_iff rfl hprep chainApp_reached hserving rfl
    (Or.inr ⟨"h", .ofList [("user", .text "user")], by rw [hlog]; simp⟩)
    (by rw [hlog]; simp)).mpr
  intro input json hinput hjson _ n g _ _ v hv
  have hclaims : input.claims = none := Option.not_isSome_iff_eq_none.mp (by
    rw [hinput.claims]
    exact Bool.false_ne_true)
  have hbody : input.body = [] := hinput.body.2 rfl
  have hnil : json = [] := List.map_eq_nil_iff.mp hjson
  have hafter : afterDependencies (plainRequest "GET" "/x") chainRoute input json = [] := by
    rw [afterDependencies, claimsKwargs, hclaims, hnil, bodyKwargs, hbody]
    rfl
  rw [hafter] at hv
  cases hv

/-- A host with a handler `h` that has the parameter `n`, and factories without any. -/
def valueHost (n : String) : Host String :=
  namedHost fun f => if f = "h" then [(n, .positionalOrKeyword)] else []

/-- A route with the dependency `protocol`. -/
def protocolArgs : AddRouteArgs String :=
  { getRoute "/x" "h" with dependencies := some ["protocol"] }

def protocolApp : AppState segmentMatcher String :=
  (addRoute (valueHost "protocol") (AppState.new true) protocolArgs).1

theorem protocol_log : ∃ call,
    ((dispatch (plainRuntime segmentMatcher) (plainRequest "GET" "/x")).run
      ⟨protocolApp, ()⟩).log =
      [.serving 0 [], .factory "protocol" "protocol" .empty,
        .resolved "protocol" (.ok (.text "protocol")),
        .handler "h" (.ofList [("protocol", .object "protocol")]), .sent call] :=
  ⟨_, rfl⟩

/-- The list is accepted and no factory fails, but the handler gets the protocol object in the
place of the dependency `protocol`. -/
theorem protocol_replaces_dependency :
    prepareRoute (valueHost "protocol") protocolArgs =
        .ok (namedRoute "protocol" [⟨"protocol", "protocol", false, false, [], false⟩], "h") ∧
      .handler "h" (.ofList [("protocol", .object "protocol")]) ∈
        ((dispatch (plainRuntime segmentMatcher) (plainRequest "GET" "/x")).run
          ⟨protocolApp, ()⟩).log ∧
      (∀ n e, .resolved n (.error e) ∉
        ((dispatch (plainRuntime segmentMatcher) (plainRequest "GET" "/x")).run
          ⟨protocolApp, ()⟩).log) ∧
      ¬ DependencyLaw (plainRuntime segmentMatcher) (plainRequest "GET" "/x")
        (valueHost "protocol").toIntrospection ["protocol"]
        ((dispatch (plainRuntime segmentMatcher) (plainRequest "GET" "/x")).run
          ⟨protocolApp, ()⟩).log protocolApp.hotSnapshot := by
  obtain ⟨call, hlog⟩ := protocol_log
  rw [hlog]
  refine ⟨rfl, by simp, by simp, fun hlaw => ?_⟩
  obtain ⟨v, hv, hget⟩ := hlaw.handler "h" (.ofList [("protocol", .object "protocol")]) (by simp)
    "protocol" "protocol" ⟨"protocol", by simp, "protocol", rfl, rfl⟩
    ⟨[("protocol", .positionalOrKeyword)], .positionalOrKeyword, rfl, by simp, Or.inl rfl⟩
  have hobject : v = .object "protocol" := (Option.some.inj hget).symm
  rw [hobject] at hv
  simp [PyVal.text] at hv

end OxyRoute
