import OxyRoute.Native.Interleaving

/-!
# Route indices across versions of the state

The index a request matches comes from tables that may be newer than the routes it is looked up
in. The tables of every version agree with the log of accepted registrations, and a snapshot
holds the entries of exactly those that were accepted before it was taken; so an index is sound
exactly when its registration was.

## Main definitions

- `Linked` — the state agrees with the log
- `RequestLinked` — so do the snapshot and the tables of a request
- `TablesSeen` — the condition on the step that obtains tables from the shared state

## Main results

- `linked_of_reached` — both in every reachable state
- `matched_in_snapshot_iff`, `index_in_snapshot` — when indices are sound
-/

namespace OxyRoute

variable {m : Matchit} {Ref : Type}

-- ════════════════════════════════════════════════════════════════════════
-- Vectors
-- ════════════════════════════════════════════════════════════════════════

theorem servedAt_eq_none_iff (routes : List (RouteEntry Ref))
    (websocketRoutes : List (WebsocketRoute Ref)) (slot : Slot) (i : ℕ) :
    servedAt routes websocketRoutes slot i = none ↔
      servedCount routes websocketRoutes slot ≤ i := by
  cases slot <;> simp [servedAt, servedCount]

/-- An entry stays where it is when the vectors grow. -/
theorem servedAt_mono {routes routes' : List (RouteEntry Ref)}
    {websocketRoutes websocketRoutes' : List (WebsocketRoute Ref)}
    (hr : routes <+: routes') (hw : websocketRoutes <+: websocketRoutes') {slot : Slot} {i : ℕ}
    {v : Served Ref} (h : servedAt routes websocketRoutes slot i = some v) :
    servedAt routes' websocketRoutes' slot i = some v := by
  obtain ⟨moreRoutes, rfl⟩ := hr
  obtain ⟨moreWebsocketRoutes, rfl⟩ := hw
  cases slot with
  | http key =>
    obtain ⟨e, he, rfl⟩ := Option.map_eq_some_iff.mp h
    have hi := (List.getElem?_eq_some_iff.mp he).1
    rw [servedAt, List.getElem?_append_left hi, he]
    rfl
  | websocket =>
    obtain ⟨e, he, rfl⟩ := Option.map_eq_some_iff.mp h
    have hi := (List.getElem?_eq_some_iff.mp he).1
    rw [servedAt, List.getElem?_append_left hi, he]
    rfl

theorem servedCount_mono {routes routes' : List (RouteEntry Ref)}
    {websocketRoutes websocketRoutes' : List (WebsocketRoute Ref)}
    (hr : routes <+: routes') (hw : websocketRoutes <+: websocketRoutes') (slot : Slot) :
    servedCount routes websocketRoutes slot ≤ servedCount routes' websocketRoutes' slot := by
  cases slot
  · exact hr.length_le
  · exact hw.length_le

-- ════════════════════════════════════════════════════════════════════════
-- The state and the log
-- ════════════════════════════════════════════════════════════════════════

/-- The tables refer to registrations of the log. -/
def TablesLogged (table : Slot → Router m ℕ) (log : List (Registration Ref)) : Prop :=
  ∀ slot t i, (t, i) ∈ (table slot).table.entries → ∃ v, ⟨slot, t, i, v⟩ ∈ log

/-- The snapshot holds the entries of the registrations. -/
def Holds (snap : FrozenState m Ref) (log : List (Registration Ref)) : Prop :=
  ∀ reg ∈ log, snap.served? reg.slot reg.index = some reg.served

/-- The state agrees with the log of accepted registrations. -/
structure Linked (app : AppState m Ref) (log : List (Registration Ref)) : Prop where
  tables : TablesLogged app.table log
  logged : ∀ reg ∈ log, (reg.template, reg.index) ∈ (app.table reg.slot).table.entries
  holds : Holds app.snapshot log
  routes : app.snapshot.routes <+: app.routes
  websocketRoutes : app.snapshot.websocketRoutes <+: app.websocketRoutes
  compiled : ∀ c, app.compiled = some c → c.table = app.table
  snapshotCompiled : ∀ c, app.snapshot.compiled = some c → TablesLogged c.table log

/-- The snapshot is the one `rebuild_snapshot` makes of the state. -/
structure Published (app : AppState m Ref) : Prop where
  routes : app.snapshot.routes = app.routes
  websocketRoutes : app.snapshot.websocketRoutes = app.websocketRoutes
  compiled : app.snapshot.compiled = app.compiled

theorem AppState.published_rebuildSnapshot (st : AppState m Ref) :
    Published st.rebuildSnapshot :=
  ⟨rfl, rfl, rfl⟩

/-- What a step does to the state, with the registrations it adds to the log. -/
inductive AppStep (app app' : AppState m Ref) : List (Registration Ref) → Prop
  /-- A refused registration. -/
  | keep : KeepsTables app app' → AppStep app app' []
  /-- A setting, or tables compiled from the routers as they are. -/
  | publish : Published app' → app'.table = app.table → app'.routes = app.routes →
      app'.websocketRoutes = app.websocketRoutes →
      (∀ c, app'.compiled = some c → c.table = app.table) → AppStep app app' []
  /-- An accepted registration. -/
  | accept (slot : Slot) (t : String) (v : Served Ref) (r : Router m ℕ) :
      Published app' →
      (app.table slot).insert t (servedCount app.routes app.websocketRoutes slot) = .ok r →
      app'.table = Function.update app.table slot r → app.routes <+: app'.routes →
      app.websocketRoutes <+: app'.websocketRoutes →
      servedAt app'.routes app'.websocketRoutes slot
        (servedCount app.routes app.websocketRoutes slot) = some v →
      app'.compiled = none →
      AppStep app app' [⟨slot, t, servedCount app.routes app.websocketRoutes slot, v⟩]

theorem AppStep.routes_prefix {app app' : AppState m Ref} {new : List (Registration Ref)}
    (h : AppStep app app' new) : app.routes <+: app'.routes := by
  cases h with
  | keep hk => exact hk.routes
  | publish _ _ hr => exact hr ▸ List.prefix_rfl
  | accept slot t v r _ _ _ hr => exact hr

theorem AppStep.websocketRoutes_prefix {app app' : AppState m Ref}
    {new : List (Registration Ref)} (h : AppStep app app' new) :
    app.websocketRoutes <+: app'.websocketRoutes := by
  cases h with
  | keep hk => exact hk.websocketRoutes
  | publish _ _ _ hw => exact hw ▸ List.prefix_rfl
  | accept slot t v r _ _ _ _ hw => exact hw

/-- New registrations lie beyond the vectors of the state they are made in. -/
theorem AppStep.index_new {app app' : AppState m Ref} {new : List (Registration Ref)}
    (h : AppStep app app' new) :
    ∀ reg ∈ new, servedCount app.routes app.websocketRoutes reg.slot ≤ reg.index := by
  cases h with
  | keep => simp
  | publish => simp
  | accept slot t v r => simp

theorem TablesLogged.mono {table : Slot → Router m ℕ} {log log' : List (Registration Ref)}
    (h : TablesLogged table log) (hsub : log ⊆ log') : TablesLogged table log' := by
  intro slot t i hi
  obtain ⟨v, hv⟩ := h slot t i hi
  exact ⟨v, hsub hv⟩

namespace Linked

variable {app app' : AppState m Ref} {log added : List (Registration Ref)}

theorem new (includeOpenapi : Bool) : Linked (AppState.new includeOpenapi : AppState m Ref) [] where
  tables slot t i h := by
    have : (AppState.new includeOpenapi : AppState m Ref).table slot = .new := by
      cases slot with
      | http key => exact MethodRouters.router_new key
      | websocket => rfl
    rw [this] at h
    cases h
  logged := by simp
  holds := by simp [Holds]
  routes := List.prefix_rfl
  websocketRoutes := List.prefix_rfl
  compiled c h := by cases h
  snapshotCompiled c h := by cases h

/-- The current vectors hold the entries of the log. -/
theorem served (hl : Linked app log) :
    ∀ reg ∈ log, servedAt app.routes app.websocketRoutes reg.slot reg.index = some reg.served :=
  fun reg hreg => servedAt_mono hl.routes hl.websocketRoutes (hl.holds reg hreg)

/-- A template is registered once in a slot. -/
theorem unique (hl : Linked app log) {reg reg' : Registration Ref} (h : reg ∈ log)
    (h' : reg' ∈ log) (hslot : reg.slot = reg'.slot) (ht : reg.template = reg'.template) :
    reg = reg' := by
  obtain ⟨slot, t, i, v⟩ := reg
  obtain ⟨slot', t', i', v'⟩ := reg'
  simp only at hslot ht
  subst hslot ht
  have hi := ExclusiveTable.get?_of_mem (m.conflicts_self t) (hl.logged _ h)
  have hi' := ExclusiveTable.get?_of_mem (m.conflicts_self t) (hl.logged _ h')
  obtain rfl : i = i' := Option.some.inj (hi.symm.trans hi')
  have hv := hl.holds _ h
  obtain rfl : v = v' := Option.some.inj (hv.symm.trans (hl.holds _ h'))
  rfl

/-- Every step keeps the state and the log in agreement. -/
theorem step (hl : Linked app log) (h : AppStep app app' added) :
    Linked app' (log ++ added) := by
  cases h with
  | keep hk =>
    have htable : app'.table = app.table := by
      funext slot
      cases slot with
      | http key => exact congrArg (fun rs => MethodRouters.router rs key) hk.routers
      | websocket => exact hk.websocket
    rw [List.append_nil]
    exact ⟨htable ▸ hl.tables, htable ▸ hl.logged, hk.snapshot ▸ hl.holds,
      hk.snapshot ▸ hl.routes.trans hk.routes,
      hk.snapshot ▸ hl.websocketRoutes.trans hk.websocketRoutes,
      htable ▸ hk.compiled ▸ hl.compiled, hk.snapshot ▸ hl.snapshotCompiled⟩
  | publish hp htable hr hw hc =>
    rw [List.append_nil]
    refine ⟨htable ▸ hl.tables, htable ▸ hl.logged, fun reg hreg => ?_,
      hp.routes ▸ List.prefix_rfl, hp.websocketRoutes ▸ List.prefix_rfl, htable ▸ hc,
      fun c h => ?_⟩
    · rw [FrozenState.served?, hp.routes, hp.websocketRoutes, hr, hw]
      exact hl.served reg hreg
    · rw [hc c (hp.compiled ▸ h)]
      exact hl.tables
  | accept slot t v r hp hi htable hr hw hv hnone =>
    have hentries := (Router.insert_eq_ok_iff.mp hi).2.2
    refine ⟨?_, ?_, ?_, hp.routes ▸ List.prefix_rfl, hp.websocketRoutes ▸ List.prefix_rfl,
      fun c h => ?_, fun c h => ?_⟩
    · intro slot' t' i' h'
      rw [htable] at h'
      by_cases hs : slot' = slot
      · subst hs
        rw [Function.update_self, hentries, List.mem_append, List.mem_singleton] at h'
        rcases h' with h' | h'
        · obtain ⟨v', hv'⟩ := hl.tables slot' t' i' h'
          exact ⟨v', List.mem_append_left _ hv'⟩
        · obtain ⟨rfl, rfl⟩ := Prod.mk.inj h'
          exact ⟨v, List.mem_append_right _ (List.mem_singleton.mpr rfl)⟩
      · rw [Function.update_of_ne hs] at h'
        obtain ⟨v', hv'⟩ := hl.tables slot' t' i' h'
        exact ⟨v', List.mem_append_left _ hv'⟩
    · intro reg hreg
      rw [htable]
      rcases List.mem_append.mp hreg with hreg | hreg
      · have hold := hl.logged reg hreg
        by_cases hs : reg.slot = slot
        · rw [hs] at hold ⊢
          rw [Function.update_self, hentries]
          exact List.mem_append_left _ hold
        · rwa [Function.update_of_ne hs]
      · rw [List.mem_singleton.mp hreg, Function.update_self, hentries]
        exact List.mem_append_right _ (List.mem_singleton.mpr rfl)
    · intro reg hreg
      rw [FrozenState.served?, hp.routes, hp.websocketRoutes]
      rcases List.mem_append.mp hreg with hreg | hreg
      · exact servedAt_mono hr hw (hl.served reg hreg)
      · rw [List.mem_singleton.mp hreg]
        exact hv
    · rw [hnone] at h
      cases h
    · rw [hp.compiled, hnone] at h
      cases h

end Linked

-- ════════════════════════════════════════════════════════════════════════
-- The steps of the state
-- ════════════════════════════════════════════════════════════════════════

section AppSteps

variable {app app' : AppState m Ref} {log : List (Registration Ref)}

theorem appStep_commitRoute (h : Host Ref) (app : AppState m Ref) (a : AddRouteArgs Ref)
    (entry : RouteEntry Ref) (opId : String) :
    AppStep app (commitRoute h app a entry opId).1
      (logOf (commitRoute h app a entry opId).2 ((routerKey a.method).map .http) a.path
        app.routes.length (.http entry)) := by
  rcases commitRoute_cases h app a entry opId with ⟨st', e, hc, hk, -⟩ | ⟨oa, key, r, hkey, hi, hc⟩
  · rw [hc]
    exact .keep hk
  · rw [hc, hkey]
    refine .accept (.http key) a.path (.http entry) r (AppState.published_rebuildSnapshot _) hi ?_
      (List.prefix_append _ _) List.prefix_rfl ?_ rfl
    · funext slot
      cases slot with
      | http key' =>
        simp only [AppState.table, AppState.finishRoute, AppState.rebuildSnapshot,
          AppState.withRoute, MethodRouters.router_set, Function.update_apply, Slot.http.injEq]
      | websocket => rfl
    · simp [servedAt, servedCount, AppState.finishRoute, AppState.rebuildSnapshot,
        AppState.withRoute]

theorem appStep_commitWebsocketRoute (app : AppState m Ref) (path : String)
    (route : WebsocketRoute Ref) :
    AppStep app (commitWebsocketRoute app path route).1
      (logOf (commitWebsocketRoute app path route).2 (some .websocket) path
        app.websocketRoutes.length (.websocket route)) := by
  rcases commitWebsocketRoute_cases app path route with ⟨st', e, hc, hk, -⟩ | ⟨r, hi, hc⟩
  · rw [hc]
    exact .keep hk
  · rw [hc]
    refine .accept .websocket path (.websocket route) r (AppState.published_rebuildSnapshot _) hi
      ?_ List.prefix_rfl (List.prefix_append _ _) ?_ rfl
    · funext slot
      cases slot <;> rfl
    · simp [servedAt, servedCount, AppState.rebuildSnapshot]

theorem appStep_configure (hl : Linked app log) (setting : Setting Ref) :
    AppStep app (app.configure setting) [] := by
  refine .publish (AppState.published_rebuildSnapshot _) ?_ ?_ ?_ ?_
  · funext slot
    cases setting <;> cases slot <;> rfl
  · cases setting <;> rfl
  · cases setting <;> rfl
  · intro c hc
    refine hl.compiled c ?_
    cases setting <;> exact hc

/-- The compiled tables of a state are its current tables. -/
theorem table_of_snapshotRouters {o : MaskOrder} {c : CompiledRouters m}
    (hc : app.snapshotRouters o = some c) : c.table = app.table := by
  unfold AppState.snapshotRouters at hc
  split at hc
  · cases hc
    funext slot
    cases slot <;> rfl
  · cases hc

theorem appStep_storeCompiled {c : CompiledRouters m} (hc : c.table = app.table) :
    AppStep app (app.storeCompiled c) [] :=
  .publish (AppState.published_rebuildSnapshot _) rfl rfl rfl fun c' h => by cases h; exact hc

theorem appStep_freeze (hl : Linked app log) {o : MaskOrder} (h : app.freeze o = some app') :
    AppStep app app' [] := by
  unfold AppState.freeze at h
  simp only at h
  split at h
  · cases h
    exact .publish (AppState.published_rebuildSnapshot _) rfl rfl rfl hl.compiled
  · obtain ⟨c, hc, rfl⟩ := Option.map_eq_some_iff.mp h
    have ht : c.table = app.table := table_of_snapshotRouters hc
    exact .publish (AppState.published_rebuildSnapshot _) rfl rfl rfl
      fun c' h => by cases h; exact ht

/-- What `ensure_compiled_snapshot` does and returns: the current tables. -/
theorem appStep_ensureCompiled (hl : Linked app log) {o : MaskOrder} {c : CompiledRouters m}
    (h : app.ensureCompiledSnapshot o = some (app', c)) :
    AppStep app app' [] ∧ c.table = app.table := by
  unfold AppState.ensureCompiledSnapshot at h
  split at h
  · next c' hc =>
    cases h
    exact ⟨.keep (.refl app), hl.compiled c hc⟩
  · obtain ⟨c', hc, h⟩ := Option.map_eq_some_iff.mp h
    cases h
    exact ⟨appStep_storeCompiled (table_of_snapshotRouters hc), table_of_snapshotRouters hc⟩

end AppSteps

-- ════════════════════════════════════════════════════════════════════════
-- Requests
-- ════════════════════════════════════════════════════════════════════════

/-- The tables a request works with, once it has them. -/
def Phase.tables? : Phase m Ref → Option (CompiledRouters m)
  | .tables c => some c
  | .matched c _ => some c
  | _ => none

/-- A request agrees with the log: its snapshot holds the registrations seen when it was taken
and none made later, and its tables refer to registrations. -/
structure RequestLinked (app : AppState m Ref) (log : List (Registration Ref))
    (r : Request m Ref) : Prop where
  seen : r.seen ⊆ log
  holds : Holds r.snapshot r.seen
  later : ∀ reg ∈ log, reg ∉ r.seen → r.snapshot.served? reg.slot reg.index = none
  count : ∀ slot, servedCount r.snapshot.routes r.snapshot.websocketRoutes slot ≤
    servedCount app.routes app.websocketRoutes slot
  snapshotCompiled : ∀ c, r.snapshot.compiled = some c → TablesLogged c.table r.seen
  tables : ∀ c, r.phase.tables? = some c → TablesLogged c.table log
  matched : ∀ c idx, r.phase = .matched c idx → (matchTarget c r.target).map (·.1) = some idx

namespace RequestLinked

variable {app app' : AppState m Ref} {log added : List (Registration Ref)} {r : Request m Ref}

/-- A request that arrives sees the log as it is. -/
theorem arrive (hl : Linked app log) (target : Target) :
    RequestLinked app log ⟨target, app.hotSnapshot, log, .running⟩ where
  seen := fun _ h => h
  holds := hl.holds
  later reg hreg hnot := absurd hreg hnot
  count slot := servedCount_mono hl.routes hl.websocketRoutes slot
  snapshotCompiled := hl.snapshotCompiled
  tables c h := by cases h
  matched c idx h := by cases h

/-- Later registrations land beyond the vectors of the snapshot. -/
theorem step (hr : RequestLinked app log r) (h : AppStep app app' added) :
    RequestLinked app' (log ++ added) r where
  seen := fun _ hreg => List.mem_append_left _ (hr.seen hreg)
  holds := hr.holds
  later reg hreg hnot := by
    rcases List.mem_append.mp hreg with hreg | hreg
    · exact hr.later reg hreg hnot
    · rw [FrozenState.served?, servedAt_eq_none_iff]
      exact (hr.count reg.slot).trans (h.index_new reg hreg)
  count slot := (hr.count slot).trans
    (servedCount_mono h.routes_prefix h.websocketRoutes_prefix slot)
  snapshotCompiled := hr.snapshotCompiled
  tables c hc := (hr.tables c hc).mono fun _ hreg => List.mem_append_left _ hreg
  matched := hr.matched

/-- A request that moves on keeps its agreement, given the new phase does. -/
theorem withPhase (hr : RequestLinked app log r) {phase : Phase m Ref}
    (htables : ∀ c, phase.tables? = some c → TablesLogged c.table log)
    (hmatched : ∀ c idx, phase = .matched c idx →
      (matchTarget c r.target).map (·.1) = some idx) :
    RequestLinked app log (r.withPhase phase) :=
  ⟨hr.seen, hr.holds, hr.later, hr.count, hr.snapshotCompiled, htables, hmatched⟩

end RequestLinked

/-- What the match of a request says: the preferred template of its table, with its index. -/
theorem matchTarget_eq_some {c : CompiledRouters m} {target : Target} {idx : ℕ}
    (h : (matchTarget c target).map (·.1) = some idx) :
    ∃ slot t, target.slot = some slot ∧ m.best (c.table slot).templates target.path = some t ∧
      (t, idx) ∈ (c.table slot).table.entries := by
  obtain ⟨⟨idx', params⟩, hm, rfl⟩ := Option.map_eq_some_iff.mp h
  cases target with
  | http method path =>
    cases hk : routerKey method with
    | none => simp [matchTarget, matchRouteCompiled, routerForCompiled, hk] at hm
    | some key =>
      have hat : (c.table (.http key)).atPath path = some (idx', params) := by
        simpa [matchTarget, matchRouteCompiled, routerForCompiled, hk, CompiledRouters.table]
          using hm
      obtain ⟨t, hb, he, -⟩ := Router.mem_of_atPath hat
      exact ⟨.http key, t, by simp [Target.slot, hk], hb, he⟩
  | websocket path =>
    obtain ⟨t, hb, he, -⟩ := Router.mem_of_atPath hm
    exact ⟨.websocket, t, rfl, hb, he⟩

-- ════════════════════════════════════════════════════════════════════════
-- The steps of the system
-- ════════════════════════════════════════════════════════════════════════

/-- The request that obtains tables from the shared state in a step. -/
def Event.obtains (s : System m Ref) : Event Ref → Option ℕ
  | .readTables i => if s.app.compiled.isSome then some i else none
  | .compileTables i _ => some i
  | _ => none

/-- How one request moves on, in a step that takes the shared state to `app'`; `shared` says
whether the step obtains tables from the shared state. -/
inductive Move (app : AppState m Ref) (r : Request m Ref) (shared : Prop) : Request m Ref → Prop
  | snapshotTables {c : CompiledRouters m} :
      r.snapshot.compiled = some c → Move app r shared (r.withPhase (.tables c))
  | sharedTables {c : CompiledRouters m} :
      shared → c.table = app.table → Move app r shared (r.withPhase (.tables c))
  | compiling : Move app r shared (r.withPhase .compiling)
  | matchPath {c : CompiledRouters m} :
      r.phase = .tables c → Move app r shared (r.afterMatch c)
  | lookup {c : CompiledRouters m} {idx : ℕ} :
      r.phase = .matched c idx → Move app r shared (r.afterLookup idx)
  | handOver : Move app r shared (r.withPhase .running)

/-- What a step of the system does. -/
inductive SystemStep (s : System m Ref) (e : Event Ref) : System m Ref → Prop
  | app {app' : AppState m Ref} {added : List (Registration Ref)} :
      AppStep s.app app' added → SystemStep s e ⟨app', s.log ++ added, s.requests⟩
  | arrive (target : Target) :
      SystemStep s e ⟨s.app, s.log, s.requests ++ [⟨target, s.app.hotSnapshot, s.log, .running⟩]⟩
  | request {app' : AppState m Ref} {i : ℕ} {r r' : Request m Ref} :
      s.requests[i]? = some r → AppStep s.app app' [] →
      Move s.app r (e.obtains s = some i) r' →
      SystemStep s e ⟨app', s.log, s.requests.set i r'⟩

/-- Whether a step moves a request on and leaves the state alone. -/
def Event.moves : Event Ref → Bool
  | .snapshotTables _ | .readTables _ | .matchPath _ | .lookup _ | .handOver _ => true
  | _ => false

/-- Such a step sets one request. -/
theorem System.next_moves {h : Host Ref} {s s' : System m Ref} {e : Event Ref}
    (he : e.moves = true) (hs : s.next h e = some s') :
    ∃ i r r', s.requests[i]? = some r ∧ s' = s.setRequest i r' ∧
      (Linked s.app s.log → Move s.app r (e.obtains s = some i) r') := by
  cases e with
  | register a => cases he
  | registerWebsocket path route => cases he
  | configure setting => cases he
  | freeze o => cases he
  | arrive target => cases he
  | compileTables i o => cases he
  | snapshotTables i =>
    simp only [System.next] at hs
    split at hs
    · next r hr =>
      split at hs
      · next c _ hc =>
        cases hs
        exact ⟨i, r, _, hr, rfl, fun _ => .snapshotTables hc⟩
      · cases hs
    · cases hs
  | readTables i =>
    simp only [System.next] at hs
    split at hs
    · next r hr =>
      split at hs
      · split at hs
        · next c hc =>
          cases hs
          exact ⟨i, r, _, hr, rfl,
            fun hl => .sharedTables (by simp [Event.obtains, hc]) (hl.compiled c hc)⟩
        · cases hs
          exact ⟨i, r, _, hr, rfl, fun _ => .compiling⟩
      · cases hs
    · cases hs
  | matchPath i =>
    simp only [System.next] at hs
    split at hs
    · next r hr =>
      split at hs
      · next c hc =>
        cases hs
        exact ⟨i, r, _, hr, rfl, fun _ => .matchPath hc⟩
      · cases hs
    · cases hs
  | lookup i =>
    simp only [System.next] at hs
    split at hs
    · next r hr =>
      split at hs
      · next c idx hc =>
        cases hs
        exact ⟨i, r, _, hr, rfl, fun _ => .lookup hc⟩
      · cases hs
    · cases hs
  | handOver i =>
    simp only [System.next] at hs
    split at hs
    · next r hr =>
      split at hs
      · cases hs
        exact ⟨i, r, _, hr, rfl, fun _ => .handOver⟩
      · split at hs
        · cases hs
          exact ⟨i, r, _, hr, rfl, fun _ => .handOver⟩
        · cases hs
      · cases hs
    · cases hs

/-- Every step is one of these. -/
theorem systemStep_of_next {h : Host Ref} {s s' : System m Ref} {e : Event Ref}
    (hl : Linked s.app s.log) (hs : s.next h e = some s') : SystemStep s e s' := by
  have stay : AppStep s.app s.app [] := .keep (.refl _)
  by_cases he : e.moves = true
  · obtain ⟨i, r, r', hr, rfl, hmove⟩ := System.next_moves he hs
    exact .request hr stay (hmove hl)
  cases e with
  | register a =>
    simp only [System.next] at hs
    split at hs
    · cases hs
      simpa using SystemStep.app (e := .register a) (s := s) stay
    · cases hs
      exact .app (appStep_commitRoute h s.app a _ _)
  | registerWebsocket path route =>
    cases hs
    exact .app (appStep_commitWebsocketRoute s.app path route)
  | configure setting =>
    cases hs
    simpa using SystemStep.app (e := .configure setting) (s := s) (appStep_configure hl setting)
  | freeze o =>
    obtain ⟨app', hf, rfl⟩ := Option.map_eq_some_iff.mp hs
    simpa using SystemStep.app (e := .freeze o) (s := s) (appStep_freeze hl hf)
  | arrive target =>
    cases hs
    exact .arrive target
  | compileTables i o =>
    simp only [System.next] at hs
    split at hs
    · next r hr =>
      split at hs
      · obtain ⟨⟨app', c⟩, hout, rfl⟩ := Option.map_eq_some_iff.mp hs
        obtain ⟨happ, hc⟩ := appStep_ensureCompiled hl hout
        exact .request hr happ (.sharedTables rfl hc)
      · cases hs
    · cases hs
  | snapshotTables i => exact absurd rfl he
  | readTables i => exact absurd rfl he
  | matchPath i => exact absurd rfl he
  | lookup i => exact absurd rfl he
  | handOver i => exact absurd rfl he

/-- The invariant of the system. -/
structure SystemLinked (s : System m Ref) : Prop where
  app : Linked s.app s.log
  requests : ∀ r ∈ s.requests, RequestLinked s.app s.log r

/-- A request that moves on still agrees with the log. -/
theorem RequestLinked.move {app : AppState m Ref} {log : List (Registration Ref)}
    {r r' : Request m Ref} {shared : Prop} (hl : Linked app log)
    (hr : RequestLinked app log r) (hm : Move app r shared r') : RequestLinked app log r' := by
  cases hm with
  | snapshotTables hc =>
    refine hr.withPhase (fun c' h => ?_) fun c' idx h => by cases h
    cases h
    exact (hr.snapshotCompiled _ hc).mono hr.seen
  | sharedTables _ hc =>
    refine hr.withPhase (fun c' h => ?_) fun c' idx h => by cases h
    cases h
    rw [hc]
    exact hl.tables
  | compiling => exact hr.withPhase (fun c' h => by cases h) fun c' idx h => by cases h
  | @matchPath c hp =>
    unfold Request.afterMatch
    split
    · next idx params hmatch =>
      refine hr.withPhase (fun c' h => ?_) fun c' idx' h => ?_
      · cases h
        exact hr.tables c (by rw [hp]; rfl)
      · cases h
        simp [hmatch]
    · exact hr.withPhase (fun c' h => by cases h) fun c' idx h => by cases h
  | lookup hp =>
    unfold Request.afterLookup
    split
    · exact hr.withPhase (fun c' h => by cases h) fun c' idx h => by cases h
    · exact hr.withPhase (fun c' h => by cases h) fun c' idx h => by cases h
  | handOver => exact hr.withPhase (fun c' h => by cases h) fun c' idx h => by cases h

/-- Every step keeps the invariant of the system. -/
theorem SystemLinked.step {s s' : System m Ref} {e : Event Ref} (hs : SystemLinked s)
    (h : SystemStep s e s') : SystemLinked s' := by
  cases h with
  | app happ => exact ⟨hs.app.step happ, fun r hr => (hs.requests r hr).step happ⟩
  | arrive target =>
    refine ⟨hs.app, fun r hr => ?_⟩
    rcases List.mem_append.mp hr with hr | hr
    · exact hs.requests r hr
    · rw [List.mem_singleton.mp hr]
      exact .arrive hs.app target
  | @request app' i r r' hr happ hmove =>
    have happ' : Linked app' s.log := by simpa using hs.app.step happ
    have keep : ∀ q, RequestLinked s.app s.log q → RequestLinked app' s.log q :=
      fun q hq => by simpa using hq.step happ
    refine ⟨happ', fun q hq => ?_⟩
    rcases List.mem_or_eq_of_mem_set hq with hq | rfl
    · exact keep q (hs.requests q hq)
    · exact keep _ ((hs.requests r (List.mem_of_getElem? hr)).move hs.app hmove)

/-- The state and all requests agree with the log in every reachable state. -/
theorem linked_of_reached {h : Host Ref} {includeOpenapi : Bool} {s : System m Ref}
    (hs : (dispatchSystem m h includeOpenapi).Reached s) : SystemLinked s := by
  refine TransitionSystem.Reached.invariant ?_ ?_ hs
  · rintro s rfl
    exact ⟨.new includeOpenapi, by simp⟩
  · exact fun s e s' hl hst => hl.step (systemStep_of_next hl.app hst)

-- ════════════════════════════════════════════════════════════════════════
-- Sound indices
-- ════════════════════════════════════════════════════════════════════════

/-- The route a table selects for the request was registered when it took its snapshot. -/
def Request.SelectsSeen (r : Request m Ref) (table : Slot → Router m ℕ) : Prop :=
  ∀ slot t, r.target.slot = some slot → m.best (table slot).templates r.target.path = some t →
    ∃ reg ∈ r.seen, reg.slot = slot ∧ reg.template = t

/-- In a step that obtains tables from the shared state, the current tables select a route that
was registered when the request took its snapshot, if they select any. -/
def TablesSeen (s : System m Ref) (e : Event Ref) : Prop :=
  ∀ i r, e.obtains s = some i → s.requests[i]? = some r → r.SelectsSeen s.app.table

/-- The entry under a matched index of the snapshot is the one that was registered for the
matched template. -/
def Request.IndexSound (log : List (Registration Ref)) (r : Request m Ref)
    (c : CompiledRouters m) (idx : ℕ) : Prop :=
  ∃ slot t v, r.target.slot = some slot ∧ m.best (c.table slot).templates r.target.path = some t ∧
    ⟨slot, t, idx, v⟩ ∈ log ∧ r.snapshot.served? slot idx = some v

/-- In every run, a matched index is sound exactly when the route it stands for was registered
before the request took its snapshot. -/
theorem RequestLinked.indexSound_iff {app : AppState m Ref} {log : List (Registration Ref)}
    {r : Request m Ref} (hl : Linked app log) (hr : RequestLinked app log r)
    {c : CompiledRouters m} {idx : ℕ} (hp : r.phase = .matched c idx) :
    r.IndexSound log c idx ↔ r.SelectsSeen c.table := by
  obtain ⟨slot, t, hslot, hbest, hentry⟩ := matchTarget_eq_some (hr.matched c idx hp)
  obtain ⟨v, hv⟩ := hr.tables c (by rw [hp]; rfl) slot t idx hentry
  constructor
  · rintro ⟨slot₁, t₁, v₁, hslot₁, hbest₁, hlog₁, hserved⟩ slot₂ t₂ hslot₂ hbest₂
    obtain rfl : slot₁ = slot₂ := Option.some.inj (hslot₁.symm.trans hslot₂)
    obtain rfl : t₁ = t₂ := Option.some.inj (hbest₁.symm.trans hbest₂)
    by_contra hnot
    have hlate := hr.later _ hlog₁ fun hseen => hnot ⟨_, hseen, rfl, rfl⟩
    rw [hserved] at hlate
    cases hlate
  · intro hsel
    obtain ⟨reg, hseen, hs, ht⟩ := hsel slot t hslot hbest
    -- a template is registered once, so the registration that was seen is the matched one
    have heq : reg = ⟨slot, t, idx, v⟩ := hl.unique (hr.seen hseen) hv hs ht
    subst heq
    exact ⟨slot, t, v, hslot, hbest, hv, hr.holds _ hseen⟩

theorem matched_in_snapshot_iff {h : Host Ref} {includeOpenapi : Bool} {s : System m Ref}
    (hs : (dispatchSystem m h includeOpenapi).Reached s) {r : Request m Ref}
    (hr : r ∈ s.requests) {c : CompiledRouters m} {idx : ℕ} (hp : r.phase = .matched c idx) :
    r.IndexSound s.log c idx ↔ r.SelectsSeen c.table :=
  ((linked_of_reached hs).requests r hr).indexSound_iff (linked_of_reached hs).app hp

/-- What holds of every request in a run that satisfies `TablesSeen`. -/
structure Request.Sound (r : Request m Ref) : Prop where
  selects : ∀ c, r.phase.tables? = some c → r.SelectsSeen c.table
  noIndexError : r.phase ≠ .indexError

theorem Request.Sound.move {app : AppState m Ref} {log : List (Registration Ref)}
    {r r' : Request m Ref} {shared : Prop} (hl : Linked app log) (hr : RequestLinked app log r)
    (hs : r.Sound) (hshared : shared → r.SelectsSeen app.table) (hm : Move app r shared r') :
    r'.Sound := by
  cases hm with
  | @snapshotTables c hc =>
    refine ⟨fun c' h slot t _ hbest => ?_, by simp [Request.withPhase]⟩
    cases h
    obtain ⟨⟨t', i⟩, he, rfl⟩ := List.mem_map.mp (m.best_mem hbest).1
    obtain ⟨v, hv⟩ := hr.snapshotCompiled c hc slot t' i he
    exact ⟨_, hv, rfl, rfl⟩
  | sharedTables hsh hc =>
    refine ⟨fun c' h => ?_, by simp [Request.withPhase]⟩
    cases h
    rw [hc]
    exact hshared hsh
  | compiling => exact ⟨(fun c h => by cases h), by simp [Request.withPhase]⟩
  | @matchPath c hp =>
    unfold Request.afterMatch
    split
    · refine ⟨fun c' h => ?_, by simp [Request.withPhase]⟩
      cases h
      exact hs.selects c (by rw [hp]; rfl)
    · exact ⟨(fun c h => by cases h), by simp [Request.withPhase]⟩
  | @lookup c idx hp =>
    obtain ⟨slot, t, v, hslot, -, -, hserved⟩ :=
      (hr.indexSound_iff hl hp).mpr (hs.selects c (by rw [hp]; rfl))
    have hlook : r.afterLookup idx = r.withPhase (.served v) := by
      simp [Request.afterLookup, hslot, hserved]
    rw [hlook]
    exact ⟨(fun c h => by cases h), by simp [Request.withPhase]⟩
  | handOver => exact ⟨(fun c h => by cases h), by simp [Request.withPhase]⟩

/-- **Route indices.** In every run of requests, registrations, setters and `freeze` whose steps
satisfy `TablesSeen`, every matched index lies inside the snapshot of its request, the entry
there is the one registered for the matched table and template, and no request ends with the
internal index error. -/
theorem index_in_snapshot (h : Host Ref) (includeOpenapi : Bool) {s : System m Ref}
    (hs : (dispatchSystem m h includeOpenapi).ReachedUnder TablesSeen s) :
    ∀ r ∈ s.requests, r.phase ≠ .indexError ∧
      ∀ c idx, r.phase = .matched c idx → r.IndexSound s.log c idx := by
  have hsound : ∀ r ∈ s.requests, r.Sound := by
    refine TransitionSystem.ReachedUnder.strengthen (T := dispatchSystem m h includeOpenapi)
      (P := fun s => ∀ r ∈ s.requests, r.Sound) (fun s => linked_of_reached) ?_ ?_ hs
    · rintro s rfl
      simp
    · intro s e s' hl hp hguard hst
      cases systemStep_of_next hl.app hst with
      | app => exact hp
      | arrive target =>
        intro r hr
        rcases List.mem_append.mp hr with hr | hr
        · exact hp r hr
        · rw [List.mem_singleton.mp hr]
          exact ⟨(fun c h => by cases h), by simp⟩
      | @request app' i r r' hi _ hmove =>
        intro q hq
        rcases List.mem_or_eq_of_mem_set hq with hq | rfl
        · exact hp q hq
        · have hmem := List.mem_of_getElem? hi
          exact (hp r hmem).move hl.app (hl.requests r hmem) (fun ho => hguard i r ho hi) hmove
  intro r hr
  refine ⟨(hsound r hr).noIndexError, fun c idx hp => ?_⟩
  exact (matched_in_snapshot_iff hs.reached hr hp).mpr
    ((hsound r hr).selects c (by rw [hp]; rfl))

/-- A request comes, then another route is registered, and then the request compiles the tables:
they are newer than its snapshot, but the route they select for it is not. -/
theorem compiled_index_in_snapshot :
    let T := dispatchSystem segmentMatcher plainHost true
    ∃ s : System segmentMatcher String, T.ReachedUnder TablesSeen s ∧
      (∃ r ∈ s.requests, ∃ c, r.phase = .matched c 0 ∧ r.snapshot.routes.length = 1 ∧
        s.app.routes.length = 2) ∧
      ∀ r ∈ s.requests, r.phase ≠ .indexError ∧
        ∀ c idx, r.phase = .matched c idx → r.IndexSound s.log c idx := by
  have quiet : ∀ (s : System segmentMatcher String) (e : Event String), e.obtains s = none →
      TablesSeen s e := fun s e he i r hi => by rw [he] at hi; cases hi
  have hs : (dispatchSystem segmentMatcher plainHost true).ReachedUnder TablesSeen _ :=
    .step (.step (.step (.step (.step (.step (.init rfl)
      (quiet _ (.register (getRoute "/a" "f")) rfl) rfl)
      (quiet _ (.arrive (.http "GET" "/a")) rfl) rfl)
      (quiet _ (.register (getRoute "/b" "g")) rfl) rfl)
      (quiet _ (.readTables 0) rfl) rfl)
      (i := .compileTables 0 ⟨id, fun _ => .rfl⟩) (by
        intro i r hi hr slot t hslot hbest
        obtain rfl := Option.some.inj hi
        obtain rfl := Option.some.inj hr
        obtain rfl := Option.some.inj hslot
        obtain rfl := Option.some.inj hbest
        exact ⟨_, List.mem_of_getElem? (i := 0) rfl, rfl, rfl⟩) rfl)
      (quiet _ (.matchPath 0) rfl) rfl
  exact ⟨_, hs, ⟨_, List.mem_of_getElem? (i := 0) rfl, _, rfl, rfl, rfl⟩,
    index_in_snapshot plainHost true hs⟩

/-- A route registered between a request's snapshot and the compilation of the tables it uses:
the request ends with the internal index error. -/
theorem late_registration_index_error :
    ∃ s : System segmentMatcher String,
      (dispatchSystem segmentMatcher plainHost true).Reached s ∧
        ∃ r ∈ s.requests, r.phase = .indexError := by
  have hs : (dispatchSystem segmentMatcher plainHost true).Reached _ :=
    .step (.step (.step (.step (.step (.step (.init rfl)
      (i := .arrive (.http "GET" "/a")) trivial rfl)
      (i := .register (getRoute "/a" "f")) trivial rfl)
      (i := .readTables 0) trivial rfl)
      (i := .compileTables 0 ⟨id, fun _ => .rfl⟩) trivial rfl)
      (i := .matchPath 0) trivial rfl)
      (i := .lookup 0) trivial rfl
  exact ⟨_, hs, _, List.mem_of_getElem? (i := 0) rfl, rfl⟩

end OxyRoute
