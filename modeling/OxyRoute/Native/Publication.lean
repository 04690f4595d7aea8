import OxyRoute.Native.Document
import OxyRoute.Native.Indices

/-!
# What is published

Requests read the application from its snapshot, and match in tables compiled from its routers.
Every call that changes what they read drops the tables or rebuilds the snapshot. The one place
that does neither is the constructor: `App::new` sets its flag after the snapshot was built.

## Main definitions

- `AppState.matchRoute`, `AppState.matchWsRoute` — the match in the routers as they are
- `Tracked` — a system with the state its last successful mutation left
- `Coherent` — tables, snapshot and state agree

## Main results

- `coherent_iff` — when they do
-/

namespace OxyRoute

variable {m : Matchit} {Ref : Type}

-- ════════════════════════════════════════════════════════════════════════
-- Matching in the mutable routers
-- ════════════════════════════════════════════════════════════════════════

/-- `map_method_router`. -/
def AppState.mapMethodRouter (st : AppState m Ref) (method : String) : Option (Router m ℕ) :=
  (routerKey method).map st.routers.router

/-- `match_route` without compiled tables. -/
def AppState.matchRoute (st : AppState m Ref) (method path : String) :
    Option (Option (ℕ × PathParams)) :=
  (st.mapMethodRouter method).map fun g => g.atPath path

/-- The match of a WebSocket path in its router. -/
def AppState.matchWsRoute (st : AppState m Ref) (path : String) : Option (ℕ × PathParams) :=
  st.websocket.atPath path

/-- Compiled tables match every method and path as the routers of the state do. -/
structure CompiledRouters.MatchesAs (c : CompiledRouters m) (st : AppState m Ref) : Prop where
  http : ∀ method path, matchRouteCompiled c method path = st.matchRoute method path
  websocket : ∀ path, matchWsRouteCompiled c path = st.matchWsRoute path

theorem CompiledRouters.matchesAs_of_table {c : CompiledRouters m} {st : AppState m Ref}
    (h : c.table = st.table) : c.MatchesAs st where
  http method path := by
    have hrouter : c.router = st.routers.router := by
      funext key
      exact congrFun h (.http key)
    unfold matchRouteCompiled routerForCompiled AppState.matchRoute AppState.mapMethodRouter
    rw [hrouter]
  websocket path := by
    have hws : c.websocket = st.websocket := congrFun h .websocket
    unfold matchWsRouteCompiled AppState.matchWsRoute
    rw [hws]

-- ════════════════════════════════════════════════════════════════════════
-- The system and its last mutation
-- ════════════════════════════════════════════════════════════════════════

/-- The fields of a snapshot besides the tables are those of the state. -/
structure FrozenState.FieldsOf (snap : FrozenState m Ref) (st : AppState m Ref) : Prop where
  routes : snap.routes = st.routes
  websocketRoutes : snap.websocketRoutes = st.websocketRoutes
  cors : snap.cors = st.cors
  compiledCors : snap.compiledCors = st.compiledCors
  securityHeaders : snap.securityHeaders = st.securityHeaders
  compiledSecurityHeaders : snap.compiledSecurityHeaders = st.compiledSecurityHeaders
  requestMiddleware : snap.requestMiddleware = st.requestMiddleware
  responseMiddleware : snap.responseMiddleware = st.responseMiddleware
  exceptionHandlers : snap.exceptionHandlers = st.exceptionHandlers
  includeOpenapi : snap.includeOpenapi = st.includeOpenapi
  dbPool : snap.dbPool = st.dbPool

theorem AppState.fieldsOf_rebuildSnapshot (st : AppState m Ref) :
    st.rebuildSnapshot.snapshot.FieldsOf st.rebuildSnapshot :=
  ⟨rfl, rfl, rfl, rfl, rfl, rfl, rfl, rfl, rfl, rfl, rfl⟩

/-- Whether a step is a successful mutation: an accepted registration, a setter, `freeze`, or a
request that compiles tables. -/
def System.mutates (h : Host Ref) (s : System m Ref) : Event Ref → Bool
  | .register a =>
    match prepareRoute h a with
    | .error _ => false
    | .ok (entry, opId) => (commitRoute h s.app a entry opId).2.isOk
  | .registerWebsocket path route => (commitWebsocketRoute s.app path route).2.isOk
  | .configure _ => true
  | .freeze _ => true
  | .compileTables _ _ => s.app.compiled.isNone
  | _ => false

/-- A system, with the state as its last successful mutation left it, if there was one. -/
structure Tracked (m : Matchit) (Ref : Type) where
  system : System m Ref
  published : AppState m Ref
  mutated : Bool

/-- A step of the system, or a call that reads or writes the OpenAPI document, of which the
snapshot holds nothing. -/
inductive PublicationEvent (Ref : Type)
  | system (e : Event Ref)
  | document (openapi : Json × Option String)

/-- One step. -/
def Tracked.next (h : Host Ref) (t : Tracked m Ref) : PublicationEvent Ref → Option (Tracked m Ref)
  | .system e => (t.system.next h e).map fun s =>
      if t.system.mutates h e then ⟨s, s.app, true⟩ else { t with system := s }
  | .document openapi =>
    some { t with system := { t.system with app := { t.system.app with openapi := openapi } } }

/-- The transition system of an application, from its construction. -/
def publicationSystem (m : Matchit) (h : Host Ref) (includeOpenapi : Bool) :
    TransitionSystem (Tracked m Ref) (PublicationEvent Ref) where
  init t := t = ⟨⟨AppState.new includeOpenapi, [], []⟩, AppState.new includeOpenapi, false⟩
  step t e t' := t.next h e = some t'

/-- Tables match like the routers, the snapshot is the last mutated state, and the tables of a
request have the routes that were registered when it came. -/
structure Coherent (t : Tracked m Ref) : Prop where
  compiled : ∀ c, t.system.app.compiled = some c ∨ t.system.app.snapshot.compiled = some c →
    c.MatchesAs t.system.app
  fields : t.system.app.snapshot.FieldsOf t.published
  routed : ∀ r ∈ t.system.requests, ∀ c, r.phase.tables? = some c → ∀ reg ∈ r.seen,
    (reg.template, reg.index) ∈ (c.table reg.slot).table.entries

/-- The calls on the document are steps of the kind `document`. -/
theorem AppState.setOpenapiTitle_eq (st : AppState m Ref) (title : String) :
    st.setOpenapiTitle title = { st with openapi := (st.setOpenapiTitle title).openapi } := by
  unfold AppState.setOpenapiTitle
  split
  · split <;> rfl
  · rfl

theorem AppState.setOpenapiVersion_eq (st : AppState m Ref) (version : String) :
    st.setOpenapiVersion version =
      { st with openapi := (st.setOpenapiVersion version).openapi } := by
  unfold AppState.setOpenapiVersion
  split <;> rfl

theorem AppState.setOpenapiInfo_eq (h : Host Ref) (st : AppState m Ref) (info : OpenapiInfo) :
    (st.setOpenapiInfo h info).1 =
      { st with openapi := (st.setOpenapiInfo h info).1.openapi } := by
  unfold AppState.setOpenapiInfo
  split
  · simp only
    split
    · rfl
    · split <;> rfl
  · rfl

-- ════════════════════════════════════════════════════════════════════════
-- Mutations
-- ════════════════════════════════════════════════════════════════════════

/-- A successful mutation ends with a rebuilt snapshot. -/
theorem System.rebuilt_of_mutates {h : Host Ref} {s s' : System m Ref} {e : Event Ref}
    (hs : s.next h e = some s') (hm : s.mutates h e = true) :
    ∃ st : AppState m Ref, s'.app = st.rebuildSnapshot := by
  cases e with
  | register a =>
    simp only [System.next] at hs
    simp only [System.mutates] at hm
    split at hs
    · next e hp =>
      rw [hp] at hm
      cases hm
    · next entry opId hp =>
      cases hs
      simp only [hp] at hm
      rcases commitRoute_cases h s.app a entry opId with ⟨st', e, hc, -, -⟩ | ⟨oa, key, r, -, -, hc⟩
      · rw [hc] at hm
        cases hm
      · exact ⟨_, by rw [hc]; rfl⟩
  | registerWebsocket path route =>
    cases hs
    simp only [System.mutates] at hm
    rcases commitWebsocketRoute_cases s.app path route with ⟨st', e, hc, -, -⟩ | ⟨r, -, hc⟩
    · rw [hc] at hm
      cases hm
    · exact ⟨_, by rw [hc]⟩
  | configure setting =>
    cases hs
    exact ⟨s.app.writeSetting setting, rfl⟩
  | freeze o =>
    obtain ⟨app', hf, rfl⟩ := Option.map_eq_some_iff.mp hs
    unfold AppState.freeze at hf
    simp only at hf
    split at hf
    · cases hf
      exact ⟨_, rfl⟩
    · obtain ⟨c, -, rfl⟩ := Option.map_eq_some_iff.mp hf
      exact ⟨_, rfl⟩
  | compileTables i o =>
    have hnone : s.app.compiled = none := Option.isNone_iff_eq_none.mp hm
    simp only [System.next] at hs
    split at hs
    · split at hs
      · obtain ⟨⟨app', c⟩, hout, rfl⟩ := Option.map_eq_some_iff.mp hs
        simp only [AppState.ensureCompiledSnapshot, hnone] at hout
        obtain ⟨c', -, h⟩ := Option.map_eq_some_iff.mp hout
        cases h
        exact ⟨_, rfl⟩
      · cases hs
    · cases hs
  | arrive target => cases hm
  | snapshotTables i => cases hm
  | readTables i => cases hm
  | matchPath i => cases hm
  | lookup i => cases hm
  | handOver i => cases hm

/-- The other steps leave the snapshot and the tables as they are. -/
theorem System.snapshot_of_not_mutates {h : Host Ref} {s s' : System m Ref} {e : Event Ref}
    (hs : s.next h e = some s') (hm : s.mutates h e = false) :
    s'.app.snapshot = s.app.snapshot ∧ s'.app.compiled = s.app.compiled := by
  by_cases he : e.moves = true
  · obtain ⟨i, r, r', -, rfl, -⟩ := System.next_moves he hs
    exact ⟨rfl, rfl⟩
  cases e with
  | register a =>
    simp only [System.next] at hs
    simp only [System.mutates] at hm
    split at hs
    · cases hs
      exact ⟨rfl, rfl⟩
    · next entry opId hp =>
      cases hs
      simp only [hp] at hm
      rcases commitRoute_cases h s.app a entry opId with ⟨st', e, hc, hk, -⟩ | ⟨oa, key, r, -, -, hc⟩
      · rw [hc]
        exact ⟨hk.snapshot, hk.compiled⟩
      · rw [hc] at hm
        cases hm
  | registerWebsocket path route =>
    cases hs
    simp only [System.mutates] at hm
    rcases commitWebsocketRoute_cases s.app path route with ⟨st', e, hc, hk, -⟩ | ⟨r, -, hc⟩
    · rw [hc]
      exact ⟨hk.snapshot, hk.compiled⟩
    · rw [hc] at hm
      cases hm
  | configure setting => cases hm
  | freeze o => cases hm
  | compileTables i o =>
    have hsome : s.app.compiled ≠ none := by
      intro hnone
      simp [System.mutates, hnone] at hm
    simp only [System.next] at hs
    split at hs
    · split at hs
      · obtain ⟨⟨app', c⟩, hout, rfl⟩ := Option.map_eq_some_iff.mp hs
        unfold AppState.ensureCompiledSnapshot at hout
        split at hout
        · cases hout
          exact ⟨rfl, rfl⟩
        · next hnone => exact absurd hnone hsome
      · cases hs
    · cases hs
  | arrive target =>
    cases hs
    exact ⟨rfl, rfl⟩
  | snapshotTables i => exact absurd rfl he
  | readTables i => exact absurd rfl he
  | matchPath i => exact absurd rfl he
  | lookup i => exact absurd rfl he
  | handOver i => exact absurd rfl he

-- ════════════════════════════════════════════════════════════════════════
-- The invariant
-- ════════════════════════════════════════════════════════════════════════

/-- The tables of a request, in its snapshot or in its hands, have every route it has seen. -/
structure Request.Routed (r : Request m Ref) : Prop where
  snapshot : ∀ c, r.snapshot.compiled = some c → ∀ reg ∈ r.seen,
    (reg.template, reg.index) ∈ (c.table reg.slot).table.entries
  tables : ∀ c, r.phase.tables? = some c → ∀ reg ∈ r.seen,
    (reg.template, reg.index) ∈ (c.table reg.slot).table.entries

theorem Request.Routed.withPhase {r : Request m Ref} (hr : r.Routed) {phase : Phase m Ref}
    (h : ∀ c, phase.tables? = some c → ∀ reg ∈ r.seen,
      (reg.template, reg.index) ∈ (c.table reg.slot).table.entries) :
    (r.withPhase phase).Routed :=
  ⟨hr.snapshot, h⟩

/-- A request that moves on keeps its routes: tables of the shared state have all there are. -/
theorem Request.Routed.move {app : AppState m Ref} {log : List (Registration Ref)}
    {r r' : Request m Ref} {shared : Prop} (hl : Linked app log) (hseen : r.seen ⊆ log)
    (hr : r.Routed) (hm : Move app r shared r') : r'.Routed := by
  cases hm with
  | @snapshotTables c hc =>
    refine hr.withPhase fun c' h => ?_
    cases h
    exact hr.snapshot c hc
  | sharedTables _ hc =>
    refine hr.withPhase fun c' h reg hreg => ?_
    cases h
    rw [hc]
    exact hl.logged reg (hseen hreg)
  | compiling => exact hr.withPhase fun c h => by cases h
  | @matchPath c hp =>
    unfold Request.afterMatch
    split
    · refine hr.withPhase fun c' h => ?_
      cases h
      exact hr.tables c (by rw [hp]; rfl)
    · exact hr.withPhase fun c' h => by cases h
  | lookup hp =>
    unfold Request.afterLookup
    split
    · exact hr.withPhase fun c' h => by cases h
    · exact hr.withPhase fun c' h => by cases h
  | handOver => exact hr.withPhase fun c' h => by cases h

/-- What holds in every run. -/
structure Tracked.Tracks (includeOpenapi : Bool) (t : Tracked m Ref) : Prop where
  linked : SystemLinked t.system
  compiled : t.system.app.snapshot.compiled = t.system.app.compiled
  mutated : t.mutated = true → t.system.app.snapshot.FieldsOf t.published
  initial : t.mutated = false → t.published = AppState.new includeOpenapi ∧
    t.system.app.snapshot = (AppState.new includeOpenapi : AppState m Ref).snapshot
  routed : ∀ r ∈ t.system.requests, r.Routed

/-- A step of the system keeps the requests routed. -/
theorem routed_step {s s' : System m Ref} {e : Event Ref} (hl : SystemLinked s)
    (hcompiled : s.app.snapshot.compiled = s.app.compiled) (hr : ∀ r ∈ s.requests, r.Routed)
    (hst : SystemStep s e s') : ∀ r ∈ s'.requests, r.Routed := by
  cases hst with
  | app => exact hr
  | arrive target =>
    intro r hmem
    rcases List.mem_append.mp hmem with hmem | hmem
    · exact hr r hmem
    · rw [List.mem_singleton.mp hmem]
      refine ⟨fun c hc reg hreg => ?_, (fun c h => by cases h)⟩
      have htable : c.table = s.app.table := hl.app.compiled c (hcompiled ▸ hc)
      rw [htable]
      exact hl.app.logged reg hreg
  | @request app' i r r' hi _ hmove =>
    intro q hq
    have hmem := List.mem_of_getElem? hi
    rcases List.mem_or_eq_of_mem_set hq with hq | rfl
    · exact hr q hq
    · exact (hr r hmem).move hl.app (hl.requests r hmem).seen hmove

theorem Tracked.Tracks.next {h : Host Ref} {includeOpenapi : Bool} {t t' : Tracked m Ref}
    {e : PublicationEvent Ref} (ht : t.Tracks includeOpenapi) (hn : t.next h e = some t') :
    t'.Tracks includeOpenapi := by
  cases e with
  | system e =>
    obtain ⟨s, hs, rfl⟩ := Option.map_eq_some_iff.mp hn
    have hst : SystemStep t.system e s := systemStep_of_next ht.linked.app hs
    have hlinked : SystemLinked s := ht.linked.step hst
    have hrouted := routed_step ht.linked ht.compiled ht.routed hst
    cases hm : t.system.mutates h e with
    | true =>
      obtain ⟨st, hst⟩ := System.rebuilt_of_mutates hs hm
      refine ⟨hlinked, ?_, fun _ => ?_, (fun hfalse => by cases hfalse), hrouted⟩
      · change s.app.snapshot.compiled = s.app.compiled
        rw [hst]
        rfl
      · change s.app.snapshot.FieldsOf s.app
        rw [hst]
        exact st.fieldsOf_rebuildSnapshot
    | false =>
      obtain ⟨hsnap, hcomp⟩ := System.snapshot_of_not_mutates hs hm
      refine ⟨hlinked, ?_, fun htrue => ?_, fun hfalse => ?_, hrouted⟩
      · change s.app.snapshot.compiled = s.app.compiled
        rw [hsnap, hcomp]
        exact ht.compiled
      · change s.app.snapshot.FieldsOf t.published
        rw [hsnap]
        exact ht.mutated htrue
      · change t.published = _ ∧ s.app.snapshot = _
        rw [hsnap]
        exact ht.initial hfalse
  | document openapi =>
    cases hn
    have hkeep : AppStep t.system.app { t.system.app with openapi := openapi } [] :=
      .keep ⟨rfl, rfl, rfl, rfl, rfl, rfl, List.prefix_rfl, List.prefix_rfl⟩
    have happ := ht.linked.app.step hkeep
    have hrequests := fun r hr => (ht.linked.requests r hr).step hkeep
    rw [List.append_nil] at happ hrequests
    exact ⟨⟨happ, hrequests⟩, ht.compiled, ht.mutated, ht.initial, ht.routed⟩

theorem tracks_of_reached {h : Host Ref} {includeOpenapi : Bool} {t : Tracked m Ref}
    (ht : (publicationSystem m h includeOpenapi).Reached t) : t.Tracks includeOpenapi := by
  refine TransitionSystem.Reached.invariant ?_ (fun t e t' hp hn => hp.next hn) ht
  rintro t rfl
  exact ⟨⟨.new includeOpenapi, by simp⟩, rfl, (fun htrue => by cases htrue), fun _ => ⟨rfl, rfl⟩,
    by simp⟩

-- ════════════════════════════════════════════════════════════════════════
-- Coherence
-- ════════════════════════════════════════════════════════════════════════

/-- The tables and the requests are right in every run. -/
theorem Tracked.Tracks.matches {includeOpenapi : Bool} {t : Tracked m Ref}
    (ht : t.Tracks includeOpenapi) {c : CompiledRouters m}
    (hc : t.system.app.compiled = some c ∨ t.system.app.snapshot.compiled = some c) :
    c.MatchesAs t.system.app := by
  have hcompiled : t.system.app.compiled = some c := by
    rcases hc with hc | hc
    · exact hc
    · exact ht.compiled ▸ hc
  exact CompiledRouters.matchesAs_of_table (ht.linked.app.compiled c hcompiled)

/-- **Publication.** In every state reached by any run, tables, snapshot and requests agree with
the state exactly when the application was built with `include_openapi` on, or something was
changed since. -/
theorem coherent_iff (h : Host Ref) (includeOpenapi : Bool) {t : Tracked m Ref}
    (hs : (publicationSystem m h includeOpenapi).Reached t) :
    Coherent t ↔ includeOpenapi = true ∨ t.mutated = true := by
  have ht := tracks_of_reached hs
  constructor
  · intro hc
    cases hm : t.mutated with
    | true => exact .inr rfl
    | false =>
      obtain ⟨hpublished, hsnapshot⟩ := ht.initial hm
      have hflag := hc.fields.includeOpenapi
      rw [hpublished, hsnapshot] at hflag
      exact .inl hflag.symm
  · intro hcond
    refine ⟨fun c hc => ht.matches hc, ?_, fun r hr => (ht.routed r hr).tables⟩
    cases hm : t.mutated with
    | true => exact ht.mutated hm
    | false =>
      obtain ⟨hpublished, hsnapshot⟩ := ht.initial hm
      rw [hm] at hcond
      obtain rfl : includeOpenapi = true := hcond.resolve_right (by simp)
      rw [hpublished, hsnapshot]
      exact ⟨rfl, rfl, rfl, rfl, rfl, rfl, rfl, rfl, rfl, rfl, rfl⟩

/-- A route is registered and a request compiles the tables: all agrees. -/
theorem compiled_route_coherent :
    ∃ t, (publicationSystem segmentMatcher plainHost false).Reached t ∧
      t.system.app.compiled.isSome ∧ t.system.requests.length = 1 ∧
      (Coherent t ↔ false = true ∨ t.mutated = true) ∧ t.mutated = true := by
  have h0 : (publicationSystem segmentMatcher plainHost false).init
      ⟨⟨AppState.new false, [], []⟩, AppState.new false, false⟩ := rfl
  have hs : (publicationSystem segmentMatcher plainHost false).Reached _ :=
    .step (.step (.step (.step (.init h0)
      (i := .system (.register (getRoute "/a" "f"))) trivial rfl)
      (i := .system (.arrive (.http "GET" "/a"))) trivial rfl)
      (i := .system (.readTables 0)) trivial rfl)
      (i := .system (.compileTables 0 ⟨id, fun _ => .rfl⟩)) trivial rfl
  exact ⟨_, hs, rfl, rfl, coherent_iff plainHost false hs, rfl⟩

/-- Built with `include_openapi` off, the application gives its first request a snapshot in
which it is on. -/
theorem constructor_incoherent :
    ∃ t, (publicationSystem segmentMatcher plainHost false).Reached t ∧ ¬ Coherent t ∧
      t.system.app.includeOpenapi = false ∧
      ∃ r ∈ t.system.requests, r.target = .http "GET" "/openapi.json" ∧
        servesOpenapi (plainRequest "GET" "/openapi.json") r.snapshot = true := by
  have h0 : (publicationSystem segmentMatcher plainHost false).init
      ⟨⟨AppState.new false, [], []⟩, AppState.new false, false⟩ := rfl
  have hs : (publicationSystem segmentMatcher plainHost false).Reached _ :=
    .step (.init h0) (i := .system (.arrive (.http "GET" "/openapi.json"))) trivial rfl
  refine ⟨_, hs, fun hc => ?_, rfl, _, List.mem_of_getElem? (i := 0) rfl, rfl, rfl⟩
  cases hc.fields.includeOpenapi

end OxyRoute
