import OxyRoute.Lib.LockOrder

/-!
# Locks

The Python GIL, the lock of `AppState` and its inner mutexes, and the order in which the native
operations take them. The rule of the code is that the GIL comes first; three places break it.

## Main definitions

- `AppLock` — the locks with their ranks
- `Op`, `Op.code` — the operations and the locks they take
- `Op.KeepsOrder` — the operations that respect the order

## Main results

- `no_lock_cycle` — runs of operations that respect the order never wait in a cycle
-/

namespace OxyRoute

/-- The GIL, the `RwLock` around `AppState`, and the mutexes inside it. -/
inductive AppLock
  | gil
  | appState
  | openapi
  | pathMethodMasks
  | get | post | put | patch | delete | options
  | websocket
  | activeWebsockets
  deriving DecidableEq, Repr

/-- The order in which locks are to be taken. -/
def AppLock.rank : AppLock → ℕ
  | .gil => 0
  | .appState => 1
  | .openapi => 2
  | .pathMethodMasks => 3
  | .get => 4
  | .post => 5
  | .put => 6
  | .patch => 7
  | .delete => 8
  | .options => 9
  | .websocket => 10
  | .activeWebsockets => 11

-- ════════════════════════════════════════════════════════════════════════
-- The operations
-- ════════════════════════════════════════════════════════════════════════

/-- Code over these locks. `callout` is any call into Python; dropping a reference to a Python
object is not one. -/
abbrev AppCode := LockedCode AppLock

open LockedCode

/-- `state.read()`, for the scope of the guard. -/
def withRead (body : AppCode) : AppCode := .locked .appState true body

/-- `state.write()`. -/
def withWrite (body : AppCode) : AppCode := .locked .appState false body

/-- An inner mutex. -/
def withMutex (l : AppLock) (body : AppCode) : AppCode := .locked l false body

/-- `Python::with_gil`. -/
def withGil (body : AppCode) : AppCode := .withInterp body

namespace AppCode

/-- `rebuild_snapshot` clones Python handles. -/
def rebuildSnapshot : AppCode := withGil .skip

/-- `snapshot_routers`: the masks for the loop, then the routers; the guards of a struct
expression live until its end. -/
def snapshotRouters : AppCode :=
  block [withMutex .pathMethodMasks .skip,
    withMutex .get <| withMutex .post <| withMutex .put <| withMutex .patch <|
      withMutex .delete <| withMutex .options <| withMutex .websocket .skip]

/-- The router a template is inserted into. -/
def methodRouter : AppCode :=
  .either (withMutex .get .skip) <| .either (withMutex .post .skip) <|
    .either (withMutex .put .skip) <| .either (withMutex .patch .skip) <|
      .either (withMutex .delete .skip) (withMutex .options .skip)

/-- `add_route`: the frozen check, introspection, and the registration. -/
def addRoute : AppCode :=
  steps [withRead .skip, .callout,
    withWrite (steps [withMutex .openapi .skip, methodRouter, withMutex .pathMethodMasks .skip,
      rebuildSnapshot])]

/-- `add_websocket_route`. -/
def addWebsocketRoute : AppCode :=
  steps [withRead .skip, .callout, withWrite (steps [withMutex .websocket .skip, rebuildSnapshot])]

/-- `freeze`. -/
def freeze : AppCode := withWrite (block [maybe snapshotRouters, rebuildSnapshot])

/-- `set_openapi_served`, `set_middleware`, `add_middleware`. -/
def writeSetting : AppCode := withWrite (maybe rebuildSnapshot)

/-- `set_openapi_title`, `set_openapi_version`, `set_openapi_info`, `openapi_json`, and serving
the document. -/
def useOpenapi : AppCode := withRead (withMutex .openapi .skip)

/-- `set_cors`, `set_security_headers`: the configuration is read before the lock is taken. -/
def setConfig : AppCode := block [maybe (withGil .callout), withWrite rebuildSnapshot]

/-- `add_exception_handler` inspects the handler under the write lock. -/
def addExceptionHandler : AppCode := withWrite (block [withGil .callout, rebuildSnapshot])

/-- `ensure_compiled_snapshot`. -/
def ensureCompiledSnapshot : AppCode :=
  steps [withRead .skip, withGil (withWrite (maybe (block [snapshotRouters, rebuildSnapshot])))]

/-- The future of `setup_database` and of `close_database`, on a worker thread. -/
def databaseTask : AppCode := maybe (withGil (withWrite rebuildSnapshot))

/-- `handle_rsgi` with the synchronous short circuit. -/
def handleRsgi : AppCode :=
  steps [.callout, withRead .skip, .callout, maybe useOpenapi, maybe ensureCompiledSnapshot,
    .callout]

/-- `run_rsgi`, on a worker thread: the GIL is taken for each look at a Python object. -/
def runRsgi : AppCode :=
  steps [withGil .callout, maybe useOpenapi, .repeated (withGil .callout),
    maybe ensureCompiledSnapshot, .repeated (withGil .callout)]

/-- `run_rsgi_websocket`, on a worker thread. A connection that is accepted is registered under
the read lock and the GIL, and removed when its guard is dropped. -/
def runRsgiWebsocket (registers : Bool) : AppCode :=
  block [withGil .callout, maybe ensureCompiledSnapshot, .repeated (withGil .callout),
    if registers then
      block [withRead (withGil (withMutex .activeWebsockets .skip)),
        .repeated (withGil .callout), withRead (withMutex .activeWebsockets .skip)]
    else .skip]

/-- `shutdown_websockets` calls `close` of every registered protocol under its locks. -/
def shutdownWebsockets (connections : ℕ) : AppCode :=
  withRead (withMutex .activeWebsockets (times connections .callout))

end AppCode

/-- The native operations: methods called from Python, and the tasks they leave to the worker
threads. -/
inductive Op
  | addRoute | addWebsocketRoute | freeze
  | setOpenapiServed | setMiddleware | addMiddleware | setCors | setSecurityHeaders
  | addExceptionHandler
  | setOpenapiTitle | setOpenapiVersion | setOpenapiInfo | openapiJson
  | setupDatabase | closeDatabase
  | handleRsgi
  | shutdownWebsockets (connections : ℕ)
  | setupDatabaseTask | closeDatabaseTask
  | runRsgi
  | runRsgiWebsocket (registers : Bool)
  deriving DecidableEq, Repr

namespace Op

/-- The operations that run as tasks, without the GIL at their start. -/
def isTask : Op → Bool
  | .setupDatabaseTask | .closeDatabaseTask | .runRsgi | .runRsgiWebsocket _ => true
  | _ => false

/-- The locks an operation takes. -/
def code : Op → AppCode
  | .addRoute => AppCode.addRoute
  | .addWebsocketRoute => AppCode.addWebsocketRoute
  | .freeze => AppCode.freeze
  | .setOpenapiServed | .setMiddleware | .addMiddleware => AppCode.writeSetting
  | .setCors | .setSecurityHeaders => AppCode.setConfig
  | .addExceptionHandler => AppCode.addExceptionHandler
  | .setOpenapiTitle | .setOpenapiVersion | .setOpenapiInfo | .openapiJson => AppCode.useOpenapi
  | .setupDatabase | .closeDatabase => .callout
  | .handleRsgi => AppCode.handleRsgi
  | .shutdownWebsockets connections => AppCode.shutdownWebsockets connections
  | .setupDatabaseTask | .closeDatabaseTask => AppCode.databaseTask
  | .runRsgi => AppCode.runRsgi
  | .runRsgiWebsocket registers => AppCode.runRsgiWebsocket registers

/-- What a thread runs for an operation: a method is called with the GIL. -/
def job (op : Op) : AppCode := if op.isTask then op.code else withGil op.code

/-- The operations that take the GIL first: all but the registration of a WebSocket connection,
a shutdown with connections to close, and `add_exception_handler`. -/
def KeepsOrder : Op → Prop
  | .addExceptionHandler => False
  | .shutdownWebsockets connections => connections = 0
  | .runRsgiWebsocket registers => registers = false
  | _ => True

end Op

/-- The actions a thread does for an allowed operation. Python code that it runs may call the
methods of allowed operations. -/
def JobTrace (allowed : Op → Prop) (acts : List (LockAct AppLock)) : Prop :=
  ∃ op, allowed op ∧ Runs .gil (fun c => ∃ op', allowed op' ∧ op'.isTask = false ∧ c = op'.code)
    false op.job acts

/-- Any number of threads, each running any operation. -/
def appLocks : TransitionSystem (List (LockThread AppLock)) (LockEvent AppLock) :=
  lockSystem (JobTrace fun _ => True)

/-- A thread that starts runs an operation that keeps the order, and so do the calls from the
Python code it runs. -/
def StartsInOrder (_ : List (LockThread AppLock)) (e : LockEvent AppLock) : Prop :=
  ∀ acts, e = .spawn acts → JobTrace Op.KeepsOrder acts

-- ════════════════════════════════════════════════════════════════════════
-- No deadlock
-- ════════════════════════════════════════════════════════════════════════

/-- The operations that keep the order pass the check, called with the GIL or as tasks. -/
theorem Op.safe {op : Op} (h : op.KeepsOrder) :
    if op.isTask then Safe AppLock.rank .gil [] false op.code
    else Safe AppLock.rank .gil [(.gil, false)] true op.code := by
  cases op with
  | addExceptionHandler => exact h.elim
  | shutdownWebsockets connections =>
    obtain rfl : connections = 0 := h
    decide
  | runRsgiWebsocket registers =>
    obtain rfl : registers = false := h
    decide
  | _ => decide

theorem JobTrace.ordered {acts : List (LockAct AppLock)} (h : JobTrace Op.KeepsOrder acts) :
    Ordered AppLock.rank [] acts := by
  obtain ⟨op, hop, hruns⟩ := h
  have hsafe : Safe AppLock.rank .gil [] false op.job := by
    have := Op.safe hop
    unfold Op.job
    split
    · next ht => rwa [if_pos ht] at this
    · next ht =>
      rw [if_neg ht] at this
      exact ⟨by simp, this⟩
  have hcall : ∀ c, (∃ op' : Op, op'.KeepsOrder ∧ op'.isTask = false ∧ c = op'.code) →
      Safe AppLock.rank .gil [(.gil, false)] true c := by
    rintro c ⟨op', hop', ht, rfl⟩
    simpa [ht] using Op.safe hop'
  have hrest : Ordered AppLock.rank [] [] := trivial
  have hord := hruns.ordered AppLock.rank hcall hsafe hrest
  rwa [List.append_nil] at hord

/-- **Locks.** In every run of any number of threads whose operations are none of the
registration of a WebSocket connection, a shutdown with connections to close, and
`add_exception_handler`, no threads wait for each other in a cycle, and none waits for the GIL
while it holds the lock of `AppState` or the mutex of the active connections. -/
theorem no_lock_cycle {s : List (LockThread AppLock)}
    (hs : appLocks.ReachedUnder StartsInOrder s) :
    (∀ i, ¬ Relation.TransGen (WaitsFor s) i i) ∧
      ∀ t ∈ s, Requests t .gil → ∀ e ∈ t.held, e.1 ≠ .appState ∧ e.1 ≠ .activeWebsockets := by
  have hord := ordered_of_reached AppLock.rank
    (fun _ job hg _ => (hg job rfl).ordered) hs
  refine ⟨no_cycle_of_ordered AppLock.rank hord, fun t ht hr e he => ?_⟩
  have hlt := (hord t ht).requests AppLock.rank hr e he
  exact absurd hlt (Nat.not_lt_zero _)

-- ════════════════════════════════════════════════════════════════════════
-- The cycle
-- ════════════════════════════════════════════════════════════════════════

/-- `freeze` of an app with nothing to compile. -/
def freezeJob : List (LockAct AppLock) :=
  [.acquire .gil false, .acquire .appState false, .release .appState, .release .gil]

theorem freezeJob_trace : JobTrace Op.KeepsOrder freezeJob := by
  refine ⟨.freeze, trivial, ?_⟩
  change Runs AppLock.gil _ false (withGil AppCode.freeze) freezeJob
  exact .take (.locked (.seq (.left .skip) (.seq (.held .skip) .skip)))

theorem freezeJob_allowed : JobTrace (fun _ => True) freezeJob := by
  obtain ⟨op, -, hruns⟩ := freezeJob_trace
  exact ⟨op, trivial, hruns.mono fun c ⟨op', _, hc⟩ => ⟨op', trivial, hc⟩⟩

/-- Two threads call `freeze`, the second while the first has the GIL. -/
theorem two_freezes_no_lock_cycle :
    let s : List (LockThread AppLock) := [⟨[(.gil, false)], freezeJob.tail⟩, ⟨[], freezeJob⟩]
    (∀ i, ¬ Relation.TransGen (WaitsFor s) i i) ∧
      ∀ t ∈ s, Requests t .gil → ∀ e ∈ t.held, e.1 ≠ .appState ∧ e.1 ≠ .activeWebsockets := by
  have hspawn : ∀ s, StartsInOrder s (.spawn freezeJob) := by
    rintro s acts he
    cases he
    exact freezeJob_trace
  have hact : ∀ s i, StartsInOrder s (.act i) := by
    rintro s i acts he
    cases he
  have hs : appLocks.ReachedUnder StartsInOrder _ :=
    .step (.step (.step (.init rfl)
      (i := .spawn freezeJob) (hspawn _) ⟨rfl, by rintro job ⟨⟩; exact freezeJob_allowed⟩)
      (i := .spawn freezeJob) (hspawn _) ⟨rfl, by rintro job ⟨⟩; exact freezeJob_allowed⟩)
      (i := .act 0) (hact _ _) ⟨rfl, by rintro job ⟨⟩⟩
  exact no_lock_cycle hs

/-- A WebSocket connection that is accepted, registered and closed. -/
def wsJob : List (LockAct AppLock) :=
  [.acquire .gil false, .release .gil,
    .acquire .appState true, .acquire .gil false, .acquire .activeWebsockets false,
    .release .activeWebsockets, .release .gil, .release .appState,
    .acquire .appState true, .acquire .activeWebsockets false, .release .activeWebsockets,
    .release .appState]

theorem wsJob_allowed : JobTrace (fun _ => True) wsJob := by
  refine ⟨.runRsgiWebsocket true, trivial, ?_⟩
  exact .seq (.take .return) (.seq (.left .skip) (.seq .stop (.seq
    (.seq (.locked (.take (.locked .skip))) (.seq .stop (.seq (.locked (.locked .skip)) .skip)))
    .skip)))

/-- The connection has the read lock of `AppState` and a call of `freeze` the GIL. -/
def deadlocked : List (LockThread AppLock) :=
  [⟨[(.appState, true)], wsJob.drop 3⟩, ⟨[(.gil, false)], freezeJob.tail⟩]

/-- The call waits for the lock of `AppState` with the GIL, and the registration of the
connection waits for the GIL with the lock of `AppState`. -/
theorem websocket_registration_deadlock :
    ∃ s, appLocks.Reached s ∧ Relation.TransGen (WaitsFor s) 0 0 ∧
      ∃ t ∈ s, Requests t .gil ∧ (.appState, true) ∈ t.held := by
  have hs : appLocks.Reached deadlocked :=
    .step (.step (.step (.step (.step (.step (.init rfl)
      (i := .spawn wsJob) trivial ⟨rfl, by rintro job ⟨⟩; exact wsJob_allowed⟩)
      (i := .spawn freezeJob) trivial ⟨rfl, by rintro job ⟨⟩; exact freezeJob_allowed⟩)
      (i := .act 0) trivial ⟨rfl, by rintro job ⟨⟩⟩)
      (i := .act 0) trivial ⟨rfl, by rintro job ⟨⟩⟩)
      (i := .act 0) trivial ⟨rfl, by rintro job ⟨⟩⟩)
      (i := .act 1) trivial ⟨rfl, by rintro job ⟨⟩⟩
  have h01 : WaitsFor deadlocked 0 1 :=
    ⟨_, _, .gil, rfl, rfl, ⟨_, _, rfl⟩, List.mem_singleton_self _⟩
  have h10 : WaitsFor deadlocked 1 0 :=
    ⟨_, _, .appState, rfl, rfl, ⟨_, _, rfl⟩, List.mem_singleton_self _⟩
  exact ⟨_, hs, .tail (.single h01) h10, _, List.mem_cons_self, ⟨_, _, rfl⟩,
    List.mem_singleton_self _⟩

end OxyRoute
