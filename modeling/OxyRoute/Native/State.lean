import OxyRoute.Lib.Json
import OxyRoute.Native.Cors
import OxyRoute.Native.Dependency
import OxyRoute.Native.RateLimit
import OxyRoute.Native.Token
import OxyRoute.Routing.Tables

/-!
# Application state

`AppState` and the immutable snapshot of it that a request works with, with the functions of
`state.rs` and `dispatch.rs` that build routing tables from it.

## Main definitions

- `RouteEntry`, `WebsocketRoute` — the registered routes
- `AppState`, `FrozenState` — the state and its snapshot
- `snapshotRouters` — compile the tables; it has no result where the code panics
- `freeze`, `ensureCompiledSnapshot` — the two callers of `snapshotRouters`
-/

namespace OxyRoute

/-- `WebsocketRoute`. -/
structure WebsocketRoute (Ref : Type) where
  handler : Ref
  isAsync : Bool
  allowedOrigins : Option (List String)
  deriving DecidableEq, Repr

/-- `RouteExtra`. -/
structure RouteExtra (Ref : Type) where
  pathTemplate : String
  jwtCookie : Option String
  jwtDecodingKey : Option DecodingKey
  jwtValidation : Option Validation
  dependencies : List (DependencyEntry Ref)
  handlerParamNames : List String
  bodyParamName : String
  rateLimiter : Option RateLimiter
  wildcardParams : List String
  deriving DecidableEq, Repr

/-- `RouteEntry`. -/
structure RouteEntry (Ref : Type) where
  handler : Ref
  bodyModel : Option Ref
  extra : RouteExtra Ref
  isAsync : Bool
  requireJwt : Bool
  readJsonBody : Bool
  readFormBody : Bool
  handlerVarkw : Bool
  trivialSync : Bool
  hasRateLimit : Bool
  deriving DecidableEq, Repr

/-- An entry of `ExceptionHandlerList`. -/
structure ExceptionHandler (Ref : Type) where
  excType : Ref
  handler : Ref
  isAsync : Bool
  deriving DecidableEq, Repr

/-- `sqlx::PgPool`: a handle on a pool of connections. Every pool that is opened has its own. -/
structure PgPool where
  handle : ℕ
  deriving DecidableEq, Repr

/-- `FrozenState`: what a request sees of the application. -/
structure FrozenState (m : Matchit) (Ref : Type) where
  routes : List (RouteEntry Ref)
  websocketRoutes : List (WebsocketRoute Ref)
  compiled : Option (CompiledRouters m)
  cors : Option Ref
  compiledCors : Option CompiledCorsConfig
  securityHeaders : Option Ref
  compiledSecurityHeaders : Option CompiledSecurityHeadersConfig
  requestMiddleware : List Ref
  responseMiddleware : List Ref
  exceptionHandlers : List (ExceptionHandler Ref)
  includeOpenapi : Bool
  dbPool : Option PgPool

/-- `has_uncompiled_cfg`: a configuration is left to the Python code. -/
def hasUncompiledCfg {m : Matchit} {Ref : Type} (snap : FrozenState m Ref) : Bool :=
  (snap.cors.isSome && snap.compiledCors.isNone) ||
    (snap.securityHeaders.isSome && snap.compiledSecurityHeaders.isNone)

/-- `AppState`. The fields behind inner mutexes are plain fields here: they are written under
the write lock of the whole state, or hold a cache. -/
structure AppState (m : Matchit) (Ref : Type) where
  routes : List (RouteEntry Ref)
  websocketRoutes : List (WebsocketRoute Ref)
  routers : MethodRouters m
  websocket : Router m ℕ
  openapi : Json × Option String
  compiled : Option (CompiledRouters m)
  frozen : Bool
  includeOpenapi : Bool
  requestMiddleware : List Ref
  responseMiddleware : List Ref
  exceptionHandlers : List (ExceptionHandler Ref)
  cors : Option Ref
  compiledCors : Option CompiledCorsConfig
  securityHeaders : Option Ref
  compiledSecurityHeaders : Option CompiledSecurityHeadersConfig
  dbPool : Option PgPool
  pathMethodMasks : Dict String MethodMask
  snapshot : FrozenState m Ref

/-- The order in which a hash map of masks is iterated: any order of its entries. -/
structure MaskOrder where
  order : List (String × MethodMask) → List (String × MethodMask)
  perm : ∀ l, (order l).Perm l

namespace AppState

variable {m : Matchit} {Ref : Type}

/-- The document `AppState::new` starts with. -/
def initialOpenapi : Json :=
  .ofMembers [("openapi", .str "3.1.0"),
    ("info", .ofMembers [("title", .str "OxyRoute"), ("version", .str "0.7.0")]),
    ("paths", .obj [])]

/-- `rebuild_snapshot`. -/
def rebuildSnapshot (st : AppState m Ref) : AppState m Ref :=
  { st with
    snapshot := {
      routes := st.routes
      websocketRoutes := st.websocketRoutes
      compiled := st.compiled
      cors := st.cors
      compiledCors := st.compiledCors
      securityHeaders := st.securityHeaders
      compiledSecurityHeaders := st.compiledSecurityHeaders
      requestMiddleware := st.requestMiddleware
      responseMiddleware := st.responseMiddleware
      exceptionHandlers := st.exceptionHandlers
      includeOpenapi := st.includeOpenapi
      dbPool := st.dbPool } }

/-- `App::new`: the state of a fresh application. -/
def new (includeOpenapi : Bool) : AppState m Ref where
  routes := []
  websocketRoutes := []
  routers := .new
  websocket := .new
  openapi := (initialOpenapi, none)
  compiled := none
  frozen := false
  includeOpenapi := includeOpenapi
  requestMiddleware := []
  responseMiddleware := []
  exceptionHandlers := []
  cors := none
  compiledCors := none
  securityHeaders := none
  compiledSecurityHeaders := none
  dbPool := none
  pathMethodMasks := .empty
  -- built before `App::new` sets the flag, and not rebuilt then
  snapshot := ⟨[], [], none, none, none, none, none, [], [], [], true, none⟩

/-- `hot_snapshot`. -/
def hotSnapshot (st : AppState m Ref) : FrozenState m Ref := st.snapshot

/-- `snapshot_routers`: the routers as they are, and all templates with their masks merged into
one router. The code panics where an insertion into that router fails. -/
def snapshotRouters (o : MaskOrder) (st : AppState m Ref) : Option (CompiledRouters m) :=
  match (Router.new : Router m MethodMask).insertAll (o.order st.pathMethodMasks.entries) with
  | .ok allPaths => some ⟨st.routers, st.websocket, allPaths⟩
  | .error _ => none

/-- Store compiled tables and rebuild the snapshot. -/
def storeCompiled (st : AppState m Ref) (c : CompiledRouters m) : AppState m Ref :=
  ({ st with compiled := some c } : AppState m Ref).rebuildSnapshot

/-- `freeze`; no result where compiling panics. -/
def freeze (o : MaskOrder) (st : AppState m Ref) : Option (AppState m Ref) :=
  let st : AppState m Ref := { st with frozen := true }
  match st.compiled with
  | some _ => some st.rebuildSnapshot
  | none => (st.snapshotRouters o).map st.storeCompiled

/-- `ensure_compiled_snapshot`: the tables, built and stored if there are none; no result where
compiling panics. -/
def ensureCompiledSnapshot (o : MaskOrder) (st : AppState m Ref) :
    Option (AppState m Ref × CompiledRouters m) :=
  match st.compiled with
  | some c => some (st, c)
  | none => (st.snapshotRouters o).map fun c => (st.storeCompiled c, c)

end AppState

end OxyRoute
