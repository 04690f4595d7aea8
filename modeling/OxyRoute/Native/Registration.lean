import OxyRoute.Native.OpenApi
import OxyRoute.Native.State

/-!
# Registration

`add_route` and `add_websocket_route`. Both look at the arguments first, under no lock but the
read lock of the frozen check, and then change the state under the write lock in several steps.
A step that fails returns early and leaves the changes made before it.

## Main definitions

- `prepareRoute` — everything `add_route` does before it takes the write lock
- `commitRoute` — what it does under the write lock
- `addRoute`, `addWebsocketRoute` — the native calls

## Main results

- `commitRoute_cases` — the state after `commitRoute`, failure by failure
-/

namespace OxyRoute

variable {m : Matchit} {Ref : Type}

/-- What registration relies on outside the repository: the interpreter and parsers. -/
structure Host (Ref : Type) extends Introspection Ref where
  /-- `serde_json::from_str::<Value>`, with the text of its error. -/
  jsonFromStr : String → Except String Json
  /-- `serde_json::from_str::<Vec<Value>>`. -/
  jsonArrayFromStr : String → Except String (List Json)
  /-- `jsonwebtoken::Algorithm::from_str`. -/
  algorithmFromStr : String → Option Algorithm
  /-- The error of reading PEM text as a key of a family, if there is one. -/
  readPem : KeyFamily → String → Option String
  /-- `str::to_lowercase` beyond ASCII. -/
  unicodeLowercase : String → String

/-- The arguments of `add_route`. -/
structure AddRouteArgs (Ref : Type) where
  method : String
  path : String
  handler : Ref
  requireJwt : Bool := false
  jwtSecret : Option String := none
  algorithms : Option (List Ref) := none
  readJsonBody : Bool := true
  readFormBody : Bool := false
  dependencies : Option (List Ref) := none
  jwtIssuer : Option String := none
  jwtAudience : Option String := none
  jwtLeeway : Option ℕ := none
  jwtCookie : Option String := none
  bodySchemaJson : Option String := none
  bodyModel : Option Ref := none
  tags : Option (List Ref) := none
  bodyParamName : Option String := none
  extraParamsJson : Option String := none
  rateLimit : Option String := none
  rateLimitKey : Option String := none

-- ════════════════════════════════════════════════════════════════════════
-- Before the write lock
-- ════════════════════════════════════════════════════════════════════════

/-- `parse_algorithm`. -/
def parseAlgorithm (h : Host Ref) (s : String) : Except (PyErr Ref) Algorithm :=
  match h.algorithmFromStr s with
  | some a => .ok a
  | none => .error (.valueError
      "unknown JWT algorithm (see jsonwebtoken: HS* / RS* / PS* / ES* / EdDSA)")

/-- The algorithms of a route: `HS256` unless some are given. -/
def routeAlgorithms (h : Host Ref) (algorithms : Option (List Ref)) :
    Except (PyErr Ref) (List Algorithm) := do
  match algorithms with
  | none => return [.HS256]
  | some list =>
    let algs ← list.mapM fun item => do parseAlgorithm h (← h.extractString item)
    return if algs = [] then [.HS256] else algs

/-- The text `require_jwt` without a secret is refused with. -/
def missingSecret : String :=
  "require_jwt needs jwt_secret (HMAC shared secret, or public key PEM for RS*/PS*/ES*/EdDSA)"

/-- The decoding key and validation of a route. -/
def routeJwtState (h : Host Ref) (a : AddRouteArgs Ref) (algs : List Algorithm) :
    Except (PyErr Ref) (Option (DecodingKey × Validation)) :=
  if a.requireJwt then
    match a.jwtSecret with
    | none => .error (.valueError missingSecret)
    | some k =>
      match buildRouteJwtState h.readPem k algs a.jwtIssuer a.jwtAudience
          (a.jwtLeeway.getD 60) with
      | .ok s => .ok (some s)
      | .error e => .error (.valueError ("jwt_secret and algorithms are incompatible: " ++ e))
  else .ok none

/-- The dependencies of a route, in the order they are resolved. -/
def routeDependencies (h : Host Ref) (dependencies : Option (List Ref)) :
    Except (PyErr Ref) (List (DependencyEntry Ref)) := do
  match dependencies with
  | none => return []
  | some d =>
    let entries ← parseDependencies h.toIntrospection d
    if entries = [] then return []
    match orderDependencies entries with
    | .ok order => return order
    | .error e => throw (.valueError ("dependency cycle detected: " ++ e))

/-- The rate limiter of a route. -/
def routeRateLimiter (a : AddRouteArgs Ref) : Except (PyErr Ref) (Option RateLimiter) :=
  match a.rateLimit with
  | none => .ok none
  | some rl =>
    match RateLimitConfig.parse rl a.rateLimitKey with
    | .ok cfg => .ok (some (RateLimiter.new cfg))
    | .error e => .error (.valueError e)

/-- The parameter names a handler on the short circuit may not declare. -/
def reservedNames : List String :=
  ["query", "request", "scope", "proto", "protocol", "body", "form", "files", "claims"]

/-- `params_compatible`: the handler takes exactly the path parameters. -/
def paramsCompatible (names : List String) (varkw : Bool) (path : String) : Bool :=
  !varkw && !(names.any fun n => n ∈ reservedNames) &&
    (names.all fun n => n ∈ allPathParamNames path) &&
    ((allPathParamNames path).all fun n => n ∈ names)

/-- Everything `add_route` does between the frozen check and the write lock: the entry it will
push, and the operation id. -/
def prepareRoute (h : Host Ref) (a : AddRouteArgs Ref) :
    Except (PyErr Ref) (RouteEntry Ref × String) := do
  let isAsync ← h.isCoroutineFunction a.handler
  let algs ← routeAlgorithms h a.algorithms
  if a.readJsonBody ∧ a.readFormBody then
    throw (.valueError "read_json_body and read_form_body are mutually exclusive")
  if a.requireJwt ∧ a.jwtSecret.isNone then throw (.valueError missingSecret)
  let jwt ← routeJwtState h a algs
  let dependencies ← routeDependencies h a.dependencies
  let rateLimiter ← routeRateLimiter a
  let opId ← h.name a.handler
  let (handlerParamNames, handlerVarkw) ← handlerSignatureKinds h.toIntrospection a.handler
  let trivialSync := !isAsync && !a.requireJwt && !a.readJsonBody && !a.readFormBody &&
    dependencies.isEmpty && paramsCompatible handlerParamNames handlerVarkw a.path &&
    rateLimiter.isNone
  return ({
    handler := a.handler
    bodyModel := a.bodyModel
    extra := {
      pathTemplate := a.path
      jwtCookie := a.jwtCookie
      jwtDecodingKey := jwt.map (·.1)
      jwtValidation := jwt.map (·.2)
      dependencies := dependencies
      handlerParamNames := handlerParamNames
      bodyParamName := a.bodyParamName.getD "json"
      rateLimiter := rateLimiter
      wildcardParams := wildcardParamNames a.path }
    isAsync := isAsync
    requireJwt := a.requireJwt
    readJsonBody := a.readJsonBody
    readFormBody := a.readFormBody
    handlerVarkw := handlerVarkw
    trivialSync := trivialSync
    hasRateLimit := rateLimiter.isSome }, opId)

-- ════════════════════════════════════════════════════════════════════════
-- Under the write lock
-- ════════════════════════════════════════════════════════════════════════

/-- An optional JSON argument: an absent or blank text is no value. -/
def optionalJson {α : Type} (parse : String → Except String α) (what : String)
    (arg : Option String) : Except (PyErr Ref) (Option α) :=
  match arg.map Text.trim with
  | none | some "" => .ok none
  | some s =>
    match parse s with
    | .ok v => .ok (some v)
    | .error e => .error (.valueError ("invalid " ++ what ++ " JSON: " ++ e))

/-- The tags of a route; every item must be a string. -/
def tagList (h : Host Ref) (tags : Option (List Ref)) :
    Except (PyErr Ref) (Option (List String)) :=
  match tags with
  | none => .ok none
  | some list => (list.mapM h.extractString).map some

/-- Enter an operation into the document and drop the cached text. -/
def AppState.enterOperation (st : AppState m Ref) (h : Host Ref) (a : AddRouteArgs Ref)
    (op : Operation) (extraParams : Option (List Json)) : AppState m Ref :=
  { st with
    openapi := (openapiAddPath h.unicodeLowercase st.openapi.1 a.method a.path op extraParams,
      none) }

/-- The last part of `add_route`: the template is in its router; record its method, drop the
compiled tables and publish a new snapshot. -/
def AppState.finishRoute (st : AppState m Ref) (key : RouterKey) (r : Router m ℕ)
    (a : AddRouteArgs Ref) : AppState m Ref :=
  ({ st with
    routers := st.routers.set key r
    pathMethodMasks := st.pathMethodMasks.set a.path
      (((st.pathMethodMasks.get? a.path).getD .empty).insertMethod a.method)
    compiled := none } : AppState m Ref).rebuildSnapshot

/-- What `add_route` does under the write lock: push the entry, read the remaining arguments,
enter the operation, insert the template, record the mask. An error leaves what was done
before it. -/
def commitRoute (h : Host Ref) (st : AppState m Ref) (a : AddRouteArgs Ref)
    (entry : RouteEntry Ref) (opId : String) : AppState m Ref × Except (PyErr Ref) Unit :=
  let idx := st.routes.length
  let st : AppState m Ref := { st with routes := st.routes ++ [entry] }
  match optionalJson h.jsonFromStr "body_schema" a.bodySchemaJson with
  | .error e => (st, .error e)
  | .ok requestSchema =>
    match tagList h a.tags with
    | .error e => (st, .error e)
    | .ok tags =>
      match optionalJson h.jsonArrayFromStr "extra_params" a.extraParamsJson with
      | .error e => (st, .error e)
      | .ok extraParams =>
        let st := st.enterOperation h a ⟨opId, requestSchema, a.requireJwt, tags⟩ extraParams
        match routerKey a.method with
        | none => (st, .error (.valueError "unsupported HTTP method"))
        | some key =>
          match (st.routers.router key).insert a.path idx with
          | .error e => (st, .error (.valueError e))
          | .ok r => (st.finishRoute key r a, .ok ())

/-- `add_route`. -/
def addRoute (h : Host Ref) (st : AppState m Ref) (a : AddRouteArgs Ref) :
    AppState m Ref × Except (PyErr Ref) Unit :=
  if st.frozen then (st, .error (.valueError "app is frozen; no more add_route"))
  else
    match prepareRoute h a with
    | .error e => (st, .error e)
    | .ok (entry, opId) => commitRoute h st a entry opId

/-- What `add_websocket_route` does under the write lock. -/
def commitWebsocketRoute (st : AppState m Ref) (path : String) (route : WebsocketRoute Ref) :
    AppState m Ref × Except (PyErr Ref) Unit :=
  let idx := st.websocketRoutes.length
  let st : AppState m Ref := { st with websocketRoutes := st.websocketRoutes ++ [route] }
  match st.websocket.insert path idx with
  | .error e => (st, .error (.valueError e))
  | .ok r => (({ st with websocket := r, compiled := none } : AppState m Ref).rebuildSnapshot,
      .ok ())

/-- `add_websocket_route`. -/
def addWebsocketRoute (h : Host Ref) (st : AppState m Ref) (path : String) (handler : Ref)
    (allowedOrigins : Option (List String)) : AppState m Ref × Except (PyErr Ref) Unit :=
  if st.frozen then (st, .error (.valueError "app is frozen; no more add_websocket_route"))
  else
    match h.isCoroutineFunction handler with
    | .error e => (st, .error e)
    | .ok isAsync => commitWebsocketRoute st path ⟨handler, isAsync, allowedOrigins⟩

-- ════════════════════════════════════════════════════════════════════════
-- Settings
-- ════════════════════════════════════════════════════════════════════════

/-- The calls that change a setting: `set_openapi_served`, `set_middleware`, `add_middleware`
(with the phases it was called for), `add_exception_handler`, `set_cors`,
`set_security_headers`, and `setup_database` or `close_database` at their end. -/
inductive Setting (Ref : Type)
  | openapiServed (enabled : Bool)
  | middleware (handler : Option Ref)
  | addMiddleware (handler : Ref) (request response : Bool)
  | exceptionHandler (handler : ExceptionHandler Ref)
  | cors (config : Option Ref) (compiled : Option CompiledCorsConfig)
  | securityHeaders (config : Option Ref) (compiled : Option CompiledSecurityHeadersConfig)
  | database (pool : Option PgPool)

/-- The write of a setting, before the snapshot is rebuilt. -/
def AppState.writeSetting (st : AppState m Ref) : Setting Ref → AppState m Ref
  | .openapiServed enabled => { st with includeOpenapi := enabled }
  | .middleware handler => { st with requestMiddleware := handler.toList }
  | .addMiddleware handler request response =>
    { st with
      requestMiddleware := st.requestMiddleware ++ if request then [handler] else []
      responseMiddleware := st.responseMiddleware ++ if response then [handler] else [] }
  | .exceptionHandler handler =>
    { st with exceptionHandlers := st.exceptionHandlers ++ [handler] }
  | .cors config compiled => { st with cors := config, compiledCors := compiled }
  | .securityHeaders config compiled =>
    { st with securityHeaders := config, compiledSecurityHeaders := compiled }
  | .database pool => { st with dbPool := pool }

/-- A setter call: write the setting and rebuild the snapshot. -/
def AppState.configure (st : AppState m Ref) (setting : Setting Ref) : AppState m Ref :=
  (st.writeSetting setting).rebuildSnapshot

/-- A sequence of `add_route` calls. -/
def addRoutes (h : Host Ref) : AppState m Ref → List (AddRouteArgs Ref) → AppState m Ref
  | st, [] => st
  | st, a :: as => addRoutes h (addRoute h st a).1 as

/-- The methods and templates of the calls in a sequence that return without an error. -/
def acceptedRoutes (h : Host Ref) :
    AppState m Ref → List (AddRouteArgs Ref) → List (String × String)
  | _, [] => []
  | st, a :: as =>
    match addRoute h st a with
    | (st', .ok _) => (a.method, a.path) :: acceptedRoutes h st' as
    | (st', .error _) => acceptedRoutes h st' as

/-- A host for concrete runs: synchronous functions without parameters that are known by their
names, one algorithm, and no JSON or PEM text that can be read. -/
def plainHost : Host String where
  isCoroutineFunction _ := .ok false
  parameters _ := .ok []
  name f := .ok f
  extractString s := .ok s
  tupleItems _ := .error (.typeError "not a tuple")
  jsonFromStr _ := .error "expected value at line 1 column 1"
  jsonArrayFromStr _ := .error "expected value at line 1 column 1"
  algorithmFromStr s := if s = "HS256" then some .HS256 else none
  readPem _ _ := some "InvalidKeyFormat"
  unicodeLowercase s := s

-- ════════════════════════════════════════════════════════════════════════
-- What a call can do
-- ════════════════════════════════════════════════════════════════════════

/-- What a refused call leaves alone: everything requests are routed by. A route entry may have
been pushed that no table refers to. -/
structure KeepsTables (st st' : AppState m Ref) : Prop where
  routers : st'.routers = st.routers
  websocket : st'.websocket = st.websocket
  pathMethodMasks : st'.pathMethodMasks = st.pathMethodMasks
  compiled : st'.compiled = st.compiled
  frozen : st'.frozen = st.frozen
  snapshot : st'.snapshot = st.snapshot
  routes : st.routes <+: st'.routes
  websocketRoutes : st.websocketRoutes <+: st'.websocketRoutes

theorem KeepsTables.refl (st : AppState m Ref) : KeepsTables st st :=
  ⟨rfl, rfl, rfl, rfl, rfl, rfl, List.prefix_rfl, List.prefix_rfl⟩

/-- The state in which an accepted template is entered: the entry is pushed and the operation
is in the document. -/
def AppState.withRoute (st : AppState m Ref) (entry : RouteEntry Ref)
    (openapi : Json × Option String) : AppState m Ref :=
  { st with routes := st.routes ++ [entry], openapi := openapi }

/-- `commitRoute` either fails, with the entry pushed and the tables as they were, or it inserts
the template under the index of the entry. -/
theorem commitRoute_cases (h : Host Ref) (st : AppState m Ref) (a : AddRouteArgs Ref)
    (entry : RouteEntry Ref) (opId : String) :
    (∃ st' e, commitRoute h st a entry opId = (st', .error e) ∧ KeepsTables st st' ∧
      st'.routes = st.routes ++ [entry]) ∨
    (∃ openapi key r, routerKey a.method = some key ∧
      (st.routers.router key).insert a.path st.routes.length = .ok r ∧
      commitRoute h st a entry opId =
        ((st.withRoute entry openapi).finishRoute key r a, .ok ())) := by
  have pushed : ∀ openapi, KeepsTables st (st.withRoute entry openapi) := fun _ =>
    ⟨rfl, rfl, rfl, rfl, rfl, rfl, List.prefix_append _ _, List.prefix_rfl⟩
  unfold commitRoute
  simp only
  split
  · next e _ => exact .inl ⟨st.withRoute entry st.openapi, e, rfl, pushed _, rfl⟩
  · split
    · next e _ => exact .inl ⟨st.withRoute entry st.openapi, e, rfl, pushed _, rfl⟩
    · split
      · next e _ => exact .inl ⟨st.withRoute entry st.openapi, e, rfl, pushed _, rfl⟩
      · split
        · exact .inl ⟨st.withRoute entry _, _, rfl, pushed _, rfl⟩
        · next key hkey =>
          split
          · exact .inl ⟨st.withRoute entry _, _, rfl, pushed _, rfl⟩
          · next r hr => exact .inr ⟨_, key, r, hkey, hr, rfl⟩

/-- `add_route` is refused before the write lock and changes nothing, fails under it with the
tables as they were, or enters the template. -/
theorem addRoute_cases (h : Host Ref) (st : AppState m Ref) (a : AddRouteArgs Ref) :
    (∃ e, addRoute h st a = (st, .error e)) ∨
    (∃ entry opId st' e, prepareRoute h a = .ok (entry, opId) ∧
      addRoute h st a = (st', .error e) ∧ KeepsTables st st' ∧
      st'.routes = st.routes ++ [entry]) ∨
    (∃ entry opId openapi key r, prepareRoute h a = .ok (entry, opId) ∧
      routerKey a.method = some key ∧
      (st.routers.router key).insert a.path st.routes.length = .ok r ∧
      addRoute h st a = ((st.withRoute entry openapi).finishRoute key r a, .ok ())) := by
  unfold addRoute
  split
  · exact .inl ⟨_, rfl⟩
  · split
    · exact .inl ⟨_, rfl⟩
    · next entry opId hp =>
      refine .inr ?_
      rcases commitRoute_cases h st a entry opId with ⟨st', e, hc, hk, hr⟩ | ⟨oa, key, r, hk, hi, hc⟩
      · exact .inl ⟨entry, opId, st', e, hp, hc, hk, hr⟩
      · exact .inr ⟨entry, opId, oa, key, r, hp, hk, hi, hc⟩

/-- `commitWebsocketRoute`, likewise. -/
theorem commitWebsocketRoute_cases (st : AppState m Ref) (path : String)
    (route : WebsocketRoute Ref) :
    (∃ st' e, commitWebsocketRoute st path route = (st', .error e) ∧ KeepsTables st st' ∧
      st'.websocketRoutes = st.websocketRoutes ++ [route]) ∨
    (∃ r, st.websocket.insert path st.websocketRoutes.length = .ok r ∧
      commitWebsocketRoute st path route =
        (({ st with
          websocketRoutes := st.websocketRoutes ++ [route]
          websocket := r
          compiled := none } : AppState m Ref).rebuildSnapshot, .ok ())) := by
  unfold commitWebsocketRoute
  simp only
  split
  · exact .inl ⟨_, _, rfl, ⟨rfl, rfl, rfl, rfl, rfl, rfl, List.prefix_rfl,
      List.prefix_append _ _⟩, rfl⟩
  · next r hr => exact .inr ⟨r, hr, rfl⟩

end OxyRoute
