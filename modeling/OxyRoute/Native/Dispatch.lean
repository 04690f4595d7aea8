import OxyRoute.Native.Serve

/-!
# The dispatchers

`run_rsgi`, the synchronous short circuit before it, and `handle_rsgi` for an HTTP request that
was admitted.

## Main definitions

- `runRsgi` — the asynchronous dispatcher
- `tryRsgiSyncShortCircuit` — the synchronous one, which may leave a request to the other
- `dispatch` — both, on the snapshot of the state
- `plainRuntime`, `plainRequest` — for concrete runs
-/

namespace OxyRoute

variable {m : Matchit} {Ref W : Type}

section

variable (rt : Runtime m Ref W) (req : HttpRequest Ref) (snap : FrozenState m Ref)

/-- A request for the OpenAPI document, where it is served. -/
def servesOpenapi : Bool :=
  (req.method = "GET" || req.method = "HEAD") && req.path = "/openapi.json" && snap.includeOpenapi

/-- The text of the document, from the cache or put there. -/
def openapiText : Dispatch m Ref W String :=
  Routine.effect fun w =>
    match w.app.openapi.2 with
    | some text => (.ok text, w)
    | none =>
      let text := rt.jsonToString w.app.openapi.1
      (.ok text, { w with app := { w.app with openapi := (w.app.openapi.1, some text) } })

/-- Serve the OpenAPI document and return. -/
def serveOpenapi : Dispatch m Ref W Unit := do
  setTemplate rt req "/openapi.json"
  let doc ← openapiText rt
  if req.method = "HEAD" then
    finish (sendHeadSimple rt req 200 (utf8 doc).length "application/json; charset=utf-8")
  else finish (sendStr rt req 200 doc "application/json; charset=utf-8")

/-- The answer to a CORS preflight, if the request is one and the configuration is native. -/
def preflight : PyResult m Ref W (Option (Except (ℕ × String) HeaderPairs)) :=
  if req.method = "OPTIONS" then
    match snap.compiledCors with
    | none => return none
    | some cors => do
      let headers ← Routine.ofExcept req.headers
      let header := headerGetLax rt.toInspection headers
      match header "access-control-request-method" with
      | none => return none
      | some acrm =>
        return some (cors.handlePreflight acrm ((header "origin").getD "")
          ((header "access-control-request-headers").getD ""))
  else return none

/-- Answer a preflight, if there is one, and return. -/
def answerPreflight : Dispatch m Ref W Unit := do
  match ← orRaise (preflight rt req snap) with
  | none => return
  | some (.ok headers) => finish (sendWithHeaders rt req 204 [] headers)
  | some (.error (status, msg)) => rejectPlain rt req status msg

/-- The loop over the request middlewares. -/
def runMiddleware : List Ref → Dispatch m Ref W Unit
  | [] => return
  | f :: fs => do
    let out ← Routine.attempt
      (Routine.effect (rt.call f [.object req.scope, .object req.protocol] .empty))
    Routine.log (.middleware f out)
    match out with
    | .error e => failWith rt req snap e
    | .ok v => if v.isNone then runMiddleware fs else respondOrFail rt req snap v

/-- The tables of the snapshot, or of `ensure_compiled_snapshot`. -/
def compiledTables : Dispatch m Ref W (CompiledRouters m) :=
  match snap.compiled with
  | some c => pure c
  | none => Routine.effect fun w =>
    match w.app.ensureCompiledSnapshot rt.maskOrder with
    | some (app, c) => (.ok c, { w with app := app })
    | none => (.error .panicked, w)

/-- The answer to a path without a route for the method: 405 if it has other methods. -/
def noRoute {α : Type} (compiled : CompiledRouters m) : Dispatch m Ref W α :=
  let allow := methodsMatchingPathCompiled compiled req.path
  if allow = [] then rejectPlain rt req 404 "Not Found"
  else finish (send405MethodNotAllowed rt req allow)

/-- The matched route: its index and the captured parameters. -/
def matchRoute (compiled : CompiledRouters m) : Dispatch m Ref W (ℕ × PathParams) :=
  match matchRouteCompiled compiled req.method req.path with
  | none => Routine.exit (.raised (.valueError "method"))
  | some none => noRoute rt req compiled
  | some (some route) => pure route

/-- The entry of a matched route. -/
def routeEntry (idx : ℕ) : Dispatch m Ref W (RouteEntry Ref) :=
  match snap.routes[idx]? with
  | some entry => pure entry
  | none => Routine.exit (.raised (.runtimeError "route index"))

/-- Routing and what comes after it. -/
def routeAndServe : Dispatch m Ref W Unit := do
  let compiled ← compiledTables rt snap
  let (idx, params) ← matchRoute rt req compiled
  let entry ← routeEntry snap idx
  serveRoute rt req snap entry idx params

/-- `run_rsgi`, for an HTTP request. -/
def runRsgi : Dispatch m Ref W Unit := do
  if servesOpenapi req snap then serveOpenapi rt req
  answerPreflight rt req snap
  runMiddleware rt req snap snap.requestMiddleware
  routeAndServe rt req snap

/-- The handler call and the response of `run_trivial_sync_route`. -/
def trivialResponse (entry : RouteEntry Ref) (params : PathParams) : PyResult m Ref W Unit := do
  let kwargs := Dict.ofList
    (params.map fun e => (e.1, pathParamValue entry.extra.wildcardParams e))
  let out ← invokeHandler rt entry kwargs
  let mapped ← Routine.ofExcept (mapHandlerReturn rt.toInspection out)
  let mapped ← mergeConfigResponseHeaders rt req snap mapped
  sendHandlerMapInline rt req (req.method = "HEAD") mapped

/-- `run_trivial_sync_route`. -/
def runTrivialSyncRoute (entry : RouteEntry Ref) (idx : ℕ) (params : PathParams) :
    Dispatch m Ref W Unit := do
  Routine.log (.serving idx params)
  setTemplate rt req entry.extra.pathTemplate
  match ← Routine.attempt (trivialResponse rt req snap entry params) with
  | .ok () => return
  | .error e => sendPythonErrorSync rt req snap e

/-- Routing in the short circuit: a route that is marked for it is served here. -/
def routeTrivialSync : Dispatch m Ref W Unit := do
  let compiled ← compiledTables rt snap
  let (idx, params) ← matchRoute rt req compiled
  if hasUncompiledCfg snap then return
  let entry ← routeEntry snap idx
  if entry.trivialSync then
    runTrivialSyncRoute rt req snap entry idx params
    Routine.exit .done

/-- `try_rsgi_sync_short_circuit`, for an HTTP request; it exits when the request is answered
and ends normally when it is left to `runRsgi`. -/
def tryRsgiSyncShortCircuit : Dispatch m Ref W Unit := do
  answerPreflight rt req snap
  if snap.requestMiddleware ≠ [] ∨ snap.responseMiddleware ≠ [] then return
  if servesOpenapi req snap then serveOpenapi rt req
  routeTrivialSync rt req snap

end

/-- `handle_rsgi`, for an HTTP request that was admitted: the short circuit, and a task for
`run_rsgi` where it does not answer. Others may run before the task does. -/
def dispatch (rt : Runtime m Ref W) (req : HttpRequest Ref) : Dispatch m Ref W Unit := do
  let w ← Routine.get
  let snap := w.app.hotSnapshot
  tryRsgiSyncShortCircuit rt req snap
  Routine.effect fun w => (.ok (), rt.others w)
  runRsgi rt req snap

/-- A runtime for concrete runs: objects are known by their names, a call returns the name of
what is called, calls on the protocol object succeed, and the only JSON document is the one an
application starts with. -/
def plainRuntime (m : Matchit) : Runtime m String Unit where
  getattr _ _ := .ok none
  mappingGet _ := none
  index _ := .error (.typeError "not an integer")
  firstItem _ := none
  byteSequence _ := none
  typeName s := s
  toStr _ := .ok ⟨"", false⟩
  isInstance _ _ := false
  exceptionObject _ := .object "exception"
  httpException _ := none
  displayErr _ := "error"
  jsonDumps _ := .ok "null"
  jsonBytes _ := .ok (utf8 "null")
  phrase _ := none
  call f _ _ w := (.ok (.text f), w)
  callMethod _ _ _ w := (.ok .none, w)
  intoFuture _ := .ok ()
  await v w := (.ok v, w)
  readBody _ w := (.ok (.bytes []), w)
  respond _ _ w := (.ok (), w)
  setPathTemplate _ _ w := w
  rateLimit rl _ w := (.allowed rl.limit 0 1, w)
  others w := w
  dbQuery _ := none
  executeQuery _ _ w := (.ok (.list []), w)
  newRequest _ _ _ _ := .ok (.object "request")
  formUrlencoded _ := []
  parseBoundary _ := none
  multipartFields _ _ := ([], none)
  jsonBytesToPy _ := .error "EOF while parsing a value at line 1 column 0"
  decodeJwt _ _ _ := .error .other
  jsonToString _ := "\x7b\"info\":\x7b\"title\":\"OxyRoute\",\"version\":\"0.7.0\"\x7d," ++
    "\"openapi\":\"3.1.0\",\"paths\":\x7b\x7d\x7d"
  maskOrder := ⟨id, fun _ => .rfl⟩
  maxBodyBytes := 8 * 1024 * 1024
  debug := false

/-- A request without headers. -/
def plainRequest (method path : String) : HttpRequest String where
  scope := "scope"
  protocol := "protocol"
  method := method
  path := path
  queryString := ""
  headers := .ok (.dict [])
  scheme := none
  client := none

end OxyRoute
