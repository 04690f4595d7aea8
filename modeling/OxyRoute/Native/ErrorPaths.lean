import OxyRoute.Native.Guarded

/-!
# The two error paths

The short circuit and `run_rsgi` serve a plain route alike, up to the errors that are raised on
the way: the one answers them by `send_python_error_sync`, the other by `send_python_error`.

## Main definitions

- `responses` — the response calls of a log
- `HandlersAgree` — the exception handlers answer an error alike on both paths

## Main results

- `serveRoute_eq_plain` — `run_rsgi` on a plain route is the short circuit but for the errors
- `short_circuit_responses_eq` — the responses of both are the same
-/

namespace OxyRoute

open Routine

variable {m : Matchit} {Ref W : Type}

/-- The response calls of a log. -/
def responses (l : List (RequestEvent Ref)) : List ProtocolCall :=
  l.filterMap fun
    | .sent call => some call
    | _ => none

@[simp] theorem responses_append (l l' : List (RequestEvent Ref)) :
    responses (l ++ l') = responses l ++ responses l' :=
  List.filterMap_append

section

variable {rt : Runtime m Ref W} {req : HttpRequest Ref} {snap : FrozenState m Ref}
  {entry : RouteEntry Ref}

-- ════════════════════════════════════════════════════════════════════════
-- The stages of a plain route
-- ════════════════════════════════════════════════════════════════════════

/-- The configurations of a snapshot are absent or compiled. -/
structure NativeConfig (snap : FrozenState m Ref) : Prop where
  cors : snap.compiledCors.isSome = snap.cors.isSome
  securityHeaders : snap.compiledSecurityHeaders.isSome = snap.securityHeaders.isSome

theorem NativeConfig.hasUncompiledCfg (h : NativeConfig snap) : hasUncompiledCfg snap = false := by
  unfold OxyRoute.hasUncompiledCfg
  rw [← h.cors, ← h.securityHeaders]
  cases snap.compiledCors <;> cases snap.compiledSecurityHeaders <;> rfl

/-- Without a configuration there is nothing to merge. -/
theorem mergeConfigResponseHeaders_none (hcors : snap.cors = none)
    (hsec : snap.securityHeaders = none) (hccors : snap.compiledCors = none)
    (hcsec : snap.compiledSecurityHeaders = none) (mapped : HandlerMap) :
    mergeConfigResponseHeaders rt req snap mapped = pure mapped := by
  unfold mergeConfigResponseHeaders mergeSecurityHeaders mergeCorsHeaders
  rw [hcors, hsec, hccors, hcsec]
  split
  · rfl
  · rfl

/-- Without response middlewares a value is mapped, given the configured headers and sent. -/
theorem respondWith_eq (hmiddleware : snap.responseMiddleware = []) (hconfig : NativeConfig snap)
    (v : PyVal Ref) :
    respondWith rt req snap v = (do
      let mapped ← Routine.ofExcept (mapHandlerReturn rt.toInspection v)
      let mapped ← mergeConfigResponseHeaders rt req snap mapped
      sendHandlerMapInline rt req (req.method = "HEAD") mapped) := by
  have hnone (h : (snap.securityHeaders.isSome || snap.cors.isSome) = false) (mapped : HandlerMap) :
      mergeConfigResponseHeaders rt req snap mapped = pure mapped := by
    obtain ⟨hsec, hcors⟩ := Bool.or_eq_false_iff.mp h
    exact mergeConfigResponseHeaders_none (Option.isNone_iff_eq_none.mp (by simpa using hcors))
      (Option.isNone_iff_eq_none.mp (by simpa using hsec))
      (by simpa [hcors] using hconfig.cors) (by simpa [hsec] using hconfig.securityHeaders) mapped
  unfold respondWith
  rw [hmiddleware]
  refine congrArg _ (funext fun mapped => ?_)
  rw [runResponseMiddleware, pure_bind]
  dsimp only
  split
  · rfl
  · next h => rw [hnone (Bool.eq_false_iff.mpr h)]

/-- The handler of a plain route is called with the path parameters. -/
theorem runHandler_eq (h : PlainRoute entry) (params : PathParams) :
    runHandler rt req entry (plainInput rt req entry params) = (do
      return .ok (← invokeHandler rt entry (pathOnly entry params))) := by
  unfold runHandler jsonKwargs
  rw [h.hasJsonBody]
  cases huse : shouldUseKwargs req entry (plainInput rt req entry params) with
  | true =>
    simp only [if_true, Bool.false_eq_true, if_false, pure_bind, h.allKwargs_eq]
  | false =>
    have hempty : pathOnly entry params = (.empty : Dict String (PyVal Ref)) := by
      rw [← h.allKwargs_eq, allKwargs_eq_nil huse]
      rfl
    simp only [Bool.false_eq_true, if_false, hempty]

/-- The call of the handler of a plain route: its errors are answered right away. -/
theorem callHandler_eq (h : PlainRoute entry) (params : PathParams) :
    callHandler rt req snap entry (plainInput rt req entry params) = (do
      match ← attempt (invokeHandler rt entry (pathOnly entry params)) with
      | .ok res => return res
      | .error e => failWith rt req snap e) := by
  have hvalue (res : PyVal Ref) : handlerValue rt entry res = pure res := by
    unfold handlerValue
    rw [h.isAsync]
    rfl
  unfold callHandler
  rw [runHandler_eq h, attempt_bind, bind_assoc]
  refine congrArg _ (funext fun r => ?_)
  cases r with
  | ok res =>
    dsimp only
    rw [attempt_pure, pure_bind]
    dsimp only
    rw [hvalue, attempt_pure, pure_bind]
  | error e => rfl

theorem PlainRoute.checkRateLimit_eq (h : PlainRoute entry) :
    checkRateLimit rt req entry = pure () := by
  unfold checkRateLimit
  rw [h.rateLimiter]

theorem PlainRoute.readRequestBody_eq (h : PlainRoute entry) :
    readRequestBody rt req entry = pure ([], none) := by
  unfold readRequestBody
  rw [h.shouldReadBody]
  rfl

theorem PlainRoute.checkJwt_eq (h : PlainRoute entry) : checkJwt rt req entry = pure none := by
  unfold checkJwt
  rw [h.requireJwt]
  rfl

theorem PlainRoute.readForm_eq (h : PlainRoute entry) :
    readForm rt req snap entry [] = pure ⟨.empty, []⟩ := by
  unfold readForm
  rw [h.readFormBody]
  rfl

theorem PlainRoute.requestContext_eq (h : PlainRoute entry) :
    requestContext rt req snap entry = pure none := by
  unfold requestContext
  rw [h.dependencies]
  rfl

/-- A plain route has no stage between its template and its handler. -/
theorem serveRoute_eq (h : PlainRoute entry) (idx : ℕ) (params : PathParams) :
    serveRoute rt req snap entry idx params = (do
      Routine.log (.serving idx params)
      setTemplate rt req entry.extra.pathTemplate
      let v ← callHandler rt req snap entry (plainInput rt req entry params)
      respondOrFail rt req snap v) := by
  unfold serveRoute
  simp only [h.checkRateLimit_eq, h.readRequestBody_eq, h.checkJwt_eq, h.readForm_eq,
    h.requestContext_eq, h.dependencies, pure_bind, runDependencies, plainInput]

/-- `run_rsgi` on a plain route is the short circuit, but for how errors are answered. -/
theorem serveRoute_eq_plain (h : PlainRoute entry) (hmiddleware : snap.responseMiddleware = [])
    (hconfig : NativeConfig snap) (idx : ℕ) (params : PathParams) :
    serveRoute rt req snap entry idx params = (do
      Routine.log (.serving idx params)
      setTemplate rt req entry.extra.pathTemplate
      match ← attempt (trivialResponse rt req snap entry params) with
      | .ok () => Routine.exit .done
      | .error e => failWith rt req snap e) := by
  rw [serveRoute_eq h, callHandler_eq h]
  refine congrArg _ (funext fun _ => congrArg _ (funext fun _ => ?_))
  have htrivial : trivialResponse rt req snap entry params =
      invokeHandler rt entry (pathOnly entry params) >>= respondWith rt req snap :=
    congrArg (invokeHandler rt entry (pathOnly entry params) >>= ·)
      (funext fun v => (respondWith_eq hmiddleware hconfig v).symm)
  rw [htrivial, attempt_bind, bind_assoc, bind_assoc]
  refine congrArg _ (funext fun r => ?_)
  cases r with
  | ok v => rfl
  | error e => exact failWith_bind rt req snap e _

-- ════════════════════════════════════════════════════════════════════════
-- Exception handlers
-- ════════════════════════════════════════════════════════════════════════

/-- The exception handlers, newest first, answer an error alike on both paths: a handler that
matches and returns is synchronous, and its value can be sent; or it has no mapping, and no other
synchronous handler matches. An asynchronous handler may only raise when it is called. -/
inductive HandlersAgree (rt : Runtime m Ref W) (req : HttpRequest Ref) (err : PyErr Ref) :
    List (ExceptionHandler Ref) → World m Ref W → Prop
  | nil {w} : HandlersAgree rt req err [] w
  | skip {h hs w} : rt.isInstance err h.excType = false → HandlersAgree rt req err hs w →
      HandlersAgree rt req err (h :: hs) w
  | raised {h hs e w w'} : rt.isInstance err h.excType = true →
      rt.call h.handler [.object req.scope, rt.exceptionObject err] .empty w = (.error e, w') →
      (h.isAsync = true → w' = w) → HandlersAgree rt req err hs w' →
      HandlersAgree rt req err (h :: hs) w
  | answered {h hs res mapped w w'} : rt.isInstance err h.excType = true → h.isAsync = false →
      rt.call h.handler [.object req.scope, rt.exceptionObject err] .empty w = (.ok res, w') →
      mapHandlerReturn rt.toInspection res = .ok mapped →
      ((sendHandlerMapInline rt req (req.method = "HEAD") mapped).run w').result = .ok () →
      HandlersAgree rt req err (h :: hs) w
  | unmapped {h hs res e w w'} : rt.isInstance err h.excType = true → h.isAsync = false →
      rt.call h.handler [.object req.scope, rt.exceptionObject err] .empty w = (.ok res, w') →
      mapHandlerReturn rt.toInspection res = .error e →
      (∀ h' ∈ hs, rt.isInstance err h'.excType = true → h'.isAsync = true) →
      HandlersAgree rt req err (h :: hs) w

/-- Asynchronous handlers do not answer on the short circuit. -/
theorem answerByHandlerSync_of_async {err : PyErr Ref} {hs : List (ExceptionHandler Ref)}
    (h : ∀ h' ∈ hs, rt.isInstance err h'.excType = true → h'.isAsync = true) :
    answerByHandlerSync rt req err hs = pure false := by
  induction hs with
  | nil => rfl
  | cons h' hs ih =>
    have hskip : ¬ (rt.isInstance err h'.excType = true ∧ h'.isAsync = false) := by
      rintro ⟨hinst, hsync⟩
      rw [h h' List.mem_cons_self hinst] at hsync
      cases hsync
    rw [answerByHandlerSync, if_neg hskip]
    exact ih fun h'' hmem => h h'' (List.mem_cons_of_mem h' hmem)

/-- A handler that is called: the call is logged. -/
theorem callExceptionHandler_run {err : PyErr Ref} {h : ExceptionHandler Ref}
    {w w' : World m Ref W} {r : Except (PyErr Ref) (PyVal Ref)}
    (hcall : rt.call h.handler [.object req.scope, rt.exceptionObject err] .empty w = (r, w')) :
    (attempt (callExceptionHandler rt req err h) : Dispatch m Ref W _).run w =
      ⟨.ok r, w', [.exceptionHandler h.handler]⟩ := by
  rw [attempt_run, callExceptionHandler, log_bind_run, effect_run, hcall]
  rfl

/-- The synchronous loop at a handler that matches. -/
theorem answerByHandlerSync_run {err : PyErr Ref} {h : ExceptionHandler Ref}
    {hs : List (ExceptionHandler Ref)} {w w' : World m Ref W}
    {r : Except (PyErr Ref) (PyVal Ref)} (hinst : rt.isInstance err h.excType = true)
    (hsync : h.isAsync = false) {β : Type} (k : Bool → Dispatch m Ref W β) :
    rt.call h.handler [.object req.scope, rt.exceptionObject err] .empty w = (r, w') →
    (answerByHandlerSync rt req err (h :: hs) >>= k).run w = (((match r with
      | .error _ => answerByHandlerSync rt req err hs
      | .ok res =>
        match mapHandlerReturn rt.toInspection res with
        | .error _ => answerByHandlerSync rt req err hs
        | .ok mapped => do
          orRaise (sendHandlerMapInline rt req (req.method = "HEAD") mapped)
          return true) >>= k).run w').after [.exceptionHandler h.handler] := by
  intro hcall
  rw [answerByHandlerSync, if_pos ⟨hinst, hsync⟩, bind_assoc]
  exact bind_run_ok (callExceptionHandler_run hcall) _

/-- The asynchronous loop at a handler that matches. -/
theorem firstHandlerValue_run {err : PyErr Ref} {h : ExceptionHandler Ref}
    {hs : List (ExceptionHandler Ref)} {w w' : World m Ref W}
    {r : Except (PyErr Ref) (PyVal Ref)} (hinst : rt.isInstance err h.excType = true)
    {β : Type} (k : Option (PyVal Ref × Bool) → Dispatch m Ref W β) :
    rt.call h.handler [.object req.scope, rt.exceptionObject err] .empty w = (r, w') →
    (firstHandlerValue rt req err (h :: hs) >>= k).run w = (((match r with
      | .error _ => firstHandlerValue rt req err hs
      | .ok res => return some (res, h.isAsync)) >>= k).run w').after
        [.exceptionHandler h.handler] := by
  intro hcall
  rw [firstHandlerValue, if_pos hinst, bind_assoc]
  exact bind_run_ok (callExceptionHandler_run hcall) _

/-- Where the handlers agree, both paths make the same response calls; by induction on the
handlers, newest first. -/
theorem HandlersAgree.responses_eq {err : PyErr Ref} {hs : List (ExceptionHandler Ref)}
    {w : World m Ref W} (h : HandlersAgree rt req err hs w) (d : Dispatch m Ref W Unit) :
    responses ((answerByHandlerSync rt req err hs >>= fun answered =>
        if answered then pure () else d).run w).log =
      responses ((firstHandlerValue rt req err hs >>= fun first =>
        answerFrom rt req first >>= fun answered => if answered then pure () else d).run w).log := by
  induction h with
  | nil => rfl
  | skip hinst _ ih =>
    rw [answerByHandlerSync, if_neg (by simp [hinst]), firstHandlerValue, if_neg (by simp [hinst])]
    exact ih
  | @raised h hs e w w' hinst hcall hasync _ ih =>
    rw [firstHandlerValue_run hinst _ hcall, Ending.log_after, responses_append]
    cases hkind : h.isAsync with
    | true =>
      rw [answerByHandlerSync, if_neg (by simp [hkind]), ← hasync hkind]
      exact ih
    | false =>
      rw [answerByHandlerSync_run hinst hkind _ hcall, Ending.log_after, responses_append]
      exact congrArg (responses [.exceptionHandler h.handler] ++ ·) ih
  | @answered h hs res mapped w w' hinst hsync hcall hmap hsend =>
    rw [answerByHandlerSync_run hinst hsync _ hcall, firstHandlerValue_run hinst _ hcall]
    rcases hr : (sendHandlerMapInline rt req (req.method = "HEAD") mapped).run w' with ⟨r, w'', l⟩
    obtain rfl : r = .ok () := by rwa [hr] at hsend
    have hraise : (orRaise (sendHandlerMapInline rt req (req.method = "HEAD") mapped)).run w' =
        ⟨.ok (), w'', l⟩ := handle_run_ok hr _
    have hattempt : (attempt (sendHandlerMapInline rt req (req.method = "HEAD") mapped) :
        Dispatch m Ref W _).run w' = ⟨.ok (.ok ()), w'', l⟩ := by
      rw [attempt_run, hr]
    simp only [hmap, hsync, pure_bind, answerFrom, awaitHandlerValue, bind_assoc,
      bind_run_ok hraise, bind_run_ok hattempt, Bool.false_eq_true, if_false]
  | @unmapped h hs res e w w' hinst hsync hcall hmap hrest =>
    rw [answerByHandlerSync_run hinst hsync _ hcall, firstHandlerValue_run hinst _ hcall]
    simp only [hmap, hsync, pure_bind, answerFrom, awaitHandlerValue, Bool.false_eq_true, if_false,
      answerByHandlerSync_of_async hrest]

-- ════════════════════════════════════════════════════════════════════════
-- Both dispatchers
-- ════════════════════════════════════════════════════════════════════════

/-- The request matches a route: it is not answered before routing, and the tables, which may
have to be compiled first, lead to the entry. -/
structure Matched (rt : Runtime m Ref W) (req : HttpRequest Ref) (snap : FrozenState m Ref)
    (w w' : World m Ref W) (idx : ℕ) (params : PathParams) (entry : RouteEntry Ref) : Prop where
  notPreflight : NotPreflight rt req snap
  notOpenapi : servesOpenapi req snap = false
  tables : ∃ compiled, (compiledTables rt snap).run w = ⟨.ok compiled, w', []⟩ ∧
    matchRouteCompiled compiled req.method req.path = some (some (idx, params))
  entry : snap.routes[idx]? = some entry

variable {w w' : World m Ref W} {idx : ℕ} {params : PathParams}

theorem Matched.runRsgi_run (h : Matched rt req snap w w' idx params entry)
    (hmiddleware : snap.requestMiddleware = []) :
    (runRsgi rt req snap).run w = (serveRoute rt req snap entry idx params).run w' := by
  obtain ⟨compiled, htables, hmatch⟩ := h.tables
  have hroute : matchRoute rt req compiled = pure (idx, params) := by
    rw [matchRoute, hmatch]
  have hentry : routeEntry snap idx = (pure entry : Dispatch m Ref W _) := by
    rw [routeEntry, h.entry]
  unfold runRsgi routeAndServe
  simp only [h.notOpenapi, Bool.false_eq_true, if_false, h.notPreflight.answerPreflight_eq,
    hmiddleware, runMiddleware, pure_bind, bind_run_ok htables, hroute, hentry, Ending.after_nil]

theorem Matched.tryRsgiSyncShortCircuit_run (h : Matched rt req snap w w' idx params entry)
    (hreq : snap.requestMiddleware = []) (hres : snap.responseMiddleware = [])
    (hconfig : NativeConfig snap) (htrivial : entry.trivialSync = true) :
    (tryRsgiSyncShortCircuit rt req snap).run w = ((do
      runTrivialSyncRoute rt req snap entry idx params
      exit .done : Dispatch m Ref W Unit)).run w' := by
  obtain ⟨compiled, htables, hmatch⟩ := h.tables
  have hroute : matchRoute rt req compiled = pure (idx, params) := by
    rw [matchRoute, hmatch]
  have hentry : routeEntry snap idx = (pure entry : Dispatch m Ref W _) := by
    rw [routeEntry, h.entry]
  unfold tryRsgiSyncShortCircuit routeTrivialSync
  simp only [h.notOpenapi, Bool.false_eq_true, if_false, h.notPreflight.answerPreflight_eq, hreq,
    hres, ne_eq, not_true_eq_false, or_self, pure_bind, bind_run_ok htables, hroute, hentry,
    hconfig.hasUncompiledCfg, htrivial, if_true, Ending.after_nil]

/-- The errors of a plain route are answered alike on both paths. -/
def ErrorsAgree (rt : Runtime m Ref W) (req : HttpRequest Ref) (snap : FrozenState m Ref)
    (entry : RouteEntry Ref) (params : PathParams) (w : World m Ref W) : Prop :=
  ∀ e w' l, (trivialResponse rt req snap entry params).run
      (rt.setPathTemplate req.protocol entry.extra.pathTemplate w) = ⟨.error e, w', l⟩ →
    HandlersAgree rt req e snap.exceptionHandlers.reverse w'

/-- Exiting at the end logs nothing. -/
theorem log_bind_exit {α β : Type} (c : Dispatch m Ref W α) (e : Exit Ref) (w : World m Ref W) :
    ((c >>= fun _ => (exit e : Dispatch m Ref W β)).run w).log = (c.run w).log := by
  rcases hr : c.run w with ⟨r, w', l⟩
  cases r with
  | ok a => rw [bind_run_ok hr, Ending.log_after, exit_run, List.append_nil]
  | error e' => rw [bind_run_error hr]

theorem plainRoute_responses_eq (hplain : PlainRoute entry)
    (hres : snap.responseMiddleware = []) (hconfig : NativeConfig snap)
    (hagree : ErrorsAgree rt req snap entry params w) :
    responses ((do
      runTrivialSyncRoute rt req snap entry idx params
      exit .done : Dispatch m Ref W Unit).run w).log =
      responses ((serveRoute rt req snap entry idx params).run w).log := by
  rcases hr : (trivialResponse rt req snap entry params).run
    (rt.setPathTemplate req.protocol entry.extra.pathTemplate w) with ⟨r, w', l⟩
  have hattempt : (attempt (trivialResponse rt req snap entry params) : Dispatch m Ref W _).run
      (rt.setPathTemplate req.protocol entry.extra.pathTemplate w) = ⟨.ok r, w', l⟩ := by
    rw [attempt_run, hr]
  have hset : (setTemplate rt req entry.extra.pathTemplate).run w =
      ⟨.ok (), rt.setPathTemplate req.protocol entry.extra.pathTemplate w, []⟩ := rfl
  rw [serveRoute_eq_plain hplain hres hconfig, log_bind_exit, runTrivialSyncRoute, log_bind_run,
    log_bind_run, bind_run_ok hset, bind_run_ok hset, bind_run_ok hattempt, bind_run_ok hattempt]
  simp only [Ending.log_after, responses_append]
  cases r with
  | ok u => rfl
  | error e =>
    have heq := (hagree e w' l hr).responses_eq (sendErrorFallback rt req e)
    dsimp only
    rw [failWith, log_bind_exit, sendPythonErrorSync, heq, sendPythonError, answerByHandler,
      bind_assoc]

end

/-- **Short circuit.** For every runtime, every state an application reaches without middlewares
and with configurations that are absent or compiled, and every request that matches a route for
the short circuit: the short circuit makes the response calls that `run_rsgi` would make, if the
exception handlers agree on the error that is raised, if one is. -/
theorem short_circuit_responses_eq {o : MaskOrder} (rt : Runtime m Ref W) (req : HttpRequest Ref)
    {w w' : World m Ref W} {idx : ℕ} {params : PathParams} {entry : RouteEntry Ref}
    (hreached : (appSystem m Ref o).Reached w.app)
    (hreq : w.app.hotSnapshot.requestMiddleware = [])
    (hres : w.app.hotSnapshot.responseMiddleware = [])
    (hconfig : NativeConfig w.app.hotSnapshot)
    (hmatched : Matched rt req w.app.hotSnapshot w w' idx params entry)
    (htrivial : entry.trivialSync = true)
    (hagree : ErrorsAgree rt req w.app.hotSnapshot entry params w') :
    responses ((tryRsgiSyncShortCircuit rt req w.app.hotSnapshot).run w).log =
      responses ((runRsgi rt req w.app.hotSnapshot).run w).log := by
  have hplain : PlainRoute entry :=
    ((prepared_of_reached hreached).2 entry (List.mem_of_getElem? hmatched.entry)).plain htrivial
  rw [hmatched.tryRsgiSyncShortCircuit_run hreq hres hconfig htrivial,
    hmatched.runRsgi_run hreq]
  exact plainRoute_responses_eq hplain hres hconfig hagree

/-- A runtime in which the function `broken` raises. -/
def brokenRuntime : Runtime segmentMatcher String Unit :=
  { plainRuntime segmentMatcher with
    isInstance := fun _ _ => true
    call := fun f _ _ w =>
      if f = "broken" then (.error (.runtimeError "broken"), w) else (.ok (.text f), w) }

/-- An application whose only route raises, with one exception handler. -/
def brokenApp (isAsync : Bool) : World segmentMatcher String Unit :=
  ⟨(addRoute plainHost ((AppState.new true).configure
      (.exceptionHandler ⟨"Exception", "on_error", isAsync⟩))
    { method := "GET", path := "/", handler := "broken", readJsonBody := false }).1, ()⟩

/-- The application once its tables are compiled. -/
def brokenAppCompiled (isAsync : Bool) : World segmentMatcher String Unit :=
  ((compiledTables brokenRuntime (brokenApp isAsync).app.hotSnapshot).run (brokenApp isAsync)).state

/-- Its route. -/
def brokenRoute : RouteEntry String :=
  { handler := "broken"
    bodyModel := none
    extra := {
      pathTemplate := "/"
      jwtCookie := none
      jwtDecodingKey := none
      jwtValidation := none
      dependencies := []
      handlerParamNames := []
      bodyParamName := "json"
      rateLimiter := none
      wildcardParams := [] }
    isAsync := false
    requireJwt := false
    readJsonBody := false
    readFormBody := false
    handlerVarkw := false
    trivialSync := true
    hasRateLimit := false }

/-- The tables that are compiled from it. -/
def brokenTables (isAsync : Bool) : CompiledRouters segmentMatcher :=
  ⟨(brokenApp isAsync).app.routers, (brokenApp isAsync).app.websocket,
    ((Router.new : Router segmentMatcher MethodMask).insertAll
      (brokenApp isAsync).app.pathMethodMasks.entries).toOption.getD .new⟩

theorem brokenApp_reached (isAsync : Bool) :
    (appSystem segmentMatcher String ⟨id, fun _ => .rfl⟩).Reached (brokenApp isAsync).app :=
  .step (i := .addRoute plainHost _)
    (.step (i := .configure _) (.init ⟨true, rfl⟩) trivial rfl) trivial rfl

theorem broken_matched (isAsync : Bool) :
    Matched brokenRuntime (plainRequest "GET" "/") (brokenApp isAsync).app.hotSnapshot
      (brokenApp isAsync) (brokenAppCompiled isAsync) 0 [] brokenRoute where
  notPreflight h := absurd h (by decide)
  notOpenapi := rfl
  tables := by
    have hmatch : matchRouteCompiled (brokenTables isAsync) "GET" "/" = some (some (0, [])) := by
      cases isAsync <;> decide
    have htables : (compiledTables brokenRuntime (brokenApp isAsync).app.hotSnapshot).run
        (brokenApp isAsync) = ⟨.ok (brokenTables isAsync), brokenAppCompiled isAsync, []⟩ := by
      cases isAsync <;> rfl
    exact ⟨brokenTables isAsync, htables, hmatch⟩
  entry := rfl

theorem broken_nativeConfig (isAsync : Bool) :
    NativeConfig (brokenApp isAsync).app.hotSnapshot :=
  ⟨rfl, rfl⟩

/-- A synchronous exception handler answers the error on both paths. -/
theorem broken_responses_eq :
    responses ((tryRsgiSyncShortCircuit brokenRuntime (plainRequest "GET" "/")
        (brokenApp false).app.hotSnapshot).run (brokenApp false)).log =
      responses ((runRsgi brokenRuntime (plainRequest "GET" "/")
        (brokenApp false).app.hotSnapshot).run (brokenApp false)).log := by
  refine short_circuit_responses_eq brokenRuntime (plainRequest "GET" "/")
    (brokenApp_reached false) rfl rfl (broken_nativeConfig false) (broken_matched false) rfl ?_
  intro e w' l h
  cases h
  exact .answered rfl rfl rfl rfl rfl

/-- An asynchronous one answers it on the asynchronous path only; the short circuit answers with
status 500. -/
theorem broken_responses_ne :
    NativeConfig (brokenApp true).app.hotSnapshot ∧
      Matched brokenRuntime (plainRequest "GET" "/") (brokenApp true).app.hotSnapshot
        (brokenApp true) (brokenAppCompiled true) 0 [] brokenRoute ∧
      responses ((tryRsgiSyncShortCircuit brokenRuntime (plainRequest "GET" "/")
        (brokenApp true).app.hotSnapshot).run (brokenApp true)).log =
          [.responseStr 500 [("content-type", "application/json; charset=utf-8")]
            ⟨"\x7b\"error\":\"internal server error\"\x7d", false⟩] ∧
      responses ((runRsgi brokenRuntime (plainRequest "GET" "/")
        (brokenApp true).app.hotSnapshot).run (brokenApp true)).log =
          [.responseStr 200 [("content-type", "text/plain; charset=utf-8")]
            ⟨"on_error", false⟩] :=
  ⟨broken_nativeConfig true, broken_matched true, rfl, rfl⟩

end OxyRoute
