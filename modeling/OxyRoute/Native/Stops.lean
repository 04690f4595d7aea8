import OxyRoute.Lib.Stops
import OxyRoute.Native.ErrorPaths

/-!
# Where a request stops

Up to its answer, a request makes no response call and does the same whether it is a `GET` or a
`HEAD` request, if Python code that is given its scope or its `Request` does. It stops at the
document, at a refusal or a preflight answer, at a value or an error of Python code, in `run_rsgi`
or in the short circuit; or it leaves the dispatcher by an error for its caller.

## Main definitions

- `Stop`, `Stop.run` — the stops and what is done there
- `FixedCall` — the calls of the refusals and of preflight answers
- `ScopeBlind` — Python code answers alike for the scopes of two requests
- `Twins` — two methods a request is treated alike for

## Main results

- `dispatch_stops` — where a request stops, for two such methods
-/

namespace OxyRoute

open Routine

variable {m : Matchit} {Ref W : Type}

-- ════════════════════════════════════════════════════════════════════════
-- Stops
-- ════════════════════════════════════════════════════════════════════════

/-- An event that is no response call. -/
def NotSent : RequestEvent Ref → Prop
  | .sent _ => False
  | _ => True

/-- The last part of a request. -/
inductive Stop (Ref : Type)
  | document
  | fixed (call : ProtocolCall)
  | value (v : PyVal Ref)
  | error (e : PyErr Ref)
  | trivialValue (v : PyVal Ref)
  | trivialError (e : PyErr Ref)

/-- The call of `send_text`. -/
def textCall (status : ℕ) (text contentType : String) : ProtocolCall :=
  if text = "" then .responseEmpty status [("content-type", contentType)]
  else .responseStr status [("content-type", contentType)] ⟨text, false⟩

/-- The call of `send_405_method_not_allowed`. -/
def notAllowedCall (allow : List String) : ProtocolCall :=
  .responseBytes 405
    [("allow", Text.joinWith ", " allow), ("content-type", "text/plain; charset=utf-8")]
    (utf8 "Method Not Allowed")

section

variable (rt : Runtime m Ref W) (req : HttpRequest Ref) (snap : FrozenState m Ref)

/-- The document. -/
def serveDocument {α : Type} : Dispatch m Ref W α := do
  setTemplate rt req "/openapi.json"
  let doc ← openapiText rt
  if req.method = "HEAD" then
    finish (sendHeadSimple rt req 200 (utf8 doc).length "application/json; charset=utf-8")
  else finish (sendStr rt req 200 doc "application/json; charset=utf-8")

/-- The response to the value of a handler in the short circuit. -/
def respondTrivial (v : PyVal Ref) : PyResult m Ref W Unit := do
  let mapped ← Routine.ofExcept (mapHandlerReturn rt.toInspection v)
  let mapped ← mergeConfigResponseHeaders rt req snap mapped
  sendHandlerMapInline rt req (req.method = "HEAD") mapped

/-- An error in the short circuit. -/
def failTrivial {α : Type} (e : PyErr Ref) : Dispatch m Ref W α := do
  sendPythonErrorSync rt req snap e
  Routine.exit .done

/-- The value of a handler in the short circuit. -/
def answerTrivial {α : Type} (v : PyVal Ref) : Dispatch m Ref W α := do
  match ← Routine.attempt (respondTrivial rt req snap v) with
  | .ok () => Routine.exit .done
  | .error e => failTrivial rt req snap e

/-- What is done at a stop. -/
def Stop.run : Stop Ref → Dispatch m Ref W Empty
  | .document => serveDocument rt req
  | .fixed call => finish (respond rt req call)
  | .value v => respondOrFail rt req snap v
  | .error e => failWith rt req snap e
  | .trivialValue v => answerTrivial rt req snap v
  | .trivialError e => failTrivial rt req snap e

/-- A text that a refusal sends: one of the code, or a JSON text. -/
def RefusalText (rt : Runtime m Ref W) (text : String) : Prop :=
  text ≠ "" ∨ ∃ j, text = rt.jsonToString j

/-- The response calls of refusals and preflight answers. -/
inductive FixedCall (rt : Runtime m Ref W) (req : HttpRequest Ref) (snap : FrozenState m Ref) :
    ProtocolCall → Prop
  | text (status : ℕ) {text contentType : String} : RefusalText rt text →
      contentType = "application/json; charset=utf-8" ∨
        contentType = "text/plain; charset=utf-8" →
      FixedCall rt req snap (textCall status text contentType)
  | notAllowed (c : CompiledRouters m) :
      FixedCall rt req snap (notAllowedCall (methodsMatchingPathCompiled c req.path))
  | rateLimited (limit resetSecs : ℕ) : FixedCall rt req snap (tooManyRequests limit resetSecs)
  | preflight {cors : CompiledCorsConfig} {acrm origin ach : String} {headers : HeaderPairs} :
      req.method = "OPTIONS" → snap.compiledCors = some cors →
      cors.handlePreflight acrm origin ach = .ok headers →
      FixedCall rt req snap (.responseEmpty 204 (buildHeaderListFromPairs headers))

/-- The stops of a request. -/
def Stop.Possible : Stop Ref → Prop
  | .fixed call => FixedCall rt req snap call
  | _ => True

end

/-- The same request with another method, which its scope tells. -/
def HttpRequest.withMethod (req : HttpRequest Ref) (method : String) (scope : Ref) :
    HttpRequest Ref :=
  { req with method := method, scope := scope }

/-- The `Request` objects of two requests are both made, and the factory of a dependency that is
given one or the other does the same; or making them fails with one error. -/
def FactoryBlind (rt : Runtime m Ref W) (dep : DependencyEntry Ref)
    (made made' : Except (PyErr Ref) (PyVal Ref)) : Prop :=
  (∃ e, made = .error e ∧ made' = .error e) ∨ ∃ rc rc', made = .ok rc ∧ made' = .ok rc' ∧
    ∀ prev w, rt.call dep.factory [] (factoryKwargs dep (some rc') prev) w =
      rt.call dep.factory [] (factoryKwargs dep (some rc) prev) w

/-- Python code that helps to answer does the same with one scope as with the other: response
middlewares, exception handlers and configurations. -/
structure AnswersBlind (rt : Runtime m Ref W) (snap : FrozenState m Ref) (scope scope' : Ref) :
    Prop where
  responseMiddleware : ∀ f ∈ snap.responseMiddleware, ∀ v w,
    rt.call f [.object scope', v] .empty w = rt.call f [.object scope, v] .empty w
  exceptionHandler : ∀ h ∈ snap.exceptionHandlers, ∀ v w,
    rt.call h.handler [.object scope', v] .empty w = rt.call h.handler [.object scope, v] .empty w
  config : ∀ c, snap.securityHeaders = some c ∨ snap.cors = some c → ∀ w,
    rt.callMethod c "response_header_pairs" [.object scope'] w =
      rt.callMethod c "response_header_pairs" [.object scope] w

/-- So does the code before: request middlewares, and the factories of dependencies that take the
`Request`. -/
structure ScopeBlind (rt : Runtime m Ref W) (snap : FrozenState m Ref)
    (req req' : HttpRequest Ref) : Prop extends AnswersBlind rt snap req.scope req'.scope where
  middleware : ∀ f ∈ snap.requestMiddleware, ∀ w,
    rt.call f [.object req'.scope, .object req.protocol] .empty w =
      rt.call f [.object req.scope, .object req.protocol] .empty w
  factory : ∀ entry ∈ snap.routes, ∀ dep ∈ entry.extra.dependencies, dep.wantsRequest = true →
    FactoryBlind rt dep (rt.newRequest req.scope req.method req.path req.queryString)
      (rt.newRequest req'.scope req'.method req'.path req'.queryString)

theorem answersBlind_self (rt : Runtime m Ref W) (snap : FrozenState m Ref) (scope : Ref) :
    AnswersBlind rt snap scope scope :=
  ⟨fun _ _ _ _ => rfl, fun _ _ _ _ => rfl, fun _ _ _ => rfl⟩

theorem scopeBlind_self (rt : Runtime m Ref W) (snap : FrozenState m Ref) (req : HttpRequest Ref) :
    ScopeBlind rt snap req req where
  toAnswersBlind := answersBlind_self rt snap req.scope
  middleware _ _ _ := rfl
  factory := by
    intro entry _ dep _ _
    cases h : rt.newRequest req.scope req.method req.path req.queryString with
    | error e => exact .inl ⟨e, rfl, rfl⟩
    | ok rc => exact .inr ⟨rc, rc, rfl, rfl, fun _ _ => rfl⟩

/-- The dispatcher treats the request alike under another method, up to the answer. -/
structure Twins (rt : Runtime m Ref W) (req : HttpRequest Ref) (method : String) (scope : Ref)
    (snap : FrozenState m Ref) : Prop where
  router : routerKey method = routerKey req.method
  body : hasBodyMethod method = hasBodyMethod req.method
  document : (method = "GET" ∨ method = "HEAD") ↔ (req.method = "GET" ∨ req.method = "HEAD")
  options : method = "OPTIONS" ↔ req.method = "OPTIONS"
  blind : ScopeBlind rt snap req (req.withMethod method scope)

theorem twins_self (rt : Runtime m Ref W) (req : HttpRequest Ref) (snap : FrozenState m Ref) :
    Twins rt req req.method req.scope snap :=
  ⟨rfl, rfl, Iff.rfl, Iff.rfl, scopeBlind_self rt snap req⟩

/-- `GET` and `HEAD` are alike for Python code that does not look at the method. -/
theorem twins_head {rt : Runtime m Ref W} {req : HttpRequest Ref} {scope : Ref}
    {snap : FrozenState m Ref} (hget : req.method = "GET")
    (hblind : ScopeBlind rt snap req (req.withMethod "HEAD" scope)) :
    Twins rt req "HEAD" scope snap where
  router := by rw [hget]; rfl
  body := by rw [hget]; decide
  document := by simp [hget]
  options := by simp [hget]
  blind := hblind

/-- The stops of a request, under its method and under another one. -/
def requestStops (rt : Runtime m Ref W) (req : HttpRequest Ref) (method : String) (scope : Ref)
    (snap : FrozenState m Ref) : Stops (World m Ref W) (RequestEvent Ref) (Exit Ref) (Stop Ref) where
  quiet := NotSent
  plain e := e ≠ .done
  possible := Stop.Possible rt req snap
  left := Stop.run rt req snap
  right := Stop.run rt (req.withMethod method scope) snap

variable {rt : Runtime m Ref W} {req : HttpRequest Ref} {method : String} {scope : Ref}
  {snap : FrozenState m Ref} {entry : RouteEntry Ref}

-- ════════════════════════════════════════════════════════════════════════
-- The last computations
-- ════════════════════════════════════════════════════════════════════════

theorem sendText_eq (rt : Runtime m Ref W) (req : HttpRequest Ref) (status : ℕ)
    (text contentType : String) :
    sendText rt req status text contentType =
      respond rt req (textCall status text contentType) := by
  unfold sendText textCall
  split
  · rfl
  · rfl

section

variable {α β : Type}

theorem finish_run_recast (c : PyResult m Ref W Unit) (w : World m Ref W) :
    (finish c : Dispatch m Ref W α).run w = ((finish c : Dispatch m Ref W Empty).run w).recast :=
  run_eq_recast (exitsAs_bind_exit _ _ w)

theorem failWith_run_recast (e : PyErr Ref) (w : World m Ref W) :
    (failWith rt req snap e : Dispatch m Ref W α).run w =
      ((failWith rt req snap e : Dispatch m Ref W Empty).run w).recast :=
  run_eq_recast (exitsAs_bind_exit _ _ w)

theorem failTrivial_run_recast (e : PyErr Ref) (w : World m Ref W) :
    (failTrivial rt req snap e : Dispatch m Ref W α).run w =
      ((failTrivial rt req snap e : Dispatch m Ref W Empty).run w).recast :=
  run_eq_recast (exitsAs_bind_exit _ _ w)

/-- Two continuations of one attempt that never return. -/
theorem exits_bind_attempt {γ : Type} {c : PyResult m Ref W γ}
    {k : Except (PyErr Ref) γ → Dispatch m Ref W α} {k' : Except (PyErr Ref) γ → Dispatch m Ref W β}
    (hk : ∀ r, ExitsAs (k r) (k' r)) : ExitsAs (attempt c >>= k) (attempt c >>= k') := by
  intro w
  obtain ⟨e, w', l, hkr, hkr'⟩ := hk (c.run w).result (c.run w).state
  refine ⟨e, w', (c.run w).log ++ l, ?_, ?_⟩
  · rw [bind_run_ok (attempt_run c w), hkr]
    rfl
  · rw [bind_run_ok (attempt_run c w), hkr']
    rfl

theorem respondOrFail_run_recast (v : PyVal Ref) (w : World m Ref W) :
    (respondOrFail rt req snap v : Dispatch m Ref W α).run w =
      ((respondOrFail rt req snap v : Dispatch m Ref W Empty).run w).recast := by
  refine run_eq_recast (exits_bind_attempt (fun r => ?_) w)
  cases r with
  | ok u => exact exitsAs_exit Exit.done
  | error e => exact exitsAs_bind_exit _ _

theorem answerTrivial_run_recast (v : PyVal Ref) (w : World m Ref W) :
    (answerTrivial rt req snap v : Dispatch m Ref W α).run w =
      ((answerTrivial rt req snap v : Dispatch m Ref W Empty).run w).recast := by
  refine run_eq_recast (exits_bind_attempt (fun r => ?_) w)
  cases r with
  | ok u => exact exitsAs_exit Exit.done
  | error e => exact exitsAs_bind_exit _ _

/-- The document always has a text. -/
theorem exists_openapiText_run {rt : Runtime m Ref W} (w : World m Ref W) :
    ∃ text w', (openapiText rt).run w = ⟨.ok text, w', []⟩ := by
  unfold openapiText
  rw [effect_run]
  split
  · exact ⟨_, _, rfl⟩
  · exact ⟨_, _, rfl⟩

theorem serveDocument_run_recast (w : World m Ref W) :
    (serveDocument rt req : Dispatch m Ref W α).run w =
      ((serveDocument rt req : Dispatch m Ref W Empty).run w).recast := by
  refine run_eq_recast ?_
  unfold serveDocument
  obtain ⟨text, w', htext⟩ :=
    exists_openapiText_run (rt.setPathTemplate req.protocol "/openapi.json" w)
  have hset : (setTemplate rt req "/openapi.json").run w =
      ⟨.ok (), rt.setPathTemplate req.protocol "/openapi.json" w, []⟩ := rfl
  rw [bind_run_ok hset, bind_run_ok hset, bind_run_ok htext, bind_run_ok htext]
  by_cases hhead : req.method = "HEAD"
  · rw [if_pos hhead, if_pos hhead]
    exact exitsAs_bind_exit _ _ w'
  · rw [if_neg hhead, if_neg hhead]
    exact exitsAs_bind_exit _ _ w'

end

-- ════════════════════════════════════════════════════════════════════════
-- Stops of the dispatcher
-- ════════════════════════════════════════════════════════════════════════

/-- The same computation, up to its answer, under both methods. -/
abbrev StopsAlike (rt : Runtime m Ref W) (req : HttpRequest Ref) (method : String) (scope : Ref)
    (snap : FrozenState m Ref) {α : Type} (c c' : Dispatch m Ref W α) : Prop :=
  (requestStops rt req method scope snap).Alike c c'

section

variable {α : Type}

theorem finish_stops {call : ProtocolCall} (hcall : FixedCall rt req snap call) :
    StopsAlike rt req method scope snap (finish (respond rt req call) : Dispatch m Ref W α)
      (finish (respond rt (req.withMethod method scope) call)) :=
  Stops.alike_stop (t := .fixed call) hcall (finish_run_recast _) (finish_run_recast _)

theorem failWith_stops (e : PyErr Ref) :
    StopsAlike rt req method scope snap (failWith rt req snap e : Dispatch m Ref W α)
      (failWith rt (req.withMethod method scope) snap e) :=
  Stops.alike_stop (t := .error e) trivial (failWith_run_recast e) (failWith_run_recast e)

theorem respondOrFail_stops (v : PyVal Ref) :
    StopsAlike rt req method scope snap (respondOrFail rt req snap v : Dispatch m Ref W α)
      (respondOrFail rt (req.withMethod method scope) snap v) :=
  Stops.alike_stop (t := .value v) trivial (respondOrFail_run_recast v)
    (respondOrFail_run_recast v)

theorem failTrivial_stops (e : PyErr Ref) :
    StopsAlike rt req method scope snap (failTrivial rt req snap e : Dispatch m Ref W α)
      (failTrivial rt (req.withMethod method scope) snap e) :=
  Stops.alike_stop (t := .trivialError e) trivial (failTrivial_run_recast e)
    (failTrivial_run_recast e)

theorem answerTrivial_stops (v : PyVal Ref) :
    StopsAlike rt req method scope snap (answerTrivial rt req snap v : Dispatch m Ref W α)
      (answerTrivial rt (req.withMethod method scope) snap v) :=
  Stops.alike_stop (t := .trivialValue v) trivial (answerTrivial_run_recast v)
    (answerTrivial_run_recast v)

theorem serveDocument_stops :
    StopsAlike rt req method scope snap (serveDocument rt req : Dispatch m Ref W α)
      (serveDocument rt (req.withMethod method scope)) :=
  Stops.alike_stop (t := .document) trivial serveDocument_run_recast serveDocument_run_recast

theorem rejectJson_stops (status : ℕ) {text : String} (htext : RefusalText rt text) :
    StopsAlike rt req method scope snap (rejectJson rt req status text : Dispatch m Ref W α)
      (rejectJson rt (req.withMethod method scope) status text) := by
  unfold rejectJson
  rw [sendText_eq, sendText_eq]
  exact finish_stops (.text status htext (.inl rfl))

theorem rejectPlain_stops (status : ℕ) {text : String} (htext : RefusalText rt text) :
    StopsAlike rt req method scope snap (rejectPlain rt req status text : Dispatch m Ref W α)
      (rejectPlain rt (req.withMethod method scope) status text) := by
  unfold rejectPlain
  rw [sendText_eq, sendText_eq]
  exact finish_stops (.text status htext (.inr rfl))

/-- Errors that go to the caller of the dispatcher are no answers. -/
theorem orRaise_stops {c : PyResult m Ref W α} (hc : Logs NotSent c) :
    StopsAlike rt req method scope snap (orRaise c) (orRaise c) := by
  refine Stops.alike_of_logs (hc.handle fun _ => logs_exit _) fun w e he => ?_
  rcases hr : c.run w with ⟨r, w', l⟩
  cases r with
  | ok a =>
    rw [orRaise, handle_run_ok hr] at he
    cases he
  | error e' =>
    rw [orRaise, handle_run_error hr] at he
    cases he
    exact fun h => by cases h

end

-- ════════════════════════════════════════════════════════════════════════
-- Before routing
-- ════════════════════════════════════════════════════════════════════════

theorem serveOpenapi_stops :
    StopsAlike rt req method scope snap (serveOpenapi rt req)
      (serveOpenapi rt (req.withMethod method scope)) :=
  serveDocument_stops

theorem servesOpenapi_withMethod (h : Twins rt req method scope snap) :
    servesOpenapi (req.withMethod method scope) snap = servesOpenapi req snap := by
  have hdoc : (decide (method = "GET") || decide (method = "HEAD")) =
      (decide (req.method = "GET") || decide (req.method = "HEAD")) := by
    rw [← Bool.decide_or, ← Bool.decide_or, decide_eq_decide]
    exact h.document
  unfold servesOpenapi
  change ((decide (method = "GET") || decide (method = "HEAD")) &&
    decide (req.path = "/openapi.json") && snap.includeOpenapi) = _
  rw [hdoc]

/-- No preflight, an error of the scope, or the answer of the native configuration. -/
theorem preflight_cases (rt : Runtime m Ref W) (req : HttpRequest Ref) (snap : FrozenState m Ref) :
    preflight rt req snap = pure none ∨ (∃ e, preflight rt req snap = Routine.exit e) ∨
      ∃ cors acrm origin ach, req.method = "OPTIONS" ∧ snap.compiledCors = some cors ∧
        preflight rt req snap = pure (some (cors.handlePreflight acrm origin ach)) := by
  by_cases hm : req.method = "OPTIONS"
  · cases hc : snap.compiledCors with
    | none =>
      left
      simp only [preflight, hm, hc, if_true]
    | some cors =>
      cases hh : req.headers with
      | error e =>
        refine .inr (.inl ⟨e, ?_⟩)
        simp only [preflight, hm, hc, hh, if_true]
        rfl
      | ok headers =>
        cases ha : headerGetLax rt.toInspection headers "access-control-request-method" with
        | none =>
          left
          simp only [preflight, hm, hc, hh, if_true, Routine.ofExcept, pure_bind, ha]
        | some acrm =>
          refine .inr (.inr ⟨cors, acrm, (headerGetLax rt.toInspection headers "origin").getD "",
            (headerGetLax rt.toInspection headers "access-control-request-headers").getD "", hm,
            rfl, ?_⟩)
          simp only [preflight, hm, hc, hh, if_true, Routine.ofExcept, pure_bind, ha]
  · left
    simp only [preflight, if_neg hm]

theorem preflight_withMethod (h : Twins rt req method scope snap) :
    preflight rt (req.withMethod method scope) snap = preflight rt req snap := by
  unfold preflight
  by_cases hm : req.method = "OPTIONS"
  · have hm' : (req.withMethod method scope).method = "OPTIONS" := h.options.mpr hm
    rw [if_pos hm, if_pos hm']
    rfl
  · have hm' : ¬ (req.withMethod method scope).method = "OPTIONS" := fun h' => hm (h.options.mp h')
    rw [if_neg hm, if_neg hm']

theorem handlePreflight_message {cors : CompiledCorsConfig} {acrm origin ach : String}
    {r : ℕ × String} (h : cors.handlePreflight acrm origin ach = .error r) : r.2 ≠ "" := by
  unfold CompiledCorsConfig.handlePreflight at h
  dsimp only at h
  split at h
  · cases h
    decide
  · split at h
    · cases h
      decide
    · split at h
      · cases h
        decide
      · cases h

variable (snap) in
theorem answerPreflight_stops (h : Twins rt req method scope snap) :
    StopsAlike rt req method scope snap (answerPreflight rt req snap)
      (answerPreflight rt (req.withMethod method scope) snap) := by
  unfold answerPreflight
  rw [preflight_withMethod h]
  rcases preflight_cases rt req snap with hp | ⟨e, hp⟩ | ⟨cors, acrm, origin, ach, hm, hcors, hp⟩
  · rw [hp]
    exact Stops.alike_pure ()
  · rw [hp]
    exact Stops.alike_exit (fun h => by cases h)
  · rw [hp]
    cases hh : cors.handlePreflight acrm origin ach with
    | ok headers => exact finish_stops (.preflight hm hcors hh)
    | error r => exact rejectPlain_stops r.1 (.inl (handlePreflight_message hh))

theorem runMiddleware_stops (h : Twins rt req method scope snap) {fs : List Ref}
    (hfs : ∀ f ∈ fs, f ∈ snap.requestMiddleware) :
    StopsAlike rt req method scope snap (runMiddleware rt req snap fs)
      (runMiddleware rt (req.withMethod method scope) snap fs) := by
  induction fs with
  | nil => exact Stops.alike_pure ()
  | cons f fs ih =>
    obtain ⟨hf, hfs⟩ := List.forall_mem_cons.mp hfs
    have hcall : rt.call f [.object scope, .object req.protocol] .empty =
        rt.call f [.object req.scope, .object req.protocol] .empty :=
      funext fun w => h.blind.middleware f hf w
    change StopsAlike rt req method scope snap _ (attempt
      (effect (rt.call f [.object scope, .object req.protocol] .empty)) >>= _)
    rw [hcall]
    refine (Stops.alike_attempt (logs_effect _)).bind fun out => ?_
    refine (Stops.alike_log trivial).bind fun _ => ?_
    cases out with
    | error e => exact failWith_stops e
    | ok v => exact Stops.Alike.ite (ih hfs) (respondOrFail_stops v)

-- ════════════════════════════════════════════════════════════════════════
-- Routing
-- ════════════════════════════════════════════════════════════════════════

theorem compiledTables_stops :
    StopsAlike rt req method scope snap (compiledTables rt snap) (compiledTables rt snap) := by
  unfold compiledTables
  split
  · exact Stops.alike_pure _
  · refine Stops.alike_effect fun w e he => ?_
    split at he
    · cases he
    · cases he
      exact fun h => by cases h

theorem matchRoute_stops (h : Twins rt req method scope snap) (compiled : CompiledRouters m) :
    StopsAlike rt req method scope snap (matchRoute rt req compiled)
      (matchRoute rt (req.withMethod method scope) compiled) := by
  have hmatch : matchRouteCompiled compiled method req.path =
      matchRouteCompiled compiled req.method req.path := by
    unfold matchRouteCompiled routerForCompiled
    rw [h.router]
  have hnone : StopsAlike rt req method scope snap (noRoute rt req compiled)
      (noRoute rt (req.withMethod method scope) compiled : Dispatch m Ref W (ℕ × PathParams)) :=
    Stops.Alike.ite (rejectPlain_stops 404 (.inl (by decide))) (finish_stops (.notAllowed compiled))
  have hsame : matchRouteCompiled compiled (req.withMethod method scope).method
      (req.withMethod method scope).path = matchRouteCompiled compiled req.method req.path := hmatch
  rw [matchRoute, matchRoute, hsame]
  cases matchRouteCompiled compiled req.method req.path with
  | none => exact Stops.alike_exit (fun h => by cases h)
  | some found =>
    cases found with
    | none => exact hnone
    | some route => exact Stops.alike_pure route

theorem routeEntry_stops (idx : ℕ) :
    StopsAlike rt req method scope snap (routeEntry snap idx) (routeEntry snap idx) := by
  unfold routeEntry
  split
  · exact Stops.alike_pure _
  · exact Stops.alike_exit (fun h => by cases h)

theorem routeEntry_yields (idx : ℕ) :
    Yields (fun entry => entry ∈ snap.routes) (routeEntry snap idx : Dispatch m Ref W _) := by
  unfold routeEntry
  split
  · next hentry => exact yields_pure (List.mem_of_getElem? hentry)
  · exact yields_exit _

theorem setTemplate_stops (template : String) :
    StopsAlike rt req method scope snap (setTemplate rt req template) (setTemplate rt req template) :=
  Stops.alike_effect fun w e he => by cases he

-- ════════════════════════════════════════════════════════════════════════
-- The stages of a route
-- ════════════════════════════════════════════════════════════════════════

theorem checkRateLimit_stops :
    StopsAlike rt req method scope snap (checkRateLimit rt req entry)
      (checkRateLimit rt (req.withMethod method scope) entry) := by
  unfold checkRateLimit
  split
  · exact Stops.alike_pure ()
  · refine (Stops.alike_effect fun w e he => by cases he).bind fun decision => ?_
    refine (Stops.alike_log trivial).bind fun _ => ?_
    cases decision with
    | allowed limit remaining resetSecs => exact Stops.alike_pure ()
    | denied limit resetSecs => exact finish_stops (.rateLimited limit resetSecs)

theorem payloadTooLarge_stops {α : Type} :
    StopsAlike rt req method scope snap (payloadTooLarge rt req : Dispatch m Ref W α)
      (payloadTooLarge rt (req.withMethod method scope)) :=
  rejectJson_stops 413 (.inl (by decide))

theorem readRequestBody_stops :
    StopsAlike rt req method scope snap (readRequestBody rt req entry)
      (readRequestBody rt (req.withMethod method scope) entry) := by
  have hdeclared : StopsAlike rt req method scope snap (checkDeclaredLength rt req)
      (checkDeclaredLength rt (req.withMethod method scope)) := by
    have hlength : declaredLength rt.toInspection (req.withMethod method scope) =
        declaredLength rt.toInspection req := rfl
    unfold checkDeclaredLength
    rw [hlength]
    split
    · exact payloadTooLarge_stops.ite (Stops.alike_pure ())
    · exact Stops.alike_pure ()
  have hwithin : StopsAlike rt req method scope snap (readWithinLimit rt req)
      (readWithinLimit rt (req.withMethod method scope)) := by
    refine (Stops.alike_attempt (logs_effect _)).bind fun read => ?_
    refine (Stops.alike_log trivial).bind fun _ => ?_
    refine (orRaise_stops (logs_ofExcept read)).bind fun v => ?_
    exact payloadTooLarge_stops.ite (Stops.alike_pure _)
  exact (hdeclared.bind fun _ => hwithin).ite (Stops.alike_pure _)

theorem authenticate_message {headers : PyVal Ref} {text : String}
    (h : authenticate rt entry headers = .error text) : text ≠ "" := by
  unfold authenticate at h
  dsimp only at h
  split at h
  · split at h
    · cases h
      decide
    · split at h
      · cases h
      · cases h
        decide
      · cases h
        decide
  · cases h
    decide

theorem checkJwt_stops :
    StopsAlike rt req method scope snap (checkJwt rt req entry)
      (checkJwt rt (req.withMethod method scope) entry) := by
  refine Stops.Alike.ite ?_ (Stops.alike_pure _)
  refine (orRaise_stops (logs_ofExcept req.headers)).bind fun headers => ?_
  cases hauth : authenticate rt entry headers with
  | ok claims => exact Stops.alike_pure _
  | error text => exact rejectPlain_stops 401 (.inl (authenticate_message hauth))

theorem formOf_message {body : List UInt8} {status : ℕ} {text : String}
    (h : formOf rt req body = .error (.response status text)) : RefusalText rt text := by
  have hparse {headers : PyVal Ref} (h : parseForm rt headers body = .error (.response status text)) :
      RefusalText rt text := by
    unfold parseForm at h
    split at h
    · cases h
      exact .inl (by decide)
    · cases h
      exact .inl (by decide)
    · dsimp only at h
      split at h
      · cases h
      · split at h
        · split at h
          · cases h
            exact .inl (by decide)
          · split at h
            · cases h
            · cases h
              exact .inr ⟨_, rfl⟩
        · cases h
          exact .inl (by decide)
  unfold formOf at h
  split at h
  · cases h
  · split at h
    · cases h
    · exact hparse h

theorem readForm_stops (h : Twins rt req method scope snap) (body : List UInt8) :
    StopsAlike rt req method scope snap (readForm rt req snap entry body)
      (readForm rt (req.withMethod method scope) snap entry body) := by
  have hform : formOf rt (req.withMethod method scope) body = formOf rt req body := rfl
  have hbody : hasBodyMethod (req.withMethod method scope).method = hasBodyMethod req.method := h.body
  unfold readForm
  rw [hform, hbody]
  split
  · split
    · exact Stops.alike_pure _
    · exact failWith_stops _
    · next hform => exact rejectJson_stops _ (formOf_message hform)
  · exact Stops.alike_pure _

theorem callFactory_notSent (dep : DependencyEntry Ref) (ctx : Option (PyVal Ref))
    (prev : List (String × PyVal Ref)) :
    Logs NotSent (callFactory rt dep ctx prev >>= resolveQuery rt snap) := by
  have hcall : Logs NotSent (callFactory rt dep ctx prev) := by
    refine (logs_log trivial).bind fun _ => (logs_effect _).bind fun r => ?_
    exact ((logs_ofExcept _).bind fun _ => logs_effect _).ite (logs_pure r)
  refine hcall.bind fun o => ?_
  unfold resolveQuery
  split
  · exact logs_pure o
  · exact logs_effect _
  · exact logs_exit _

/-- Factories are called alike with one or the other request object. -/
def CalledAlike (rt : Runtime m Ref W) (ctx ctx' : Option (PyVal Ref))
    (dep : DependencyEntry Ref) : Prop :=
  ∀ prev w, rt.call dep.factory [] (factoryKwargs dep ctx' prev) w =
    rt.call dep.factory [] (factoryKwargs dep ctx prev) w

theorem callFactory_sameEffect {dep : DependencyEntry Ref} {ctx ctx' : Option (PyVal Ref)}
    (h : CalledAlike rt ctx ctx' dep) (prev : List (String × PyVal Ref)) :
    SameEffect (callFactory rt dep ctx prev) (callFactory rt dep ctx' prev) := by
  have hcall : SameEffect
      (Routine.log (.factory dep.name dep.factory (factoryKwargs dep ctx prev)) >>= fun _ =>
        (Routine.effect (rt.call dep.factory [] (factoryKwargs dep ctx prev)) :
          PyResult m Ref W (PyVal Ref)))
      (Routine.log (.factory dep.name dep.factory (factoryKwargs dep ctx' prev)) >>= fun _ =>
        Routine.effect (rt.call dep.factory [] (factoryKwargs dep ctx' prev))) := by
    intro w
    rw [log_bind_run, log_bind_run, effect_run, effect_run, h prev w]
    exact ⟨rfl, rfl⟩
  unfold callFactory
  rw [← bind_assoc, ← bind_assoc]
  exact hcall.bind _

theorem runDependencies_stops {ctx ctx' : Option (PyVal Ref)} {deps : List (DependencyEntry Ref)}
    (hdeps : ∀ dep ∈ deps, CalledAlike rt ctx ctx' dep) (prev : List (String × PyVal Ref)) :
    StopsAlike rt req method scope snap (runDependencies rt req snap ctx deps prev)
      (runDependencies rt (req.withMethod method scope) snap ctx' deps prev) := by
  induction deps generalizing prev with
  | nil => exact Stops.alike_pure prev
  | cons dep deps ih =>
    obtain ⟨hdep, hdeps⟩ := List.forall_mem_cons.mp hdeps
    have hrun : StopsAlike rt req method scope snap (runDependency rt req snap dep ctx prev)
        (runDependency rt (req.withMethod method scope) snap dep ctx' prev) := by
      refine (Stops.alike_attempts (callFactory_notSent dep ctx prev)
        (callFactory_notSent dep ctx' prev)
        ((callFactory_sameEffect hdep prev).bind _)).bind fun out => ?_
      refine (Stops.alike_log trivial).bind fun _ => ?_
      cases out with
      | ok v => exact Stops.alike_pure v
      | error e => exact failWith_stops e
    exact hrun.bind fun v => ih hdeps _

/-- The dependencies of a route are resolved alike, with one request object or the other. -/
theorem resolveDependencies_stops (h : Twins rt req method scope snap) (hentry : entry ∈ snap.routes) :
    StopsAlike rt req method scope snap
      (requestContext rt req snap entry >>= fun ctx =>
        runDependencies rt req snap ctx entry.extra.dependencies [])
      (requestContext rt (req.withMethod method scope) snap entry >>= fun ctx =>
        runDependencies rt (req.withMethod method scope) snap ctx entry.extra.dependencies []) := by
  have hblind (dep : DependencyEntry Ref) (hdep : dep ∈ entry.extra.dependencies)
      (hwants : dep.wantsRequest = true) : FactoryBlind rt dep
        (rt.newRequest req.scope req.method req.path req.queryString)
        (rt.newRequest (req.withMethod method scope).scope (req.withMethod method scope).method
          (req.withMethod method scope).path (req.withMethod method scope).queryString) :=
    h.blind.factory entry hentry dep hdep hwants
  unfold requestContext
  by_cases hany : entry.extra.dependencies.any (·.wantsRequest) = true
  · rw [if_pos hany, if_pos hany]
    obtain ⟨dep₀, hdep₀, hwants₀⟩ := List.any_eq_true.mp hany
    rcases hblind dep₀ hdep₀ hwants₀ with ⟨e, hmade, hmade'⟩ | ⟨rc, rc', hmade, hmade', -⟩
    · rw [hmade, hmade']
      exact (failWith_stops e).bind fun ctx => runDependencies_stops (fun _ _ _ _ => rfl) []
    · rw [hmade, hmade']
      refine runDependencies_stops (fun dep hdep prev w => ?_) []
      cases hwants : dep.wantsRequest with
      | false =>
        unfold factoryKwargs
        rw [hwants]
      | true =>
        rcases hblind dep hdep hwants with ⟨e, herror, -⟩ | ⟨_, _, hok, hok', hcall⟩
        · rw [hmade] at herror
          cases herror
        · rw [hmade] at hok
          rw [hmade'] at hok'
          cases hok
          cases hok'
          exact hcall prev w
  · rw [if_neg hany, if_neg hany]
    exact runDependencies_stops (fun _ _ _ _ => rfl) []

/-- The call of the handler is the same one under both methods. -/
theorem runHandler_withMethod (h : Twins rt req method scope snap) (input : HandlerInput Ref) :
    runHandler rt (req.withMethod method scope) entry input = runHandler rt req entry input := by
  have hjson : hasJsonBody entry (req.withMethod method scope).method input.body =
      hasJsonBody entry req.method input.body := by
    unfold hasJsonBody
    rw [show hasBodyMethod (req.withMethod method scope).method = hasBodyMethod req.method from h.body]
  unfold runHandler shouldUseKwargs jsonKwargs allKwargs bodyKwargs protocolKwargs
  rw [hjson]
  rfl

theorem runHandler_notSent (input : HandlerInput Ref) :
    Logs NotSent (runHandler rt req entry input) := by
  have hinvoke (kwargs : Dict String (PyVal Ref)) : Logs NotSent (invokeHandler rt entry kwargs) :=
    (logs_log trivial).bind fun _ => logs_effect _
  have hdecode : Logs NotSent (decodeJsonBody rt entry input) :=
    decodeJsonBody_logs rt (fun _ => trivial) entry input
  refine Logs.ite ?_ ((hinvoke _).bind fun _ => logs_pure _)
  refine (hdecode.ite (logs_pure _)).bind fun json => ?_
  split
  · exact logs_pure _
  · exact logs_pure _
  · exact (hinvoke _).bind fun _ => logs_pure _

/-- The text of a 400 or 422 answer. -/
def RefusalTexts (rt : Runtime m Ref W) : RunHandlerResult Ref → Prop
  | .ok _ => True
  | .validationError text | .jsonParseError text => RefusalText rt text

theorem detail_ne_empty (detail : String) : "\x7b\"detail\":" ++ detail ++ "\x7d" ≠ "" := by
  intro h
  have hlist := congrArg String.toList h
  rw [String.toList_append, String.toList_append] at hlist
  exact absurd (List.append_eq_nil_iff.mp hlist).2 (by decide)

theorem runHandler_texts (input : HandlerInput Ref) :
    Yields (RefusalTexts rt) (runHandler rt req entry input) := by
  let texts : BodyOutcome Ref → Prop := fun
    | .assign _ => True
    | .validationError text | .jsonParseError text => RefusalText rt text
  have hany {α : Type} (c : PyResult m Ref W α) : Yields (fun _ => True) c :=
    fun _ _ _ => trivial
  have hdecode : Yields texts (decodeJsonBody rt entry input) := by
    unfold decodeJsonBody
    split
    · split
      · exact yields_pure trivial
      · exact yields_pure (.inr ⟨_, rfl⟩)
    · refine (hany _).bind fun r _ => ?_
      split
      · exact yields_pure (.inr ⟨_, rfl⟩)
      · exact (hany _).bind fun _ _ => yields_pure trivial
      · refine (hany _).bind fun _ _ => (hany _).bind fun detail _ => ?_
        exact yields_pure (.inl (detail_ne_empty detail))
  have hjson : Yields texts (jsonKwargs rt req entry input) := by
    unfold jsonKwargs
    split
    · exact hdecode
    · exact yields_pure trivial
  unfold runHandler
  split
  · refine hjson.bind fun json hj => ?_
    cases json with
    | validationError text => exact yields_pure hj
    | jsonParseError text => exact yields_pure hj
    | assign kw => exact (hany _).bind fun _ _ => yields_pure trivial
  · exact (hany _).bind fun _ _ => yields_pure trivial

theorem handlerValue_notSent (res : PyVal Ref) : Logs NotSent (handlerValue rt entry res) :=
  ((logs_ofExcept _).bind fun _ => logs_effect _).ite (logs_pure res)

theorem callHandler_stops (h : Twins rt req method scope snap) (input : HandlerInput Ref) :
    StopsAlike rt req method scope snap (callHandler rt req snap entry input)
      (callHandler rt (req.withMethod method scope) snap entry input) := by
  have htexts : Yields (fun out => ∀ res, out = .ok res → RefusalTexts rt res)
      (attempt (runHandler rt req entry input) : Dispatch m Ref W _) := by
    rintro w out ⟨⟩ res hres
    exact runHandler_texts input w res hres
  unfold callHandler
  rw [runHandler_withMethod h]
  refine (Stops.alike_attempt (runHandler_notSent input)).bind_yields htexts fun out hout => ?_
  split
  · exact failWith_stops _
  · exact rejectJson_stops 400 (hout _ rfl)
  · exact rejectJson_stops 422 (hout _ rfl)
  · refine (Stops.alike_attempt (handlerValue_notSent _)).bind fun r => ?_
    split
    · exact Stops.alike_pure _
    · exact failWith_stops _

theorem serveRoute_stops (h : Twins rt req method scope snap) (hentry : entry ∈ snap.routes)
    (idx : ℕ) (params : PathParams) :
    StopsAlike rt req method scope snap (serveRoute rt req snap entry idx params)
      (serveRoute rt (req.withMethod method scope) snap entry idx params) := by
  refine (Stops.alike_log trivial).bind fun _ => ?_
  refine checkRateLimit_stops.bind fun _ => ?_
  refine (setTemplate_stops entry.extra.pathTemplate).bind fun _ => ?_
  refine readRequestBody_stops.bind fun body => ?_
  refine checkJwt_stops.bind fun claims => ?_
  refine (readForm_stops h body.1).bind fun form => ?_
  have hcall (input : HandlerInput Ref) : StopsAlike rt req method scope snap
      (callHandler rt req snap entry input >>= fun v => (respondOrFail rt req snap v :
        Dispatch m Ref W Unit))
      (callHandler rt (req.withMethod method scope) snap entry input >>= fun v =>
        respondOrFail rt (req.withMethod method scope) snap v) :=
    (callHandler_stops h input).bind fun v => respondOrFail_stops v
  have hrest := (resolveDependencies_stops h hentry).bind fun deps =>
    hcall ⟨params, queryMap rt req entry, deps, claims, body.1, body.2, form⟩
  rw [bind_assoc, bind_assoc] at hrest
  exact hrest

-- ════════════════════════════════════════════════════════════════════════
-- The dispatchers
-- ════════════════════════════════════════════════════════════════════════

theorem runRsgi_stops (h : Twins rt req method scope snap) :
    StopsAlike rt req method scope snap (runRsgi rt req snap)
      (runRsgi rt (req.withMethod method scope) snap) := by
  have hroute : StopsAlike rt req method scope snap (routeAndServe rt req snap)
      (routeAndServe rt (req.withMethod method scope) snap) := by
    refine compiledTables_stops.bind fun compiled => ?_
    refine (matchRoute_stops h compiled).bind fun matched => ?_
    exact (routeEntry_stops matched.1).bind_yields (routeEntry_yields matched.1)
      fun entry hentry => serveRoute_stops h hentry matched.1 matched.2
  have hrest := (answerPreflight_stops snap h).bind fun _ =>
    (runMiddleware_stops h fun _ hf => hf).bind fun _ => hroute
  unfold runRsgi
  rw [servesOpenapi_withMethod h]
  exact Stops.Alike.ite (serveOpenapi_stops.bind fun _ => hrest) hrest

variable (rt req snap) in
/-- What follows the handler of the short circuit. -/
def answerInvoked {α : Type} : Except (PyErr Ref) (PyVal Ref) → Dispatch m Ref W α
  | .ok out => answerTrivial rt req snap out
  | .error e => failTrivial rt req snap e

/-- A trivial route stops at the value of its handler, or at the error it raises. -/
theorem runTrivialSyncRoute_stops {α : Type} (idx : ℕ) (params : PathParams)
    (k : Unit → Dispatch m Ref W α) (hk : k () = Routine.exit .done) :
    StopsAlike rt req method scope snap (runTrivialSyncRoute rt req snap entry idx params >>= k)
      (runTrivialSyncRoute rt (req.withMethod method scope) snap entry idx params >>= k) := by
  let kwargs : Dict String (PyVal Ref) :=
    .ofList (params.map fun e => (e.1, pathParamValue entry.extra.wildcardParams e))
  have hrun (req : HttpRequest Ref) : runTrivialSyncRoute rt req snap entry idx params >>= k = (do
      Routine.log (.serving idx params)
      setTemplate rt req entry.extra.pathTemplate
      let r ← attempt (invokeHandler rt entry kwargs)
      answerInvoked rt req snap r) := by
    unfold runTrivialSyncRoute
    rw [bind_assoc]
    refine congrArg _ (funext fun _ => ?_)
    rw [bind_assoc]
    refine congrArg _ (funext fun _ => ?_)
    change (attempt (invokeHandler rt entry kwargs >>= respondTrivial rt req snap)
      >>= _) >>= k = _
    rw [attempt_bind, bind_assoc, bind_assoc]
    refine congrArg _ (funext fun r => ?_)
    cases r with
    | ok out =>
      unfold answerInvoked answerTrivial
      dsimp only
      refine congrArg _ (funext fun r => ?_)
      cases r with
      | ok u => exact hk
      | error e =>
        refine congrArg _ (funext fun _ => ?_)
        exact hk
    | error e =>
      dsimp only
      rw [pure_bind]
      refine congrArg _ (funext fun _ => ?_)
      exact hk
  rw [hrun req, hrun (req.withMethod method scope)]
  refine (Stops.alike_log trivial).bind fun _ => ?_
  refine (setTemplate_stops entry.extra.pathTemplate).bind fun _ => ?_
  refine (Stops.alike_attempt ((logs_log trivial).bind fun _ => logs_effect _)).bind fun r => ?_
  cases r with
  | ok out => exact answerTrivial_stops out
  | error e => exact failTrivial_stops e

theorem tryRsgiSyncShortCircuit_stops (h : Twins rt req method scope snap) :
    StopsAlike rt req method scope snap (tryRsgiSyncShortCircuit rt req snap)
      (tryRsgiSyncShortCircuit rt (req.withMethod method scope) snap) := by
  have hroute : StopsAlike rt req method scope snap (routeTrivialSync rt req snap)
      (routeTrivialSync rt (req.withMethod method scope) snap) := by
    refine compiledTables_stops.bind fun compiled => ?_
    refine (matchRoute_stops h compiled).bind fun matched => ?_
    refine Stops.Alike.ite (Stops.alike_pure ()) ?_
    refine (routeEntry_stops matched.1).bind fun entry => ?_
    exact Stops.Alike.ite (runTrivialSyncRoute_stops matched.1 matched.2 _ rfl)
      (Stops.alike_pure ())
  unfold tryRsgiSyncShortCircuit
  rw [servesOpenapi_withMethod h]
  refine (answerPreflight_stops snap h).bind fun _ => ?_
  refine Stops.Alike.ite (Stops.alike_pure ()) ?_
  exact Stops.Alike.ite (serveOpenapi_stops.bind fun _ => hroute) hroute

/-- `dispatch`, for the snapshot it takes. -/
def dispatchWith (rt : Runtime m Ref W) (req : HttpRequest Ref) (snap : FrozenState m Ref) :
    Dispatch m Ref W Unit := do
  tryRsgiSyncShortCircuit rt req snap
  Routine.effect fun w => (.ok (), rt.others w)
  runRsgi rt req snap

theorem dispatch_run (rt : Runtime m Ref W) (req : HttpRequest Ref) (w : World m Ref W) :
    (dispatch rt req).run w = (dispatchWith rt req w.app.hotSnapshot).run w :=
  bind_run_ok (get_run w) _

variable (snap) in
/-- Where a request stops, under its method and under another one it is alike for. -/
theorem dispatch_stops (h : Twins rt req method scope snap) :
    StopsAlike rt req method scope snap (dispatchWith rt req snap)
      (dispatchWith rt (req.withMethod method scope) snap) := by
  refine (tryRsgiSyncShortCircuit_stops h).bind fun _ => ?_
  exact (Stops.alike_effect fun w e he => by cases he).bind fun _ => runRsgi_stops h

-- ════════════════════════════════════════════════════════════════════════
-- Errors at a stop
-- ════════════════════════════════════════════════════════════════════════

section

variable (rt : Runtime m Ref W) (req : HttpRequest Ref) (snap : FrozenState m Ref)

/-- The call of `send_with_headers`. -/
def withHeadersCall (status : ℕ) (body : List UInt8) (headers : HeaderPairs) : ProtocolCall :=
  if body = [] then .responseEmpty status (buildHeaderListFromPairs headers)
  else .responseBytes status (buildHeaderListFromPairs headers) body

theorem sendWithHeaders_eq (status : ℕ) (body : List UInt8) (headers : HeaderPairs) :
    sendWithHeaders rt req status body headers =
      respond rt req (withHeadersCall status body headers) := by
  unfold sendWithHeaders withHeadersCall
  split
  · rfl
  · rfl

/-- The text of a 500 response; none where making it panics. -/
def internalErrorText (err : PyErr Ref) : Option String :=
  if rt.debug then
    (debugDetail (rt.displayErr err)).map fun d =>
      rt.jsonToString (.ofMembers [("error", .str "internal server error"), ("detail", .str d)])
  else some "\x7b\"error\":\"internal server error\"\x7d"

/-- The 500 response. -/
def internalErrorCall (text : String) : ProtocolCall :=
  textCall 500 text "application/json; charset=utf-8"

/-- The calls of the answer without exception handlers. -/
def fallbackCalls (err : PyErr Ref) : List ProtocolCall :=
  match httpExceptionPayload rt.toInspection err with
  | .error _ => []
  | .ok (some (status, body, headers)) =>
    [withHeadersCall status body (ensureHttpExceptionContentType headers)]
  | .ok none => (internalErrorText rt err).toList.map internalErrorCall

theorem orRaise_respond_responses (call : ProtocolCall) (w : World m Ref W) :
    responses ((orRaise (respond rt req call)).run w).log = [call] := by
  have hcall : (respond rt req call).run w =
      ⟨(rt.respond req.protocol call w).1, (rt.respond req.protocol call w).2, [.sent call]⟩ := rfl
  rcases hr : rt.respond req.protocol call w with ⟨r, w'⟩
  rw [hr] at hcall
  cases r with
  | ok u =>
    rw [orRaise, handle_run_ok hcall]
    rfl
  | error e =>
    rw [orRaise, handle_run_error hcall]
    rfl

theorem sendInternalError_responses (err : PyErr Ref) (w : World m Ref W) :
    responses ((sendInternalError rt req err).run w).log =
      (internalErrorText rt err).toList.map internalErrorCall := by
  unfold sendInternalError internalErrorText
  by_cases hdebug : rt.debug = true
  · rw [if_pos hdebug, if_pos hdebug]
    cases debugDetail (rt.displayErr err) with
    | none => rfl
    | some d =>
      dsimp only
      rw [sendText_eq, orRaise_respond_responses]
      rfl
  · rw [if_neg hdebug, if_neg hdebug, sendText_eq, orRaise_respond_responses]
    rfl

theorem sendErrorFallback_responses (err : PyErr Ref) (w : World m Ref W) :
    responses ((sendErrorFallback rt req err).run w).log = fallbackCalls rt err := by
  have hsent (call : ProtocolCall) : responses ((do
      if ← orRaise (respond rt req call >>= fun _ => pure true) then return
      sendInternalError rt req err : Dispatch m Ref W Unit).run w).log = [call] := by
    have hcall : (respond rt req call).run w =
        ⟨(rt.respond req.protocol call w).1, (rt.respond req.protocol call w).2,
          [.sent call]⟩ := rfl
    rcases hr : rt.respond req.protocol call w with ⟨r, w'⟩
    rw [hr] at hcall
    cases r with
    | ok u =>
      rw [orRaise, bind_run_ok (handle_run_ok (bind_run_ok hcall _) _)]
      rfl
    | error e =>
      rw [orRaise, bind_run_error (handle_run_error (bind_run_error hcall _) _)]
      rfl
  unfold sendErrorFallback tryHttpException fallbackCalls
  cases httpExceptionPayload rt.toInspection err with
  | error e => rfl
  | ok payload =>
    cases payload with
    | none => exact sendInternalError_responses rt req err w
    | some p =>
      show responses ((do
        if ← orRaise (sendWithHeaders rt req p.1 p.2.1 (ensureHttpExceptionContentType p.2.2) >>=
          fun _ => pure true) then return
        sendInternalError rt req err : Dispatch m Ref W Unit).run w).log = _
      rw [sendWithHeaders_eq, hsent]

/-- Whether the exception handlers answer an error, in the short circuit or in `run_rsgi`. -/
def handlersAnswer (trivialRoute : Bool) (err : PyErr Ref) : Dispatch m Ref W Bool :=
  if trivialRoute then answerByHandlerSync rt req err snap.exceptionHandlers.reverse
  else answerByHandler rt req snap err

/-- The route of the stop is one of the short circuit. -/
def Stop.isTrivial : Stop Ref → Bool
  | .trivialValue _ | .trivialError _ => true
  | _ => false

/-- What is left of a stop once an error has come up there. -/
def Stop.failed (t : Stop Ref) (err : PyErr Ref) : Stop Ref :=
  if t.isTrivial then .trivialError err else .error err

variable {rt req snap}

/-- Exception handlers first, then the answer without them. -/
theorem failed_run (t : Stop Ref) (err : PyErr Ref) :
    (t.failed err).run rt req snap =
      handlersAnswer rt req snap t.isTrivial err >>= fun answered =>
        (if answered then pure () else sendErrorFallback rt req err) >>= fun _ =>
          Routine.exit .done := by
  cases ht : t.isTrivial with
  | true =>
    rw [Stop.failed, ht]
    show failTrivial rt req snap err = _
    unfold failTrivial sendPythonErrorSync
    rw [bind_assoc]
    rfl
  | false =>
    rw [Stop.failed, ht]
    show failWith rt req snap err = _
    unfold failWith sendPythonError
    rw [bind_assoc]
    rfl

theorem failed_responses (t : Stop Ref) (err : PyErr Ref) (w : World m Ref W) :
    responses (((t.failed err).run rt req snap).run w).log =
      responses ((handlersAnswer rt req snap t.isTrivial err).run w).log ++
        match ((handlersAnswer rt req snap t.isTrivial err).run w).result with
        | .ok false => fallbackCalls rt err
        | _ => [] := by
  rw [failed_run]
  rcases hr : (handlersAnswer rt req snap t.isTrivial err).run w with ⟨r, w', l⟩
  cases r with
  | error e =>
    rw [bind_run_error hr]
    exact (List.append_nil _).symm
  | ok answered =>
    rw [bind_run_ok hr, Ending.log_after, responses_append,
      log_bind_of_silent fun _ => logs_exit _]
    cases answered with
    | true => rfl
    | false =>
      show _ ++ responses ((sendErrorFallback rt req err).run w').log = _
      rw [sendErrorFallback_responses]

end

end OxyRoute
