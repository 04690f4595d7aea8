import OxyRoute.Native.ErrorPaths
import OxyRoute.Native.Resolution

/-!
# What is gathered for a handler

The stages of a route before its handler, as one computation, and where the keyword arguments of
a handler call come from: what these stages returned in the run that made the call.

## Main definitions

- `gatherInput` — the stages, up to the dependencies
- `Gathers` — the stages of a run returned this input and these keywords of a JSON body

## Main results

- `called_gathers` — every handler call of a run has the keywords of what was gathered
- `Gathers.input_eq`, `Gathers.deps_names`, `Gathers.json_names` — what was gathered, from the route
  and the request
-/

namespace OxyRoute

open Routine

variable {m : Matchit} {Ref W : Type}

section

variable (rt : Runtime m Ref W) (req : HttpRequest Ref) (snap : FrozenState m Ref)
  (entry : RouteEntry Ref)

/-- The stages of a route before its handler: the guards, the body and its form, the claims and
the dependencies. -/
def gatherInput (params : PathParams) : Dispatch m Ref W (HandlerInput Ref) := do
  checkRateLimit rt req entry
  setTemplate rt req entry.extra.pathTemplate
  let (body, bodyObject) ← readRequestBody rt req entry
  let claims ← checkJwt rt req entry
  let form ← readForm rt req snap entry body
  let ctx ← requestContext rt req snap entry
  let deps ← runDependencies rt req snap ctx entry.extra.dependencies []
  return ⟨params, queryMap rt req entry, deps, claims, body, bodyObject, form⟩

/-- In the run with this log the stages returned this input, and then the JSON body was decoded
to these keywords. -/
def Gathers (params : PathParams) (log : List (RequestEvent Ref)) (input : HandlerInput Ref)
    (json : List (String × PyVal Ref)) : Prop :=
  ∃ w w' w'' l l', (gatherInput rt req snap entry params).run w = ⟨.ok input, w', l⟩ ∧
    (jsonKwargs rt req entry input).run w' = ⟨.ok (.assign json), w'', l'⟩ ∧ l ++ l' <:+: log

end

variable {rt : Runtime m Ref W} {req : HttpRequest Ref} {snap : FrozenState m Ref}
  {entry : RouteEntry Ref} {params : PathParams}

theorem Gathers.mono {log log' : List (RequestEvent Ref)} {input : HandlerInput Ref}
    {json : List (String × PyVal Ref)} (h : Gathers rt req snap entry params log input json)
    (hlog : log <:+: log') : Gathers rt req snap entry params log' input json := by
  obtain ⟨w, w', w'', l, l', hinput, hjson, hinfix⟩ := h
  exact ⟨w, w', w'', l, l', hinput, hjson, hinfix.trans hlog⟩

theorem serveRoute_gathers (idx : ℕ) : serveRoute rt req snap entry idx params = (do
    Routine.log (.serving idx params)
    let input ← gatherInput rt req snap entry params
    let v ← callHandler rt req snap entry input
    respondOrFail rt req snap v) := by
  unfold serveRoute gatherInput
  simp only [bind_assoc, pure_bind]

theorem runDependencies_yields (ctx : Option (PyVal Ref)) (deps : List (DependencyEntry Ref))
    (prev : List (String × PyVal Ref)) :
    Yields (fun out => out.map Prod.fst = prev.map Prod.fst ++ deps.map (·.name))
      (runDependencies rt req snap ctx deps prev) := by
  induction deps generalizing prev with
  | nil => exact yields_pure (List.append_nil _).symm
  | cons dep deps ih =>
    have hany : Yields (fun _ => True) (runDependency rt req snap dep ctx prev) :=
      fun _ _ _ => trivial
    rw [runDependencies]
    refine hany.bind fun v _ => ?_
    have h := ih (prev ++ [(dep.name, v)])
    rwa [List.map_append, List.append_assoc] at h

theorem gatherInput_yields : Yields (fun input => input.params = params ∧
    input.query = queryMap rt req entry ∧ input.claims.isSome = entry.requireJwt ∧
    input.deps.map Prod.fst = entry.extra.dependencies.map (·.name))
    (gatherInput rt req snap entry params) := by
  have hany {α : Type} (c : Dispatch m Ref W α) : Yields (fun _ => True) c := fun _ _ _ => trivial
  have hjwt : Yields (fun claims => claims.isSome = entry.requireJwt) (checkJwt rt req entry) := by
    unfold checkJwt
    cases entry.requireJwt with
    | false => exact yields_pure rfl
    | true =>
      refine (hany _).bind fun headers _ => ?_
      split
      · exact yields_pure rfl
      · exact (hany _).bind fun _ _ => yields_exit _
  unfold gatherInput
  refine (hany _).bind fun _ _ => (hany _).bind fun _ _ => (hany _).bind fun body _ => ?_
  refine hjwt.bind fun claims hclaims => ?_
  refine (hany _).bind fun form _ => (hany _).bind fun ctx _ => ?_
  refine (runDependencies_yields ctx _ []).bind fun deps hdeps => ?_
  exact yields_pure ⟨rfl, rfl, hclaims, hdeps⟩

theorem Gathers.input_eq {log : List (RequestEvent Ref)} {input : HandlerInput Ref}
    {json : List (String × PyVal Ref)} (h : Gathers rt req snap entry params log input json) :
    input.params = params ∧ input.query = queryMap rt req entry ∧
      input.claims.isSome = entry.requireJwt := by
  obtain ⟨w, w', w'', l, l', hinput, -, -⟩ := h
  obtain ⟨hparams, hquery, hclaims, -⟩ := gatherInput_yields w input (by rw [hinput])
  exact ⟨hparams, hquery, hclaims⟩

theorem Gathers.deps_names {log : List (RequestEvent Ref)} {input : HandlerInput Ref}
    {json : List (String × PyVal Ref)} (h : Gathers rt req snap entry params log input json) :
    input.deps.map Prod.fst = entry.extra.dependencies.map (·.name) := by
  obtain ⟨w, w', w'', l, l', hinput, -, -⟩ := h
  obtain ⟨-, -, -, hdeps⟩ := gatherInput_yields w input (by rw [hinput])
  exact hdeps

theorem Gathers.json_names {log : List (RequestEvent Ref)} {input : HandlerInput Ref}
    {json : List (String × PyVal Ref)} (h : Gathers rt req snap entry params log input json) :
    json.map Prod.fst =
      if hasJsonBody entry req.method input.body then jsonTargets entry else [] := by
  obtain ⟨w, w', w'', l, l', -, hjson, -⟩ := h
  unfold jsonKwargs at hjson
  by_cases hbody : hasJsonBody entry req.method input.body = true
  · rw [if_pos hbody] at hjson ⊢
    rcases decodeJsonBody_run rt req snap entry [] input w' with
      ⟨json', w₁, l₁, hr, hnames, -, -⟩ | ⟨text, -, hr⟩ | ⟨err, detail, w₁, w₂, -, hr⟩
    · rw [hr] at hjson
      cases hjson
      exact hnames
    · rw [hr] at hjson
      cases hjson
    · rw [hr] at hjson
      cases hjson
  · rw [if_neg hbody] at hjson ⊢
    cases hjson
    rfl

-- ════════════════════════════════════════════════════════════════════════
-- Handler calls
-- ════════════════════════════════════════════════════════════════════════

/-- An event that is no call of a handler. -/
def NotHandler : RequestEvent Ref → Prop
  | .handler _ _ => False
  | _ => True

theorem not_notHandler (f : Ref) (kwargs : Dict String (PyVal Ref)) :
    ¬ NotHandler (.handler f kwargs) :=
  id

theorem holdsBefore_notHandler : HoldsBefore (NotHandler : RequestEvent Ref → Prop) where
  answer i h := by
    cases i with
    | handler f kwargs => exact h
    | _ => trivial
  middleware _ _ := trivial
  rateLimited _ _ := trivial
  bodyRead _ := trivial

theorem runDependencies_notHandler (ctx : Option (PyVal Ref)) (deps : List (DependencyEntry Ref))
    (prev : List (String × PyVal Ref)) :
    Logs NotHandler (runDependencies rt req snap ctx deps prev) := by
  have hcall (dep : DependencyEntry Ref) (prev : List (String × PyVal Ref)) :
      Logs NotHandler (callFactory rt dep ctx prev) := by
    unfold callFactory
    refine Logs.bind (logs_log ?_) fun _ => (logs_effect _).bind fun r => ?_
    · trivial
    · exact Logs.ite ((logs_ofExcept _).bind fun _ => logs_effect _) (logs_pure _)
  have hquery (o : PyVal Ref) : Logs NotHandler (resolveQuery rt snap o) := by
    unfold resolveQuery
    split
    · exact logs_pure _
    · exact logs_effect _
    · exact logs_exit _
  have hdep (dep : DependencyEntry Ref) (prev : List (String × PyVal Ref)) :
      Logs NotHandler (runDependency rt req snap dep ctx prev) := by
    unfold runDependency
    refine ((hcall dep prev).bind hquery).attempt.bind fun out => ?_
    refine Logs.bind (logs_log ?_) fun _ => ?_
    · trivial
    · cases out with
      | ok v => exact logs_pure v
      | error e => exact holdsBefore_notHandler.of_answers (failWith_logs rt req snap e)
  induction deps generalizing prev with
  | nil => exact logs_pure _
  | cons dep deps ih =>
    rw [runDependencies]
    exact (hdep dep prev).bind fun v => ih _

theorem gatherInput_notHandler : Logs NotHandler (gatherInput rt req snap entry params) := by
  have hP : HoldsBefore (NotHandler : RequestEvent Ref → Prop) := holdsBefore_notHandler
  unfold gatherInput
  refine (checkRateLimit_logs hP).bind fun _ => ?_
  refine (logs_effect _).bind fun _ => ?_
  refine (readRequestBody_logs hP).bind fun body => ?_
  refine (checkJwt_logs hP).bind fun claims => ?_
  refine (readForm_logs hP).bind fun form => ?_
  refine (requestContext_logs hP).bind fun ctx => ?_
  refine (runDependencies_notHandler ctx _ _).bind fun deps => ?_
  exact logs_pure _

theorem jsonKwargs_notHandler {input : HandlerInput Ref} :
    Logs NotHandler (jsonKwargs rt req entry input) :=
  (decodeJsonBody_logs rt (fun _ => trivial) entry input).ite (logs_pure _)

/-- The handler is called with the keywords of what was gathered. -/
theorem runHandler_called {input : HandlerInput Ref} {f : Ref} {kwargs : Dict String (PyVal Ref)}
    {w : World m Ref W} (h : .handler f kwargs ∈ ((runHandler rt req entry input).run w).log) :
    ∃ json w' l, (jsonKwargs rt req entry input).run w = ⟨.ok (.assign json), w', l⟩ ∧
      l <+: ((runHandler rt req entry input).run w).log ∧
      kwargs = .ofList (allKwargs req entry input json) := by
  have hinvoke (kw : Dict String (PyVal Ref)) (w : World m Ref W)
      (h : .handler f kwargs ∈ ((do return .ok (← invokeHandler rt entry kw) :
        PyResult m Ref W (RunHandlerResult Ref)).run w).log) : kwargs = kw := by
    have hcall := mem_of_bind (P := NotHandler) (fun r => logs_pure _) (not_notHandler f kwargs) h
    have heq := mem_of_bind (P := NotHandler) (fun r => logs_effect _) (not_notHandler f kwargs) hcall
    cases List.mem_singleton.mp heq
    rfl
  unfold runHandler at h ⊢
  cases huse : shouldUseKwargs req entry input with
  | true =>
    rw [huse, if_pos rfl] at h
    rw [if_pos rfl]
    obtain ⟨outcome, w', l, hr, h⟩ := jsonKwargs_notHandler.mem_bind (not_notHandler f kwargs) h
    cases outcome with
    | assign json =>
      have hlog : ((jsonKwargs rt req entry input).run w).log = l := by rw [hr]
      refine ⟨json, w', l, hr, ?_, hinvoke _ w' h⟩
      rw [← hlog]
      exact prefix_log_bind _ _ w
    | validationError text => exact absurd h List.not_mem_nil
    | jsonParseError text => exact absurd h List.not_mem_nil
  | false =>
    rw [huse, if_neg Bool.false_ne_true] at h
    rw [if_neg Bool.false_ne_true]
    have hjson : hasJsonBody entry req.method input.body = false := by
      simp only [shouldUseKwargs, Bool.or_eq_false_iff] at huse
      exact huse.1.1.1.2
    refine ⟨[], w, [], ?_, List.nil_prefix, ?_⟩
    · rw [jsonKwargs, hjson]
      rfl
    · rw [allKwargs_eq_nil huse, hinvoke _ w h]
      rfl

theorem callHandler_called {input : HandlerInput Ref} {f : Ref} {kwargs : Dict String (PyVal Ref)}
    {w : World m Ref W} (h : .handler f kwargs ∈ ((callHandler rt req snap entry input).run w).log) :
    ∃ json w' l, (jsonKwargs rt req entry input).run w = ⟨.ok (.assign json), w', l⟩ ∧
      l <+: ((callHandler rt req snap entry input).run w).log ∧
      kwargs = .ofList (allKwargs req entry input json) := by
  unfold callHandler at h ⊢
  have hrun := mem_of_bind (P := NotHandler) ?_ (not_notHandler f kwargs) h
  · rw [attempt_run] at hrun
    obtain ⟨json, w', l, hjson, hprefix, hkwargs⟩ := runHandler_called hrun
    have hattempt : l <+: ((attempt (runHandler rt req entry input) :
        Dispatch m Ref W (Except (PyErr Ref) (RunHandlerResult Ref))).run w).log := by
      rw [attempt_run]
      exact hprefix
    exact ⟨json, w', l, hjson, hattempt.trans (prefix_log_bind _ _ w), hkwargs⟩
  · intro r
    have hP : HoldsBefore (NotHandler : RequestEvent Ref → Prop) := holdsBefore_notHandler
    split
    · exact hP.of_answers (failWith_logs rt req snap _)
    · exact hP.of_answers (rejectJson_logs rt req _ _)
    · exact hP.of_answers (rejectJson_logs rt req _ _)
    · next res =>
      have hvalue : Logs NotHandler (handlerValue rt entry res) := by
        unfold handlerValue
        exact Logs.ite ((logs_ofExcept _).bind fun _ => logs_effect _) (logs_pure _)
      refine hvalue.attempt.bind fun r => ?_
      split
      · exact logs_pure _
      · exact hP.of_answers (failWith_logs rt req snap _)

-- ════════════════════════════════════════════════════════════════════════
-- Requests
-- ════════════════════════════════════════════════════════════════════════

/-- The handler calls of a run have the keywords of what was gathered for the route that serves
the request. -/
def CallsGathered {α : Type} (rt : Runtime m Ref W) (req : HttpRequest Ref)
    (snap : FrozenState m Ref) (c : Dispatch m Ref W α) : Prop :=
  ∀ w f kwargs, .handler f kwargs ∈ (c.run w).log → ∃ idx params entry input json,
    .serving idx params ∈ (c.run w).log ∧ snap.routes[idx]? = some entry ∧
      Gathers rt req snap entry params (c.run w).log input json ∧
      kwargs = .ofList (allKwargs req entry input json)

section

variable {α β : Type}

theorem callsGathered_of_logs {c : Dispatch m Ref W α} (h : Logs NotHandler c) :
    CallsGathered rt req snap c :=
  fun w f kwargs hmem => absurd (h w _ hmem) (not_notHandler f kwargs)

theorem CallsGathered.bind {c : Dispatch m Ref W α} (hc : CallsGathered rt req snap c)
    {k : α → Dispatch m Ref W β} (hk : ∀ a, CallsGathered rt req snap (k a)) :
    CallsGathered rt req snap (c >>= k) := by
  intro w f kwargs h
  have hw := hc w f kwargs
  rcases hr : c.run w with ⟨r, w', l⟩
  rw [hr] at hw
  cases r with
  | error e =>
    rw [bind_run_error hr] at h ⊢
    exact hw h
  | ok a =>
    rw [bind_run_ok hr, Ending.log_after] at h ⊢
    rcases List.mem_append.mp h with h | h
    · obtain ⟨idx, params, entry, input, json, hserving, hentry, hgathers, hkwargs⟩ := hw h
      exact ⟨idx, params, entry, input, json, List.mem_append_left _ hserving, hentry,
        hgathers.mono (List.prefix_append l _).isInfix, hkwargs⟩
    · obtain ⟨idx, params, entry, input, json, hserving, hentry, hgathers, hkwargs⟩ :=
        hk a w' f kwargs h
      exact ⟨idx, params, entry, input, json, List.mem_append_right l hserving, hentry,
        hgathers.mono (List.suffix_append l _).isInfix, hkwargs⟩

theorem CallsGathered.ite {c d : Dispatch m Ref W α} {p : Prop} [Decidable p]
    (hc : CallsGathered rt req snap c) (hd : CallsGathered rt req snap d) :
    CallsGathered rt req snap (if p then c else d) := by
  split
  · exact hc
  · exact hd

end

theorem serveRoute_callsGathered {idx : ℕ} (hentry : snap.routes[idx]? = some entry) :
    CallsGathered rt req snap (serveRoute rt req snap entry idx params) := by
  intro w f kwargs h
  rw [serveRoute_gathers] at h ⊢
  rw [log_bind_run, Ending.log_after] at h ⊢
  have hrest := (List.mem_append.mp h).resolve_left fun hin => by cases List.mem_singleton.mp hin
  obtain ⟨input, w', l, hinput, hhandler⟩ :=
    gatherInput_notHandler.mem_bind (not_notHandler f kwargs) hrest
  have hanswer (v : PyVal Ref) :
      Logs NotHandler (respondOrFail rt req snap v : Dispatch m Ref W Unit) :=
    holdsBefore_notHandler.of_answers (respondOrFail_logs rt req snap v)
  have hcall := mem_of_bind hanswer (not_notHandler f kwargs) hhandler
  obtain ⟨json, w'', l', hjson, hprefix, hkwargs⟩ := callHandler_called hcall
  rw [bind_run_ok hinput, Ending.log_after]
  refine ⟨idx, params, entry, input, json, List.mem_cons_self, hentry,
    ⟨w, w', w'', l, l', hinput, hjson, ?_⟩, hkwargs⟩
  apply List.IsInfix.trans _ (List.suffix_append _ _).isInfix
  exact ((List.prefix_append_right_inj l).mpr ( hprefix.trans (prefix_log_bind _ _ w'))).isInfix

/-- For a plain route nothing is gathered but the path parameters. -/
theorem PlainRoute.gathers (h : PlainRoute entry) (w : World m Ref W)
    (log : List (RequestEvent Ref)) :
    Gathers rt req snap entry params log (plainInput rt req entry params) [] := by
  have hgather : gatherInput rt req snap entry params =
      setTemplate rt req entry.extra.pathTemplate >>= fun _ =>
        pure (plainInput rt req entry params) := by
    unfold gatherInput
    simp only [h.checkRateLimit_eq, h.readRequestBody_eq, h.checkJwt_eq, h.readForm_eq,
      h.requestContext_eq, h.dependencies, pure_bind, runDependencies, plainInput]
  have hjson : jsonKwargs rt req entry (plainInput rt req entry params) = pure (.assign []) := by
    unfold jsonKwargs
    rw [h.hasJsonBody]
    rfl
  let w' := rt.setPathTemplate req.protocol entry.extra.pathTemplate w
  have hrun : (gatherInput rt req snap entry params).run w =
      ⟨.ok (plainInput rt req entry params), w', []⟩ := by
    rw [hgather]
    rfl
  have hjsonrun : (jsonKwargs rt req entry (plainInput rt req entry params)).run w' =
      ⟨.ok (.assign []), w', []⟩ := by
    rw [hjson]
    rfl
  exact ⟨w, w', w', [], [], hrun, hjsonrun, List.nil_infix⟩

theorem runTrivialSyncRoute_callsGathered {idx : ℕ} (hentry : snap.routes[idx]? = some entry)
    (hplain : PlainRoute entry) :
    CallsGathered rt req snap (runTrivialSyncRoute rt req snap entry idx params) := by
  intro w f kwargs h
  obtain ⟨answers, hanswers, hlog⟩ := runTrivialSyncRoute_log rt req snap entry idx params w
  rw [hlog] at h ⊢
  have hkwargs : kwargs = pathOnly entry params := by
    rcases List.mem_cons.mp h with h | h
    · cases h
    · rcases List.mem_cons.mp h with h | h
      · cases h
        rfl
      · exact (hanswers _ h).elim
  refine ⟨idx, params, entry, plainInput rt req entry params, [], List.mem_cons_self, hentry,
    hplain.gathers w _, ?_⟩
  rw [hkwargs, hplain.allKwargs_eq]

theorem tryRsgiSyncShortCircuit_callsGathered (hprepared : ∀ entry ∈ snap.routes, Prepared entry) :
    CallsGathered rt req snap (tryRsgiSyncShortCircuit rt req snap) := by
  have hpure : CallsGathered rt req snap (pure () : Dispatch m Ref W Unit) :=
    callsGathered_of_logs (logs_pure ())
  have hpre {α : Type} {c : Dispatch m Ref W α} (h : Preliminary c) : CallsGathered rt req snap c :=
    callsGathered_of_logs (h.logs holdsBefore_notHandler)
  have hroute : CallsGathered rt req snap (routeTrivialSync rt req snap) := by
    unfold routeTrivialSync
    refine (hpre compiledTables_preliminary).bind fun compiled => ?_
    refine (hpre (matchRoute_preliminary compiled)).bind fun ⟨idx, params⟩ => ?_
    refine hpure.ite ?_
    unfold routeEntry
    cases hentry : snap.routes[idx]? with
    | none => exact callsGathered_of_logs (logs_exit _)
    | some entry =>
      dsimp only
      rw [pure_bind]
      split
      · next htrivial =>
        have hplain := (hprepared entry (List.mem_of_getElem? hentry)).plain htrivial
        exact (runTrivialSyncRoute_callsGathered hentry hplain).bind fun _ =>
          callsGathered_of_logs (logs_exit _)
      · exact hpure
  unfold tryRsgiSyncShortCircuit
  refine (hpre answerPreflight_preliminary).bind fun _ => hpure.ite ?_
  split
  · exact (hpre serveOpenapi_preliminary).bind fun _ => hroute
  · exact hroute

theorem runRsgi_callsGathered : CallsGathered rt req snap (runRsgi rt req snap) := by
  have hpre {α : Type} {c : Dispatch m Ref W α} (h : Preliminary c) : CallsGathered rt req snap c :=
    callsGathered_of_logs (h.logs holdsBefore_notHandler)
  have hroute : CallsGathered rt req snap (routeAndServe rt req snap) := by
    unfold routeAndServe
    refine (hpre compiledTables_preliminary).bind fun compiled => ?_
    refine (hpre (matchRoute_preliminary compiled)).bind fun ⟨idx, params⟩ => ?_
    unfold routeEntry
    dsimp only
    cases hentry : snap.routes[idx]? with
    | none =>
      apply callsGathered_of_logs
      exact logs_exit (P := NotHandler) (Exit.raised (.runtimeError "route index"))
    | some entry => exact serveRoute_callsGathered hentry
  have hrest : CallsGathered rt req snap (do
      answerPreflight rt req snap
      runMiddleware rt req snap snap.requestMiddleware
      routeAndServe rt req snap) :=
    (hpre answerPreflight_preliminary).bind fun _ =>
      (callsGathered_of_logs (runMiddleware_logs holdsBefore_notHandler _)).bind fun _ => hroute
  unfold runRsgi
  split
  · exact (hpre serveOpenapi_preliminary).bind fun _ => hrest
  · exact hrest

variable (rt req) in
theorem dispatch_callsGathered {w : World m Ref W} (hprepared : AllPrepared w.app) {f : Ref}
    {kwargs : Dict String (PyVal Ref)} (h : .handler f kwargs ∈ ((dispatch rt req).run w).log) :
    ∃ idx params entry input json, .serving idx params ∈ ((dispatch rt req).run w).log ∧
      w.app.hotSnapshot.routes[idx]? = some entry ∧
      Gathers rt req w.app.hotSnapshot entry params ((dispatch rt req).run w).log input json ∧
      kwargs = .ofList (allKwargs req entry input json) := by
  rw [dispatch, bind_run_ok (get_run w), Ending.after_nil] at h ⊢
  refine CallsGathered.bind (tryRsgiSyncShortCircuit_callsGathered hprepared.2) (fun _ => ?_) w f
    kwargs h
  exact (callsGathered_of_logs (logs_effect _)).bind fun _ => runRsgi_callsGathered

/-- A handler is called with the keywords of what was gathered for it. -/
theorem called_gathers {w : World m Ref W} (hprepared : AllPrepared w.app) {idx : ℕ}
    (hserving : .serving idx params ∈ ((dispatch rt req).run w).log)
    (hentry : w.app.hotSnapshot.routes[idx]? = some entry) {f : Ref}
    {kwargs : Dict String (PyVal Ref)} (h : .handler f kwargs ∈ ((dispatch rt req).run w).log) :
    ∃ input json,
      Gathers rt req w.app.hotSnapshot entry params ((dispatch rt req).run w).log input json ∧
      kwargs = .ofList (allKwargs req entry input json) := by
  obtain ⟨idx', params', entry', input, json, hserving', hentry', hgathers, hkwargs⟩ :=
    dispatch_callsGathered rt req hprepared h
  obtain ⟨rfl, rfl⟩ :=
    serving_unique (dispatch_guardedRun rt req w hprepared).calls hserving hserving'
  rw [hentry] at hentry'
  cases hentry'
  exact ⟨input, json, hgathers, hkwargs⟩

end OxyRoute
