import OxyRoute.Native.Guards

/-!
# Guarded requests

Every run of the dispatcher respects the guards of the route it serves: dependency factories and
the handler are called after the guards they need, and a run that does not call the handler ends
in the answer of the first guard that failed. There is one lemma for each stage of `run_rsgi`.

## Main definitions

- `GuardedRun` — a run respects the guards

## Main results

- `serveRoute_guarded` — serving a route respects them
- `guarded_dispatch` — every run of the dispatcher does
-/

namespace OxyRoute

open Routine GuardChain

variable {m : Matchit} {Ref W : Type} {rt : Runtime m Ref W} {req : HttpRequest Ref}
  {snap : FrozenState m Ref} {entry : RouteEntry Ref} {hist : List (RequestEvent Ref)}
  {w : World m Ref W}

theorem Guard.rank_injective {g g' : Guard} (h : g.rank = g'.rank) : g = g' := by
  cases g <;> cases g' <;> first | rfl | exact absurd h (by decide)

/-- The guards before a guard, and it, are the guards before the next. -/
theorem upTo_next {g g' : Guard} (hg : g'.rank = g.rank + 1)
    (hup : (routeGuards rt req snap entry).UpTo g hist)
    (hpassed : Passed rt req snap entry g hist) :
    (routeGuards rt req snap entry).UpTo g' hist := by
  intro g'' hlt
  have hle : g''.rank < g.rank + 1 := hg ▸ hlt
  rcases Nat.lt_succ_iff_lt_or_eq.mp hle with h | h
  · exact hup g'' h
  · rw [Guard.rank_injective h]
    exact hpassed

/-- Answers are allowed anywhere. -/
theorem IsAnswer.allowed {i : RequestEvent Ref} (h : IsAnswer i) (hist : List (RequestEvent Ref)) :
    CallAllowed rt req snap hist i := by
  cases i with
  | exceptionHandler _ => trivial
  | sent _ => trivial
  | _ => exact h.elim

theorem logs_allowed {α : Type} {c : Dispatch m Ref W α} (h : c.Logs IsAnswer) :
    c.Logs fun i => ∀ hist, (routeGuards rt req snap entry).allowed hist i :=
  fun s i hi hist => (h s i hi).allowed hist

variable {α : Type} {P : α → List (RequestEvent Ref) → Prop}

/-- A guard that fails, and answers with a last response call. -/
theorem finish_guarded {g : Guard} {c : PyResult m Ref W Unit} (hlogs : Logs IsAnswer c)
    (hup : (routeGuards rt req snap entry).UpTo g hist)
    (hrej : Rejection rt req snap entry g hist (finish c)) :
    (routeGuards rt req snap entry).Guarded hist (finish c : Dispatch m Ref W α) w P :=
  guarded_reject (finish_exitsAs c w) (logs_allowed (finish_logs hlogs)) hup hrej

/-- A guard that fails, and answers an error of Python code. -/
theorem failWith_guarded {g : Guard} {err : PyErr Ref}
    (hup : (routeGuards rt req snap entry).UpTo g hist)
    (hrej : Rejection rt req snap entry g hist (failWith rt req snap err)) :
    (routeGuards rt req snap entry).Guarded hist
      (failWith rt req snap err : Dispatch m Ref W α) w P :=
  guarded_reject (failWith_exitsAs rt req snap err w) (logs_allowed (failWith_logs rt req snap err))
    hup hrej

/-- A guard that fails with an error for the caller. -/
theorem exit_guarded {g : Guard} {e : Exit Ref}
    (hup : (routeGuards rt req snap entry).UpTo g hist)
    (hrej : Rejection rt req snap entry g hist (exit e)) :
    (routeGuards rt req snap entry).Guarded hist (exit e : Dispatch m Ref W α) w P :=
  guarded_reject (exitsAs_exit e w) (logs_allowed (logs_exit e)) hup hrej

-- ════════════════════════════════════════════════════════════════════════
-- Rate limit and body
-- ════════════════════════════════════════════════════════════════════════

theorem checkRateLimit_guarded (hup : (routeGuards rt req snap entry).UpTo .rateLimit hist) :
    (routeGuards rt req snap entry).Guarded hist (checkRateLimit rt req entry) w
      fun _ => (routeGuards rt req snap entry).UpTo .declaredLength := by
  unfold checkRateLimit
  split
  · next hnone =>
    refine guarded_pure (upTo_next rfl hup fun rl hrl => ?_)
    rw [hnone] at hrl
    cases hrl
  · next rl hrl =>
    refine guarded_bind_run (effect_run _ w) trivial ?_
    rw [List.append_nil]
    generalize (rt.rateLimit rl (extractRateLimitKey rt.toInspection req rl.keyStrategy) w).1 =
      decision
    refine guarded_bind_run (log_run _ _) ⟨trivial, trivial⟩ ?_
    have hup' := hup.append [.rateLimited
      (extractRateLimitKey rt.toInspection req rl.keyStrategy) decision]
    have hmem : RequestEvent.rateLimited
        (extractRateLimitKey rt.toInspection req rl.keyStrategy) decision ∈
        hist ++ [.rateLimited (extractRateLimitKey rt.toInspection req rl.keyStrategy) decision] :=
      List.mem_append_right hist List.mem_cons_self
    cases decision with
    | allowed limit remaining resetSecs =>
      refine guarded_pure (upTo_next rfl hup' fun rl' hrl' => ?_)
      obtain rfl : rl = rl' := Option.some.inj (hrl.symm.trans hrl')
      exact ⟨limit, remaining, resetSecs, hmem⟩
    | denied limit resetSecs =>
      exact finish_guarded (respond_logs rt req _) hup' (.rateLimitDenied hrl hmem)

theorem checkDeclaredLength_guarded (hread : entry.shouldReadBody = true)
    (hup : (routeGuards rt req snap entry).UpTo .declaredLength hist) :
    (routeGuards rt req snap entry).Guarded hist (checkDeclaredLength rt req) w
      fun _ => (routeGuards rt req snap entry).UpTo .bodyRead := by
  unfold checkDeclaredLength
  split
  · next len hlen =>
    split
    · next hlt =>
      exact finish_guarded (sendText_logs rt req _ _ _) hup (.declaredTooLong hread hlen hlt)
    · next hle =>
      refine guarded_pure (upTo_next rfl hup fun _ len' hlen' => ?_)
      obtain rfl : len = len' := Option.some.inj (hlen.symm.trans hlen')
      exact Nat.le_of_not_lt hle
  · next hnone =>
    refine guarded_pure (upTo_next rfl hup fun _ len hlen => ?_)
    rw [hnone] at hlen
    cases hlen

theorem readWithinLimit_guarded
    (hup : (routeGuards rt req snap entry).UpTo .bodyRead hist) :
    (routeGuards rt req snap entry).Guarded hist (readWithinLimit rt req) w
      fun body h => (routeGuards rt req snap entry).UpTo .jwt h ∧ BodyRead rt h body.1 := by
  rcases hr : rt.readBody req.protocol w with ⟨read, w'⟩
  have hrun : (attempt (effect (rt.readBody req.protocol)) : Dispatch m Ref W _).run w =
      ⟨.ok read, w', []⟩ := by
    rw [attempt_run, effect_run, hr]
  refine guarded_bind_run hrun trivial ?_
  rw [List.append_nil]
  refine guarded_bind_run (log_run _ w') ⟨trivial, trivial⟩ ?_
  have hup' := hup.append [.bodyRead read]
  have hmem : RequestEvent.bodyRead read ∈ hist ++ [.bodyRead read] :=
    List.mem_append_right hist List.mem_cons_self
  cases read with
  | error e => exact exit_guarded hup' (.bodyNotRead hmem)
  | ok v =>
    have hbody : BodyRead rt (hist ++ [.bodyRead (.ok v)]) (requestBody rt.toInspection v).1 :=
      ⟨v, hmem, rfl⟩
    have hup'' : (routeGuards rt req snap entry).UpTo .bodyLength _ :=
      upTo_next rfl hup' fun _ => ⟨_, hbody⟩
    change (routeGuards rt req snap entry).Guarded _
      (if _ then payloadTooLarge rt req else pure (requestBody rt.toInspection v)) _ _
    split
    · next hlt => exact finish_guarded (sendText_logs rt req _ _ _) hup'' (.bodyTooLong hbody hlt)
    · next hle =>
      exact guarded_pure
        ⟨upTo_next rfl hup'' fun _ => ⟨_, hbody, Nat.le_of_not_lt hle⟩, hbody⟩

theorem readRequestBody_guarded
    (hup : (routeGuards rt req snap entry).UpTo .declaredLength hist) :
    (routeGuards rt req snap entry).Guarded hist (readRequestBody rt req entry) w
      fun body h => (routeGuards rt req snap entry).UpTo .jwt h ∧
        BodyKnown rt entry h body.1 := by
  unfold readRequestBody
  split
  · next hread =>
    refine (checkDeclaredLength_guarded hread hup).bind fun _ w' l hup' => ?_
    refine (readWithinLimit_guarded hup').mono fun body l' ⟨h, hb⟩ => ⟨h, fun _ => hb, fun hno => ?_⟩
    rw [hread] at hno
    cases hno
  · next hread =>
    have hup₁ : (routeGuards rt req snap entry).UpTo .bodyRead hist :=
      upTo_next rfl hup fun h => absurd h hread
    have hup₂ : (routeGuards rt req snap entry).UpTo .bodyLength hist :=
      upTo_next rfl hup₁ fun h => absurd h hread
    exact guarded_pure
      ⟨upTo_next rfl hup₂ fun h => absurd h hread, fun h => absurd h hread, fun _ => rfl⟩

-- ════════════════════════════════════════════════════════════════════════
-- JWT and forms
-- ════════════════════════════════════════════════════════════════════════

/-- The token the code takes is the token of the request. -/
theorem requestToken_eq_some_iff {jwtCookie auth cookieRaw : Option String} {token : String} :
    requestToken jwtCookie auth cookieRaw = some token ↔
      IsRequestToken jwtCookie auth cookieRaw token := by
  unfold requestToken
  constructor
  · intro h
    split at h
    · next t ht =>
      obtain rfl : t = token := Option.some.inj h
      obtain ⟨hauth, hne⟩ := Option.filter_eq_some_iff.mp ht
      exact .bearer hauth (of_decide_eq_true hne)
    · next hnone =>
      split at h
      · next name raw =>
        obtain ⟨hval, hne⟩ := Option.filter_eq_some_iff.mp h
        refine .cookie (fun t ht => ?_) rfl rfl hval (of_decide_eq_true hne)
        have := Option.filter_eq_none_iff.mp hnone t ht
        simpa using this
      · cases h
  · intro h
    cases h with
    | bearer hauth hne =>
      have hfilter : (extractBearer auth).filter (· ≠ "") = some token :=
        Option.filter_eq_some_iff.mpr ⟨hauth, decide_eq_true hne⟩
      rw [hfilter]
    | cookie hnone hname hraw hval hne =>
      have hfilter : (extractBearer auth).filter (· ≠ "") = none :=
        Option.filter_eq_none_iff.mpr fun t ht => by simpa using hnone t ht
      rw [hfilter, hname, hraw]
      exact Option.filter_eq_some_iff.mpr ⟨hval, decide_eq_true hne⟩

variable (rt entry) in
/-- What the JWT check decides. -/
theorem authenticate_cases (headers : PyVal Ref) :
    (∃ token dk val claims, authenticate rt entry headers = .ok claims ∧
      HasToken rt entry headers token ∧ entry.extra.jwtDecodingKey = some dk ∧
      entry.extra.jwtValidation = some val ∧ rt.decodeJwt token dk val = .ok claims) ∨
    ∃ text, authenticate rt entry headers = .error text ∧ JwtRefusal rt entry headers text := by
  unfold authenticate
  dsimp only
  split
  · next dk val hdk hval =>
    split
    · next hnone =>
      refine .inr ⟨_, rfl, .noToken fun token htoken => ?_⟩
      rw [requestToken_eq_some_iff.mpr htoken] at hnone
      cases hnone
    · next token htoken =>
      have hhas : HasToken rt entry headers token := requestToken_eq_some_iff.mp htoken
      split
      · next claims hdec => exact .inl ⟨token, dk, val, claims, rfl, hhas, hdk, hval, hdec⟩
      · next hdec => exact .inr ⟨_, rfl, .refused hhas hdk hval hdec⟩
      · next hdec => exact .inr ⟨_, rfl, .refused hhas hdk hval hdec⟩
  · next hno =>
    refine .inr ⟨_, rfl, .noKey ?_⟩
    cases hdk : entry.extra.jwtDecodingKey with
    | none => exact .inl rfl
    | some dk =>
      cases hval : entry.extra.jwtValidation with
      | none => exact .inr rfl
      | some val => exact (hno dk val hdk hval).elim

theorem checkJwt_guarded (hup : (routeGuards rt req snap entry).UpTo .jwt hist) :
    (routeGuards rt req snap entry).Guarded hist (checkJwt rt req entry) w
      fun claims h => (routeGuards rt req snap entry).UpTo .form h ∧
        claims.isSome = entry.requireJwt := by
  unfold checkJwt
  split
  · next hjwt =>
    cases hheaders : req.headers with
    | error e => exact exit_guarded hup (.noHeaders hjwt hheaders)
    | ok headers =>
      change (routeGuards rt req snap entry).Guarded hist (orRaise (pure headers) >>= _) w _
      rw [orRaise, handle_pure, pure_bind]
      rcases authenticate_cases rt entry headers with
        ⟨token, dk, val, claims, hauth, hpassed⟩ | ⟨text, hauth, hrefusal⟩
      · rw [hauth]
        exact guarded_pure
          ⟨upTo_next rfl hup fun _ => ⟨headers, token, dk, val, claims, hheaders, hpassed⟩,
            hjwt.symm⟩
      · rw [hauth]
        exact finish_guarded (sendText_logs rt req _ _ _) hup
          (.unauthorized hjwt hheaders hrefusal)
  · next hjwt =>
    exact guarded_pure ⟨upTo_next rfl hup fun h => absurd h hjwt, (Bool.eq_false_iff.mpr hjwt).symm⟩

theorem readForm_guarded {body : List UInt8}
    (hup : (routeGuards rt req snap entry).UpTo .form hist)
    (hbody : BodyKnown rt entry hist body) :
    (routeGuards rt req snap entry).Guarded hist (readForm rt req snap entry body) w
      fun _ => (routeGuards rt req snap entry).UpTo .dependencies := by
  unfold readForm
  split
  · next happlies =>
    have hread : BodyRead rt hist body :=
      hbody.1 (by simp only [Bool.and_eq_true] at happlies; simp [RouteEntry.shouldReadBody, happlies.1])
    split
    · next form hform =>
      exact guarded_pure (upTo_next rfl hup fun _ _ => ⟨body, form, hread, hform⟩)
    · next e hform => exact failWith_guarded hup (.formNotParsed hread hform)
    · next status text hform =>
      exact finish_guarded (sendText_logs rt req _ _ _) hup (.formNotParsed hread hform)
  · next happlies =>
    refine guarded_pure (upTo_next rfl hup fun hform hmethod => ?_)
    simp [hform, hmethod] at happlies

-- ════════════════════════════════════════════════════════════════════════
-- Dependencies
-- ════════════════════════════════════════════════════════════════════════

theorem requestContext_guarded (hup : (routeGuards rt req snap entry).UpTo .dependencies hist) :
    (routeGuards rt req snap entry).Guarded hist (requestContext rt req snap entry) w
      fun _ h => (routeGuards rt req snap entry).UpTo .dependencies h ∧
        ((∃ dep ∈ entry.extra.dependencies, dep.wantsRequest = true) →
          ∃ ctx, rt.newRequest req.scope req.method req.path req.queryString = .ok ctx) := by
  unfold requestContext
  split
  · next hwants =>
    obtain ⟨dep, hdep, hwant⟩ := List.any_eq_true.mp hwants
    split
    · next ctx hctx => exact guarded_pure ⟨hup, fun _ => ⟨ctx, hctx⟩⟩
    · next e he => exact failWith_guarded hup (.noRequest hdep hwant he)
  · next hwants => exact guarded_pure ⟨hup, fun h => absurd (List.any_eq_true.mpr h) hwants⟩

variable (rt snap) in
/-- A call of a factory logs the call and nothing else. -/
theorem callFactory_log (dep : DependencyEntry Ref) (ctx : Option (PyVal Ref))
    (prev : List (String × PyVal Ref)) (w : World m Ref W) :
    ((callFactory rt dep ctx prev >>= resolveQuery rt snap).run w).log =
      [.factory dep.name dep.factory (factoryKwargs dep ctx prev)] := by
  have hquery (v : PyVal Ref) : Logs (fun _ => False) (resolveQuery rt snap v) := by
    unfold resolveQuery
    split
    · exact logs_pure _
    · exact logs_effect _
    · exact logs_exit _
  rw [callFactory, bind_assoc]
  refine log_bind_log (Logs.bind ((logs_effect _).bind fun r => ?_) hquery) w
  split
  · exact (logs_ofExcept _).bind fun _ => logs_effect _
  · exact logs_pure _

theorem resolved_nil : Resolved hist ([] : List (DependencyEntry Ref)) [] :=
  ⟨rfl, List.nil_sublist hist⟩

theorem Resolved.snoc {done : List (DependencyEntry Ref)} {vals : List (String × PyVal Ref)}
    (h : Resolved hist done vals) (dep : DependencyEntry Ref) (v : PyVal Ref) :
    Resolved (hist ++ [.resolved dep.name (.ok v)]) (done ++ [dep]) (vals ++ [(dep.name, v)]) := by
  refine ⟨?_, ?_⟩
  · rw [List.map_append, List.map_append, h.1]
    rfl
  · rw [List.map_append]
    exact h.2.append (List.Sublist.refl _)

/-- The request is being served from the route. -/
def Serving (snap : FrozenState m Ref) (entry : RouteEntry Ref)
    (hist : List (RequestEvent Ref)) : Prop :=
  ∃ idx params, .serving idx params ∈ hist ∧ snap.routes[idx]? = some entry

theorem Serving.append (h : Serving snap entry hist) (l : List (RequestEvent Ref)) :
    Serving snap entry (hist ++ l) := by
  obtain ⟨idx, params, hmem, hentry⟩ := h
  exact ⟨idx, params, List.mem_append_left l hmem, hentry⟩

theorem runDependency_guarded {dep : DependencyEntry Ref} {ctx : Option (PyVal Ref)}
    {prev : List (String × PyVal Ref)} {done : List (DependencyEntry Ref)}
    (hserving : Serving snap entry hist) (hdep : dep ∈ entry.extra.dependencies)
    (hup : (routeGuards rt req snap entry).UpTo .dependencies hist)
    (hdone : Resolved hist done prev) :
    (routeGuards rt req snap entry).Guarded hist (runDependency rt req snap dep ctx prev) w
      fun v h => Resolved h (done ++ [dep]) (prev ++ [(dep.name, v)]) := by
  rcases hr : (callFactory rt dep ctx prev >>= resolveQuery rt snap).run w with ⟨out, w', l⟩
  have hl := callFactory_log rt snap dep ctx prev w
  rw [hr] at hl
  subst hl
  have hrun : (attempt (callFactory rt dep ctx prev >>= resolveQuery rt snap) :
      Dispatch m Ref W _).run w =
      ⟨.ok out, w', [.factory dep.name dep.factory (factoryKwargs dep ctx prev)]⟩ := by
    rw [attempt_run, hr]
  obtain ⟨idx, params, hmem, hentry⟩ := hserving
  refine guarded_bind_run hrun
    ⟨⟨idx, params, entry, hmem, hentry, ⟨dep, hdep, rfl, rfl⟩, hup⟩, trivial⟩ ?_
  refine guarded_bind_run (log_run _ w') ⟨trivial, trivial⟩ ?_
  have hup' := (hup.append [.factory dep.name dep.factory (factoryKwargs dep ctx prev)]).append
    [.resolved dep.name out]
  cases out with
  | ok v => exact guarded_pure ((hdone.append _).snoc dep v)
  | error e =>
    exact failWith_guarded hup' (.dependencyFailed hdep (List.mem_append_right _ List.mem_cons_self))

/-- The loop over the dependencies, by induction on those that are left. -/
theorem runDependencies_guarded {ctx : Option (PyVal Ref)} {deps : List (DependencyEntry Ref)}
    {prev : List (String × PyVal Ref)} {done : List (DependencyEntry Ref)}
    (hserving : Serving snap entry hist) (hdeps : ∀ dep ∈ deps, dep ∈ entry.extra.dependencies)
    (hup : (routeGuards rt req snap entry).UpTo .dependencies hist)
    (hdone : Resolved hist done prev) :
    (routeGuards rt req snap entry).Guarded hist (runDependencies rt req snap ctx deps prev) w
      fun vals h => Resolved h (done ++ deps) vals := by
  induction deps generalizing hist prev done w with
  | nil => exact guarded_pure (by rwa [List.append_nil])
  | cons dep deps ih =>
    refine (runDependency_guarded hserving (hdeps dep List.mem_cons_self) hup hdone).bind
      fun v w' l hdone' => ?_
    have hrest : (routeGuards rt req snap entry).Guarded (hist ++ l)
        (runDependencies rt req snap ctx deps (prev ++ [(dep.name, v)])) w'
        fun vals h => Resolved h (done ++ [dep] ++ deps) vals :=
      ih (hserving.append l) (fun d hd => hdeps d (List.mem_cons_of_mem dep hd)) (hup.append l)
        hdone'
    rwa [List.append_assoc, List.singleton_append] at hrest

-- ════════════════════════════════════════════════════════════════════════
-- The handler
-- ════════════════════════════════════════════════════════════════════════

variable (rt) in
/-- The detail of a validation error is always found, without an event. -/
theorem validationDetail_run (err : PyErr Ref) (w : World m Ref W) :
    ∃ detail w', (validationDetail rt err).run w = ⟨.ok detail, w', []⟩ := by
  unfold validationDetail
  split
  · next exc _ =>
    rcases hr : rt.callMethod exc "json" [] w with ⟨res, w'⟩
    have hrun : (attempt (effect (rt.callMethod exc "json" []) : PyResult m Ref W _) :
        PyResult m Ref W _).run w = ⟨.ok res, w', []⟩ := by
      rw [attempt_run, effect_run, hr]
    rw [bind_run_ok hrun]
    split
    · split
      · exact ⟨_, _, rfl⟩
      · exact ⟨_, _, rfl⟩
    · exact ⟨_, _, rfl⟩
  · exact ⟨_, _, rfl⟩

variable (rt) in
/-- A body that is validated: it is no JSON, or the model takes it or raises. -/
theorem validateBody_run (model : Ref) (input : HandlerInput Ref) (w : World m Ref W) :
    (∃ text, rt.jsonBytesToPy input.body = .error text ∧
      (validateBody rt model input).run w = ⟨.ok (.error text), w, []⟩) ∨
    (∃ v w', (validateBody rt model input).run w = ⟨.ok (.ok v), w', []⟩) ∨
    ∃ err w', (validateBody rt model input).run w = ⟨.error err, w', []⟩ := by
  have hcall (f : World m Ref W → Except (PyErr Ref) (PyVal Ref) × World m Ref W) :
      (∃ v w', (Except.ok <$> effect f : PyResult m Ref W (Except String _)).run w =
        ⟨.ok (.ok v), w', []⟩) ∨
      ∃ err w', (Except.ok <$> effect f : PyResult m Ref W (Except String _)).run w =
        ⟨.error err, w', []⟩ := by
    rcases hr : f w with ⟨res, w'⟩
    have hrun : (effect f : PyResult m Ref W _).run w = ⟨res, w', []⟩ := by
      rw [effect_run, hr]
    cases res with
    | ok v => exact .inl ⟨v, w', bind_run_ok hrun _⟩
    | error err => exact .inr ⟨err, w', bind_run_error hrun _⟩
  unfold validateBody
  split
  · exact .inr (hcall _)
  · split
    · next text htext => exact .inl ⟨text, htext, rfl⟩
    · split
      · exact .inr (hcall _)
      · exact .inr (hcall _)

variable (rt req snap entry hist) in
/-- What becomes of a JSON body. -/
theorem decodeJsonBody_run (input : HandlerInput Ref) (w : World m Ref W) :
    (∃ json w' l, (decodeJsonBody rt entry input).run w = ⟨.ok (.assign json), w', l⟩ ∧
      json.map Prod.fst = jsonTargets entry ∧
      Justified (CallAllowed rt req snap) hist l ∧ Decoded rt entry l input.body) ∨
    (∃ text, rt.jsonBytesToPy input.body = .error text ∧
      (decodeJsonBody rt entry input).run w =
        ⟨.ok (.jsonParseError (errorJson rt ("json: " ++ text))), w, []⟩) ∨
    ∃ err detail w' w'', (validationDetail rt err).run w' = ⟨.ok detail, w'', []⟩ ∧
      (decodeJsonBody rt entry input).run w =
        ⟨.ok (.validationError (validationText detail)), w'', [.validated (.error err)]⟩ := by
  unfold decodeJsonBody Decoded jsonTargets
  cases hmodel : entry.bodyModel with
  | none =>
    cases hdec : rt.jsonBytesToPy input.body with
    | ok v => exact .inl ⟨_, w, [], rfl, rfl, trivial, v, rfl⟩
    | error text => exact .inr (.inl ⟨text, rfl, rfl⟩)
  | some model =>
    dsimp only
    have hattempt : (attempt (validateBody rt model input) : PyResult m Ref W _).run w = _ :=
      attempt_run _ w
    rcases validateBody_run rt model input w with
      ⟨text, htext, hr⟩ | ⟨v, w', hr⟩ | ⟨err, w', hr⟩
    · rw [hr] at hattempt
      rw [bind_run_ok hattempt]
      exact .inr (.inl ⟨text, htext, rfl⟩)
    · rw [hr] at hattempt
      rw [bind_run_ok hattempt]
      refine .inl ⟨_, w', [.validated (.ok v)], rfl, ?_, ⟨trivial, trivial⟩, v, List.mem_cons_self⟩
      rw [List.map_cons, apply_ite (List.map Prod.fst)]
      rfl
    · rw [hr] at hattempt
      rw [bind_run_ok hattempt]
      obtain ⟨detail, w'', hdetail⟩ := validationDetail_run rt err w'
      refine .inr (.inr ⟨err, detail, w', w'', hdetail, ?_⟩)
      rw [bind_run_ok (log_run _ w'), bind_run_ok hdetail]
      rfl

/-- Without keyword arguments there are none to set. -/
theorem allKwargs_eq_nil {input : HandlerInput Ref} (h : shouldUseKwargs req entry input = false) :
    allKwargs req entry input [] = [] := by
  simp only [shouldUseKwargs, Bool.or_eq_false_iff, decide_eq_false_iff_not, not_not,
    Option.isSome_eq_false_iff, Option.isNone_iff_eq_none] at h
  obtain ⟨⟨⟨⟨⟨⟨⟨hparams, hquery⟩, hdeps⟩, hclaims⟩, hjson⟩, hform⟩, hbody⟩, hprotocol⟩ := h
  have hbody' : bodyKwargs entry req.method input = [] := by
    unfold bodyKwargs
    cases hf : entry.readFormBody with
    | true =>
      rw [hf, Bool.true_and, Bool.or_eq_false_iff] at hform
      simp [hform.1, hform.2]
    | false =>
      rw [hf, Bool.not_false, Bool.true_and] at hbody
      rw [hbody]
      rfl
  simp [allKwargs, pathKwargs, queryKwargs, claimsKwargs, protocolKwargs, hparams, hquery, hdeps,
    hclaims, hbody', hprotocol]

variable (rt req snap entry hist) in
/-- What becomes of a request that reached the handler call, or did not. -/
theorem runHandler_run (input : HandlerInput Ref) (w : World m Ref W) :
    (∃ json, ∃ r : Except (PyErr Ref) (PyVal Ref), ∃ w' l,
      (runHandler rt req entry input).run w = ⟨r.map .ok, w',
        l ++ [.handler entry.handler (.ofList (allKwargs req entry input json))]⟩ ∧
      json.map Prod.fst =
        (if hasJsonBody entry req.method input.body then jsonTargets entry else []) ∧
      Justified (CallAllowed rt req snap) hist l ∧
      (hasJsonBody entry req.method input.body = true → Decoded rt entry l input.body)) ∨
    hasJsonBody entry req.method input.body = true ∧
      ((∃ text, rt.jsonBytesToPy input.body = .error text ∧
        (runHandler rt req entry input).run w =
          ⟨.ok (.jsonParseError (errorJson rt ("json: " ++ text))), w, []⟩) ∨
      ∃ err detail w' w'', (validationDetail rt err).run w' = ⟨.ok detail, w'', []⟩ ∧
        (runHandler rt req entry input).run w =
          ⟨.ok (.validationError (validationText detail)), w'', [.validated (.error err)]⟩) := by
  have hinvoke (kwargs : Dict String (PyVal Ref)) (w : World m Ref W) :
      ∃ (r : Except (PyErr Ref) (PyVal Ref)) (w' : World m Ref W), ((do return .ok (← invokeHandler rt entry kwargs) :
        PyResult m Ref W (RunHandlerResult Ref))).run w =
        ⟨r.map .ok, w', [.handler entry.handler kwargs]⟩ := by
    rcases hr : rt.call entry.handler [] kwargs w with ⟨res, w'⟩
    have hrun : (invokeHandler rt entry kwargs).run w =
        ⟨res, w', [.handler entry.handler kwargs]⟩ := by
      rw [invokeHandler, bind_run_ok (log_run _ w), effect_run, hr]
      rfl
    cases res with
    | ok v => exact ⟨.ok v, w', bind_run_ok hrun _⟩
    | error e => exact ⟨.error e, w', bind_run_error hrun _⟩
  unfold runHandler jsonKwargs
  by_cases hjson : hasJsonBody entry req.method input.body = true
  · have huse : shouldUseKwargs req entry input = true := by
      simp [shouldUseKwargs, hjson]
    rw [if_pos huse, if_pos hjson]
    rcases decodeJsonBody_run rt req snap entry hist input w with
      ⟨json, w', l, hr, hnames, hl, hdec⟩ | ⟨text, htext, hr⟩ |
        ⟨err, detail, w', w'', hdetail, hr⟩
    · obtain ⟨r, w'', hcall⟩ := hinvoke (.ofList (allKwargs req entry input json)) w'
      refine .inl ⟨json, r, w'', l, ?_, ?_, hl, fun _ => hdec⟩
      · rw [bind_run_ok hr, hcall]
        rfl
      · rw [if_pos hjson, hnames]
    · exact .inr ⟨hjson, .inl ⟨text, htext, bind_run_ok hr _⟩⟩
    · exact .inr ⟨hjson, .inr ⟨err, detail, w', w'', hdetail, bind_run_ok hr _⟩⟩
  · rw [if_neg hjson]
    obtain ⟨r, w', hcall⟩ := hinvoke (.ofList (allKwargs req entry input [])) w
    refine .inl ⟨[], r, w', [], ?_, (if_neg hjson).symm, trivial, fun h => absurd h hjson⟩
    cases huse : shouldUseKwargs req entry input with
    | true => exact hcall
    | false =>
      rw [allKwargs_eq_nil huse] at hcall ⊢
      exact hcall

/-- After the call of the handler only answers follow. -/
theorem afterHandler_logs (r : Except (PyErr Ref) (PyVal Ref)) :
    Logs IsAnswer (match r.map RunHandlerResult.ok with
      | .error e => failWith rt req snap e
      | .ok (.jsonParseError text) => rejectJson rt req 400 text
      | .ok (.validationError text) => rejectJson rt req 422 text
      | .ok (.ok res) => do
        match ← attempt (handlerValue rt entry res) with
        | .ok v => return v
        | .error e => failWith rt req snap e : Dispatch m Ref W (PyVal Ref)) := by
  cases r with
  | error e => exact failWith_logs rt req snap e
  | ok res =>
    have hvalue : Logs IsAnswer (handlerValue rt entry res) := by
      unfold handlerValue
      split
      · exact (logs_ofExcept _).bind fun _ => logs_effect _
      · exact logs_pure _
    refine hvalue.attempt.bind fun out => ?_
    cases out with
    | ok v => exact logs_pure v
    | error e => exact failWith_logs rt req snap e

theorem callHandler_guarded {idx : ℕ} {params : PathParams} {input : HandlerInput Ref}
    (hserving : .serving idx params ∈ hist) (hentry : snap.routes[idx]? = some entry)
    (hup : (routeGuards rt req snap entry).UpTo .json hist)
    (hinput : Gathered rt req entry params hist input) :
    (routeGuards rt req snap entry).Guarded hist (callHandler rt req snap entry input) w
      fun _ h => ∃ i ∈ h, (routeGuards rt req snap entry).through i := by
  have hread (hjson : entry.readJsonBody = true) : BodyRead rt hist input.body :=
    hinput.body.1 (by simp [RouteEntry.shouldReadBody, hjson])
  have hattempt : (attempt (runHandler rt req entry input) : Dispatch m Ref W _).run w = _ :=
    attempt_run _ w
  rcases runHandler_run rt req snap entry hist input w with
    ⟨json, r, w', l, hr, hnames, hl, hdec⟩ | ⟨hjson, ⟨text, htext, hr⟩ |
      ⟨err, detail, w', w'', hdetail, hr⟩⟩
  · rw [hr] at hattempt
    have hpassed (hjson : entry.readJsonBody = true) : ∃ body, BodyRead rt (hist ++ l) body ∧
        (hasJsonBody entry req.method body = true → Decoded rt entry (hist ++ l) body) :=
      ⟨input.body, (hread hjson).append l, fun h => (hdec h).prepend hist⟩
    have hall (g : Guard) : Passed rt req snap entry g (hist ++ l) := by
      rcases Nat.lt_or_ge g.rank Guard.json.rank with h | h
      · exact (hup.append l) g h
      · obtain rfl : g = .json := by
          cases g <;> first | rfl | exact absurd h (by decide)
        exact hpassed
    have hkwargs : HandlerKwargs rt req entry params (hist ++ l)
        (.ofList (allKwargs req entry input json)) :=
      ⟨input, json, hinput.append l, hnames, rfl⟩
    refine guarded_bind_run hattempt ((justified_append hist l _).mpr ⟨hl, ⟨idx, params, entry,
      List.mem_append_left l hserving, hentry, rfl, hkwargs, hall⟩, trivial⟩) ?_
    have hcalled : RequestEvent.handler entry.handler (.ofList (allKwargs req entry input json)) ∈
        hist ++ (l ++ [.handler entry.handler (.ofList (allKwargs req entry input json))]) :=
      List.mem_append_right hist (List.mem_append_right l List.mem_cons_self)
    exact guarded_of_through hcalled trivial (logs_allowed (afterHandler_logs r))
  · have hjson' : entry.readJsonBody = true := by
      simp only [hasJsonBody, Bool.and_eq_true] at hjson
      exact hjson.1.1.1
    rw [hr] at hattempt
    refine guarded_bind_run hattempt trivial ?_
    rw [List.append_nil]
    exact finish_guarded (sendText_logs rt req _ _ _) hup
      (.jsonNotDecoded (hread hjson') hjson htext)
  · rw [hr] at hattempt
    refine guarded_bind_run hattempt ⟨trivial, trivial⟩ ?_
    have hdetail' : (orRaise (validationDetail rt err) : Dispatch m Ref W _).run w' =
        ⟨.ok detail, w'', []⟩ := handle_run_ok hdetail _
    obtain ⟨e, w₁, l, hc, hd⟩ := finish_exitsAs (α := PyVal Ref) (sendText rt req 422
      (validationText detail) "application/json; charset=utf-8") w''
    have hd' : (orRaise (validationDetail rt err) >>= fun detail =>
        rejectJson rt req 422 (validationText detail)).run w' = ⟨.error e, w₁, l⟩ :=
      (bind_run_ok hdetail' _).trans (congrArg (Ending.after []) hd)
    exact guarded_reject ⟨e, w₁, l, hc, hd'⟩ (logs_allowed (rejectJson_logs rt req _ _))
      (hup.append _) (.jsonNotValidated (List.mem_append_right hist List.mem_cons_self))

-- ════════════════════════════════════════════════════════════════════════
-- The route
-- ════════════════════════════════════════════════════════════════════════

/-- Serving a route respects its guards: one stage after the other. -/
theorem serveRoute_guarded {idx : ℕ} {params : PathParams}
    (hentry : snap.routes[idx]? = some entry)
    (hmiddleware : Passed rt req snap entry .middleware hist)
    (hfirst : ∀ idx params, .serving idx params ∉ hist) :
    (routeGuards rt req snap entry).Guarded hist (serveRoute rt req snap entry idx params) w
      fun _ h => ∃ i ∈ h, (routeGuards rt req snap entry).through i := by
  refine guarded_bind_run (log_run _ w) ⟨hfirst, trivial⟩ ?_
  have hserving : RequestEvent.serving idx params ∈ hist ++ [.serving idx params] :=
    List.mem_append_right hist List.mem_cons_self
  have hup₀ : (routeGuards rt req snap entry).UpTo .middleware hist :=
    fun g hg => absurd hg (Nat.not_lt_zero _)
  have hup : (routeGuards rt req snap entry).UpTo .rateLimit (hist ++ [.serving idx params]) :=
    (upTo_next rfl hup₀ hmiddleware).append _
  generalize hist ++ [.serving idx params] = hist at hserving hup
  refine (checkRateLimit_guarded hup).bind fun _ w₁ l₁ hup => ?_
  refine guarded_bind_run (effect_run _ w₁) trivial ?_
  rw [List.append_nil]
  refine (readRequestBody_guarded hup).bind fun body w₂ l₂ ⟨hup, hbody⟩ => ?_
  refine (checkJwt_guarded hup).bind fun claims w₃ l₃ ⟨hup, hclaims⟩ => ?_
  refine (readForm_guarded hup (hbody.append l₃)).bind fun form w₄ l₄ hup => ?_
  refine (requestContext_guarded hup).bind fun ctx w₅ l₅ ⟨hup, hctx⟩ => ?_
  have hserving₅ : RequestEvent.serving idx params ∈ hist ++ l₁ ++ l₂ ++ l₃ ++ l₄ ++ l₅ := by
    simp [hserving]
  refine (runDependencies_guarded ⟨idx, params, hserving₅, hentry⟩ (fun _ h => h) hup
    resolved_nil).bind fun deps w₆ l₆ hdeps => ?_
  have hup₆ : (routeGuards rt req snap entry).UpTo .json _ :=
    upTo_next rfl (hup.append l₆) ⟨hctx, deps, hdeps⟩
  have hinput : Gathered rt req entry params _
      ⟨params, queryMap rt req entry, deps, claims, body.1, body.2, form⟩ :=
    ⟨rfl, rfl, hdeps, hclaims, (((hbody.append l₃).append l₄).append l₅).append l₆⟩
  refine (callHandler_guarded (List.mem_append_left l₆ hserving₅) hentry hup₆ hinput).bind
    fun v w₇ l₇ ⟨i, hi, hthrough⟩ => ?_
  exact guarded_of_through hi hthrough (logs_allowed (respondOrFail_logs rt req snap v))

-- ════════════════════════════════════════════════════════════════════════
-- Whole runs
-- ════════════════════════════════════════════════════════════════════════

/-- A request that was dispatched to a route: it is served from it, or was kept by a middleware
before. -/
def DispatchedTo (snap : FrozenState m Ref) (entry : RouteEntry Ref)
    (log : List (RequestEvent Ref)) : Prop :=
  Serving snap entry log ∨ ∃ f out, .middleware f out ∈ log ∧ out ≠ .ok .none

/-- A run respects the guards: its calls come after the guards they need, and if the request was
dispatched to a route and the handler was not called, the run ended in the rejection of the first
guard that failed. -/
structure GuardedRun (rt : Runtime m Ref W) (req : HttpRequest Ref) (snap : FrozenState m Ref)
    (r : Ending (World m Ref W) (RequestEvent Ref) (Exit Ref) Unit) : Prop where
  calls : Justified (CallAllowed rt req snap) [] r.log
  refusal : ∀ entry, DispatchedTo snap entry r.log → (∀ f kwargs, .handler f kwargs ∉ r.log) →
    ∃ e, r.result = .error e ∧ (routeGuards rt req snap entry).Refused [] r.log r.state e

/-- An event of a request that is not dispatched to a route: an answer, or a middleware that lets
the request through. -/
def Undispatched (i : RequestEvent Ref) : Prop := IsAnswer i ∨ ∃ f, i = .middleware f (.ok .none)

theorem justified_of_undispatched {l : List (RequestEvent Ref)} (h : ∀ i ∈ l, Undispatched i) :
    Justified (CallAllowed rt req snap) [] l := by
  refine (justified_iff [] l).mpr ?_
  rintro pre i post rfl
  rcases h i (List.mem_append_right pre List.mem_cons_self) with ha | ⟨f, rfl⟩
  · exact ha.allowed _
  · intro idx params hmem
    rcases h _ (List.mem_append_left _ hmem) with ha | ⟨f', hf⟩
    · exact ha
    · cases hf

theorem guardedRun_of_undispatched
    {r : Ending (World m Ref W) (RequestEvent Ref) (Exit Ref) Unit}
    (h : ∀ i ∈ r.log, Undispatched i) : GuardedRun rt req snap r := by
  refine ⟨justified_of_undispatched h, fun entry hto _ => ?_⟩
  rcases hto with ⟨idx, params, hmem, -⟩ | ⟨f, out, hmem, hout⟩
  · rcases h _ hmem with ha | ⟨f, hf⟩
    · exact ha.elim
    · cases hf
  · rcases h _ hmem with ha | ⟨f', hf⟩
    · exact ha.elim
    · cases hf
      exact absurd rfl hout

/-- A part before the route is known: it goes on without an event, or answers. -/
def Preliminary (c : Dispatch m Ref W α) : Prop :=
  ∀ w, c.Ensures w (fun _ _ l => l = []) fun _ _ l => ∀ i ∈ l, IsAnswer i

theorem Preliminary.bind_guardedRun {c : Dispatch m Ref W α} {k : α → Dispatch m Ref W Unit}
    (hc : Preliminary c) {calls : List (RequestEvent Ref)} (hcalls : ∀ i ∈ calls, Undispatched i)
    (hk : ∀ a w', GuardedRun rt req snap (((k a).run w').after calls)) :
    GuardedRun rt req snap (((c >>= k).run w).after calls) := by
  have hw := hc w
  rcases h : c.run w with ⟨r, w', l⟩
  cases r with
  | ok a =>
    obtain rfl : l = [] := hw.of_ok h
    rw [bind_run_ok h]
    exact hk a w'
  | error e =>
    rw [bind_run_error h]
    refine guardedRun_of_undispatched fun i hi => ?_
    rcases List.mem_append.mp hi with hi | hi
    · exact hcalls i hi
    · exact .inl (hw.of_error h i hi)

theorem preliminary_of_logs {c : Dispatch m Ref W α} (hlogs : Logs IsAnswer c)
    (hexit : ∀ w, ∃ e w' l, c.run w = ⟨.error e, w', l⟩) : Preliminary c := by
  intro w
  obtain ⟨e, w', l, hr⟩ := hexit w
  have hw := hlogs w
  unfold Ensures
  rw [hr] at hw ⊢
  exact hw

theorem preliminary_pure (a : α) : Preliminary (pure a : Dispatch m Ref W α) := fun _ => rfl

theorem finish_preliminary {c : PyResult m Ref W Unit} (hlogs : Logs IsAnswer c) :
    Preliminary (finish c : Dispatch m Ref W α) := by
  refine preliminary_of_logs (finish_logs hlogs) fun w => ?_
  obtain ⟨e, w', l, hr, -⟩ := finish_exitsAs (α := α) c w
  exact ⟨e, w', l, hr⟩

theorem preliminary_effect (f : World m Ref W → Except (Exit Ref) α × World m Ref W) :
    Preliminary (effect f) := by
  intro w
  rw [ensures_effect]
  split
  · rfl
  · intro i hi
    cases hi

theorem Preliminary.bind {β : Type} {c : Dispatch m Ref W α} {k : α → Dispatch m Ref W β}
    (hc : Preliminary c) (hk : ∀ a, Preliminary (k a)) : Preliminary (c >>= k) := by
  intro w
  refine Ensures.bind (hc w) fun a w' l hl => ?_
  subst hl
  exact hk a w'

theorem serveOpenapi_preliminary : Preliminary (serveOpenapi rt req) := by
  refine (preliminary_effect _).bind fun _ => Preliminary.bind ?_ fun doc => ?_
  · exact preliminary_effect _
  · split
    · exact finish_preliminary (respond_logs rt req _)
    · exact finish_preliminary (respond_logs rt req _)

theorem answerPreflight_preliminary : Preliminary (answerPreflight rt req snap) := by
  have hpreflight : Preliminary (orRaise (preflight rt req snap) : Dispatch m Ref W _) := by
    unfold preflight
    split
    · split
      · exact preliminary_pure _
      · cases req.headers with
        | error e => exact preliminary_of_logs (logs_exit _) fun w => ⟨_, w, [], rfl⟩
        | ok headers =>
          change Preliminary (orRaise (pure headers >>= _))
          rw [pure_bind]
          dsimp only
          split
          · exact preliminary_pure _
          · exact preliminary_pure _
    · exact preliminary_pure _
  refine hpreflight.bind fun answer => ?_
  split
  · exact preliminary_pure _
  · exact finish_preliminary (sendWithHeaders_logs rt req _ _ _)
  · exact finish_preliminary (sendText_logs rt req _ _ _)

theorem compiledTables_preliminary : Preliminary (compiledTables rt snap) := by
  unfold compiledTables
  split
  · exact preliminary_pure _
  · exact preliminary_effect _

theorem matchRoute_preliminary (compiled : CompiledRouters m) :
    Preliminary (matchRoute rt req compiled : Dispatch m Ref W _) := by
  unfold matchRoute
  split
  · exact preliminary_of_logs (logs_exit _) fun w => ⟨_, w, [], rfl⟩
  · unfold noRoute
    dsimp only
    split
    · exact finish_preliminary (sendText_logs rt req _ _ _)
    · exact finish_preliminary (respond_logs rt req _)
  · exact preliminary_pure _

-- ════════════════════════════════════════════════════════════════════════
-- The asynchronous dispatcher
-- ════════════════════════════════════════════════════════════════════════

/-- An event that comes while a request is being served. -/
theorem exists_allowed_of_serving {idx : ℕ} {params : PathParams} {i : RequestEvent Ref}
    {l : List (RequestEvent Ref)} (hmem : .serving idx params ∈ hist)
    (hl : Justified (CallAllowed rt req snap) hist l) (hi : i ∈ l) :
    ∃ hist', .serving idx params ∈ hist' ∧ CallAllowed rt req snap hist' i := by
  obtain ⟨pre, post, rfl⟩ := List.append_of_mem hi
  exact ⟨hist ++ pre, List.mem_append_left pre hmem, (justified_iff hist _).mp hl pre i post rfl⟩

/-- A request that is served was dispatched to no other route. -/
theorem DispatchedTo.eq {entry' : RouteEntry Ref} {calls l : List (RequestEvent Ref)} {idx : ℕ}
    {params : PathParams} (hcalls : ∀ i ∈ calls, Undispatched i)
    (hl : Justified (CallAllowed rt req snap) calls (.serving idx params :: l))
    (hentry : snap.routes[idx]? = some entry)
    (h : DispatchedTo snap entry' (calls ++ .serving idx params :: l)) : entry = entry' := by
  have hserving : RequestEvent.serving idx params ∈ calls ++ [.serving idx params] :=
    List.mem_append_right calls List.mem_cons_self
  rcases h with ⟨idx', params', hmem, hentry'⟩ | ⟨f, out, hmem, hout⟩
  · rcases List.mem_append.mp hmem with hmem | hmem
    · rcases hcalls _ hmem with ha | ⟨f, hf⟩
      · exact ha.elim
      · cases hf
    · rcases List.mem_cons.mp hmem with heq | hmem
      · cases heq
        exact Option.some.inj (hentry.symm.trans hentry')
      · obtain ⟨hist', hin, hnot⟩ := exists_allowed_of_serving hserving hl.2 hmem
        exact (hnot idx params hin).elim
  · rcases List.mem_append.mp hmem with hmem | hmem
    · rcases hcalls _ hmem with ha | ⟨f', hf⟩
      · exact ha.elim
      · cases hf
        exact absurd rfl hout
    · rcases List.mem_cons.mp hmem with heq | hmem
      · cases heq
      · obtain ⟨hist', hin, hnot⟩ := exists_allowed_of_serving hserving hl.2 hmem
        exact (hnot idx params hin).elim

/-- The events of middlewares that all let a request through. -/
def passedMiddleware (snap : FrozenState m Ref) : List (RequestEvent Ref) :=
  snap.requestMiddleware.map fun f => .middleware f (.ok .none)

theorem undispatched_of_passed {i : RequestEvent Ref} (hi : i ∈ passedMiddleware snap) :
    Undispatched i := by
  obtain ⟨f, -, rfl⟩ := List.mem_map.mp hi
  exact .inr ⟨f, rfl⟩

/-- Serving a route after the middlewares let the request through. -/
theorem serveRoute_guardedRun {idx : ℕ} {params : PathParams}
    (hentry : snap.routes[idx]? = some entry) (w : World m Ref W) :
    GuardedRun rt req snap
      (((serveRoute rt req snap entry idx params).run w).after (passedMiddleware snap)) := by
  have hnoserving (idx : ℕ) (params : PathParams) :
      RequestEvent.serving idx params ∉ passedMiddleware snap := by
    intro hmem
    obtain ⟨f, -, hf⟩ := List.mem_map.mp hmem
    cases hf
  have hguarded : (routeGuards rt req snap entry).Guarded (passedMiddleware snap)
      (serveRoute rt req snap entry idx params) w
      fun _ h => ∃ i ∈ h, (routeGuards rt req snap entry).through i :=
    serveRoute_guarded hentry (List.prefix_refl _) hnoserving
  obtain ⟨rest, hlog⟩ : ∃ rest, ((serveRoute rt req snap entry idx params).run w).log =
      .serving idx params :: rest := ⟨_, rfl⟩
  rcases hr : (serveRoute rt req snap entry idx params).run w with ⟨r, w', l⟩
  obtain rfl : l = .serving idx params :: rest := by rwa [hr] at hlog
  have hcalls : Justified (CallAllowed rt req snap) [] (passedMiddleware snap) :=
    justified_of_undispatched fun i hi => undispatched_of_passed hi
  cases r with
  | ok _ =>
    obtain ⟨hl, i, hi, hthrough⟩ := hguarded.of_ok hr
    refine ⟨(justified_append [] _ _).mpr ⟨hcalls, hl⟩, fun entry' hto hno => ?_⟩
    cases i with
    | handler f kwargs => exact absurd hi (hno f kwargs)
    | _ => exact hthrough.elim
  | error e =>
    obtain ⟨hl, hrefused⟩ := hguarded.of_error hr
    refine ⟨(justified_append [] _ _).mpr ⟨hcalls, hl⟩, fun entry' hto hno => ⟨e, rfl, ?_⟩⟩
    obtain rfl := DispatchedTo.eq (fun i => undispatched_of_passed) hl hentry hto
    refine Refused.prepend (hrefused fun i hi hthrough => ?_)
    cases i with
    | handler f kwargs => exact hno f kwargs hi
    | _ => exact hthrough.elim

theorem MiddlewareCalls.passed_eq {fs : List Ref} {w' : World m Ref W}
    {calls : List (RequestEvent Ref)} (h : MiddlewareCalls rt req fs w calls .passed w') :
    calls = fs.map fun f => .middleware f (.ok .none) := by
  generalize hv : MiddlewareVerdict.passed = verdict at h
  induction h with
  | passed => rfl
  | @next f fs v _ _ _ l _ _ hnone _ ih =>
    have hv' : v = .none := by
      cases v with
      | none => rfl
      | _ => cases hnone
    rw [ih hv, hv', List.map_cons]
  | answered _ _ => cases hv
  | raised _ => cases hv

/-- The middlewares that were called are all that happened, and the last one decided. -/
theorem MiddlewareCalls.last {fs : List Ref} {w' : World m Ref W}
    {calls : List (RequestEvent Ref)} {verdict : MiddlewareVerdict Ref}
    (h : MiddlewareCalls rt req fs w calls verdict w') :
    (∀ i ∈ calls, ∃ f out, i = .middleware f out) ∧
      (∀ v, verdict = .answered v → v.isNone = false ∧ ∃ f, .middleware f (.ok v) ∈ calls) ∧
      ∀ e, verdict = .raised e → ∃ f, .middleware f (.error e) ∈ calls := by
  induction h with
  | passed => simp
  | next _ _ _ ih =>
    obtain ⟨hall, hanswered, hraised⟩ := ih
    refine ⟨fun i hi => ?_, fun v hv => ?_, fun e he => ?_⟩
    · rcases List.mem_cons.mp hi with rfl | hi
      · exact ⟨_, _, rfl⟩
      · exact hall i hi
    · obtain ⟨hnone, f, hmem⟩ := hanswered v hv
      exact ⟨hnone, f, List.mem_cons_of_mem _ hmem⟩
    · obtain ⟨f, hmem⟩ := hraised e he
      exact ⟨f, List.mem_cons_of_mem _ hmem⟩
  | answered _ hnone =>
    refine ⟨fun i hi => ⟨_, _, List.mem_singleton.mp hi⟩, fun v hv => ?_, fun e he => ?_⟩
    · cases hv
      exact ⟨hnone, _, List.mem_cons_self⟩
    · cases he
  | raised _ =>
    refine ⟨fun i hi => ⟨_, _, List.mem_singleton.mp hi⟩, fun v hv => ?_, fun e he => ?_⟩
    · cases hv
    · cases he
      exact ⟨_, List.mem_cons_self⟩

/-- A run that a middleware ends. -/
theorem middleware_guardedRun {calls : List (RequestEvent Ref)} {c : Dispatch m Ref W Unit}
    (hcalls : ∀ i ∈ calls, ∃ f out, i = .middleware f out) (hlogs : Logs IsAnswer c)
    (hexit : c.ExitsAs c)
    (hrej : ∀ entry, Rejection rt req snap entry .middleware calls c) :
    GuardedRun rt req snap ((c.run w).after calls) := by
  obtain ⟨e, w', l, hr, -⟩ := hexit w
  have hl : ∀ i ∈ l, IsAnswer i := by
    have := hlogs w
    rwa [hr] at this
  rw [hr]
  refine ⟨(justified_iff [] _).mpr ?_, fun entry _ _ => ⟨e, rfl, .middleware, calls, l, c, w, rfl,
    fun g hg => absurd hg (Nat.not_lt_zero _), hrej entry, hr⟩⟩
  intro pre i post heq
  rw [Ending.log_after] at heq
  have hmem (j : RequestEvent Ref) (hj : j ∈ pre ++ i :: post) :
      (∃ f out, j = .middleware f out) ∨ IsAnswer j := by
    have hj' : j ∈ calls ++ l := heq ▸ hj
    exact (List.mem_append.mp hj').imp (hcalls j) (hl j)
  rcases hmem i (List.mem_append_right pre List.mem_cons_self) with ⟨f, out, rfl⟩ | ha
  · intro idx params hin
    rcases hmem _ (List.mem_append_left _ hin) with ⟨f', out', hf⟩ | ha
    · cases hf
    · exact ha
  · exact ha.allowed _

theorem routeAndServe_guardedRun (w : World m Ref W) :
    GuardedRun rt req snap (((routeAndServe rt req snap).run w).after (passedMiddleware snap)) := by
  unfold routeAndServe
  refine compiledTables_preliminary.bind_guardedRun (fun i => undispatched_of_passed)
    fun compiled w₁ => ?_
  refine (matchRoute_preliminary compiled).bind_guardedRun (fun i => undispatched_of_passed)
    fun ⟨idx, params⟩ w₂ => ?_
  dsimp only
  unfold routeEntry
  cases hentry : snap.routes[idx]? with
  | none =>
    refine guardedRun_of_undispatched fun i hi => ?_
    rw [exit_bind, Ending.log_after, exit_run, List.append_nil] at hi
    exact undispatched_of_passed hi
  | some entry => exact serveRoute_guardedRun hentry w₂

/-- The asynchronous dispatcher respects the guards. -/
theorem runRsgi_guardedRun (w : World m Ref W) :
    GuardedRun rt req snap ((runRsgi rt req snap).run w) := by
  have hnil : ∀ i ∈ ([] : List (RequestEvent Ref)), Undispatched i := by simp
  have hrest (w : World m Ref W) : GuardedRun rt req snap ((do
      answerPreflight rt req snap
      runMiddleware rt req snap snap.requestMiddleware
      routeAndServe rt req snap : Dispatch m Ref W Unit).run w) := by
    refine answerPreflight_preliminary.bind_guardedRun hnil fun _ w₁ => ?_
    rw [Ending.after_nil]
    obtain ⟨calls, verdict, w', hcalls, hrun⟩ :=
      runMiddleware_bind snap snap.requestMiddleware (routeAndServe rt req snap) w₁
    rw [hrun]
    obtain ⟨hall, hanswered, hraised⟩ := hcalls.last
    cases verdict with
    | passed =>
      rw [hcalls.passed_eq]
      exact routeAndServe_guardedRun w'
    | answered v =>
      obtain ⟨hnone, f, hmem⟩ := hanswered v rfl
      exact middleware_guardedRun hall (respondOrFail_logs rt req snap v)
        (respondOrFail_exitsAs rt req snap v) fun _ => .middlewareAnswered hmem hnone
    | raised e =>
      obtain ⟨f, hmem⟩ := hraised e rfl
      exact middleware_guardedRun hall (failWith_logs rt req snap e)
        (failWith_exitsAs rt req snap e) fun _ => .middlewareRaised hmem
  unfold runRsgi
  split
  · exact serveOpenapi_preliminary.bind_guardedRun hnil fun _ w₁ => hrest w₁
  · exact hrest w

-- ════════════════════════════════════════════════════════════════════════
-- The short circuit
-- ════════════════════════════════════════════════════════════════════════

theorem PlainRoute.shouldReadBody (h : PlainRoute entry) : entry.shouldReadBody = false := by
  have hbody : "body" ∉ entry.extra.handlerParamNames := h.reserved "body" (by decide)
  simp [RouteEntry.shouldReadBody, h.readJsonBody, h.readFormBody, h.handlerVarkw, hbody]

/-- A plain route has no guards of its own. -/
theorem PlainRoute.passed (h : PlainRoute entry) {g : Guard} (hg : g ≠ .middleware) :
    Passed rt req snap entry g hist := by
  have hread {p : Prop} (hp : entry.shouldReadBody = true) : p := by
    rw [h.shouldReadBody] at hp
    cases hp
  cases g with
  | middleware => exact absurd rfl hg
  | rateLimit =>
    intro rl hrl
    rw [h.rateLimiter] at hrl
    cases hrl
  | declaredLength => exact hread
  | bodyRead => exact hread
  | bodyLength => exact hread
  | jwt =>
    intro hjwt
    rw [h.requireJwt] at hjwt
    cases hjwt
  | form =>
    intro hform
    rw [h.readFormBody] at hform
    cases hform
  | dependencies =>
    refine ⟨fun ⟨dep, hdep, _⟩ => ?_, ?_⟩
    · rw [h.dependencies] at hdep
      cases hdep
    · rw [h.dependencies]
      exact ⟨[], resolved_nil⟩
  | json =>
    intro hjson
    rw [h.readJsonBody] at hjson
    cases hjson

/-- The keyword arguments of the short circuit. -/
def pathOnly (entry : RouteEntry Ref) (params : PathParams) : Dict String (PyVal Ref) :=
  .ofList (params.map fun e => (e.1, pathParamValue entry.extra.wildcardParams e))

/-- What is gathered for the handler of a plain route. -/
def plainInput (rt : Runtime m Ref W) (req : HttpRequest Ref) (entry : RouteEntry Ref)
    (params : PathParams) : HandlerInput Ref :=
  ⟨params, queryMap rt req entry, [], none, [], none, ⟨.empty, []⟩⟩

theorem PlainRoute.wants (h : PlainRoute entry) {name : String} (hname : name ∈ reservedNames) :
    entry.wants name = false := by
  simp [RouteEntry.wants, h.handlerVarkw, h.reserved name hname]

theorem PlainRoute.hasJsonBody (h : PlainRoute entry) (method : String) (body : List UInt8) :
    hasJsonBody entry method body = false := by
  simp [OxyRoute.hasJsonBody, h.readJsonBody]

/-- The path parameters are all there is for the handler of a plain route. -/
theorem PlainRoute.allKwargs_eq (h : PlainRoute entry) (params : PathParams) :
    Dict.ofList (allKwargs req entry (plainInput rt req entry params) []) =
      pathOnly entry params := by
  have hquery : queryMap rt req entry = .empty := by
    rw [queryMap, h.wants (by decide)]
    rfl
  have hprotocol : protocolKwargs req entry = [] := by
    rw [protocolKwargs, h.wants (by decide)]
    rfl
  simp [pathOnly, plainInput, allKwargs, pathKwargs, queryKwargs, depKwargs, claimsKwargs,
    bodyKwargs, h.readFormBody, hquery, hprotocol, Dict.empty]

theorem PlainRoute.handlerKwargs (h : PlainRoute entry) {params : PathParams} :
    HandlerKwargs rt req entry params hist (pathOnly entry params) := by
  refine ⟨plainInput rt req entry params, [], ⟨rfl, rfl, ?_, ?_, ?_⟩, ?_,
    (h.allKwargs_eq params).symm⟩
  · rw [h.dependencies]
    exact resolved_nil
  · rw [h.requireJwt]
    rfl
  · refine ⟨fun hread => ?_, fun _ => rfl⟩
    rw [h.shouldReadBody] at hread
    cases hread
  · rw [h.hasJsonBody]
    rfl

variable (rt req snap entry) in
/-- The short circuit logs that it serves the route, the call of the handler, and answers. -/
theorem runTrivialSyncRoute_log (idx : ℕ) (params : PathParams) (w : World m Ref W) :
    ∃ answers, (∀ i ∈ answers, IsAnswer i) ∧
      ((runTrivialSyncRoute rt req snap entry idx params).run w).log =
        .serving idx params :: .handler entry.handler (pathOnly entry params) :: answers := by
  have hrest (out : PyVal Ref) : Logs IsAnswer (do
      let mapped ← Routine.ofExcept (mapHandlerReturn rt.toInspection out)
      let mapped ← mergeConfigResponseHeaders rt req snap mapped
      sendHandlerMapInline rt req (req.method = "HEAD") mapped : PyResult m Ref W Unit) :=
    (logs_ofExcept _).bind fun mapped =>
      (mergeConfigResponseHeaders_logs rt req snap mapped).bind fun mapped =>
        sendHandlerMapInline_logs rt req _ mapped
  have hresponse : ∃ l, (∀ i ∈ l, IsAnswer i) ∧
      ((trivialResponse rt req snap entry params).run
        (rt.setPathTemplate req.protocol entry.extra.pathTemplate w)).log =
          .handler entry.handler (pathOnly entry params) :: l := by
    unfold trivialResponse invokeHandler
    rw [bind_assoc]
    exact exists_log_bind_log ((logs_effect _).bind hrest) _
  obtain ⟨l, hl, hlog⟩ := hresponse
  rw [runTrivialSyncRoute, log_bind_run, setTemplate, bind_run_ok (effect_run _ _),
    bind_run_ok (attempt_run _ _), Ending.log_after, Ending.log_after, Ending.log_after, hlog]
  refine ⟨l ++ _, fun i hi => ?_, rfl⟩
  rcases List.mem_append.mp hi with hi | hi
  · exact hl i hi
  · split at hi
    · exact logs_pure _ _ i hi
    · exact sendPythonErrorSync_logs rt req snap _ _ i hi

/-- The short circuit of a plain route respects its guards: there are none. -/
theorem runTrivialSyncRoute_guardedRun {idx : ℕ} {params : PathParams}
    {k : Unit → Dispatch m Ref W Unit} (hmiddleware : snap.requestMiddleware = [])
    (hentry : snap.routes[idx]? = some entry) (hplain : PlainRoute entry) (w : World m Ref W) :
    GuardedRun rt req snap (((do
      runTrivialSyncRoute rt req snap entry idx params
      exit .done : Dispatch m Ref W Unit) >>= k).run w) := by
  obtain ⟨l, hl, hlog⟩ :=
    runTrivialSyncRoute_log rt req snap entry idx params w
  have hrun : (((do
      runTrivialSyncRoute rt req snap entry idx params
      exit .done : Dispatch m Ref W Unit) >>= k).run w).log =
        .serving idx params :: .handler entry.handler (pathOnly entry params) :: l := by
    rcases hr : (runTrivialSyncRoute rt req snap entry idx params).run w with ⟨r, w', l'⟩
    rw [hr] at hlog
    subst hlog
    cases r with
    | ok _ => rw [bind_assoc, bind_run_ok hr, exit_bind, Ending.log_after, exit_run, List.append_nil]
    | error e => rw [bind_assoc, bind_run_error hr]
  have hpassed (g : Guard) : Passed rt req snap entry g ([] ++ [.serving idx params]) := by
    by_cases hg : g = .middleware
    · rw [hg, Passed, hmiddleware]
      exact List.nil_prefix
    · exact hplain.passed hg
  refine ⟨?_, fun entry' _ hno => ?_⟩
  · rw [hrun]
    refine ⟨fun _ _ hmem => ?_, ⟨idx, params, entry, List.mem_cons_self, hentry, rfl,
        hplain.handlerKwargs, hpassed⟩,
      justified_of_forall fun i hi hist => (hl i hi).allowed hist⟩
    cases hmem
  · rw [hrun] at hno
    exact absurd (List.mem_cons_of_mem _ List.mem_cons_self) (hno entry.handler _)

/-- Routing in the short circuit respects the guards, if what follows where it does not answer
does. -/
theorem routeTrivialSync_guardedRun {k : Unit → Dispatch m Ref W Unit}
    (hprepared : ∀ entry ∈ snap.routes, Prepared entry) (hmiddleware : snap.requestMiddleware = [])
    (hk : ∀ w, GuardedRun rt req snap ((k ()).run w)) (w : World m Ref W) :
    GuardedRun rt req snap ((routeTrivialSync rt req snap >>= k).run w) := by
  have hnil : ∀ i ∈ ([] : List (RequestEvent Ref)), Undispatched i := by simp
  unfold routeTrivialSync
  rw [bind_assoc]
  refine compiledTables_preliminary.bind_guardedRun hnil fun compiled w₂ => ?_
  rw [bind_assoc]
  refine (matchRoute_preliminary compiled).bind_guardedRun hnil fun ⟨idx, params⟩ w₃ => ?_
  dsimp only
  split
  · exact hk w₃
  unfold routeEntry
  cases hentry : snap.routes[idx]? with
  | none => exact guardedRun_of_undispatched (by simp [exit_run])
  | some entry =>
    dsimp only
    rw [pure_bind]
    split
    · next htrivial =>
      exact runTrivialSyncRoute_guardedRun hmiddleware hentry
        ((hprepared entry (List.mem_of_getElem? hentry)).plain htrivial) w₃
    · exact hk w₃

/-- The short circuit respects the guards, if what follows where it does not answer does. -/
theorem tryRsgiSyncShortCircuit_guardedRun {k : Unit → Dispatch m Ref W Unit}
    (hprepared : ∀ entry ∈ snap.routes, Prepared entry)
    (hk : ∀ w, GuardedRun rt req snap ((k ()).run w)) (w : World m Ref W) :
    GuardedRun rt req snap ((tryRsgiSyncShortCircuit rt req snap >>= k).run w) := by
  have hnil : ∀ i ∈ ([] : List (RequestEvent Ref)), Undispatched i := by simp
  unfold tryRsgiSyncShortCircuit
  rw [bind_assoc]
  refine answerPreflight_preliminary.bind_guardedRun hnil fun _ w₁ => ?_
  split
  · exact hk w₁
  · next hmiddleware =>
    have hroute := routeTrivialSync_guardedRun hprepared
      (not_not.mp (not_or.mp hmiddleware).1) hk
    split
    · rw [bind_assoc]
      exact serveOpenapi_preliminary.bind_guardedRun hnil fun _ w₂ => hroute w₂
    · exact hroute w₁

-- ════════════════════════════════════════════════════════════════════════
-- The dispatcher
-- ════════════════════════════════════════════════════════════════════════

variable (rt req w) in
theorem dispatch_guardedRun (hprepared : AllPrepared w.app) :
    GuardedRun rt req w.app.hotSnapshot ((dispatch rt req).run w) := by
  rw [dispatch, bind_run_ok (get_run w), Ending.after_nil]
  refine tryRsgiSyncShortCircuit_guardedRun hprepared.2 (fun w₁ => ?_) w
  rw [bind_run_ok (effect_run _ w₁), Ending.after_nil]
  exact runRsgi_guardedRun _

/-- A run serves a request from one route. -/
theorem serving_unique {idx idx' : ℕ} {params params' : PathParams}
    {l : List (RequestEvent Ref)} (hl : Justified (CallAllowed rt req snap) [] l)
    (h : .serving idx params ∈ l) (h' : .serving idx' params' ∈ l) :
    idx' = idx ∧ params' = params := by
  obtain ⟨pre, post, rfl⟩ := List.append_of_mem h
  obtain ⟨hnot, hpost⟩ := ((justified_append [] pre _).mp hl).2
  rcases List.mem_append.mp h' with hin | hin
  · exact absurd hin (hnot idx' params')
  · rcases List.mem_cons.mp hin with heq | hin
    · cases heq
      exact ⟨rfl, rfl⟩
    · have hmem : RequestEvent.serving idx params ∈ [] ++ pre ++ [.serving idx params] :=
        List.mem_append_right _ List.mem_cons_self
      obtain ⟨hist', hin', hnot'⟩ := exists_allowed_of_serving hmem hpost hin
      exact (hnot' idx params hin').elim

/-- **Guards.** For every runtime, every state an application reaches through its calls, and every
request: the run respects the guards of the route it dispatches the request to, whether it takes
the short circuit or not; and a route that is marked for the short circuit has no guards of its
own. -/
theorem guarded_dispatch {o : MaskOrder} (rt : Runtime m Ref W) (req : HttpRequest Ref)
    (w : World m Ref W) (hreached : (appSystem m Ref o).Reached w.app) :
    GuardedRun rt req w.app.hotSnapshot ((dispatch rt req).run w) ∧
      ∀ entry ∈ w.app.hotSnapshot.routes, entry.trivialSync = true →
        PlainRoute entry ∧ entry.shouldReadBody = false := by
  have hprepared := prepared_of_reached hreached
  refine ⟨dispatch_guardedRun rt req w hprepared, fun entry hentry htrivial => ?_⟩
  have hplain := (hprepared.2 entry hentry).plain htrivial
  exact ⟨hplain, hplain.shouldReadBody⟩

/-- An application with one route that requires a token. -/
def privateApp : AppState segmentMatcher String :=
  (addRoute plainHost (AppState.new true)
    { method := "GET", path := "/private", handler := "secret", readJsonBody := false
      requireJwt := true, jwtSecret := some "key" }).1

/-- A request without a token is refused by the JWT guard: the handler is not called. -/
theorem private_guarded_dispatch :
    ((dispatch (plainRuntime _) (plainRequest "GET" "/private")).run ⟨privateApp, ()⟩).log =
        [.serving 0 [], .sent (.responseStr 401 [("content-type", "text/plain; charset=utf-8")]
          ⟨"Unauthorized", false⟩)] ∧
      GuardedRun (plainRuntime _) (plainRequest "GET" "/private") privateApp.hotSnapshot
        ((dispatch (plainRuntime _) (plainRequest "GET" "/private")).run ⟨privateApp, ()⟩) ∧
      ∀ entry ∈ privateApp.hotSnapshot.routes, entry.trivialSync = true →
        PlainRoute entry ∧ entry.shouldReadBody = false := by
  have hreached : (appSystem segmentMatcher String ⟨id, fun _ => .rfl⟩).Reached privateApp :=
    .step (i := .addRoute plainHost _) (.init ⟨true, rfl⟩) trivial rfl
  exact ⟨rfl, guarded_dispatch (plainRuntime _) (plainRequest "GET" "/private") ⟨privateApp, ()⟩
    hreached⟩

end OxyRoute
