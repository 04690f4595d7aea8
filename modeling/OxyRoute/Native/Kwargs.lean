import OxyRoute.Native.Gathering

/-!
# Keyword arguments

The keyword arguments of a handler are set one source after the other in one dict: the path
parameters first, then the query, the dependencies, the claims, the JSON body, the form or the
raw body, and the protocol object. A path parameter with the name of a later argument is
replaced by it.

## Main definitions

- `Called` — a request reached the handler, with these path parameters and keyword arguments
- `PathKept` — every path parameter is passed under its own name
- `SetLater` — the names the other sources set

## Main results

- `path_kwargs_kept_iff` — when the path parameters of two requests are kept
- `path_kwargs_kept_of_names` — a route whose parameters have names of their own is safe
-/

namespace OxyRoute

open Routine

variable {m : Matchit} {Ref W : Type}

section

variable (rt : Runtime m Ref W) (req : HttpRequest Ref) (entry : RouteEntry Ref)

/-- The request is served from the route with these captured parameters, and its handler is
called with these keyword arguments. -/
structure Called (w : World m Ref W) (params : PathParams)
    (kwargs : Dict String (PyVal Ref)) : Prop where
  serving : ∃ idx, .serving idx params ∈ ((dispatch rt req).run w).log ∧
    w.app.hotSnapshot.routes[idx]? = some entry
  handler : ∃ f, .handler f kwargs ∈ ((dispatch rt req).run w).log

/-- Every captured parameter is passed under its own name. -/
def PathKept (params : PathParams) (kwargs : Dict String (PyVal Ref)) : Prop :=
  ∀ e ∈ params, kwargs.get? e.1 = some (pathParamValue entry.extra.wildcardParams e)

/-- What is set after the path parameters, in order. -/
def laterKwargs (input : HandlerInput Ref) (json : List (String × PyVal Ref)) :
    List (String × PyVal Ref) :=
  queryKwargs input ++ depKwargs entry input ++ claimsKwargs input ++ json ++
    bodyKwargs entry req.method input ++ protocolKwargs req entry

/-- The names that are set after the path parameters, for a request with this body. -/
inductive SetLater (body : List UInt8) : String → Prop
  | query : (queryMap rt req entry).entries ≠ [] → SetLater body "query"
  | dependency {dep} : dep ∈ entry.extra.dependencies → entry.wants dep.name = true →
      SetLater body dep.name
  | claims : entry.requireJwt = true → SetLater body "claims"
  | json {name} : hasJsonBody entry req.method body = true → name ∈ jsonTargets entry →
      SetLater body name
  | form : entry.readFormBody = true → entry.wants "form" = true → SetLater body "form"
  | files : entry.readFormBody = true → entry.wants "files" = true → SetLater body "files"
  | body : entry.readFormBody = false → body ≠ [] → hasJsonBody entry req.method body = false →
      SetLater body "body"
  | protocol : entry.wants "protocol" = true → SetLater body "protocol"

/-- The sources after the path parameters in a run: what they set, under which names, and that
the handler gets the path parameters and then this. -/
structure LaterSources (snap : FrozenState m Ref) (params : PathParams)
    (log : List (RequestEvent Ref)) (kwargs : Dict String (PyVal Ref))
    (later : List (String × PyVal Ref)) : Prop where
  gathered : ∃ input json, Gathers rt req snap entry params log input json ∧
    later = laterKwargs req entry input json ∧
    ∀ name, name ∈ later.map Prod.fst ↔ SetLater rt req entry input.body name
  passed : kwargs = .ofList
    (params.map (fun e => (e.1, pathParamValue entry.extra.wildcardParams e)) ++ later)

/-- No later source replaces a captured parameter: what is set last under its name, if anything,
is the captured value. -/
def NotReplaced (params : PathParams) (later : List (String × PyVal Ref)) : Prop :=
  ∀ e ∈ params, ∀ v, (Dict.ofList later).get? e.1 = some v →
    v = pathParamValue entry.extra.wildcardParams e

/-- Parameters captured under one name have one value. -/
def NamesAgree (params : PathParams) : Prop :=
  ∀ e ∈ params, ∀ e' ∈ params, e.1 = e'.1 →
    (pathParamValue entry.extra.wildcardParams e : PyVal Ref) =
      pathParamValue entry.extra.wildcardParams e'

end

variable {rt : Runtime m Ref W} {req : HttpRequest Ref} {snap : FrozenState m Ref}
  {entry : RouteEntry Ref} {params : PathParams} {log : List (RequestEvent Ref)}

theorem mem_queryKwargs_iff {input : HandlerInput Ref} {name : String} :
    name ∈ (queryKwargs input).map Prod.fst ↔ input.query.entries ≠ [] ∧ name = "query" := by
  unfold queryKwargs
  split
  · next h => simp [h]
  · next h => simp [h]

theorem mem_depKwargs_iff {input : HandlerInput Ref} {name : String} :
    name ∈ (depKwargs entry input).map Prod.fst ↔
      name ∈ input.deps.map Prod.fst ∧ entry.wants name = true := by
  simp only [depKwargs, List.mem_map, List.mem_filter]
  constructor
  · rintro ⟨e, ⟨he, hw⟩, rfl⟩
    exact ⟨⟨e, he, rfl⟩, hw⟩
  · rintro ⟨⟨e, he, rfl⟩, hw⟩
    exact ⟨e, ⟨he, hw⟩, rfl⟩

theorem mem_claimsKwargs_iff {input : HandlerInput Ref} {name : String} :
    name ∈ (claimsKwargs input).map Prod.fst ↔ input.claims.isSome = true ∧ name = "claims" := by
  unfold claimsKwargs
  split
  · next h => simp [h]
  · next h => simp [h]

theorem mem_bodyKwargs_iff {method : String} {input : HandlerInput Ref} {name : String} :
    name ∈ (bodyKwargs entry method input).map Prod.fst ↔
      (entry.readFormBody = true ∧ (entry.wants "form" = true ∧ name = "form" ∨
        entry.wants "files" = true ∧ name = "files")) ∨
      (entry.readFormBody = false ∧ input.body ≠ [] ∧
        hasJsonBody entry method input.body = false ∧ name = "body") := by
  unfold bodyKwargs
  cases hform : entry.readFormBody with
  | true =>
    have hone (wanted : Bool) (key : String) (v : PyVal Ref) :
        name ∈ (if wanted then [(key, v)] else []).map Prod.fst ↔ wanted = true ∧ name = key := by
      cases wanted with
      | true => simp
      | false => simp
    simp only [if_true, List.map_append, List.mem_append, hone, true_and, Bool.true_eq_false,
      false_and, or_false]
  | false =>
    cases hjson : hasJsonBody entry method input.body with
    | true => simp
    | false =>
      by_cases hbody : input.body = []
      · simp [hbody]
      · simp [hbody]

theorem mem_protocolKwargs_iff {name : String} :
    name ∈ (protocolKwargs req entry).map Prod.fst ↔
      entry.wants "protocol" = true ∧ name = "protocol" := by
  unfold protocolKwargs
  split
  · next h => simp [h]
  · next h => simp [h]

/-- The names of the later arguments, source by source. -/
theorem mem_laterKwargs_iff {input : HandlerInput Ref} {json : List (String × PyVal Ref)}
    (hgathers : Gathers rt req snap entry params log input json) (name : String) :
    name ∈ (laterKwargs req entry input json).map Prod.fst ↔
      SetLater rt req entry input.body name := by
  obtain ⟨-, hquery, hclaims⟩ := hgathers.input_eq
  simp only [laterKwargs, List.map_append, List.mem_append, mem_queryKwargs_iff, mem_depKwargs_iff,
    mem_claimsKwargs_iff, mem_bodyKwargs_iff, mem_protocolKwargs_iff, hgathers.json_names, hquery,
    hgathers.deps_names, hclaims]
  constructor
  · rintro (((((⟨hne, rfl⟩ | ⟨hdep, hw⟩) | ⟨hjwt, rfl⟩) | hin) | hbody) | ⟨hw, rfl⟩)
    · exact .query hne
    · obtain ⟨dep, hmem, rfl⟩ := List.mem_map.mp hdep
      exact .dependency hmem hw
    · exact .claims hjwt
    · split at hin
      · next h => exact .json h hin
      · cases hin
    · rcases hbody with ⟨hform, ⟨hw, rfl⟩ | ⟨hw, rfl⟩⟩ | ⟨hform, hne, hj, rfl⟩
      · exact .form hform hw
      · exact .files hform hw
      · exact .body hform hne hj
    · exact .protocol hw
  · intro h
    cases h with
    | query hne => exact .inl (.inl (.inl (.inl (.inl ⟨hne, rfl⟩))))
    | dependency hmem hw =>
      exact .inl (.inl (.inl (.inl (.inr ⟨List.mem_map_of_mem hmem, hw⟩))))
    | claims hjwt => exact .inl (.inl (.inl (.inr ⟨hjwt, rfl⟩)))
    | json hj hin =>
      rw [if_pos hj]
      exact .inl (.inl (.inr hin))
    | form hform hw => exact .inl (.inr (.inl ⟨hform, .inl ⟨hw, rfl⟩⟩))
    | files hform hw => exact .inl (.inr (.inl ⟨hform, .inr ⟨hw, rfl⟩⟩))
    | body hform hne hj => exact .inl (.inr (.inr ⟨hform, hne, hj, rfl⟩))
    | protocol hw => exact .inr ⟨hw, rfl⟩

-- ════════════════════════════════════════════════════════════════════════
-- Path parameters
-- ════════════════════════════════════════════════════════════════════════

theorem allKwargs_eq_append {input : HandlerInput Ref} {json : List (String × PyVal Ref)} :
    allKwargs req entry input json =
      pathKwargs entry input ++ laterKwargs req entry input json := by
  simp only [allKwargs, laterKwargs, List.append_assoc]

/-- A key of the dict is decided by what is set later, if anything. -/
theorem get?_allKwargs {input : HandlerInput Ref} {json : List (String × PyVal Ref)}
    (name : String) :
    (Dict.ofList (allKwargs req entry input json)).get? name =
      ((Dict.ofList (laterKwargs req entry input json)).get? name).or
        ((Dict.ofList (pathKwargs entry input)).get? name) := by
  rw [allKwargs_eq_append, Dict.get?_ofList_append]

variable (entry) in
/-- The dict of the path parameters holds one of the values captured under the name. -/
theorem get?_pathKwargs {input : HandlerInput Ref} {e : String × String} (he : e ∈ input.params) :
    ∃ e' ∈ input.params, e'.1 = e.1 ∧
      (Dict.ofList (pathKwargs entry input)).get? e.1 =
        some (pathParamValue entry.extra.wildcardParams e') := by
  have hin : e.1 ∈ (pathKwargs entry input).map Prod.fst := by
    simp only [pathKwargs, List.map_map]
    exact List.mem_map_of_mem he
  obtain ⟨v, hv, hget⟩ := Dict.exists_get?_ofList hin
  obtain ⟨e', he', heq⟩ := List.mem_map.mp hv
  obtain ⟨hname, hval⟩ := Prod.mk.inj heq
  exact ⟨e', he', hname, by rw [hget, hval]⟩

/-- The path parameters are kept when nothing replaces them. -/
theorem pathKept_allKwargs_iff {input : HandlerInput Ref} {json : List (String × PyVal Ref)} :
    PathKept entry input.params (.ofList (allKwargs req entry input json)) ↔
      (NamesAgree entry input.params ∧
        NotReplaced entry input.params (laterKwargs req entry input json)) := by
  constructor
  · intro hkept
    refine ⟨fun e he e' he' hname => ?_, fun e he v hv => ?_⟩
    · have h := hkept e he
      rw [hname, hkept e' he'] at h
      exact (Option.some.inj h).symm
    · have h := hkept e he
      rw [get?_allKwargs, hv, Option.some_or] at h
      exact Option.some.inj h
  · rintro ⟨hnames, hnot⟩ e he
    rw [get?_allKwargs]
    cases hlater : (Dict.ofList (laterKwargs req entry input json)).get? e.1 with
    | some v => rw [Option.some_or, hnot e he v hlater]
    | none =>
      obtain ⟨e', he', hname, hget⟩ := get?_pathKwargs entry he
      rw [Option.none_or, hget, hnames e' he' e he hname]

/-- The handler that is called is the one of the route that serves the request, and what it is
called with comes from the sources of the request. -/
theorem handler_called {w : World m Ref W} {idx : ℕ} {f : Ref} {kwargs : Dict String (PyVal Ref)}
    (hprepared : AllPrepared w.app) (hserving : .serving idx params ∈ ((dispatch rt req).run w).log)
    (hentry : w.app.hotSnapshot.routes[idx]? = some entry)
    (hhandler : .handler f kwargs ∈ ((dispatch rt req).run w).log) :
    f = entry.handler ∧ HandlerKwargs rt req entry params ((dispatch rt req).run w).log kwargs := by
  have hcalls := (dispatch_guardedRun rt req w hprepared).calls
  obtain ⟨pre, post, hlog⟩ := List.append_of_mem hhandler
  obtain ⟨idx', params', entry', hserving', hentry', hf, ⟨input, json, hinput, hjson, hkw⟩, -⟩ :=
    (justified_iff [] _).mp hcalls pre _ post hlog
  have hin : RequestEvent.serving idx' params' ∈ ((dispatch rt req).run w).log := by
    rw [hlog]
    exact List.mem_append_left _ hserving'
  obtain ⟨rfl, rfl⟩ := serving_unique hcalls hserving hin
  obtain rfl : entry' = entry := Option.some.inj (hentry'.symm.trans hentry)
  refine ⟨hf, input, json, ?_, hjson, hkw⟩
  rw [hlog]
  exact hinput.append _

/-- What was gathered for a request that reached its handler. -/
theorem Called.gathers {w : World m Ref W} {kwargs : Dict String (PyVal Ref)}
    (hprepared : AllPrepared w.app) (h : Called rt req entry w params kwargs) :
    ∃ input json,
      Gathers rt req w.app.hotSnapshot entry params ((dispatch rt req).run w).log input json ∧
      kwargs = .ofList (allKwargs req entry input json) := by
  obtain ⟨⟨idx, hserving, hentry⟩, f, hhandler⟩ := h
  exact called_gathers hprepared hserving hentry hhandler

/-- The sources of a request that reached its handler, and when they keep its path parameters. -/
theorem Called.pathKept_iff {w : World m Ref W} {kwargs : Dict String (PyVal Ref)}
    (hprepared : AllPrepared w.app) (h : Called rt req entry w params kwargs) :
    ∃ later, LaterSources rt req entry w.app.hotSnapshot params ((dispatch rt req).run w).log
        kwargs later ∧
      (PathKept entry params kwargs ↔
        NamesAgree entry params ∧ NotReplaced entry params later) := by
  obtain ⟨input, json, hgathers, rfl⟩ := h.gathers hprepared
  obtain ⟨hparams, -, -⟩ := hgathers.input_eq
  refine ⟨laterKwargs req entry input json, ⟨⟨input, json, hgathers, rfl, ?_⟩, ?_⟩, ?_⟩
  · exact mem_laterKwargs_iff hgathers
  · rw [allKwargs_eq_append, pathKwargs, hparams]
  · rw [← hparams]
    exact pathKept_allKwargs_iff

/-- **Path parameters.** For every runtime and every two requests, in states an application
reaches, that are served from one route with the same captured parameters and reach its handler,
with what was gathered for them: in both, every path parameter is passed to the handler under its
own name with its captured value, exactly when parameters of one name agree and in neither
request a later source replaces one. -/
theorem path_kwargs_kept_iff {o : MaskOrder} {req₁ req₂ : HttpRequest Ref}
    {w₁ w₂ : World m Ref W} {kwargs₁ kwargs₂ : Dict String (PyVal Ref)}
    (hreached₁ : (appSystem m Ref o).Reached w₁.app)
    (hreached₂ : (appSystem m Ref o).Reached w₂.app)
    (h₁ : Called rt req₁ entry w₁ params kwargs₁) (h₂ : Called rt req₂ entry w₂ params kwargs₂) :
    ∃ later₁ later₂,
      LaterSources rt req₁ entry w₁.app.hotSnapshot params ((dispatch rt req₁).run w₁).log kwargs₁
        later₁ ∧
      LaterSources rt req₂ entry w₂.app.hotSnapshot params ((dispatch rt req₂).run w₂).log kwargs₂
        later₂ ∧
      (PathKept entry params kwargs₁ ∧ PathKept entry params kwargs₂ ↔
        NamesAgree entry params ∧
          NotReplaced entry params later₁ ∧ NotReplaced entry params later₂) := by
  obtain ⟨later₁, hlater₁, hiff₁⟩ := h₁.pathKept_iff (prepared_of_reached hreached₁)
  obtain ⟨later₂, hlater₂, hiff₂⟩ := h₂.pathKept_iff (prepared_of_reached hreached₂)
  refine ⟨later₁, later₂, hlater₁, hlater₂, ?_⟩
  rw [hiff₁, hiff₂, and_and_and_comm, and_self]

/-- A path parameter with a name of its own is kept in every request. -/
theorem Called.get?_of_name {w : World m Ref W} {kwargs : Dict String (PyVal Ref)}
    (hprepared : AllPrepared w.app) (h : Called rt req entry w params kwargs)
    (hnodup : (params.map Prod.fst).Nodup) {e : String × String} (he : e ∈ params)
    (hname : ∀ body, ¬ SetLater rt req entry body e.1) :
    kwargs.get? e.1 = some (pathParamValue entry.extra.wildcardParams e) := by
  obtain ⟨input, json, hgathers, rfl⟩ := h.gathers hprepared
  obtain ⟨hparams, -, -⟩ := hgathers.input_eq
  have hnot : e.1 ∉ (laterKwargs req entry input json).map Prod.fst := fun hin =>
    hname _ ((mem_laterKwargs_iff hgathers e.1).mp hin)
  have hlater : (Dict.ofList (laterKwargs req entry input json)).get? e.1 = none := by
    rw [Dict.ofList, Dict.get?_setAll_of_notMem _ hnot]
    rfl
  have hin : e ∈ input.params := by
    rw [hparams]
    exact he
  obtain ⟨e', he', hname', hget⟩ := get?_pathKwargs entry hin
  rw [hparams] at he'
  rw [get?_allKwargs, hlater, Option.none_or, hget, List.inj_on_of_nodup_map hnodup he' he hname']

/-- Path parameters with names of their own are kept in every request. -/
theorem path_kwargs_kept_of_names {o : MaskOrder} {w : World m Ref W}
    {kwargs : Dict String (PyVal Ref)} (hreached : (appSystem m Ref o).Reached w.app)
    (h : Called rt req entry w params kwargs) (hnodup : (params.map Prod.fst).Nodup)
    (hnames : ∀ e ∈ params, ∀ body, ¬ SetLater rt req entry body e.1) :
    PathKept entry params kwargs :=
  fun e he => h.get?_of_name (prepared_of_reached hreached) hnodup he (hnames e he)

/-- A host whose functions have one parameter, `query`. -/
def queryHost : Host String :=
  { plainHost with parameters := fun _ => .ok [("query", .positionalOrKeyword)] }

/-- An application with one route, `/search/:query`. -/
def searchApp : AppState segmentMatcher String :=
  (addRoute queryHost (AppState.new true)
    { method := "GET", path := "/search/:query", handler := "search", readJsonBody := false }).1

/-- A runtime in which every query string has the field `q`. -/
def queryRuntime : Runtime segmentMatcher String Unit :=
  { plainRuntime segmentMatcher with formUrlencoded := fun _ => [("q", "1")] }

/-- A search for `tea`, with a query string. -/
def searchRequest (queryString : String) : HttpRequest String :=
  { plainRequest "GET" "/search/tea" with queryString := queryString }

/-- The route of the application. -/
def searchRoute : RouteEntry String :=
  { handler := "search"
    bodyModel := none
    extra := {
      pathTemplate := "/search/:query"
      jwtCookie := none
      jwtDecodingKey := none
      jwtValidation := none
      dependencies := []
      handlerParamNames := ["query"]
      bodyParamName := "json"
      rateLimiter := none
      wildcardParams := [] }
    isAsync := false
    requireJwt := false
    readJsonBody := false
    readFormBody := false
    handlerVarkw := false
    trivialSync := false
    hasRateLimit := false }

theorem searchApp_reached :
    (appSystem segmentMatcher String ⟨id, fun _ => .rfl⟩).Reached searchApp :=
  .step (i := .addRoute queryHost _) (.init ⟨true, rfl⟩) trivial rfl

/-- Without a query string the handler gets the captured segment. -/
theorem search_called : Called queryRuntime (searchRequest "") searchRoute ⟨searchApp, ()⟩
    [("query", "tea")] (.ofList [("query", .text "tea")]) where
  serving := ⟨0, List.mem_cons_self, rfl⟩
  handler := ⟨"search", List.mem_cons_of_mem _ List.mem_cons_self⟩

/-- With a query string the handler gets the dict of the query under the name of the captured
segment. -/
theorem search_called_query : Called queryRuntime (searchRequest "q=1") searchRoute ⟨searchApp, ()⟩
    [("query", "tea")] (.ofList [("query", .dict [(.text "q", .text "1")])]) where
  serving := ⟨0, List.mem_cons_self, rfl⟩
  handler := ⟨"search", List.mem_cons_of_mem _ List.mem_cons_self⟩

/-- The two searches, one without and one with a query string. -/
theorem search_path_kwargs :
    ∃ later₁ later₂,
      LaterSources queryRuntime (searchRequest "") searchRoute searchApp.hotSnapshot
        [("query", "tea")] ((dispatch queryRuntime (searchRequest "")).run ⟨searchApp, ()⟩).log
        (.ofList [("query", .text "tea")]) later₁ ∧
      LaterSources queryRuntime (searchRequest "q=1") searchRoute searchApp.hotSnapshot
        [("query", "tea")] ((dispatch queryRuntime (searchRequest "q=1")).run ⟨searchApp, ()⟩).log
        (.ofList [("query", .dict [(.text "q", .text "1")])]) later₂ ∧
      (PathKept searchRoute [("query", "tea")] (.ofList [("query", .text "tea")]) ∧
          PathKept searchRoute [("query", "tea")]
            (.ofList [("query", .dict [(.text "q", .text "1")])]) ↔
        NamesAgree searchRoute [("query", "tea")] ∧
          NotReplaced searchRoute [("query", "tea")] later₁ ∧
          NotReplaced searchRoute [("query", "tea")] later₂) :=
  path_kwargs_kept_iff searchApp_reached searchApp_reached search_called search_called_query

/-- The two searches differ in their query strings only, and the handler does not get the
captured segment in both. -/
theorem query_replaces_path_kwarg :
    Called queryRuntime (searchRequest "") searchRoute ⟨searchApp, ()⟩ [("query", "tea")]
        (.ofList [("query", .text "tea")]) ∧
      Called queryRuntime (searchRequest "q=1") searchRoute ⟨searchApp, ()⟩ [("query", "tea")]
        (.ofList [("query", .dict [(.text "q", .text "1")])]) ∧
      PathKept searchRoute [("query", "tea")] (.ofList [("query", .text "tea")]) ∧
      ¬ PathKept searchRoute [("query", "tea")]
        (.ofList [("query", .dict [(.text "q", .text "1")])]) := by
  refine ⟨search_called, search_called_query, fun e he => ?_, fun hkept => ?_⟩
  · obtain rfl := List.mem_singleton.mp he
    rfl
  · have hget := hkept ("query", "tea") List.mem_cons_self
    cases hget

end OxyRoute
