import OxyRoute.Native.Kwargs

/-!
# Keywords that the handler declares

A handler without `**kwargs` that is given a keyword it does not declare fails. The query, the
dependencies, the form, the files and the protocol object are passed to a handler that declares
them. The path parameters, the claims, the JSON body and the raw body are passed to every
handler.

## Main definitions

- `requestParts` — what a request and its route make available, under the name it is asked for by
- `PassesDeclared` — a handler gets what it declares of that, and nothing else
- `DeclaresUnfiltered` — when it does: what is passed to every handler is declared, and what has
  one name has one value

## Main results

- `passesDeclared_iff` — a call of a handler passes what is declared exactly under this condition
-/

namespace OxyRoute

open Routine

variable {m : Matchit} {Ref W : Type}

section

variable (rt : Runtime m Ref W) (req : HttpRequest Ref) (entry : RouteEntry Ref)

/-- The handler declares a parameter of this name. -/
def RouteEntry.Declares (entry : RouteEntry Ref) (name : String) : Prop :=
  name ∈ entry.extra.handlerParamNames

/-- The name a handler asks for the decoded JSON body by. -/
def jsonName : String :=
  if entry.extra.bodyParamName = "" then "json" else entry.extra.bodyParamName

/-- The decoded JSON body. -/
def jsonPart (json : List (String × PyVal Ref)) : List (String × PyVal Ref) :=
  json.map fun e => (jsonName entry, e.2)

/-- The query. -/
def queryPart : List (String × PyVal Ref) :=
  if (parseQuery rt.formUrlencoded req.queryString).entries ≠ [] then
    [("query", textDict (parseQuery rt.formUrlencoded req.queryString))]
  else []

/-- The form and the files, or the raw body that nothing has decoded. -/
def bodyPart (input : HandlerInput Ref) : List (String × PyVal Ref) :=
  if entry.readFormBody then
    [("form", textDict input.form.form), ("files", .list (input.form.files.map fileDict))]
  else if input.body ≠ [] && !hasJsonBody entry req.method input.body then
    [("body", input.bodyObject.getD (.bytes input.body))]
  else []

/-- What is available but for a JSON body. -/
def plainParts (input : HandlerInput Ref) : List (String × PyVal Ref) :=
  pathKwargs entry input ++ queryPart rt req ++ input.deps ++ claimsKwargs input ++
    bodyPart req entry input ++ [("protocol", .object req.protocol)]

/-- What the request and the route make available. -/
def requestParts (input : HandlerInput Ref) (json : List (String × PyVal Ref)) :
    List (String × PyVal Ref) :=
  plainParts rt req entry input ++ jsonPart entry json

/-- Every keyword is declared, and every part that is declared is passed. -/
structure PassesDeclared (parts : List (String × PyVal Ref))
    (kwargs : Dict String (PyVal Ref)) : Prop where
  declared : ∀ name ∈ kwargs.keys, entry.Declares name
  passed : ∀ e ∈ parts, entry.Declares e.1 → kwargs.get? e.1 = some e.2

/-- The handler declares what is passed to every handler, the JSON body has the name it is asked
for by, and what is declared by one name has one value. -/
structure DeclaresUnfiltered (input : HandlerInput Ref) (json : List (String × PyVal Ref)) :
    Prop where
  pathDeclared : ∀ e ∈ input.params, entry.Declares e.1
  claimsDeclared : entry.requireJwt = true → entry.Declares "claims"
  jsonDeclared : hasJsonBody entry req.method input.body = true →
    ∀ name ∈ jsonTargets entry, entry.Declares name
  bodyDeclared : entry.readFormBody = false → input.body ≠ [] →
    hasJsonBody entry req.method input.body = false → entry.Declares "body"
  named : hasJsonBody entry req.method input.body = true → entry.Declares (jsonName entry) →
    jsonName entry ∈ jsonTargets entry ∨
      jsonName entry ∈ (plainParts rt req entry input).map Prod.fst
  agree : ∀ e ∈ requestParts rt req entry input json,
    ∀ e' ∈ requestParts rt req entry input json ++ json,
      e.1 = e'.1 → entry.Declares e.1 → e.2 = e'.2

end

variable {rt : Runtime m Ref W} {req : HttpRequest Ref} {entry : RouteEntry Ref}
  {params : PathParams} {input : HandlerInput Ref} {json : List (String × PyVal Ref)}

theorem wants_eq_true_iff (hvarkw : entry.handlerVarkw = false) {name : String} :
    entry.wants name = true ↔ entry.Declares name := by
  unfold RouteEntry.wants RouteEntry.Declares
  rw [hvarkw, Bool.false_or, decide_eq_true_iff]

/-- The query that is passed is the query of the request, for a handler that takes it. -/
theorem queryKwargs_eq (hquery : input.query = queryMap rt req entry) :
    queryKwargs input = if entry.wants "query" then queryPart rt req else [] := by
  unfold queryKwargs queryPart
  rw [hquery]
  unfold queryMap
  cases entry.wants "query" with
  | true => rfl
  | false => rfl

/-- What is passed is available, or comes from the JSON body. -/
theorem mem_parts_of_mem_allKwargs (hquery : input.query = queryMap rt req entry)
    {e : String × PyVal Ref} (he : e ∈ allKwargs req entry input json) :
    e ∈ plainParts rt req entry input ∨ e ∈ json := by
  unfold plainParts
  simp only [allKwargs, List.mem_append] at he ⊢
  rcases he with (((((he | he) | he) | he) | he) | he) | he
  · simp [he]
  · rw [queryKwargs_eq hquery] at he
    split at he
    · simp [he]
    · cases he
  · simp [List.mem_of_mem_filter he]
  · simp [he]
  · exact .inr he
  · have hbody : e ∈ bodyPart req entry input := by
      unfold bodyKwargs at he
      unfold bodyPart
      split at he
      · next hform =>
        rw [if_pos hform]
        rcases List.mem_append.mp he with he | he
        · split at he
          · simp [List.mem_singleton.mp he]
          · cases he
        · split at he
          · simp [List.mem_singleton.mp he]
          · cases he
      · next hform =>
        rw [if_neg hform]
        exact he
    simp [hbody]
  · unfold protocolKwargs at he
    split at he
    · simp [List.mem_singleton.mp he]
    · cases he

/-- What is available under a declared name is passed, but for a JSON body. -/
theorem mem_allKwargs_of_mem_parts (hvarkw : entry.handlerVarkw = false)
    (hquery : input.query = queryMap rt req entry) {e : String × PyVal Ref}
    (he : e ∈ plainParts rt req entry input) (hdeclared : entry.Declares e.1) :
    e ∈ allKwargs req entry input json := by
  have hwants : entry.wants e.1 = true := (wants_eq_true_iff hvarkw).mpr hdeclared
  unfold plainParts at he
  simp only [allKwargs, List.mem_append] at he ⊢
  rcases he with ((((he | he) | he) | he) | he) | he
  · simp [he]
  · have hname : e.1 = "query" := by
      unfold queryPart at he
      split at he
      · rw [List.mem_singleton.mp he]
      · cases he
    rw [queryKwargs_eq hquery, if_pos (hname ▸ hwants)]
    simp [he]
  · have hdep : e ∈ depKwargs entry input := List.mem_filter.mpr ⟨he, hwants⟩
    simp [hdep]
  · simp [he]
  · have hbody : e ∈ bodyKwargs entry req.method input := by
      unfold bodyPart at he
      unfold bodyKwargs
      split at he
      · next hform =>
        rw [if_pos hform]
        rcases List.mem_cons.mp he with rfl | he
        · rw [if_pos hwants]
          exact List.mem_cons_self
        · obtain rfl := List.mem_singleton.mp he
          rw [if_pos (show entry.wants "files" = true from hwants)]
          exact List.mem_append_right _ List.mem_cons_self
      · next hform =>
        rw [if_neg hform]
        exact he
    simp [hbody]
  · obtain rfl := List.mem_singleton.mp he
    rw [protocolKwargs, if_pos hwants]
    simp

-- ════════════════════════════════════════════════════════════════════════
-- What is passed
-- ════════════════════════════════════════════════════════════════════════

/-- A declared part that is passed, under whatever value, is passed as it is if names agree. -/
theorem get?_of_agree (hquery : input.query = queryMap rt req entry)
    (hagree : ∀ e ∈ requestParts rt req entry input json,
      ∀ e' ∈ requestParts rt req entry input json ++ json,
        e.1 = e'.1 → entry.Declares e.1 → e.2 = e'.2)
    {e : String × PyVal Ref} (he : e ∈ requestParts rt req entry input json)
    (hdeclared : entry.Declares e.1)
    (hkey : e.1 ∈ (allKwargs req entry input json).map Prod.fst) :
    (Dict.ofList (allKwargs req entry input json)).get? e.1 = some e.2 := by
  obtain ⟨v, hv, hget⟩ := Dict.exists_get?_ofList hkey
  have hin : (e.1, v) ∈ requestParts rt req entry input json ++ json := by
    rcases mem_parts_of_mem_allKwargs hquery hv with h | h
    · exact List.mem_append_left _ (List.mem_append_left _ h)
    · exact List.mem_append_right _ h
  rw [hget, hagree e he (e.1, v) hin rfl hdeclared]

/-- With declared keywords and names that agree, what is declared is passed. -/
theorem DeclaresUnfiltered.passes (hvarkw : entry.handlerVarkw = false)
    (hquery : input.query = queryMap rt req entry)
    (hclaims : input.claims.isSome = entry.requireJwt)
    (hjson : json.map Prod.fst =
      if hasJsonBody entry req.method input.body then jsonTargets entry else [])
    (h : DeclaresUnfiltered rt req entry input json) :
    PassesDeclared entry (requestParts rt req entry input json)
      (.ofList (allKwargs req entry input json)) where
  declared name hname := by
    rw [Dict.mem_keys_ofList] at hname
    simp only [allKwargs, List.map_append, List.mem_append, mem_queryKwargs_iff,
      mem_depKwargs_iff, mem_claimsKwargs_iff, mem_bodyKwargs_iff, mem_protocolKwargs_iff,
      wants_eq_true_iff hvarkw] at hname
    rcases hname with (((((hname | hname) | hname) | hname) | hname) | hname) | hname
    · obtain ⟨e', he', rfl⟩ := List.mem_map.mp hname
      obtain ⟨e, he, rfl⟩ := List.mem_map.mp he'
      exact h.pathDeclared e he
    · have hwants : entry.wants "query" = true := by
        by_contra hnot
        rw [hquery, queryMap, if_neg hnot] at hname
        exact hname.1 rfl
      rw [hname.2]
      exact (wants_eq_true_iff hvarkw).mp hwants
    · exact hname.2
    · rw [hname.2]
      exact h.claimsDeclared (hclaims ▸ hname.1)
    · rw [hjson] at hname
      split at hname
      · next hbody => exact h.jsonDeclared hbody name hname
      · cases hname
    · rcases hname with ⟨-, ⟨hform, rfl⟩ | ⟨hfiles, rfl⟩⟩ | ⟨hform, hbody, hnot, rfl⟩
      · exact hform
      · exact hfiles
      · exact h.bodyDeclared hform hbody hnot
    · rw [hname.2]
      exact hname.1
  passed e he hdeclared := by
    apply get?_of_agree hquery h.agree he hdeclared
    rcases List.mem_append.mp he with hplain | hpart
    · exact List.mem_map_of_mem (mem_allKwargs_of_mem_parts hvarkw hquery hplain hdeclared)
    · obtain ⟨e', he', rfl⟩ := List.mem_map.mp hpart
      have hbody : hasJsonBody entry req.method input.body = true := by
        by_contra hnot
        rw [if_neg hnot, List.map_eq_nil_iff] at hjson
        rw [hjson] at he'
        cases he'
      rw [if_pos hbody] at hjson
      rcases h.named hbody hdeclared with htarget | hplain
      · have hin : jsonName entry ∈ json.map Prod.fst := hjson ▸ htarget
        simp only [allKwargs, List.map_append, List.mem_append]
        simp [hin]
      · obtain ⟨e, he, hname⟩ := List.mem_map.mp hplain
        have hin : e ∈ allKwargs req entry input json :=
          mem_allKwargs_of_mem_parts hvarkw hquery he (hname ▸ hdeclared)
        show jsonName entry ∈ (allKwargs req entry input json).map Prod.fst
        rw [← hname]
        exact List.mem_map_of_mem hin

/-- A JSON body of a route without a model is passed as `json`. -/
theorem get?_json (hmodel : entry.bodyModel = none) (hjson : json.map Prod.fst =
      if hasJsonBody entry req.method input.body then jsonTargets entry else [])
    {e : String × PyVal Ref} (he : e ∈ json) :
    (Dict.ofList (allKwargs req entry input json)).get? e.1 = some e.2 := by
  have hbody : hasJsonBody entry req.method input.body = true := by
    by_contra hnot
    rw [if_neg hnot, List.map_eq_nil_iff] at hjson
    rw [hjson] at he
    cases he
  have htargets : jsonTargets entry = ["json"] := by
    unfold jsonTargets
    rw [hmodel]
  rw [if_pos hbody, htargets] at hjson
  obtain ⟨e', rfl, hname⟩ := List.map_eq_singleton_iff.mp hjson
  obtain rfl := List.mem_singleton.mp he
  have hform : entry.readFormBody = false := by
    simp only [hasJsonBody, Bool.and_eq_true, Bool.not_eq_true'] at hbody
    exact hbody.1.1.2
  have hnone : bodyKwargs entry req.method input = [] := by
    rw [bodyKwargs, hform, hbody]
    simp
  have hprotocol : (Dict.ofList (protocolKwargs req entry)).get? e.1 = none := by
    rw [Dict.ofList, Dict.get?_setAll_of_notMem _ (fun hin => ?_), Dict.get?_empty]
    have hname' := (mem_protocolKwargs_iff.mp hin).2
    rw [hname] at hname'
    revert hname'
    decide
  rw [allKwargs, hnone, List.append_nil, Dict.get?_ofList_append, hprotocol, Option.none_or,
    Dict.get?_ofList_append]
  simp [Dict.ofList]

/-- What is passed under two names of the JSON body agrees. -/
theorem PassesDeclared.json_value (hvarkw : entry.handlerVarkw = false)
    (hjson : json.map Prod.fst =
      if hasJsonBody entry req.method input.body then jsonTargets entry else [])
    (h : PassesDeclared entry (requestParts rt req entry input json)
      (.ofList (allKwargs req entry input json)))
    {e : String × PyVal Ref} (he : e ∈ json) (hdeclared : entry.Declares e.1) :
    (Dict.ofList (allKwargs req entry input json)).get? e.1 = some e.2 := by
  cases hmodel : entry.bodyModel with
  | none => exact get?_json hmodel hjson he
  | some model =>
    have hname : e.1 = jsonName entry := by
      have hin : e.1 ∈ json.map Prod.fst := List.mem_map_of_mem he
      rw [hjson] at hin
      split at hin
      · simpa [jsonTargets, hmodel, hvarkw, jsonName] using hin
      · cases hin
    apply h.passed e _ hdeclared
    apply List.mem_append_right
    exact List.mem_map.mpr ⟨e, he, by rw [← hname]⟩

/-- A handler that gets what it declares, and nothing else, declares what is passed to every
handler. -/
theorem PassesDeclared.declares (hvarkw : entry.handlerVarkw = false)
    (hquery : input.query = queryMap rt req entry)
    (hclaims : input.claims.isSome = entry.requireJwt)
    (hjson : json.map Prod.fst =
      if hasJsonBody entry req.method input.body then jsonTargets entry else [])
    (h : PassesDeclared entry (requestParts rt req entry input json)
      (.ofList (allKwargs req entry input json))) :
    DeclaresUnfiltered rt req entry input json where
  pathDeclared e he := by
    apply h.declared
    rw [Dict.mem_keys_ofList]
    simp only [allKwargs, List.map_append, List.mem_append]
    have hin : e.1 ∈ (pathKwargs entry input).map Prod.fst := by
      simp only [pathKwargs, List.map_map]
      exact List.mem_map_of_mem he
    simp [hin]
  claimsDeclared hjwt := by
    apply h.declared
    rw [Dict.mem_keys_ofList]
    simp only [allKwargs, List.map_append, List.mem_append]
    have hin : "claims" ∈ (claimsKwargs input).map Prod.fst :=
      mem_claimsKwargs_iff.mpr ⟨hclaims.trans hjwt, rfl⟩
    simp [hin]
  jsonDeclared hbody name hname := by
    apply h.declared
    rw [Dict.mem_keys_ofList]
    rw [if_pos hbody] at hjson
    simp only [allKwargs, List.map_append, List.mem_append]
    simp [hjson, hname]
  bodyDeclared hform hbody hnot := by
    apply h.declared
    rw [Dict.mem_keys_ofList]
    simp only [allKwargs, List.map_append, List.mem_append]
    have hin : "body" ∈ (bodyKwargs entry req.method input).map Prod.fst :=
      mem_bodyKwargs_iff.mpr (.inr ⟨hform, hbody, hnot, rfl⟩)
    simp [hin]
  named hbody hdeclared := by
    rw [if_pos hbody] at hjson
    have hne : json ≠ [] := by
      rintro rfl
      unfold jsonTargets at hjson
      split at hjson
      · cases hjson
      · cases hjson
    obtain ⟨e, he⟩ := List.exists_mem_of_ne_nil json hne
    have hpart : (jsonName entry, e.2) ∈ requestParts rt req entry input json :=
      List.mem_append_right _ (List.mem_map.mpr ⟨e, he, rfl⟩)
    have hget := h.passed _ hpart hdeclared
    have hkey : jsonName entry ∈ (Dict.ofList (allKwargs req entry input json)).keys := by
      rw [Dict.mem_keys_iff, hget]
      rfl
    rw [Dict.mem_keys_ofList] at hkey
    obtain ⟨e', he', hname⟩ := List.mem_map.mp hkey
    rcases mem_parts_of_mem_allKwargs hquery he' with hplain | hin
    · exact .inr (hname ▸ List.mem_map_of_mem hplain)
    · rw [← hjson]
      exact .inl (hname ▸ List.mem_map_of_mem hin)
  agree e he e' he' hname hdeclared := by
    have hget := h.passed e he hdeclared
    have hget' : (Dict.ofList (allKwargs req entry input json)).get? e'.1 = some e'.2 := by
      rcases List.mem_append.mp he' with hpart | hin
      · exact h.passed e' hpart (hname ▸ hdeclared)
      · exact h.json_value hvarkw hjson hin (hname ▸ hdeclared)
    rw [hname, hget'] at hget
    exact (Option.some.inj hget).symm

/-- **Declared keywords.** For every runtime and every request, in a state an application
reaches, that is served from a route whose handler has no `**kwargs` and reaches the handler
call, with what was gathered for it: every keyword is declared by the handler and every part
that is available and declared is passed, exactly when the handler declares the parts that are
passed to every handler and parts of one name agree. -/
theorem passesDeclared_iff {o : MaskOrder} {w : World m Ref W}
    {kwargs : Dict String (PyVal Ref)} (hreached : (appSystem m Ref o).Reached w.app)
    (hvarkw : entry.handlerVarkw = false) (h : Called rt req entry w params kwargs) :
    ∃ input json,
      Gathers rt req w.app.hotSnapshot entry params ((dispatch rt req).run w).log input json ∧
      (PassesDeclared entry (requestParts rt req entry input json) kwargs ↔
        DeclaresUnfiltered rt req entry input json) := by
  obtain ⟨input, json, hgathers, rfl⟩ := h.gathers (prepared_of_reached hreached)
  obtain ⟨-, hquery, hclaims⟩ := hgathers.input_eq
  refine ⟨input, json, hgathers, fun hpasses => ?_, fun hdeclares => ?_⟩
  · exact hpasses.declares hvarkw hquery hclaims hgathers.json_names
  · exact hdeclares.passes hvarkw hquery hclaims hgathers.json_names

/-- A search passes the captured segment, which the handler declares. -/
theorem search_passes :
    ∃ input json,
      Gathers queryRuntime (searchRequest "") searchApp.hotSnapshot searchRoute
        [("query", "tea")] ((dispatch queryRuntime (searchRequest "")).run ⟨searchApp, ()⟩).log
        input json ∧
      (PassesDeclared searchRoute
          (requestParts queryRuntime (searchRequest "") searchRoute input json)
          (.ofList [("query", .text "tea")]) ↔
        DeclaresUnfiltered queryRuntime (searchRequest "") searchRoute input json) :=
  passesDeclared_iff searchApp_reached rfl search_called

/-- An application with one route, `/users/:id`, whose handler has no parameters. -/
def userApp : AppState segmentMatcher String :=
  (addRoute plainHost (AppState.new true)
    { method := "GET", path := "/users/:id", handler := "user", readJsonBody := false }).1

/-- The route of the application. -/
def userRoute : RouteEntry String :=
  { searchRoute with
    handler := "user"
    extra := { searchRoute.extra with pathTemplate := "/users/:id", handlerParamNames := [] } }

theorem userApp_reached : (appSystem segmentMatcher String ⟨id, fun _ => .rfl⟩).Reached userApp :=
  .step (i := .addRoute plainHost _) (.init ⟨true, rfl⟩) trivial rfl

/-- A handler without parameters is called with the captured segment. -/
theorem undeclared_segment_passed :
    (appSystem segmentMatcher String ⟨id, fun _ => .rfl⟩).Reached userApp ∧
      userRoute.handlerVarkw = false ∧
      ∃ kwargs, Called (plainRuntime segmentMatcher) (plainRequest "GET" "/users/ada") userRoute
          ⟨userApp, ()⟩ [("id", "ada")] kwargs ∧
        ¬ ∀ name ∈ kwargs.keys, userRoute.Declares name := by
  refine ⟨userApp_reached, rfl, .ofList [("id", .text "ada")], ⟨?_, ?_⟩, fun h => ?_⟩
  · exact ⟨0, List.mem_cons_self, rfl⟩
  · exact ⟨"user", List.mem_cons_of_mem _ List.mem_cons_self⟩
  · cases h "id" List.mem_cons_self

end OxyRoute
