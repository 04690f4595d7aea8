import OxyRoute.Native.Errors

/-!
# Serving a matched route

The part of `run_rsgi` after routing, stage by stage: rate limit, body, JWT, form, dependencies,
keyword arguments, handler, response. A stage that refuses the request sends its answer and
exits.

## Main definitions

- `checkRateLimit`, `readRequestBody`, `checkJwt`, `readForm` — the guards
- `runDependencies` — the dependency factories
- `callHandler` — the keyword arguments and the call
- `serveRoute` — all of it
-/

namespace OxyRoute

variable {m : Matchit} {Ref W : Type}

/-- Methods whose body is decoded. -/
def hasBodyMethod (method : String) : Bool := method ∈ ["POST", "PUT", "PATCH", "DELETE"]

section

variable (rt : Runtime m Ref W) (req : HttpRequest Ref) (snap : FrozenState m Ref)
  (entry : RouteEntry Ref)

/-- Answer an error of Python code and return. -/
def failWith {α : Type} (err : PyErr Ref) : Dispatch m Ref W α := do
  sendPythonError rt req snap err
  Routine.exit .done

/-- Send a short JSON text and return. -/
def rejectJson {α : Type} (status : ℕ) (text : String) : Dispatch m Ref W α :=
  finish (sendText rt req status text "application/json; charset=utf-8")

/-- Send a short plain text and return. -/
def rejectPlain {α : Type} (status : ℕ) (text : String) : Dispatch m Ref W α :=
  finish (sendText rt req status text "text/plain; charset=utf-8")

/-- Set `__oxyroute_path_template__`; errors are ignored. -/
def setTemplate (template : String) : Dispatch m Ref W Unit :=
  Routine.effect fun w => (.ok (), rt.setPathTemplate req.protocol template w)

-- ════════════════════════════════════════════════════════════════════════
-- Rate limit and body
-- ════════════════════════════════════════════════════════════════════════

/-- The rate limit of the route. -/
def checkRateLimit : Dispatch m Ref W Unit :=
  match entry.extra.rateLimiter with
  | none => pure ()
  | some rl => do
    let key := extractRateLimitKey rt.toInspection req rl.keyStrategy
    let decision ← Routine.effect fun w => ((.ok (rt.rateLimit rl key w).1), (rt.rateLimit rl key w).2)
    Routine.log (.rateLimited key decision)
    match decision with
    | .allowed .. => pure ()
    | .denied limit resetSecs => finish (send429RateLimited rt req limit resetSecs)

/-- `should_read_body`. -/
def RouteEntry.shouldReadBody (entry : RouteEntry Ref) : Bool :=
  entry.readJsonBody || entry.readFormBody ||
    (entry.handlerVarkw || "body" ∈ entry.extra.handlerParamNames)

/-- The declared length of the body. -/
def declaredLength (py : Inspection Ref) (req : HttpRequest Ref) : Option ℕ :=
  (req.header py "content-length").bind Text.parseU64

/-- The answer to a body over the limit. -/
def payloadTooLarge {α : Type} : Dispatch m Ref W α :=
  rejectJson rt req 413 "\x7b\"error\":\"payload too large\"\x7d"

/-- `RequestBody::from_py_any`, with the object if it is `bytes`. -/
def requestBody (py : Inspection Ref) (v : PyVal Ref) : List UInt8 × Option (PyVal Ref) :=
  match v with
  | .bytes b => (b, some (.bytes b))
  | .str s => (if s.surrogates then [] else utf8 s.text, none)
  | v => ((extractByteVec py v).getD [], none)

/-- The check of the declared length, before the body is read. -/
def checkDeclaredLength : Dispatch m Ref W Unit :=
  match declaredLength rt.toInspection req with
  | some len => if rt.maxBodyBytes < len then payloadTooLarge rt req else pure ()
  | none => pure ()

/-- Read the body, and check its length. -/
def readWithinLimit : Dispatch m Ref W (List UInt8 × Option (PyVal Ref)) := do
  let read ← Routine.attempt (Routine.effect (rt.readBody req.protocol))
  Routine.log (.bodyRead read)
  let v ← orRaise (Routine.ofExcept read)
  let body := requestBody rt.toInspection v
  if rt.maxBodyBytes < body.1.length then payloadTooLarge rt req else return body

/-- The body of the request, within the limit; empty for a route that does not read it. -/
def readRequestBody : Dispatch m Ref W (List UInt8 × Option (PyVal Ref)) :=
  if entry.shouldReadBody then do
    checkDeclaredLength rt req
    readWithinLimit rt req
  else return ([], none)

-- ════════════════════════════════════════════════════════════════════════
-- JWT
-- ════════════════════════════════════════════════════════════════════════

/-- The token of a request: a non-empty bearer value, or else the route's cookie. -/
def requestToken (jwtCookie auth cookieRaw : Option String) : Option String :=
  match (extractBearer auth).filter (· ≠ "") with
  | some t => some t
  | none =>
    match jwtCookie, cookieRaw with
    | some name, some raw => (extractCookieValue raw name).filter (· ≠ "")
    | _, _ => none

/-- The claims of the token, or the text of the 401 answer. -/
def authenticate (headers : PyVal Ref) : Except String Json :=
  let py := rt.toInspection
  match entry.extra.jwtDecodingKey, entry.extra.jwtValidation with
  | some dk, some val =>
    match requestToken entry.extra.jwtCookie (headerGetLax py headers "authorization")
        (headerGetLax py headers "cookie") with
    | none => .error "Unauthorized"
    | some token =>
      match rt.decodeJwt token dk val with
      | .ok claims => .ok claims
      | .error .expiredSignature => .error "Expired"
      | .error .other => .error "Unauthorized"
  | _, _ => .error "Unauthorized"

/-- The JWT check of the route. -/
def checkJwt : Dispatch m Ref W (Option Json) :=
  if entry.requireJwt then do
    let headers ← orRaise (Routine.ofExcept req.headers)
    match authenticate rt entry headers with
    | .ok claims => return some claims
    | .error text => rejectPlain rt req 401 text
  else return none

-- ════════════════════════════════════════════════════════════════════════
-- Forms
-- ════════════════════════════════════════════════════════════════════════

/-- `ParsedFormData`. -/
structure ParsedFormData where
  form : Dict String String
  files : List ParsedFile

/-- A form that is not accepted: an error of Python code, or an answer. -/
inductive FormError (Ref : Type)
  | python (e : PyErr Ref)
  | response (status : ℕ) (text : String)

/-- A text for the `error` member of a JSON answer. -/
def errorJson (text : String) : String := rt.jsonToString (.ofMembers [("error", .str text)])

/-- `parse_urlencoded_form`. -/
def parseUrlencodedForm (body : List UInt8) : Dict String String :=
  if body = [] then .empty else .ofList (rt.formUrlencoded body)

/-- The loop of `parse_multipart` over the fields. -/
def collectFields : ParsedFormData → List MultipartField → Except String ParsedFormData
  | acc, [] => .ok acc
  | acc, field :: rest => do
    let name := field.name.getD "field"
    match field.fileName with
    | some filename =>
      let data ← field.data
      collectFields { acc with files := acc.files ++ [⟨name, some filename,
        field.contentType.getD "application/octet-stream", data⟩] } rest
    | none =>
      let text ← field.text
      collectFields { acc with form := acc.form.set name text } rest

/-- `parse_multipart`. -/
def parseMultipart (body : List UInt8) (boundary : String) : Except String ParsedFormData := do
  let (fields, err) := rt.multipartFields body boundary
  let parsed ← collectFields ⟨.empty, []⟩ fields
  match err with
  | some e => throw e
  | none => return parsed

/-- The form of a non-empty body. -/
def parseForm (headers : PyVal Ref) (body : List UInt8) :
    Except (FormError Ref) ParsedFormData :=
  match headerGetLax rt.toInspection headers "content-type" with
  | none | some "" => .error (.response 400 "\x7b\"error\":\"missing content-type\"\x7d")
  | some ct =>
    let lower := (Text.toAsciiLowercase ct).toList
    if (Text.dropLeading "application/x-www-form-urlencoded".toList lower).isSome then
      .ok ⟨parseUrlencodedForm rt body, []⟩
    else if (Text.dropLeading "multipart/form-data".toList lower).isSome then
      match rt.parseBoundary ct with
      | none => .error (.response 400 "\x7b\"error\":\"invalid multipart boundary\"\x7d")
      | some boundary =>
        match parseMultipart rt body boundary with
        | .ok parsed => .ok parsed
        | .error e => .error (.response 400 (errorJson rt ("multipart: " ++ e)))
    else .error (.response 415
      "\x7b\"error\":\"expected application/x-www-form-urlencoded or multipart/form-data\"\x7d")

/-- The form of a body, which may be empty. -/
def formOf (body : List UInt8) : Except (FormError Ref) ParsedFormData :=
  if body = [] then .ok ⟨.empty, []⟩
  else
    match req.headers with
    | .error e => .error (.python e)
    | .ok headers => parseForm rt headers body

/-- The form parsing of the route. -/
def readForm (body : List UInt8) : Dispatch m Ref W ParsedFormData :=
  if entry.readFormBody && hasBodyMethod req.method then
    match formOf rt req body with
    | .ok form => pure form
    | .error (.python e) => failWith rt req snap e
    | .error (.response status text) => rejectJson rt req status text
  else return ⟨.empty, []⟩

-- ════════════════════════════════════════════════════════════════════════
-- Dependencies
-- ════════════════════════════════════════════════════════════════════════

/-- The request object, if a dependency wants it. -/
def requestContext : Dispatch m Ref W (Option (PyVal Ref)) :=
  if entry.extra.dependencies.any (·.wantsRequest) then
    match rt.newRequest req.scope req.method req.path req.queryString with
    | .ok ctx => return some ctx
    | .error e => failWith rt req snap e
  else return none

/-- The keywords of a factory: the request, and the earlier dependencies it names. -/
def factoryKwargs (dep : DependencyEntry Ref) (ctx : Option (PyVal Ref))
    (prev : List (String × PyVal Ref)) : Dict String (PyVal Ref) :=
  let kw := match dep.wantsRequest, ctx with
    | true, some rc => Dict.empty.set "request" rc
    | _, _ => Dict.empty
  kw.setAll (prev.filter fun e => dep.factoryVarkw || e.1 ∈ dep.factoryParams)

/-- Call a factory, and await what an asynchronous one returns. -/
def callFactory (dep : DependencyEntry Ref) (ctx : Option (PyVal Ref))
    (prev : List (String × PyVal Ref)) : PyResult m Ref W (PyVal Ref) := do
  let kw := factoryKwargs dep ctx prev
  Routine.log (.factory dep.name dep.factory kw)
  let r ← Routine.effect (rt.call dep.factory [] kw)
  if dep.isAsync then
    Routine.ofExcept (rt.intoFuture r)
    Routine.effect (rt.await r)
  else return r

/-- A `DBQuery` is replaced by its rows. -/
def resolveQuery (o : PyVal Ref) : PyResult m Ref W (PyVal Ref) :=
  match rt.dbQuery o, snap.dbPool with
  | none, _ => pure o
  | some query, some pool => Routine.effect (rt.executeQuery pool query)
  | some _, none => Routine.exit (.runtimeError
      "DBQuery used but database pool is not configured (call app.setup_database first)")

/-- One round of the loop over the dependencies. -/
def runDependency (dep : DependencyEntry Ref) (ctx : Option (PyVal Ref))
    (prev : List (String × PyVal Ref)) : Dispatch m Ref W (PyVal Ref) := do
  let out ← Routine.attempt (callFactory rt dep ctx prev >>= resolveQuery rt snap)
  Routine.log (.resolved dep.name out)
  match out with
  | .ok v => return v
  | .error e => failWith rt req snap e

/-- The loop over the dependencies, with the values so far. -/
def runDependencies (ctx : Option (PyVal Ref)) :
    List (DependencyEntry Ref) → List (String × PyVal Ref) →
      Dispatch m Ref W (List (String × PyVal Ref))
  | [], prev => return prev
  | dep :: deps, prev => do
    let v ← runDependency rt req snap dep ctx prev
    runDependencies ctx deps (prev ++ [(dep.name, v)])

-- ════════════════════════════════════════════════════════════════════════
-- Keyword arguments
-- ════════════════════════════════════════════════════════════════════════

/-- What has been gathered for the handler. -/
structure HandlerInput (Ref : Type) where
  params : PathParams
  query : Dict String String
  deps : List (String × PyVal Ref)
  claims : Option Json
  body : List UInt8
  bodyObject : Option (PyVal Ref)
  form : ParsedFormData

/-- The handler takes a keyword of this name. -/
def RouteEntry.wants (entry : RouteEntry Ref) (name : String) : Bool :=
  entry.handlerVarkw || name ∈ entry.extra.handlerParamNames

/-- `query_map`. -/
def queryMap : Dict String String :=
  if entry.wants "query" then parseQuery rt.formUrlencoded req.queryString else .empty

/-- `has_json_body`. -/
def hasJsonBody (method : String) (body : List UInt8) : Bool :=
  entry.readJsonBody && !entry.readFormBody && hasBodyMethod method && body ≠ []

/-- A dict of strings. -/
def textDict (d : Dict String String) : PyVal Ref :=
  .dict (d.entries.map fun e => (.text e.1, .text e.2))

/-- The dict of an uploaded file. -/
def fileDict (f : ParsedFile) : PyVal Ref :=
  .dict [(.text "name", .text f.name),
    (.text "filename", match f.filename with
      | some n => .text n
      | none => .none),
    (.text "content_type", .text f.contentType), (.text "data", .bytes f.data)]

/-- The path parameters. -/
def pathKwargs (input : HandlerInput Ref) : List (String × PyVal Ref) :=
  input.params.map fun e => (e.1, pathParamValue entry.extra.wildcardParams e)

/-- The query. -/
def queryKwargs (input : HandlerInput Ref) : List (String × PyVal Ref) :=
  if input.query.entries ≠ [] then [("query", textDict input.query)] else []

/-- The dependencies the handler takes. -/
def depKwargs (input : HandlerInput Ref) : List (String × PyVal Ref) :=
  input.deps.filter fun e => entry.wants e.1

/-- The JWT claims. -/
def claimsKwargs (input : HandlerInput Ref) : List (String × PyVal Ref) :=
  match input.claims with
  | some c => [("claims", jsonToPy c)]
  | none => []

/-- The form and the files, or the raw body. -/
def bodyKwargs (method : String) (input : HandlerInput Ref) : List (String × PyVal Ref) :=
  if entry.readFormBody then
    (if entry.wants "form" then [("form", textDict input.form.form)] else []) ++
      if entry.wants "files" then [("files", .list (input.form.files.map fileDict))] else []
  else if input.body ≠ [] && !hasJsonBody entry method input.body then
    [("body", input.bodyObject.getD (.bytes input.body))]
  else []

/-- The protocol object. -/
def protocolKwargs : List (String × PyVal Ref) :=
  if entry.wants "protocol" then [("protocol", .object req.protocol)] else []

/-- `should_use_kwargs`. -/
def shouldUseKwargs (input : HandlerInput Ref) : Bool :=
  input.params ≠ [] || input.query.entries ≠ [] || depKwargs entry input ≠ [] ||
    input.claims.isSome || hasJsonBody entry req.method input.body ||
    (entry.readFormBody && (entry.wants "form" || entry.wants "files")) ||
    (!entry.readFormBody && input.body ≠ [] && !hasJsonBody entry req.method input.body) ||
    entry.wants "protocol"

/-- What decoding a JSON body yields: keywords, or the text of a 422 or of a 400 answer. -/
inductive BodyOutcome (Ref : Type)
  | assign (kw : List (String × PyVal Ref))
  | validationError (text : String)
  | jsonParseError (text : String)

/-- `hasattr` where an error counts as no. -/
def hasAttr (r : Ref) (name : String) : Bool :=
  match rt.getattr r name with
  | .ok (some _) => true
  | _ => false

/-- The call that validates a JSON body with a model; none if the body is no JSON, with the text
of the error. -/
def validateBody (model : Ref) (input : HandlerInput Ref) :
    PyResult m Ref W (Except String (PyVal Ref)) :=
  if hasAttr rt model "model_validate_json" then
    .ok <$> Routine.effect (rt.callMethod model "model_validate_json"
      [input.bodyObject.getD (.bytes input.body)])
  else
    match rt.jsonBytesToPy input.body with
    | .error e => return .error e
    | .ok v =>
      if hasAttr rt model "model_validate" then
        .ok <$> Routine.effect (rt.callMethod model "model_validate" [v])
      else .ok <$> Routine.effect (rt.call model [v] .empty)

/-- The detail of a validation error: what the `json` method of the exception returns. -/
def validationDetail (err : PyErr Ref) : PyResult m Ref W String :=
  match rt.exceptionObject err with
  | .object exc => do
    match ← Routine.attempt (Routine.effect (rt.callMethod exc "json" []) : PyResult m Ref W _) with
    | .ok v =>
      match extractString rt.toInspection v with
      | .ok s => return s
      | .error _ => return "[]"
    | .error _ => return "[]"
  | _ => return "[]"

/-- The JSON body, decoded and validated. -/
def decodeJsonBody (input : HandlerInput Ref) : PyResult m Ref W (BodyOutcome Ref) :=
  match entry.bodyModel with
  | none =>
    match rt.jsonBytesToPy input.body with
    | .ok v => return .assign [("json", v)]
    | .error e => return .jsonParseError (errorJson rt ("json: " ++ e))
  | some model => do
    match ← Routine.attempt (validateBody rt model input : PyResult m Ref W _) with
    | .ok (.error e) => return .jsonParseError (errorJson rt ("json: " ++ e))
    | .ok (.ok v) =>
      Routine.log (.validated (.ok v))
      let target := if entry.extra.bodyParamName = "" then "json" else entry.extra.bodyParamName
      return .assign ((target, v) ::
        if target ≠ "json" && entry.handlerVarkw then [("json", v)] else [])
    | .error err =>
      Routine.log (.validated (.error err))
      let detail ← validationDetail rt err
      return .validationError ("\x7b\"detail\":" ++ detail ++ "\x7d")

/-- `RunHandlerResult`. -/
inductive RunHandlerResult (Ref : Type)
  | ok (res : PyVal Ref)
  | validationError (text : String)
  | jsonParseError (text : String)

/-- The keywords of the JSON body, if there is one. -/
def jsonKwargs (input : HandlerInput Ref) : PyResult m Ref W (BodyOutcome Ref) :=
  if hasJsonBody entry req.method input.body then decodeJsonBody rt entry input
  else return .assign []

/-- All keywords, in the order they are set. -/
def allKwargs (input : HandlerInput Ref) (json : List (String × PyVal Ref)) :
    List (String × PyVal Ref) :=
  pathKwargs entry input ++ queryKwargs input ++ depKwargs entry input ++ claimsKwargs input ++
    json ++ bodyKwargs entry req.method input ++ protocolKwargs req entry

/-- The call of the handler. -/
def invokeHandler (kwargs : Dict String (PyVal Ref)) : PyResult m Ref W (PyVal Ref) := do
  Routine.log (.handler entry.handler kwargs)
  Routine.effect (rt.call entry.handler [] kwargs)

/-- Build the keyword arguments and call the handler. -/
def runHandler (input : HandlerInput Ref) : PyResult m Ref W (RunHandlerResult Ref) :=
  if shouldUseKwargs req entry input then do
    match ← jsonKwargs rt req entry input with
    | .validationError text => return .validationError text
    | .jsonParseError text => return .jsonParseError text
    | .assign json =>
      return .ok (← invokeHandler rt entry (.ofList (allKwargs req entry input json)))
  else do
    return .ok (← invokeHandler rt entry .empty)

/-- The value of the handler, awaited if it is asynchronous. -/
def handlerValue (res : PyVal Ref) : PyResult m Ref W (PyVal Ref) :=
  if entry.isAsync then do
    Routine.ofExcept (rt.intoFuture res)
    Routine.effect (rt.await res)
  else return res

/-- Call the handler and answer what keeps it from returning. -/
def callHandler (input : HandlerInput Ref) : Dispatch m Ref W (PyVal Ref) := do
  match ← Routine.attempt (runHandler rt req entry input) with
  | .error e => failWith rt req snap e
  | .ok (.jsonParseError text) => rejectJson rt req 400 text
  | .ok (.validationError text) => rejectJson rt req 422 text
  | .ok (.ok res) =>
    match ← Routine.attempt (handlerValue rt entry res) with
    | .ok v => return v
    | .error e => failWith rt req snap e

/-- Respond with a value and return; an error on the way is answered. -/
def respondOrFail {α : Type} (v : PyVal Ref) : Dispatch m Ref W α := do
  match ← Routine.attempt (respondWith rt req snap v) with
  | .ok () => Routine.exit .done
  | .error e => failWith rt req snap e

/-- `run_rsgi` from the matched route on. -/
def serveRoute (idx : ℕ) (params : PathParams) : Dispatch m Ref W Unit := do
  Routine.log (.serving idx params)
  checkRateLimit rt req entry
  setTemplate rt req entry.extra.pathTemplate
  let (body, bodyObject) ← readRequestBody rt req entry
  let claims ← checkJwt rt req entry
  let form ← readForm rt req snap entry body
  let ctx ← requestContext rt req snap entry
  let deps ← runDependencies rt req snap ctx entry.extra.dependencies []
  let v ← callHandler rt req snap entry
    ⟨params, queryMap rt req entry, deps, claims, body, bodyObject, form⟩
  respondOrFail rt req snap v

end

end OxyRoute
