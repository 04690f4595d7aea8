import OxyRoute.Native.Response

/-!
# Mapping return values to responses

How a value that a handler, a middleware or an exception handler returns becomes a response,
which headers the configurations add to it, and how it is sent.

## Main definitions

- `HandlerMap` — a mapped value
- `mapHandlerReturn` — the mapping
- `mergeConfigResponseHeaders` — security and CORS headers
- `sendHandlerMapInline` — the response call
- `respondWith` — all of it, for the value of a handler or a request middleware
-/

namespace OxyRoute

variable {m : Matchit} {Ref W : Type}

/-- `SimpleBody`. -/
inductive SimpleBody
  | owned (b : List UInt8)
  | pyString (s : PyStr)
  | pyBytes (b : List UInt8)
  deriving DecidableEq, Repr

/-- `HandlerMap`. -/
inductive HandlerMap
  | alreadySent
  | withHeaders (status : ℕ) (body : SimpleBody) (headers : HeaderPairs)
  | simple (status : ℕ) (body : SimpleBody) (contentType : String)
  deriving DecidableEq, Repr

/-- `byte_len`. -/
def SimpleBody.byteLen : SimpleBody → Except (PyErr Ref) ℕ
  | .owned b | .pyBytes b => .ok b.length
  | .pyString s => s.toStr.map fun t => (utf8 t).length

-- ════════════════════════════════════════════════════════════════════════
-- Structured responses
-- ════════════════════════════════════════════════════════════════════════

/-- `contains_crlf`. -/
def containsCrlf (s : String) : Bool := s.toList.any fun c => c == '\r' || c == '\n'

/-- `is_unsafe_cookie_line`. -/
def isUnsafeCookieLine (s : String) : Bool :=
  s.toList.any fun c => c == '\r' || c == '\n' || Text.isControl c

/-- A JSON body. -/
def jsonResponse (py : Inspection Ref) (v : PyVal Ref) : Except (PyErr Ref) HandlerMap := do
  let bytes ← py.jsonBytes v
  return .simple 200 (.owned bytes) "application/json; charset=utf-8"

/-- `value_to_bytes_and_ct`. -/
def valueToBytesAndCt (py : Inspection Ref) (v : PyVal Ref) :
    Except (PyErr Ref) (List UInt8 × String) :=
  let json : Except (PyErr Ref) (List UInt8 × String) := do
    return (← py.jsonBytes v, "application/json; charset=utf-8")
  match v with
  | .none => .ok ([], "text/plain; charset=utf-8")
  | .str s => .ok (utf8 s.text, "text/plain; charset=utf-8")
  | .bytes b => .ok (b, "application/octet-stream")
  | .dict _ | .list _ | .tuple _ => json
  | v =>
    match extractByteVec py v with
    | some b => .ok (b, "application/octet-stream")
    | none => json

/-- The header pairs of a structured response, in dict order. -/
def headerPairs (py : Inspection Ref) :
    List (PyVal Ref × PyVal Ref) → Except (PyErr Ref) HeaderPairs
  | [] => .ok []
  | (k, v) :: rest => do
    let key ← extractString py k
    let val ← extractString py v
    if containsCrlf key ∨ containsCrlf val then
      throw (.valueError "unsafe response header contains CR or LF")
    return (key, val) :: (← headerPairs py rest)

/-- The `set-cookie` pairs of a structured response. -/
def cookiePairs (py : Inspection Ref) : List (PyVal Ref) → Except (PyErr Ref) HeaderPairs
  | [] => .ok []
  | item :: rest => do
    let s ← extractString py item
    if isUnsafeCookieLine s then
      throw (.valueError "unsafe set-cookie value contains control characters")
    return ("set-cookie", s) :: (← cookiePairs py rest)

/-- `structured_from_status_body`. -/
def structuredFromStatusBody (py : Inspection Ref) (st body : PyVal Ref)
    (headers cookies : Option (PyVal Ref)) : Except (PyErr Ref) HandlerMap := do
  let status ← extractU16 py st
  let (body, defaultCt) ← valueToBytesAndCt py body
  let pairs ← match headers with
    | none | some .none => pure []
    | some (.dict d) => headerPairs py d
    | some h => throw (downcastError py h "PyDict")
  let hasCt := pairs.any fun e => Text.eqIgnoreAsciiCase e.1 "content-type"
  let pairs := if hasCt then pairs else ("content-type", defaultCt) :: pairs
  let cookies ← match cookies with
    | none | some .none => pure []
    | some (.list items) => cookiePairs py items
    | some c => throw (downcastError py c "PyList")
  return .withHeaders status (.owned body) (pairs ++ cookies)

/-- The header pairs of a structured response, if it has a headers dict. -/
def structuredHeaders (py : Inspection Ref) : Option (PyVal Ref) → Except (PyErr Ref) HeaderPairs
  | none | some .none => .ok []
  | some (.dict d) => headerPairs py d
  | some h => .error (downcastError py h "PyDict")

/-- The `set-cookie` pairs of a structured response, if it has a list of cookies. -/
def structuredCookies (py : Inspection Ref) : Option (PyVal Ref) → Except (PyErr Ref) HeaderPairs
  | none | some .none => .ok []
  | some (.list items) => cookiePairs py items
  | some c => .error (downcastError py c "PyList")

/-- The content type of the body, unless the headers have one. -/
def withContentType (contentType : String) (pairs : HeaderPairs) : HeaderPairs :=
  if pairs.any fun e => Text.eqIgnoreAsciiCase e.1 "content-type" then pairs
  else ("content-type", contentType) :: pairs

theorem structuredFromStatusBody_eq (py : Inspection Ref) (st body : PyVal Ref)
    (headers cookies : Option (PyVal Ref)) :
    structuredFromStatusBody py st body headers cookies = (do
      let status ← extractU16 py st
      let typed ← valueToBytesAndCt py body
      let pairs ← structuredHeaders py headers
      let cookies ← structuredCookies py cookies
      return .withHeaders status (.owned typed.1) (withContentType typed.2 pairs ++ cookies)) := by
  unfold structuredFromStatusBody
  refine congrArg _ (funext fun status => ?_)
  refine congrArg _ (funext fun typed => ?_)
  obtain ⟨bytes, contentType⟩ := typed
  have hcookies (pairs : HeaderPairs) : (match cookies with
      | none => pure [] >>= fun cookies =>
        pure (HandlerMap.withHeaders status (.owned bytes) (pairs ++ cookies))
      | some .none => pure [] >>= fun cookies =>
        pure (HandlerMap.withHeaders status (.owned bytes) (pairs ++ cookies))
      | some (.list items) => cookiePairs py items >>= fun cookies =>
        pure (HandlerMap.withHeaders status (.owned bytes) (pairs ++ cookies))
      | some c => throw (downcastError py c "PyList") >>= fun cookies =>
        pure (HandlerMap.withHeaders status (.owned bytes) (pairs ++ cookies))) =
      structuredCookies py cookies >>= fun cookies =>
        pure (HandlerMap.withHeaders status (.owned bytes) (pairs ++ cookies)) := by
    unfold structuredCookies
    split
    · rfl
    · rfl
    · rfl
    · rfl
  cases headers with
  | none => exact hcookies _
  | some h =>
    cases h with
    | none => exact hcookies _
    | dict d => exact congrArg _ (funext fun pairs => hcookies _)
    | _ => rfl

-- ════════════════════════════════════════════════════════════════════════
-- The mapping
-- ════════════════════════════════════════════════════════════════════════

/-- The mapping of a dict: a structured response, a status with a text, or JSON. -/
def mapDict (py : Inspection Ref) (d : List (PyVal Ref × PyVal Ref)) :
    Except (PyErr Ref) HandlerMap :=
  match PyVal.getItem d "status", PyVal.getItem d "body" with
  | some st, some bd =>
    let h := PyVal.getItem d "headers"
    let c := PyVal.getItem d "cookies"
    if h.isSome || c.isSome then structuredFromStatusBody py st bd h c
    else
      match extractU16 py st, py.toStr bd with
      | .ok code, .ok s =>
        if 100 ≤ code ∧ code ≤ 599 then
          .ok (.simple code (.owned (utf8 s.text)) "text/plain; charset=utf-8")
        else jsonResponse py (.dict d)
      | _, _ => jsonResponse py (.dict d)
  | _, _ => jsonResponse py (.dict d)

/-- `is_oxyroute_response`. -/
def isOxyrouteResponse (py : Inspection Ref) (v : PyVal Ref) : Except (PyErr Ref) Bool := do
  if (← v.getattr py "status").isNone then return false
  if (← v.getattr py "body").isNone then return false
  return (← v.getattr py "headers").isSome

/-- `getattr` where the attribute has to be there. -/
def requireAttr (py : Inspection Ref) (v : PyVal Ref) (name : String) :
    Except (PyErr Ref) (PyVal Ref) := do
  match ← v.getattr py name with
  | some a => return a
  | none => throw (.attributeError
      ("'" ++ v.typeName py ++ "' object has no attribute '" ++ name ++ "'"))

/-- `structured_from_response_attrs`. -/
def structuredFromResponseAttrs (py : Inspection Ref) (v : PyVal Ref) :
    Except (PyErr Ref) HandlerMap := do
  let st ← requireAttr py v "status"
  let body ← requireAttr py v "body"
  let headers ← requireAttr py v "headers"
  let cookies ← requireAttr py v "cookies"
  structuredFromStatusBody py st body (some headers) (some cookies)

/-- The sentinel of a stream that was sent already. -/
def isStreamDone (py : Inspection Ref) (v : PyVal Ref) : Bool :=
  match v.getattr py "__oxyroute_stream_done__" with
  | .ok (some x) => match extractBool py x with
    | .ok b => b
    | .error _ => false
  | _ => false

/-- The mapping of what is no built-in text, bytes or container. -/
def mapObject (py : Inspection Ref) (v : PyVal Ref) : Except (PyErr Ref) HandlerMap := do
  if isStreamDone py v then return .alreadySent
  if ← isOxyrouteResponse py v then structuredFromResponseAttrs py v
  else
    match extractByteVec py v with
    | some b => return .simple 200 (.owned b) "application/octet-stream"
    | none => jsonResponse py v

/-- `map_handler_return`. -/
def mapHandlerReturn (py : Inspection Ref) (v : PyVal Ref) : Except (PyErr Ref) HandlerMap :=
  match v with
  | .str s => .ok (.simple 200 (.pyString s) "text/plain; charset=utf-8")
  | .bytes b => .ok (.simple 200 (.pyBytes b) "application/octet-stream")
  | .dict d => mapDict py d
  | .list _ | .tuple _ => jsonResponse py v
  | v => mapObject py v

-- ════════════════════════════════════════════════════════════════════════
-- Configured headers
-- ════════════════════════════════════════════════════════════════════════

/-- The headers of a mapped response, a content type among them. -/
def HandlerMap.mergeWith (f : HeaderPairs → HeaderPairs) : HandlerMap → HandlerMap
  | .alreadySent => .alreadySent
  | .withHeaders status body headers => .withHeaders status body (f headers)
  | .simple status body contentType => .withHeaders status body (f [("content-type", contentType)])

/-- `merge_header_pairs_replace`. -/
def mergeHeaderPairsReplace (mapped : HandlerMap) (extra : HeaderPairs) : HandlerMap :=
  if extra = [] then mapped
  else mapped.mergeWith fun headers =>
    extra.foldl (fun hs e => (hs.filter fun h => !Text.eqIgnoreAsciiCase h.1 e.1) ++ [e]) headers

/-- `merge_header_pairs_if_absent`. -/
def mergeHeaderPairsIfAbsent (mapped : HandlerMap) (extra : HeaderPairs) : HandlerMap :=
  if extra = [] then mapped
  else mapped.mergeWith fun headers =>
    extra.foldl
      (fun hs e => if hs.any fun h => Text.eqIgnoreAsciiCase h.1 e.1 then hs else hs ++ [e]) headers

/-- `extract::<(String, String)>`. -/
def extractPair (py : Inspection Ref) (v : PyVal Ref) : Except (PyErr Ref) (String × String) :=
  match v with
  | .tuple [a, b] => do return (← extractString py a, ← extractString py b)
  | .tuple items => .error (.valueError
      ("expected tuple of length 2, but got tuple of length " ++ toString items.length))
  | v => .error (downcastError py v "PyTuple")

/-- `extract::<Vec<(String, String)>>`. -/
def extractPairs (py : Inspection Ref) (v : PyVal Ref) : Except (PyErr Ref) HeaderPairs :=
  match v with
  | .list items | .tuple items => items.mapM (extractPair py)
  | v => .error (downcastError py v "Sequence")

section

variable (rt : Runtime m Ref W) (req : HttpRequest Ref) (snap : FrozenState m Ref)

/-- The pairs a Python configuration returns for the scope. -/
def configHeaderPairs (config : Ref) : PyResult m Ref W HeaderPairs := do
  let v ← Routine.effect (rt.callMethod config "response_header_pairs" [.object req.scope])
  Routine.ofExcept (extractPairs rt.toInspection v)

/-- The security headers of `merge_config_response_headers`. -/
def mergeSecurityHeaders (mapped : HandlerMap) : PyResult m Ref W HandlerMap :=
  match snap.compiledSecurityHeaders, snap.securityHeaders with
  | some sec, _ =>
    pure (mergeHeaderPairsIfAbsent mapped (sec.responseHeaderPairs (req.scheme.getD "")))
  | none, some secPy => do
    return mergeHeaderPairsIfAbsent mapped (← configHeaderPairs rt req secPy)
  | none, none => pure mapped

/-- The CORS headers of `merge_config_response_headers`. -/
def mergeCorsHeaders (mapped : HandlerMap) : PyResult m Ref W HandlerMap :=
  match snap.compiledCors, snap.cors with
  | some cors, _ => do
    let headers ← Routine.ofExcept req.headers
    match headerGetLax rt.toInspection headers "origin" with
    | some origin => return mergeHeaderPairsReplace mapped (cors.responseHeaderPairs origin)
    | none => return mapped
  | none, some corsPy => do
    let headers ← Routine.ofExcept req.headers
    match headerGetLax rt.toInspection headers "origin" with
    | some _ => return mergeHeaderPairsReplace mapped (← configHeaderPairs rt req corsPy)
    | none => return mapped
  | none, none => pure mapped

/-- `merge_config_response_headers`. -/
def mergeConfigResponseHeaders (mapped : HandlerMap) : PyResult m Ref W HandlerMap :=
  if mapped = .alreadySent then pure mapped
  else do
    let mapped ← mergeSecurityHeaders rt req snap mapped
    mergeCorsHeaders rt req snap mapped

-- ════════════════════════════════════════════════════════════════════════
-- Sending
-- ════════════════════════════════════════════════════════════════════════

/-- `send_simple_body_sync`. -/
def sendSimpleBody (status : ℕ) (body : SimpleBody) (contentType : String) :
    PyResult m Ref W Unit :=
  match body with
  | .owned b | .pyBytes b => sendBytes rt req status b contentType
  | .pyString s => do
    let text ← Routine.ofExcept s.toStr
    sendText rt req status text contentType

/-- `send_handler_map_inline`. -/
def sendHandlerMapInline (isHead : Bool) (mapped : HandlerMap) : PyResult m Ref W Unit :=
  match mapped, isHead with
  | .alreadySent, _ => pure ()
  | .withHeaders status body headers, true => do
    let len ← Routine.ofExcept body.byteLen
    sendHeadLenWithHeaders rt req status len headers
  | .simple status body contentType, true => do
    let len ← Routine.ofExcept body.byteLen
    sendHeadSimple rt req status len contentType
  | .withHeaders status (.pyString s) headers, false =>
    respond rt req (.responseStr status (buildHeaderListFromPairs headers) s)
  | .withHeaders status (.pyBytes b) headers, false =>
    respond rt req (.responseBytes status (buildHeaderListFromPairs headers) b)
  | .withHeaders status (.owned b) headers, false => sendWithHeaders rt req status b headers
  | .simple status body contentType, false => sendSimpleBody rt req status body contentType

/-- The body a response middleware is given. -/
def SimpleBody.toPyVal : SimpleBody → PyVal Ref
  | .owned b | .pyBytes b => .bytes b
  | .pyString s => .str s

/-- The `Response` a response middleware is given. -/
def responseObject (status : ℕ) (body : SimpleBody) (headers : HeaderPairs) : PyVal Ref :=
  let hdrs := (Dict.ofList headers).entries.map fun e => (PyVal.text e.1, PyVal.text e.2)
  .response body.toPyVal (.int status) (.dict hdrs) .none

/-- The loop over the response middlewares; a response that was sent already ends it. -/
def runResponseMiddleware : List Ref → HandlerMap → PyResult m Ref W HandlerMap
  | [], mapped => pure mapped
  | _ :: _, .alreadySent => pure .alreadySent
  | f :: fs, .simple status body contentType => do
    let res := responseObject status body [("content-type", contentType)]
    let out ← Routine.effect (rt.call f [.object req.scope, res] .empty)
    runResponseMiddleware fs (← Routine.ofExcept (mapHandlerReturn rt.toInspection out))
  | f :: fs, .withHeaders status body headers => do
    let res := responseObject status body headers
    let out ← Routine.effect (rt.call f [.object req.scope, res] .empty)
    runResponseMiddleware fs (← Routine.ofExcept (mapHandlerReturn rt.toInspection out))

/-- The last part of `run_rsgi`, for the value of a handler or of a request middleware: map it,
run the response middlewares, add the configured headers, send it. -/
def respondWith (v : PyVal Ref) : PyResult m Ref W Unit := do
  let mapped ← Routine.ofExcept (mapHandlerReturn rt.toInspection v)
  let mapped ← runResponseMiddleware rt req snap.responseMiddleware mapped
  let mapped ←
    if snap.securityHeaders.isSome || snap.cors.isSome then
      mergeConfigResponseHeaders rt req snap mapped
    else pure mapped
  sendHandlerMapInline rt req (req.method = "HEAD") mapped

end

end OxyRoute
