import OxyRoute.Native.HandlerMap

/-!
# Error responses

What an error that Python code raises is answered with: by an exception handler of the
application, as an `HTTPException`, or with status 500. There are two versions, one for each of
the dispatchers; they differ in how they use the exception handlers.

## Main definitions

- `sendPythonErrorSync`, `sendPythonError` — the two versions
- `answerByHandlerSync`, `answerByHandler` — their use of the exception handlers
- `sendErrorFallback` — what they share
-/

namespace OxyRoute

variable {m : Matchit} {Ref W : Type}

/-- The headers of an `HTTPException`; none where one contains a line break. -/
def httpExceptionHeaders (py : Inspection Ref) :
    List (PyVal Ref × PyVal Ref) → Except (PyErr Ref) (Option HeaderPairs)
  | [] => .ok (some [])
  | (k, v) :: rest => do
    let k ← extractString py k
    let v ← extractString py v
    if containsCrlf k ∨ containsCrlf v then return none
    return (← httpExceptionHeaders py rest).map ((k, v) :: ·)

/-- The body of an `HTTPException`, as `_http_exception_payload` builds it. -/
def httpExceptionBody (py : Inspection Ref) (exc : HttpException Ref) :
    Except (PyErr Ref) (List UInt8) := do
  let detail (v : PyVal Ref) : PyVal Ref := .dict [(.text "detail", v)]
  let text ← match exc.detail with
    | .none => py.jsonDumps (detail (.text ((py.phrase exc.statusCode).getD "Error")))
    | .dict d => py.jsonDumps (.dict d)
    | .list l => py.jsonDumps (.list l)
    | v => do py.jsonDumps (detail (.str (← py.toStr v)))
  return utf8 text

/-- `http_exception_payload`. -/
def httpExceptionPayload (py : Inspection Ref) (err : PyErr Ref) :
    Except (PyErr Ref) (Option (ℕ × List UInt8 × HeaderPairs)) :=
  match err with
  | .raised r =>
    match py.httpException r with
    | none => .ok none
    | some exc =>
      if 100 ≤ exc.statusCode ∧ exc.statusCode ≤ 599 then do
        let body ← httpExceptionBody py exc
        let headers ← httpExceptionHeaders py exc.headers
        return headers.map fun hs => (exc.statusCode.toNat, body, hs)
      else .ok none
  | _ => .ok none

/-- `ensure_http_exception_content_type`. -/
def ensureHttpExceptionContentType (headers : HeaderPairs) : HeaderPairs :=
  if headers.any fun e => Text.eqIgnoreAsciiCase e.1 "content-type" then headers
  else ("content-type", "application/json; charset=utf-8") :: headers

/-- The detail of a 500 response in debug mode; none where slicing it panics. -/
def debugDetail (d : String) : Option String :=
  if 4000 < d.utf8ByteSize then
    (Text.takeBytes 4000 d.toList).map fun cs => String.ofList (cs ++ ['…'])
  else some d

section

variable (rt : Runtime m Ref W) (req : HttpRequest Ref) (snap : FrozenState m Ref)

/-- `try_http_exception`: whether the error is one, which is then sent. -/
def tryHttpException (err : PyErr Ref) : PyResult m Ref W Bool := do
  match ← Routine.ofExcept (httpExceptionPayload rt.toInspection err) with
  | none => return false
  | some (st, body, headers) =>
    sendWithHeaders rt req st body (ensureHttpExceptionContentType headers)
    return true

/-- `send_internal_error`. -/
def sendInternalError (err : PyErr Ref) : Dispatch m Ref W Unit :=
  if rt.debug then
    match debugDetail (rt.displayErr err) with
    | none => Routine.exit .panicked
    | some d =>
      orRaise (sendText rt req 500 (rt.jsonToString (.ofMembers
        [("error", .str "internal server error"), ("detail", .str d)]))
        "application/json; charset=utf-8")
  else
    orRaise (sendText rt req 500 "\x7b\"error\":\"internal server error\"\x7d"
      "application/json; charset=utf-8")

/-- The end of both versions: an `HTTPException`, or else status 500. -/
def sendErrorFallback (err : PyErr Ref) : Dispatch m Ref W Unit := do
  if ← orRaise (tryHttpException rt req err) then return
  sendInternalError rt req err

/-- Call an exception handler. -/
def callExceptionHandler (err : PyErr Ref) (h : ExceptionHandler Ref) :
    PyResult m Ref W (PyVal Ref) := do
  Routine.log (.exceptionHandler h.handler)
  Routine.effect (rt.call h.handler [.object req.scope, rt.exceptionObject err] .empty)

/-- The loop of `send_python_error_sync`, newest handler first: asynchronous handlers are
skipped, and so are handlers that raise and handlers whose value has no mapping. -/
def answerByHandlerSync (err : PyErr Ref) : List (ExceptionHandler Ref) → Dispatch m Ref W Bool
  | [] => return false
  | h :: hs => do
    if rt.isInstance err h.excType ∧ h.isAsync = false then
      match ← Routine.attempt (callExceptionHandler rt req err h) with
      | .error _ => answerByHandlerSync err hs
      | .ok res =>
        match mapHandlerReturn rt.toInspection res with
        | .error _ => answerByHandlerSync err hs
        | .ok mapped =>
          orRaise (sendHandlerMapInline rt req (req.method = "HEAD") mapped)
          return true
    else answerByHandlerSync err hs

/-- `send_python_error_sync`. -/
def sendPythonErrorSync (err : PyErr Ref) : Dispatch m Ref W Unit := do
  if ← answerByHandlerSync rt req err snap.exceptionHandlers.reverse then return
  sendErrorFallback rt req err

/-- The loop of `send_python_error`: the first handler that returns, newest first, with whether
it is asynchronous. -/
def firstHandlerValue (err : PyErr Ref) :
    List (ExceptionHandler Ref) → Dispatch m Ref W (Option (PyVal Ref × Bool))
  | [] => return none
  | h :: hs => do
    if rt.isInstance err h.excType then
      match ← Routine.attempt (callExceptionHandler rt req err h) with
      | .error _ => firstHandlerValue err hs
      | .ok res => return some (res, h.isAsync)
    else firstHandlerValue err hs

/-- The value of an asynchronous handler is awaited, if it can be. -/
def awaitHandlerValue (res : PyVal Ref) (isAsync : Bool) :
    Dispatch m Ref W (Except (PyErr Ref) (PyVal Ref)) :=
  if isAsync then
    match rt.intoFuture res with
    | .ok () => Routine.attempt (Routine.effect (rt.await res))
    | .error _ => return .ok res
  else return .ok res

/-- Awaiting the value of a handler ends with a value or its error, and logs nothing. -/
theorem awaitHandlerValue_run (res : PyVal Ref) (isAsync : Bool) (w : World m Ref W) :
    ∃ r w', (awaitHandlerValue rt res isAsync).run w = ⟨.ok r, w', []⟩ := by
  unfold awaitHandlerValue
  split
  · split
    · exact ⟨_, _, rfl⟩
    · exact ⟨_, _, rfl⟩
  · exact ⟨_, _, rfl⟩

/-- Whether the value of a handler answers the error, or the error of awaiting it does. -/
def answerFrom (first : Option (PyVal Ref × Bool)) : Dispatch m Ref W Bool :=
  match first with
  | none => return false
  | some (res, isAsync) => do
    match ← awaitHandlerValue rt res isAsync with
    | .error e =>
      sendInternalError rt req e
      return true
    | .ok final =>
      match mapHandlerReturn rt.toInspection final with
      | .error _ => return false
      | .ok mapped =>
        match ← Routine.attempt (sendHandlerMapInline rt req (req.method = "HEAD") mapped) with
        | .ok () => return true
        | .error _ => return false

/-- The first half of `send_python_error`: whether the error is answered by the first handler
that returns. -/
def answerByHandler (err : PyErr Ref) : Dispatch m Ref W Bool := do
  answerFrom rt req (← firstHandlerValue rt req err snap.exceptionHandlers.reverse)

/-- `send_python_error`. -/
def sendPythonError (err : PyErr Ref) : Dispatch m Ref W Unit := do
  if ← answerByHandler rt req snap err then return
  sendErrorFallback rt req err

end

end OxyRoute
