import OxyRoute.Native.HeaderSafety

/-!
# What becomes of line breaks in headers

A value that would put a line break into a header fails to be mapped, and counts as a
`ValueError`; an `HTTPException` that would is no payload. Both are answered with status 500,
unless an exception handler answers. The value of an exception handler is passed over.

## Main definitions

- `PutsLineBreak`, `RaisesLineBreak` — values and errors that would put one into a header
- `LineBreakAt` — a stop at which one is refused, and the error it counts as
- `StopsAt` — a request comes to a stop

## Main results

- `mapHandlerReturn_lineBreak`, `httpExceptionPayload_lineBreak` — they are refused
- `header_safety` — no response call has a line break in its headers, and what is answered
  instead
-/

namespace OxyRoute

open Routine

variable {m : Matchit} {Ref W : Type}

-- ════════════════════════════════════════════════════════════════════════
-- Values
-- ════════════════════════════════════════════════════════════════════════

/-- The strings of header pairs, whatever they contain. -/
def rawPairs (py : Inspection Ref) (d : List (PyVal Ref × PyVal Ref)) :
    Except (PyErr Ref) HeaderPairs :=
  d.mapM fun e => do return (← extractString py e.1, ← extractString py e.2)

/-- The `set-cookie` pairs of cookies, whatever they contain. -/
def rawCookies (py : Inspection Ref) (items : List (PyVal Ref)) :
    Except (PyErr Ref) HeaderPairs :=
  items.mapM fun item => do return ("set-cookie", ← extractString py item)

/-- The strings of the headers of a structured response. -/
def rawHeaders (py : Inspection Ref) : Option (PyVal Ref) → Except (PyErr Ref) HeaderPairs
  | some (.dict d) => rawPairs py d
  | headers => structuredHeaders py headers

/-- The strings of its cookies. -/
def rawSetCookies (py : Inspection Ref) : Option (PyVal Ref) → Except (PyErr Ref) HeaderPairs
  | some (.list items) => rawCookies py items
  | cookies => structuredCookies py cookies

/-- Status, body, headers and cookies of a value that is mapped as a structured response. -/
def structuredParts (py : Inspection Ref) (v : PyVal Ref) :
    Option (PyVal Ref × PyVal Ref × Option (PyVal Ref) × Option (PyVal Ref)) :=
  match v with
  | .str _ | .bytes _ | .list _ | .tuple _ => none
  | .dict d =>
    match PyVal.getItem d "status", PyVal.getItem d "body" with
    | some st, some bd =>
      let h := PyVal.getItem d "headers"
      let c := PyVal.getItem d "cookies"
      if h.isSome || c.isSome then some (st, bd, h, c) else none
    | _, _ => none
  | v =>
    if isStreamDone py v then none
    else
      match isOxyrouteResponse py v, requireAttr py v "status", requireAttr py v "body",
        requireAttr py v "headers", requireAttr py v "cookies" with
      | .ok true, .ok st, .ok bd, .ok h, .ok c => some (st, bd, some h, some c)
      | _, _, _, _, _ => none

theorem mapHandlerReturn_structured {py : Inspection Ref} {v st bd : PyVal Ref}
    {h c : Option (PyVal Ref)} (hv : structuredParts py v = some (st, bd, h, c)) :
    mapHandlerReturn py v = structuredFromStatusBody py st bd h c := by
  have hobject (hv : (if isStreamDone py v then none
      else
        match isOxyrouteResponse py v, requireAttr py v "status", requireAttr py v "body",
          requireAttr py v "headers", requireAttr py v "cookies" with
        | .ok true, .ok st, .ok bd, .ok h, .ok c => some (st, bd, some h, some c)
        | _, _, _, _, _ => none) = some (st, bd, h, c)) :
      mapObject py v = structuredFromStatusBody py st bd h c := by
    by_cases hdone : isStreamDone py v = true
    · rw [if_pos hdone] at hv
      cases hv
    · rw [if_neg hdone] at hv
      split at hv
      · next hresponse hst hbd hh hc =>
        cases hv
        unfold mapObject
        rw [if_neg hdone, hresponse]
        show structuredFromResponseAttrs py v = _
        unfold structuredFromResponseAttrs
        rw [hst, hbd, hh, hc]
        rfl
      · cases hv
  cases v with
  | dict d =>
    show mapDict py d = _
    cases hst : PyVal.getItem d "status" with
    | none =>
      simp only [structuredParts, hst] at hv
      cases hv
    | some st' =>
      cases hbd : PyVal.getItem d "body" with
      | none =>
        simp only [structuredParts, hst, hbd] at hv
        cases hv
      | some bd' =>
        simp only [structuredParts, hst, hbd] at hv
        split at hv
        · next hparts =>
          cases hv
          simp only [mapDict, hst, hbd]
          rw [if_pos hparts]
        · cases hv
  | str s => cases hv
  | bytes b => cases hv
  | list items => cases hv
  | tuple items => cases hv
  | _ => exact hobject hv

theorem rawPairs_cons {py : Inspection Ref} {e : PyVal Ref × PyVal Ref}
    {d : List (PyVal Ref × PyVal Ref)} {raw : HeaderPairs} (h : rawPairs py (e :: d) = .ok raw) :
    ∃ k v rest, extractString py e.1 = .ok k ∧ extractString py e.2 = .ok v ∧
      rawPairs py d = .ok rest ∧ raw = (k, v) :: rest := by
  rw [rawPairs, List.mapM_cons] at h
  obtain ⟨pair, hpair, h⟩ := Except.of_bind_eq_ok h
  obtain ⟨rest, hrest, h⟩ := Except.of_bind_eq_ok h
  obtain ⟨k, hk, hpair⟩ := Except.of_bind_eq_ok hpair
  obtain ⟨v, hv, hpair⟩ := Except.of_bind_eq_ok hpair
  cases hpair
  cases h
  exact ⟨k, v, rest, hk, hv, hrest, rfl⟩

theorem not_break_iff {k v : String} : ¬ (containsCrlf k = true ∨ containsCrlf v = true) ↔
    containsCrlf k = false ∧ containsCrlf v = false := by
  rw [not_or, Bool.not_eq_true, Bool.not_eq_true]

/-- Checked header pairs are the unchecked ones, if there is no line break among these. -/
theorem headerPairs_of_raw {py : Inspection Ref} {d : List (PyVal Ref × PyVal Ref)}
    {raw : HeaderPairs} (h : rawPairs py d = .ok raw) :
    headerPairs py d = if Clean raw then .ok raw
      else .error (.valueError "unsafe response header contains CR or LF") := by
  induction d generalizing raw with
  | nil =>
    cases h
    rfl
  | cons e d ih =>
    obtain ⟨k, v, rest, hk, hv, hrest, rfl⟩ := rawPairs_cons h
    have hcons : headerPairs py (e :: d) =
        if containsCrlf k = true ∨ containsCrlf v = true then
          .error (.valueError "unsafe response header contains CR or LF")
        else do return (k, v) :: (← headerPairs py d) := by
      rw [headerPairs, hk, hv]
      show (if _ then _ else _) = _
      rfl
    rw [hcons, ih hrest]
    by_cases hbreak : containsCrlf k = true ∨ containsCrlf v = true
    · have hdirty : ¬ Clean ((k, v) :: rest) :=
        fun hclean => not_break_iff.mpr (clean_cons.mp hclean).1 hbreak
      rw [if_pos hbreak, if_neg hdirty]
    · have hkv := not_break_iff.mp hbreak
      rw [if_neg hbreak]
      by_cases hclean : Clean rest
      · rw [if_pos hclean, if_pos (clean_cons.mpr ⟨hkv, hclean⟩)]
        rfl
      · rw [if_neg hclean, if_neg fun h => hclean (clean_cons.mp h).2]
        rfl

/-- The checks of cookies refuse more than line breaks, with the same kind of error. -/
theorem cookiePairs_of_raw {py : Inspection Ref} {items : List (PyVal Ref)} {raw : HeaderPairs}
    (h : rawCookies py items = .ok raw) (hdirty : ¬ Clean raw) :
    cookiePairs py items =
      .error (.valueError "unsafe set-cookie value contains control characters") := by
  induction items generalizing raw with
  | nil =>
    cases h
    exact absurd clean_nil hdirty
  | cons item items ih =>
    rw [rawCookies, List.mapM_cons] at h
    obtain ⟨pair, hpair, h⟩ := Except.of_bind_eq_ok h
    obtain ⟨rest, hrest, h⟩ := Except.of_bind_eq_ok h
    obtain ⟨s, hs, hpair⟩ := Except.of_bind_eq_ok hpair
    cases hpair
    cases h
    rw [cookiePairs, hs]
    by_cases hunsafe : isUnsafeCookieLine s = true
    · show (if _ then _ else _) = _
      rw [if_pos hunsafe]
      rfl
    · have hsafe := containsCrlf_of_safe (Bool.eq_false_iff.mpr hunsafe)
      have hrest' := ih hrest fun hclean => hdirty (.cons (by decide) hsafe hclean)
      show (if _ then _ else _) = _
      rw [if_neg hunsafe, hrest']
      rfl

/-- Without the checks, the value would be mapped to a response with a line break in its
headers. -/
def PutsLineBreak (py : Inspection Ref) (v : PyVal Ref) : Prop :=
  ∃ st bd h c status typed pairs cookies,
    structuredParts py v = some (st, bd, h, c) ∧ extractU16 py st = .ok status ∧
      valueToBytesAndCt py bd = .ok typed ∧ rawHeaders py h = .ok pairs ∧
      rawSetCookies py c = .ok cookies ∧ ¬ Clean (pairs ++ cookies)

/-- It is not mapped. -/
theorem mapHandlerReturn_lineBreak {py : Inspection Ref} {v : PyVal Ref}
    (hv : PutsLineBreak py v) : ∃ msg, mapHandlerReturn py v = .error (.valueError msg) := by
  obtain ⟨st, bd, h, c, status, typed, pairs, cookies, hparts, hst, hbd, hpairs, hcookies,
    hdirty⟩ := hv
  have hheaders : structuredHeaders py h = .ok pairs ∧ Clean pairs ∨
      ∃ msg, structuredHeaders py h = .error (.valueError msg) := by
    unfold rawHeaders at hpairs
    split at hpairs
    · next d =>
      have hd := headerPairs_of_raw hpairs
      by_cases hclean : Clean pairs
      · rw [if_pos hclean] at hd
        exact .inl ⟨hd, hclean⟩
      · rw [if_neg hclean] at hd
        exact .inr ⟨_, hd⟩
    · exact .inl ⟨hpairs, structuredHeaders_clean hpairs⟩
  rw [mapHandlerReturn_structured hparts, structuredFromStatusBody_eq, hst, hbd]
  rcases hheaders with ⟨hheaders, hclean⟩ | ⟨msg, hheaders⟩
  · have hdirty : ¬ Clean cookies := fun h => hdirty (hclean.append h)
    have hc : ∃ msg, structuredCookies py c = .error (.valueError msg) := by
      unfold rawSetCookies at hcookies
      split at hcookies
      · exact ⟨_, cookiePairs_of_raw hcookies hdirty⟩
      · exact absurd (structuredCookies_clean hcookies) hdirty
    obtain ⟨msg, hc⟩ := hc
    refine ⟨msg, ?_⟩
    rw [hheaders, hc]
    rfl
  · refine ⟨msg, ?_⟩
    rw [hheaders]
    rfl

-- ════════════════════════════════════════════════════════════════════════
-- Errors
-- ════════════════════════════════════════════════════════════════════════

/-- An `HTTPException` that would put a line break into a header. -/
def RaisesLineBreak (py : Inspection Ref) (err : PyErr Ref) : Prop :=
  ∃ r exc body raw, err = .raised r ∧ py.httpException r = some exc ∧
    httpExceptionBody py exc = .ok body ∧ rawPairs py exc.headers = .ok raw ∧ ¬ Clean raw

theorem httpExceptionHeaders_of_raw {py : Inspection Ref} {es : List (PyVal Ref × PyVal Ref)}
    {raw : HeaderPairs} (h : rawPairs py es = .ok raw) (hdirty : ¬ Clean raw) :
    httpExceptionHeaders py es = .ok none := by
  induction es generalizing raw with
  | nil =>
    cases h
    exact absurd clean_nil hdirty
  | cons e es ih =>
    obtain ⟨k, v, rest, hk, hv, hrest, rfl⟩ := rawPairs_cons h
    rw [httpExceptionHeaders, hk, hv]
    by_cases hbreak : containsCrlf k = true ∨ containsCrlf v = true
    · show (if _ then _ else _) = _
      rw [if_pos hbreak]
      rfl
    · have hkv := not_break_iff.mp hbreak
      have hrest' := ih hrest fun hclean => hdirty (clean_cons.mpr ⟨hkv, hclean⟩)
      show (if _ then _ else _) = _
      rw [if_neg hbreak, hrest']
      rfl

/-- It has no payload. -/
theorem httpExceptionPayload_lineBreak {py : Inspection Ref} {err : PyErr Ref}
    (h : RaisesLineBreak py err) : httpExceptionPayload py err = .ok none := by
  obtain ⟨r, exc, body, raw, rfl, hexc, hbody, hraw, hdirty⟩ := h
  unfold httpExceptionPayload
  dsimp only
  rw [hexc]
  dsimp only
  rw [hbody, httpExceptionHeaders_of_raw hraw hdirty]
  by_cases hstatus : 100 ≤ exc.statusCode ∧ exc.statusCode ≤ 599
  · rw [if_pos hstatus]
    rfl
  · rw [if_neg hstatus]

section

variable {rt : Runtime m Ref W} {req : HttpRequest Ref} {snap : FrozenState m Ref}

-- ════════════════════════════════════════════════════════════════════════
-- Requests
-- ════════════════════════════════════════════════════════════════════════

/-- The `Response` a response middleware is given for a mapped value. -/
def HandlerMap.responseObject : HandlerMap → Option (PyVal Ref)
  | .alreadySent => none
  | .withHeaders status body headers => some (OxyRoute.responseObject status body headers)
  | .simple status body contentType =>
    some (OxyRoute.responseObject status body [("content-type", contentType)])

theorem runResponseMiddleware_cons {f : Ref} {fs : List Ref} {mapped : HandlerMap}
    {res : PyVal Ref} (hres : mapped.responseObject = some res) :
    runResponseMiddleware rt req (f :: fs) mapped =
      Routine.effect (rt.call f [.object req.scope, res] .empty) >>= fun v =>
        Routine.ofExcept (mapHandlerReturn rt.toInspection v) >>= fun mapped =>
          runResponseMiddleware rt req fs mapped := by
  cases mapped with
  | alreadySent => cases hres
  | withHeaders status body headers =>
    cases hres
    rfl
  | simple status body contentType =>
    cases hres
    rfl

/-- From a mapped value, the response middlewares come to return a value. -/
inductive MiddlewareReturns (rt : Runtime m Ref W) (req : HttpRequest Ref) :
    List Ref → HandlerMap → World m Ref W → PyVal Ref → World m Ref W → Prop
  | here {f : Ref} {fs : List Ref} {mapped : HandlerMap} {res v : PyVal Ref}
      {w w' : World m Ref W} : mapped.responseObject = some res →
      rt.call f [.object req.scope, res] .empty w = (.ok v, w') →
      MiddlewareReturns rt req (f :: fs) mapped w v w'
  | later {f : Ref} {fs : List Ref} {mapped mapped' : HandlerMap} {res v v' : PyVal Ref}
      {w w' w'' : World m Ref W} : mapped.responseObject = some res →
      rt.call f [.object req.scope, res] .empty w = (.ok v, w') →
      mapHandlerReturn rt.toInspection v = .ok mapped' →
      MiddlewareReturns rt req fs mapped' w' v' w'' →
      MiddlewareReturns rt req (f :: fs) mapped w v' w''

theorem MiddlewareReturns.run_error {fs : List Ref} {mapped : HandlerMap} {v : PyVal Ref}
    {w w' : World m Ref W} (h : MiddlewareReturns rt req fs mapped w v w') {err : PyErr Ref}
    (herr : mapHandlerReturn rt.toInspection v = .error err) :
    (runResponseMiddleware rt req fs mapped).run w = ⟨.error err, w', []⟩ := by
  have hcall {f : Ref} {res v : PyVal Ref} {w w' : World m Ref W}
      (h : rt.call f [.object req.scope, res] .empty w = (.ok v, w')) :
      (Routine.effect (rt.call f [.object req.scope, res] .empty) : PyResult m Ref W _).run w =
        ⟨.ok v, w', []⟩ := by
    rw [effect_run, h]
  induction h with
  | here hres hout =>
    rw [runResponseMiddleware_cons hres, bind_run_ok (hcall hout), herr]
    rfl
  | later hres hout hmap hrest ih =>
    rw [runResponseMiddleware_cons hres, bind_run_ok (hcall hout), hmap]
    exact congrArg (Ending.after []) (ih herr)

/-- At a stop, a value or an error would put a line break into a header, which is refused: from
here on there is the error `err`. -/
inductive LineBreakAt (rt : Runtime m Ref W) (req : HttpRequest Ref) (snap : FrozenState m Ref) :
    Stop Ref → World m Ref W → PyErr Ref → World m Ref W → Prop
  | returned {v : PyVal Ref} {w : World m Ref W} {err : PyErr Ref} :
      PutsLineBreak rt.toInspection v → mapHandlerReturn rt.toInspection v = .error err →
      LineBreakAt rt req snap (.value v) w err w
  | byMiddleware {v u : PyVal Ref} {mapped : HandlerMap} {w w' : World m Ref W}
      {err : PyErr Ref} : mapHandlerReturn rt.toInspection v = .ok mapped →
      MiddlewareReturns rt req snap.responseMiddleware mapped w u w' →
      PutsLineBreak rt.toInspection u → mapHandlerReturn rt.toInspection u = .error err →
      LineBreakAt rt req snap (.value v) w err w'
  | whileResponding {v : PyVal Ref} {w w' : World m Ref W} {err : PyErr Ref} :
      (respondWith rt req snap v).run w = ⟨.error err, w', []⟩ →
      RaisesLineBreak rt.toInspection err → LineBreakAt rt req snap (.value v) w err w'
  | raised {w : World m Ref W} {err : PyErr Ref} : RaisesLineBreak rt.toInspection err →
      LineBreakAt rt req snap (.error err) w err w
  | returnedTrivial {v : PyVal Ref} {w : World m Ref W} {err : PyErr Ref} :
      PutsLineBreak rt.toInspection v → mapHandlerReturn rt.toInspection v = .error err →
      LineBreakAt rt req snap (.trivialValue v) w err w
  | whileRespondingTrivial {v : PyVal Ref} {w w' : World m Ref W} {err : PyErr Ref} :
      (respondTrivial rt req snap v).run w = ⟨.error err, w', []⟩ →
      RaisesLineBreak rt.toInspection err → LineBreakAt rt req snap (.trivialValue v) w err w'
  | raisedTrivial {w : World m Ref W} {err : PyErr Ref} : RaisesLineBreak rt.toInspection err →
      LineBreakAt rt req snap (.trivialError err) w err w

theorem PutsLineBreak.payload {py : Inspection Ref} {v : PyVal Ref} (h : PutsLineBreak py v)
    {err : PyErr Ref} (herr : mapHandlerReturn py v = .error err) :
    httpExceptionPayload py err = .ok none := by
  obtain ⟨msg, hmsg⟩ := mapHandlerReturn_lineBreak h
  rw [hmsg] at herr
  cases herr
  rfl

/-- The rest of the stop is that of the error, which has no payload. -/
theorem LineBreakAt.run {t : Stop Ref} {w w' : World m Ref W} {err : PyErr Ref}
    (h : LineBreakAt rt req snap t w err w') :
    (t.run rt req snap).run w = ((t.failed err).run rt req snap).run w' ∧
      httpExceptionPayload rt.toInspection err = .ok none := by
  have hvalue {v : PyVal Ref} {w w' : World m Ref W} {err : PyErr Ref}
      (hr : (respondWith rt req snap v).run w = ⟨.error err, w', []⟩) :
      ((Stop.value v).run rt req snap).run w = ((Stop.error err).run rt req snap).run w' := by
    have hattempt : (attempt (respondWith rt req snap v) : Dispatch m Ref W _).run w =
        ⟨.ok (.error err), w', []⟩ := by
      rw [attempt_run, hr]
    exact bind_run_ok hattempt _
  have htrivial {v : PyVal Ref} {w w' : World m Ref W} {err : PyErr Ref}
      (hr : (respondTrivial rt req snap v).run w = ⟨.error err, w', []⟩) :
      ((Stop.trivialValue v).run rt req snap).run w =
        ((Stop.trivialError err).run rt req snap).run w' := by
    have hattempt : (attempt (respondTrivial rt req snap v) : Dispatch m Ref W _).run w =
        ⟨.ok (.error err), w', []⟩ := by
      rw [attempt_run, hr]
    exact bind_run_ok hattempt _
  cases h with
  | returned hv herr =>
    refine ⟨hvalue ?_, hv.payload herr⟩
    rw [respondWith, herr]
    rfl
  | byMiddleware hmap hreturns hu herr =>
    refine ⟨hvalue ?_, hu.payload herr⟩
    rw [respondWith, hmap]
    exact congrArg (Ending.after []) (bind_run_error (hreturns.run_error herr) _)
  | whileResponding hr hraises => exact ⟨hvalue hr, httpExceptionPayload_lineBreak hraises⟩
  | raised hraises => exact ⟨rfl, httpExceptionPayload_lineBreak hraises⟩
  | returnedTrivial hv herr =>
    refine ⟨htrivial ?_, hv.payload herr⟩
    rw [respondTrivial, herr]
    rfl
  | whileRespondingTrivial hr hraises => exact ⟨htrivial hr, httpExceptionPayload_lineBreak hraises⟩
  | raisedTrivial hraises => exact ⟨rfl, httpExceptionPayload_lineBreak hraises⟩

/-- A value of the first exception handler that returns does not answer. -/
theorem answerFrom_lineBreak {res v : PyVal Ref} {isAsync : Bool} {w w' : World m Ref W}
    {l : List (RequestEvent Ref)}
    (hawait : (awaitHandlerValue rt res isAsync).run w = ⟨.ok (.ok v), w', l⟩)
    (hv : PutsLineBreak rt.toInspection v) :
    (answerFrom rt req (some (res, isAsync))).run w = ⟨.ok false, w', l⟩ := by
  obtain ⟨msg, hmsg⟩ := mapHandlerReturn_lineBreak hv
  unfold answerFrom
  dsimp only
  rw [bind_run_ok hawait]
  dsimp only
  rw [hmsg]
  show ((pure false : Dispatch m Ref W Bool).run w').after l = _
  rw [pure_run, Ending.after, List.append_nil]

/-- In the short circuit it is passed over. -/
theorem answerByHandlerSync_lineBreak {err : PyErr Ref} {h : ExceptionHandler Ref}
    {hs : List (ExceptionHandler Ref)} {v : PyVal Ref} {w w' : World m Ref W}
    {l : List (RequestEvent Ref)} (hinstance : rt.isInstance err h.excType = true)
    (hsync : h.isAsync = false)
    (hcall : (callExceptionHandler rt req err h).run w = ⟨.ok v, w', l⟩)
    (hv : PutsLineBreak rt.toInspection v) :
    (answerByHandlerSync rt req err (h :: hs)).run w =
      ((answerByHandlerSync rt req err hs).run w').after l := by
  obtain ⟨msg, hmsg⟩ := mapHandlerReturn_lineBreak hv
  have hattempt : (attempt (callExceptionHandler rt req err h) : Dispatch m Ref W _).run w =
      ⟨.ok (.ok v), w', l⟩ := by
    rw [attempt_run, hcall]
  rw [answerByHandlerSync, if_pos ⟨hinstance, hsync⟩, bind_run_ok hattempt]
  dsimp only
  rw [hmsg]

/-- The request comes to a stop in a world, without a response call up to there. -/
def StopsAt (rt : Runtime m Ref W) (req : HttpRequest Ref) (w : World m Ref W) (t : Stop Ref)
    (w' : World m Ref W) : Prop :=
  ∃ l, (∀ i ∈ l, NotSent i) ∧ (dispatch rt req).run w =
    ((t.run rt req w.app.hotSnapshot).run w').recast.after l

/-- **Header safety.** For every runtime and request, and every state whose configurations
contain no line break: no header of a response call contains one. Where a value or an error would
put one there, the last response call is the one of status 500, unless the exception handlers
answer; and a value of an exception handler that would do so is no answer. -/
theorem header_safety (rt : Runtime m Ref W) (req : HttpRequest Ref) (w : World m Ref W)
    (hconfig : CleanConfig rt req w.app.hotSnapshot) :
    (∀ call ∈ responses ((dispatch rt req).run w).log, Clean call.headers) ∧
      (∀ t w₁ err w₂, StopsAt rt req w t w₁ →
        LineBreakAt rt req w.app.hotSnapshot t w₁ err w₂ → ∀ w₃ l,
        (handlersAnswer rt req w.app.hotSnapshot t.isTrivial err).run w₂ = ⟨.ok false, w₃, l⟩ →
        ∀ text, internalErrorText rt err = some text →
          responses ((dispatch rt req).run w).log = responses l ++ [internalErrorCall text]) ∧
      (∀ res isAsync w₁ v w₂ l,
        (awaitHandlerValue rt res isAsync).run w₁ = ⟨.ok (.ok v), w₂, l⟩ →
        PutsLineBreak rt.toInspection v →
          (answerFrom rt req (some (res, isAsync))).run w₁ = ⟨.ok false, w₂, l⟩) ∧
      ∀ err h hs w₁ v w₂ l, rt.isInstance err h.excType = true → h.isAsync = false →
        (callExceptionHandler rt req err h).run w₁ = ⟨.ok v, w₂, l⟩ →
        PutsLineBreak rt.toInspection v →
          (answerByHandlerSync rt req err (h :: hs)).run w₁ =
            ((answerByHandlerSync rt req err hs).run w₂).after l := by
  refine ⟨?_, ?_, fun _ _ _ _ _ _ => answerFrom_lineBreak,
    fun _ _ _ _ _ _ _ => answerByHandlerSync_lineBreak⟩
  · rw [dispatch_run]
    exact dispatch_headers_clean hconfig w
  · rintro t w₁ err w₂ ⟨l₀, hquiet, hrun⟩ hbreak w₃ l hhandlers text htext
    obtain ⟨hfailed, hpayload⟩ := hbreak.run
    have hnone : responses l₀ = [] := by
      refine List.filterMap_eq_nil_iff.mpr fun i hi => ?_
      have hni := hquiet i hi
      cases i with
      | sent call => exact hni.elim
      | _ => rfl
    have hcalls : fallbackCalls rt err = [internalErrorCall text] := by
      rw [fallbackCalls, hpayload, htext]
      rfl
    rw [hrun, Ending.log_after, Ending.log_recast, responses_append, hnone, hfailed,
      failed_responses, hhandlers, hcalls]
    rfl

end

-- ════════════════════════════════════════════════════════════════════════
-- Concrete runs
-- ════════════════════════════════════════════════════════════════════════

/-- A response whose header value would start a line of its own. -/
def splittingResponse : PyVal String :=
  .response (.text "hi") (.int 200) (.dict [(.text "x-note", .text "a\r\nset-cookie: b")]) .none

/-- A runtime in which the function `split` returns it. -/
def splittingRuntime : Runtime segmentMatcher String Unit :=
  { plainRuntime segmentMatcher with
    isInstance := fun _ _ => true
    call := fun f _ _ w => if f = "split" then (.ok splittingResponse, w) else (.ok (.text f), w) }

/-- A CORS configuration for one origin. -/
def oneOrigin : CorsConfig where
  allowOrigins := ["https://a.example"]
  allowMethods := ["GET"]
  allowHeaders := ["x-token"]
  exposeHeaders := []
  allowCredentials := false
  maxAge := some 600

/-- An application whose only route returns it. -/
def splittingApp (settings : List (Setting String)) : World segmentMatcher String Unit :=
  ⟨(addRoute plainHost (settings.foldl AppState.configure (AppState.new true))
    { method := "GET", path := "/", handler := "split", readJsonBody := false }).1, ()⟩

/-- With native CORS. -/
def splittingCors : World segmentMatcher String Unit :=
  splittingApp [.cors (some "cors") (some (.fromPy oneOrigin))]

/-- With an exception handler. -/
def splittingHandled : World segmentMatcher String Unit :=
  splittingApp [.exceptionHandler ⟨"ValueError", "on_error", false⟩]

theorem splittingResponse_putsLineBreak (py : Inspection String) :
    PutsLineBreak py splittingResponse :=
  ⟨.int 200, .text "hi", some (.dict [(.text "x-note", .text "a\r\nset-cookie: b")]), some .none,
    200, (utf8 "hi", "text/plain; charset=utf-8"), [("x-note", "a\r\nset-cookie: b")], [],
    rfl, rfl, rfl, rfl, rfl, by decide⟩

/-- Without exception handlers it is answered with status 500. -/
theorem split_header_safety :
    (∀ call ∈ responses ((dispatch splittingRuntime (plainRequest "GET" "/")).run splittingCors).log,
      Clean call.headers) ∧
      responses ((dispatch splittingRuntime (plainRequest "GET" "/")).run splittingCors).log =
        [internalErrorCall "\x7b\"error\":\"internal server error\"\x7d"] := by
  have hconfig : CleanConfig splittingRuntime (plainRequest "GET" "/")
      splittingCors.app.hotSnapshot := by
    refine ⟨?_, ?_, ?_⟩
    · rintro cors ⟨⟩
      exact ⟨oneOrigin, ⟨by decide, by decide, by decide, by decide⟩, rfl⟩
    · rintro sec ⟨⟩
    · rintro config (hcors | hsecurity)
      · cases hcors
        exact .other (by rintro w pairs ⟨⟩)
      · cases hsecurity
  obtain ⟨hclean, hrefused, -⟩ :=
    header_safety splittingRuntime (plainRequest "GET" "/") splittingCors hconfig
  have hstops : StopsAt splittingRuntime (plainRequest "GET" "/") splittingCors
      (.trivialValue splittingResponse)
      ((compiledTables splittingRuntime splittingCors.app.hotSnapshot).run splittingCors).state := by
    refine ⟨[.serving 0 [], .handler "split" (.ofList [])], ?_, rfl⟩
    intro i hi
    rcases List.mem_pair.mp hi with rfl | rfl
    · trivial
    · trivial
  exact ⟨hclean, hrefused _ _ _ _ hstops
    (.returnedTrivial (splittingResponse_putsLineBreak _) rfl) _ _ rfl _ rfl⟩

/-- An exception handler for the `ValueError` answers it with another status. -/
theorem split_handled_not_500 :
    StopsAt splittingRuntime (plainRequest "GET" "/") splittingHandled
        (.trivialValue splittingResponse)
        ((compiledTables splittingRuntime splittingHandled.app.hotSnapshot).run
          splittingHandled).state ∧
      PutsLineBreak splittingRuntime.toInspection splittingResponse ∧
      responses ((dispatch splittingRuntime (plainRequest "GET" "/")).run splittingHandled).log =
        [.responseStr 200 [("content-type", "text/plain; charset=utf-8")]
            ⟨"on_error", false⟩] := by
  refine ⟨⟨[.serving 0 [], .handler "split" (.ofList [])], ?_, rfl⟩,
    splittingResponse_putsLineBreak _, rfl⟩
  intro i hi
  rcases List.mem_pair.mp hi with rfl | rfl
  · trivial
  · trivial

end OxyRoute
