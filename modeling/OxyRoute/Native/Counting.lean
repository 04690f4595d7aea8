import OxyRoute.Streaming.Helpers
import OxyRoute.Native.Registered
import OxyRoute.Native.Stops

/-!
# What the dispatchers add to a counter

A counter that goes up by one with each response the dispatcher sends, and with each handler that
returns the marker of a response that was sent already. Before its answer the dispatcher adds
nothing; with the answer it has added one.

## Main definitions

- `IsMarker` — a value that is taken for a response that was sent already
- `LeavesAlone` — what is not changed by the code around handlers
- `Tallied` — such a counter

## Main results

- `runRsgi_answers`, `tryRsgiSyncShortCircuit_passes` — what the dispatchers add
- `dispatchWith_answers`, `shed_answers` — a request is answered once
-/

namespace OxyRoute

open Routine

variable {m : Matchit} {Ref W : Type}

-- ════════════════════════════════════════════════════════════════════════
-- Counters
-- ════════════════════════════════════════════════════════════════════════

/-- The value is taken for a response that was sent already. -/
def IsMarker (py : Inspection Ref) (v : PyVal Ref) : Prop := mapHandlerReturn py v = .ok .alreadySent

/-- One for the marker, none for another value. -/
def MarkerCounted (py : Inspection Ref) (v : PyVal Ref) (n : ℕ) : Prop :=
  IsMarker py v ∧ n = 1 ∨ ¬ IsMarker py v ∧ n = 0

section

variable (rt : Runtime m Ref W) (req : HttpRequest Ref) (snap : FrozenState m Ref)

/-- A handler is called, and awaited if it is asynchronous. -/
def handlerRun (entry : RouteEntry Ref) (kwargs : Dict String (PyVal Ref)) :
    PyResult m Ref W (PyVal Ref) :=
  invokeHandler rt entry kwargs >>= handlerValue rt entry

/-- A part of the state that only handlers and responses change. -/
structure LeavesAlone {κ : Type} (part : W → κ) : Prop where
  others : ∀ w, restPart part (rt.others w) = restPart part w
  readBody : ∀ w, restPart part (rt.readBody req.protocol w).2 = restPart part w
  setPathTemplate : ∀ template w,
    restPart part (rt.setPathTemplate req.protocol template w) = restPart part w
  rateLimit : ∀ rl key w, restPart part (rt.rateLimit rl key w).2 = restPart part w
  callMethod : ∀ r name args w,
    restPart part (rt.callMethod r name args w).2 = restPart part w
  middleware : ∀ f ∈ snap.requestMiddleware ++ snap.responseMiddleware, ∀ args w,
    restPart part (rt.call f args .empty w).2 = restPart part w
  exceptionHandler : ∀ h ∈ snap.exceptionHandlers, ∀ err,
    Keeps (restPart part) (callExceptionHandler rt req err h) ∧
      Yields (fun res => Keeps (restPart part) (awaitHandlerValue rt res h.isAsync))
        (callExceptionHandler rt req err h)
  dependency : ∀ entry ∈ snap.routes, ∀ dep ∈ entry.extra.dependencies, ∀ ctx prev,
    Keeps (restPart part) (callFactory rt dep ctx prev >>= resolveQuery rt snap)
  bodyModel : ∀ entry ∈ snap.routes, ∀ model, entry.bodyModel = some model → ∀ args w,
    restPart part (rt.call model args .empty w).2 = restPart part w

/-- Middlewares and exception handlers return no marker. -/
structure PlainValues : Prop where
  middleware : ∀ f ∈ snap.requestMiddleware ++ snap.responseMiddleware, ∀ args w v,
    (rt.call f args .empty w).1 = .ok v → ¬ IsMarker rt.toInspection v
  exceptionHandler : ∀ h ∈ snap.exceptionHandlers, ∀ err,
    Yields (fun res => Yields (fun r => ∀ v, r = .ok v → ¬ IsMarker rt.toInspection v)
      (awaitHandlerValue rt res h.isAsync)) (callExceptionHandler rt req err h)

/-- A counter of responses, where the marker stands for one. -/
structure Tallied (count : W → ℕ) : Prop extends LeavesAlone rt req snap count where
  values : PlainValues rt req snap
  respond : ∀ call, Starts count (rt.respond req.protocol call)
  handler : ∀ entry ∈ snap.routes, ∀ kwargs,
    Spends (restPart count) (fun _ => False) (MarkerCounted rt.toInspection)
      (handlerRun rt entry kwargs)

end

/-- The answer to a request over the concurrency limit. -/
def shedRequest (rt : Runtime m Ref W) (req : HttpRequest Ref) : Dispatch m Ref W Unit :=
  finish (sendWithHeaders rt req 503 (utf8 "Service Unavailable: Concurrency Limit Exceeded")
    [("content-type", "text/plain; charset=utf-8"), ("retry-after", "1")])

/-- `handle_rsgi`, for an HTTP request that is within the concurrency limit or over it. -/
def handleRsgi (rt : Runtime m Ref W) (req : HttpRequest Ref) (admitted : Bool) :
    Dispatch m Ref W Unit :=
  if admitted then dispatch rt req else shedRequest rt req

/-- What depends on the part is not changed either. -/
theorem LeavesAlone.comp {rt : Runtime m Ref W} {req : HttpRequest Ref}
    {snap : FrozenState m Ref} {κ κ' : Type} {part : W → κ} (h : LeavesAlone rt req snap part)
    (f : κ → κ') : LeavesAlone rt req snap fun w => f (part w) where
  others w := congrArg f (h.others w)
  readBody w := congrArg f (h.readBody w)
  setPathTemplate template w := congrArg f (h.setPathTemplate template w)
  rateLimit rl key w := congrArg f (h.rateLimit rl key w)
  callMethod r name args w := congrArg f (h.callMethod r name args w)
  middleware g hg args w := congrArg f (h.middleware g hg args w)
  exceptionHandler g hg err :=
    have hh := h.exceptionHandler g hg err
    ⟨hh.1.comp f, fun w res hr => (hh.2 w res hr).comp f⟩
  dependency entry hentry dep hdep ctx prev := (h.dependency entry hentry dep hdep ctx prev).comp f
  bodyModel entry hentry model hmodel args w :=
    congrArg f (h.bodyModel entry hentry model hmodel args w)

section

variable (count : W → ℕ) {α : Type}

/-- A computation that sends one response, or raises and sends none. -/
abbrev Sends (c : PyResult m Ref W α) : Prop :=
  Spends (restPart count) (fun _ => False) (fun _ n => n = 1) c

/-- A part of the dispatcher, whose exit `done` comes with one response. -/
abbrev AnswersError (R : α → ℕ → Prop) (c : Dispatch m Ref W α) : Prop :=
  Spends (restPart count) (fun e => e = .done) R c

/-- A part of the dispatcher before the answer. -/
abbrev Passes (c : Dispatch m Ref W α) : Prop := AnswersError count (fun _ n => n = 0) c

/-- A part of the dispatcher that answers: it does not return. -/
abbrev Answers (c : Dispatch m Ref W α) : Prop := AnswersError count (fun _ _ => False) c

end

-- ════════════════════════════════════════════════════════════════════════
-- Sending
-- ════════════════════════════════════════════════════════════════════════

section

variable {rt : Runtime m Ref W} {req : HttpRequest Ref} {snap : FrozenState m Ref} {count : W → ℕ}

theorem respond_sends (ht : Tallied rt req snap count) (call : ProtocolCall) :
    Sends count (respond rt req call) :=
  (keeps_log _).spends_zero.bind_zero fun _ => (ht.respond call).spends

theorem sendText_sends (ht : Tallied rt req snap count) (status : ℕ)
    (text contentType : String) : Sends count (sendText rt req status text contentType) := by
  rw [sendText_eq]
  exact respond_sends ht _

theorem sendWithHeaders_sends (ht : Tallied rt req snap count) (status : ℕ)
    (body : List UInt8) (headers : HeaderPairs) :
    Sends count (sendWithHeaders rt req status body headers) := by
  rw [sendWithHeaders_eq]
  exact respond_sends ht _

theorem finish_answers {α : Type} {c : PyResult m Ref W Unit} (hc : Sends count c) :
    Answers count (finish c : Dispatch m Ref W α) := by
  have hraised : AnswersError count (fun _ n => n = 1) (orRaise c) :=
    spends_handle_exit hc fun e he => by cases he
  exact hraised.bind_exit rfl

theorem sendHandlerMapInline_sends (ht : Tallied rt req snap count)
    (isHead : Bool) {mapped : HandlerMap} (hmapped : mapped ≠ .alreadySent) :
    Sends count (sendHandlerMapInline rt req isHead mapped) := by
  have hlen (body : SimpleBody) : Spends (restPart count) (fun _ => False) (fun _ n => n = 0)
      (Routine.ofExcept body.byteLen : PyResult m Ref W ℕ) := (keeps_ofExcept _).spends_zero
  cases mapped with
  | alreadySent => exact absurd rfl hmapped
  | withHeaders status body headers =>
    cases isHead with
    | true => exact (hlen body).bind_zero fun len => sendWithHeaders_sends ht status [] _
    | false =>
      cases body with
      | owned b => exact sendWithHeaders_sends ht status b headers
      | pyString s => exact respond_sends ht _
      | pyBytes b => exact respond_sends ht _
  | simple status body contentType =>
    have hbytes (b : List UInt8) : Sends count (sendBytes rt req status b contentType) :=
      (respond_sends ht _).ite (respond_sends ht _)
    cases isHead with
    | true => exact (hlen body).bind_zero fun len => respond_sends ht _
    | false =>
      cases body with
      | owned b => exact hbytes b
      | pyBytes b => exact hbytes b
      | pyString s =>
        exact (keeps_ofExcept s.toStr).spends_zero.bind_zero fun text =>
          sendText_sends ht status text contentType

-- ════════════════════════════════════════════════════════════════════════
-- Values
-- ════════════════════════════════════════════════════════════════════════

/-- The configured headers are read without a response. -/
theorem mergeConfigResponseHeaders_keeps (ht : Tallied rt req snap count)
    (mapped : HandlerMap) : Keeps (restPart count) (mergeConfigResponseHeaders rt req snap mapped) := by
  have hpairs (config : Ref) : Keeps (restPart count) (configHeaderPairs rt req config) :=
    (keeps_effect (ht.callMethod config _ _)).bind fun _ => keeps_ofExcept _
  have hsecurity (mapped : HandlerMap) :
      Keeps (restPart count) (mergeSecurityHeaders rt req snap mapped) := by
    unfold mergeSecurityHeaders
    split
    · exact keeps_pure _
    · exact (hpairs _).bind fun _ => keeps_pure _
    · exact keeps_pure _
  have hcors (mapped : HandlerMap) :
      Keeps (restPart count) (mergeCorsHeaders rt req snap mapped) := by
    unfold mergeCorsHeaders
    split
    · refine (keeps_ofExcept _).bind fun _ => ?_
      split
      · exact keeps_pure _
      · exact keeps_pure _
    · refine (keeps_ofExcept _).bind fun _ => ?_
      split
      · exact (hpairs _).bind fun _ => keeps_pure _
      · exact keeps_pure _
    · exact keeps_pure _
  exact (keeps_pure _).ite ((hsecurity mapped).bind fun mapped => hcors mapped)

theorem mergeWith_ne {mapped : HandlerMap} (h : mapped ≠ .alreadySent)
    (f : HeaderPairs → HeaderPairs) : mapped.mergeWith f ≠ .alreadySent := by
  cases mapped with
  | alreadySent => exact absurd rfl h
  | withHeaders => exact fun h => by cases h
  | simple => exact fun h => by cases h

theorem mergeHeaderPairsIfAbsent_ne {mapped : HandlerMap} (h : mapped ≠ .alreadySent)
    (extra : HeaderPairs) : mergeHeaderPairsIfAbsent mapped extra ≠ .alreadySent := by
  unfold mergeHeaderPairsIfAbsent
  split
  · exact h
  · exact mergeWith_ne h _

theorem mergeHeaderPairsReplace_ne {mapped : HandlerMap} (h : mapped ≠ .alreadySent)
    (extra : HeaderPairs) : mergeHeaderPairsReplace mapped extra ≠ .alreadySent := by
  unfold mergeHeaderPairsReplace
  split
  · exact h
  · exact mergeWith_ne h _

theorem mergeConfigResponseHeaders_ne {mapped : HandlerMap} (h : mapped ≠ .alreadySent) :
    Yields (· ≠ .alreadySent) (mergeConfigResponseHeaders rt req snap mapped) := by
  have hany {α : Type} (c : PyResult m Ref W α) : Yields (fun _ => True) c := fun _ _ _ => trivial
  have hsecurity : Yields (· ≠ .alreadySent) (mergeSecurityHeaders rt req snap mapped) := by
    unfold mergeSecurityHeaders
    split
    · exact yields_pure (mergeHeaderPairsIfAbsent_ne h _)
    · exact (hany _).bind fun _ _ => yields_pure (mergeHeaderPairsIfAbsent_ne h _)
    · exact yields_pure h
  rw [mergeConfigResponseHeaders, if_neg h]
  refine hsecurity.bind fun mapped h => ?_
  unfold mergeCorsHeaders
  split
  · refine (hany _).bind fun _ _ => ?_
    split
    · exact yields_pure (mergeHeaderPairsReplace_ne h _)
    · exact yields_pure h
  · refine (hany _).bind fun _ _ => ?_
    split
    · exact (hany _).bind fun _ _ => yields_pure (mergeHeaderPairsReplace_ne h _)
    · exact yields_pure h
  · exact yields_pure h

/-- A middleware is called: its value is no marker. -/
theorem middleware_spends (ht : Tallied rt req snap count) {f : Ref}
    (hf : f ∈ snap.requestMiddleware ++ snap.responseMiddleware) (args : List (PyVal Ref)) :
    Spends (restPart count) (fun _ => False) (fun v n => n = 0 ∧ ¬ IsMarker rt.toInspection v)
      (Routine.effect (rt.call f args .empty) : PyResult m Ref W (PyVal Ref)) :=
  (keeps_effect (ht.middleware f hf args)).spends_zero_yields (ht.values.middleware f hf args)

/-- Response middlewares that return no marker. -/
theorem runResponseMiddleware_spends (ht : Tallied rt req snap count) {fs : List Ref}
    (hfs : ∀ f ∈ fs, f ∈ snap.responseMiddleware) {mapped : HandlerMap}
    (h : mapped ≠ .alreadySent) :
    Spends (restPart count) (fun _ => False) (fun mapped n => n = 0 ∧ mapped ≠ .alreadySent)
      (runResponseMiddleware rt req fs mapped) := by
  induction fs generalizing mapped with
  | nil => exact spends_pure ⟨rfl, h⟩
  | cons f fs ih =>
    have hmem : f ∈ snap.requestMiddleware ++ snap.responseMiddleware :=
      List.mem_append_right _ (hfs f List.mem_cons_self)
    have hcall (res : PyVal Ref) := middleware_spends ht hmem [.object req.scope, res]
    have hrest (v : PyVal Ref) (hv : ¬ IsMarker rt.toInspection v) :
        Spends (restPart count) (fun _ => False)
          (fun mapped n => n = 0 ∧ mapped ≠ .alreadySent)
          (Routine.ofExcept (mapHandlerReturn rt.toInspection v) >>=
            runResponseMiddleware rt req fs : PyResult m Ref W HandlerMap) := by
      have hmapped : Yields (· ≠ .alreadySent)
          (Routine.ofExcept (mapHandlerReturn rt.toInspection v) : PyResult m Ref W HandlerMap) :=
        yields_ofExcept fun mapped hm hsent => hv (by rw [IsMarker, hm, hsent])
      exact ((keeps_ofExcept _).spends_zero_yields hmapped).bind_zero_of fun mapped hm =>
        ih (fun g hg => hfs g (List.mem_cons_of_mem f hg)) hm
    cases mapped with
    | alreadySent => exact absurd rfl h
    | withHeaders status body headers => exact (hcall _).bind_zero_of hrest
    | simple status body contentType => exact (hcall _).bind_zero_of hrest

/-- A value that is no marker is sent as one response. -/
theorem respondWith_sends (ht : Tallied rt req snap count) {v : PyVal Ref}
    (hv : ¬ IsMarker rt.toInspection v) : Sends count (respondWith rt req snap v) := by
  have hmapped : Yields (· ≠ .alreadySent)
      (Routine.ofExcept (mapHandlerReturn rt.toInspection v) : PyResult m Ref W HandlerMap) :=
    yields_ofExcept fun mapped hm hsent => hv (by rw [IsMarker, hm, hsent])
  refine ((keeps_ofExcept _).spends_zero_yields hmapped).bind_zero_of fun mapped hm => ?_
  refine (runResponseMiddleware_spends ht (fun _ h => h) hm).bind_zero_of fun mapped hm => ?_
  have hsend (mapped : HandlerMap) (hm : mapped ≠ .alreadySent) :
      Sends count (sendHandlerMapInline rt req (req.method = "HEAD") mapped) :=
    sendHandlerMapInline_sends ht _ hm
  split
  · exact ((mergeConfigResponseHeaders_keeps ht mapped).spends_zero_yields
      (mergeConfigResponseHeaders_ne hm)).bind_zero_of hsend
  · exact hsend mapped hm

/-- Nothing is sent for the marker. -/
theorem respondWith_marker {v : PyVal Ref} (hv : IsMarker rt.toInspection v) :
    respondWith rt req snap v = pure () := by
  have hmap : mapHandlerReturn rt.toInspection v = .ok .alreadySent := hv
  have hrun : runResponseMiddleware rt req snap.responseMiddleware .alreadySent =
      pure .alreadySent := by
    cases snap.responseMiddleware with
    | nil => rfl
    | cons f fs => rfl
  rw [respondWith, hmap]
  show runResponseMiddleware rt req snap.responseMiddleware .alreadySent >>= _ = _
  rw [hrun, pure_bind]
  split
  · rfl
  · rfl

-- ════════════════════════════════════════════════════════════════════════
-- Errors
-- ════════════════════════════════════════════════════════════════════════

theorem orRaise_spends {α : Type} {R : α → ℕ → Prop} {c : PyResult m Ref W α}
    (hc : Spends (restPart count) (fun _ => False) R c) :
    AnswersError count R (orRaise c) :=
  spends_handle_exit hc fun e he => by cases he

theorem sendInternalError_spends (ht : Tallied rt req snap count)
    (err : PyErr Ref) : AnswersError count (fun _ n => n = 1) (sendInternalError rt req err) := by
  unfold sendInternalError
  split
  · split
    · exact spends_exit fun h => by cases h
    · exact orRaise_spends (sendText_sends ht _ _ _)
  · exact orRaise_spends (sendText_sends ht _ _ _)

theorem sendErrorFallback_spends (ht : Tallied rt req snap count)
    (err : PyErr Ref) : AnswersError count (fun _ n => n = 1) (sendErrorFallback rt req err) := by
  have htry : Spends (restPart count) (fun _ => False) (fun sent n => n = sent.toNat)
      (tryHttpException rt req err) := by
    refine (keeps_ofExcept _).spends_zero.bind_zero fun payload => ?_
    split
    · exact spends_pure rfl
    · exact (sendWithHeaders_sends ht _ _ _).bind_pure fun _ n hn => hn
  exact (orRaise_spends htry).bind_unless rfl rfl (sendInternalError_spends ht err)

/-- The first exception handler that returns: its value is no marker. -/
theorem firstHandlerValue_spends (ht : Tallied rt req snap count) (err : PyErr Ref)
    {hs : List (ExceptionHandler Ref)} (hhs : ∀ h ∈ hs, h ∈ snap.exceptionHandlers) :
    AnswersError count
      (fun first n => n = 0 ∧ ∀ res isAsync, first = some (res, isAsync) →
        Keeps (restPart count) (awaitHandlerValue rt res isAsync) ∧
          Yields (fun r => ∀ v, r = .ok v → ¬ IsMarker rt.toInspection v)
            (awaitHandlerValue rt res isAsync))
      (firstHandlerValue rt req err hs) := by
  induction hs with
  | nil => exact spends_pure ⟨rfl, fun _ _ h => by cases h⟩
  | cons h hs ih =>
    have hrest := ih fun g hg => hhs g (List.mem_cons_of_mem h hg)
    have hmem := hhs h List.mem_cons_self
    obtain ⟨hkeeps, hawait⟩ := ht.exceptionHandler h hmem err
    have hvalue := ht.values.exceptionHandler h hmem err
    have hboth : Yields (fun res => Keeps (restPart count) (awaitHandlerValue rt res h.isAsync) ∧
        Yields (fun r => ∀ v, r = .ok v → ¬ IsMarker rt.toInspection v)
          (awaitHandlerValue rt res h.isAsync)) (callExceptionHandler rt req err h) :=
      fun w res hr => ⟨hawait w res hr, hvalue w res hr⟩
    refine Spends.ite ?_ hrest
    refine (spends_attempt (hkeeps.spends_zero_yields hboth)).bind fun r n hr => ?_
    rcases hr with ⟨res, rfl, rfl, hres⟩ | ⟨e, rfl, rfl⟩
    · exact .inl ⟨rfl, spends_pure ⟨rfl, fun _ _ h => by cases h; exact hres⟩⟩
    · exact .inl ⟨rfl, hrest⟩

theorem answerByHandler_spends (ht : Tallied rt req snap count) (err : PyErr Ref) :
    AnswersError count (fun answered n => n = answered.toNat) (answerByHandler rt req snap err) := by
  refine (firstHandlerValue_spends ht err fun h hh =>
    List.mem_reverse.mp hh).bind_zero_of fun first hfirst => ?_
  cases first with
  | none => exact spends_pure rfl
  | some value =>
    obtain ⟨res, isAsync⟩ := value
    obtain ⟨hkeeps, hvalue⟩ := hfirst res isAsync rfl
    have hawait : AnswersError count
        (fun r n => n = 0 ∧ ∀ v, r = .ok v → ¬ IsMarker rt.toInspection v)
        (awaitHandlerValue rt res isAsync) := by
      intro w
      obtain ⟨r, w', hr⟩ := awaitHandlerValue_run rt res isAsync w
      have hk := hkeeps w
      have hy := hvalue w r (by rw [hr])
      rw [hr] at hk
      rw [Ensures, hr]
      exact ⟨0, hk, rfl, hy⟩
    refine hawait.bind_zero_of fun r hr => ?_
    cases r with
    | error e => exact (sendInternalError_spends ht e).bind_pure fun _ n hn => hn
    | ok final =>
      cases hm : mapHandlerReturn rt.toInspection final with
      | error e =>
        simp only [hm]
        exact spends_pure rfl
      | ok mapped =>
        simp only [hm]
        have hne : mapped ≠ .alreadySent := fun h => hr final rfl (by rw [IsMarker, hm, h])
        refine (spends_attempt (sendHandlerMapInline_sends ht _ hne)).bind fun r n hr => ?_
        rcases hr with ⟨u, rfl, rfl⟩ | ⟨e, rfl, rfl⟩
        · exact .inr (.inl ⟨true, rfl, rfl⟩)
        · exact .inl ⟨rfl, spends_pure rfl⟩

theorem sendPythonError_spends (ht : Tallied rt req snap count) (err : PyErr Ref) :
    AnswersError count (fun _ n => n = 1) (sendPythonError rt req snap err) := by
  exact (answerByHandler_spends ht err).bind_unless rfl rfl (sendErrorFallback_spends ht err)

theorem answerByHandlerSync_spends (ht : Tallied rt req snap count) (err : PyErr Ref)
    {hs : List (ExceptionHandler Ref)} (hhs : ∀ h ∈ hs, h ∈ snap.exceptionHandlers) :
    AnswersError count (fun answered n => n = answered.toNat)
      (answerByHandlerSync rt req err hs) := by
  induction hs with
  | nil => exact spends_pure rfl
  | cons h hs ih =>
    have hrest := ih fun g hg => hhs g (List.mem_cons_of_mem h hg)
    have hmem := hhs h List.mem_cons_self
    by_cases hmatch : rt.isInstance err h.excType = true ∧ h.isAsync = false
    · have hvalue : Yields (fun res => ¬ IsMarker rt.toInspection res)
          (callExceptionHandler rt req err h) := by
        intro w res hr hres
        -- the value of a synchronous handler is not awaited
        have hawait := ht.values.exceptionHandler h hmem err w res hr w (.ok res)
        rw [awaitHandlerValue, hmatch.2] at hawait
        exact hawait rfl res rfl hres
      unfold answerByHandlerSync
      rw [if_pos hmatch]
      refine (spends_attempt ((ht.exceptionHandler h hmem err).1.spends_zero_yields hvalue)).bind
        fun r n hr => ?_
      rcases hr with ⟨res, rfl, hn, hres⟩ | ⟨e, rfl, hn⟩
      · cases hm : mapHandlerReturn rt.toInspection res with
        | error e =>
          simp only [hm]
          exact .inl ⟨hn, hrest⟩
        | ok mapped =>
          simp only [hm]
          have hne : mapped ≠ .alreadySent := fun h => hres (by rw [IsMarker, hm, h])
          exact .inl ⟨hn, (orRaise_spends (sendHandlerMapInline_sends ht _ hne)).bind_pure
            fun _ n h => h⟩
      · exact .inl ⟨hn, hrest⟩
    · unfold answerByHandlerSync
      rw [if_neg hmatch]
      exact hrest

theorem sendPythonErrorSync_spends (ht : Tallied rt req snap count) (err : PyErr Ref) :
    AnswersError count (fun _ n => n = 1) (sendPythonErrorSync rt req snap err) := by
  exact (answerByHandlerSync_spends ht err fun h hh => List.mem_reverse.mp hh).bind_unless rfl rfl
    (sendErrorFallback_spends ht err)

section

variable {α : Type}

theorem failWith_answers (ht : Tallied rt req snap count) (err : PyErr Ref) :
    Answers count (failWith rt req snap err : Dispatch m Ref W α) := by
  exact (sendPythonError_spends ht err).bind_exit rfl

theorem respondOrFail_answers (ht : Tallied rt req snap count) {v : PyVal Ref}
    (hv : ¬ IsMarker rt.toInspection v) :
    Answers count (respondOrFail rt req snap v : Dispatch m Ref W α) := by
  refine (spends_attempt (respondWith_sends ht hv)).bind fun r n hr => ?_
  rcases hr with ⟨u, rfl, hn⟩ | ⟨e, rfl, hn⟩
  · exact .inr (.inr ⟨hn, .done, rfl, rfl⟩)
  · exact .inl ⟨hn, failWith_answers ht e⟩

/-- The request ends with the response that the helper has started. -/
theorem respondOrFail_marker {v : PyVal Ref} (hv : IsMarker rt.toInspection v) :
    (respondOrFail rt req snap v : Dispatch m Ref W α) = Routine.exit .done := by
  rw [respondOrFail, respondWith_marker hv, attempt_pure, pure_bind]

end

-- ════════════════════════════════════════════════════════════════════════
-- The handler
-- ════════════════════════════════════════════════════════════════════════

variable {entry : RouteEntry Ref}

/-- The keywords for the handler, or what refuses the body. -/
def handlerKwargs (rt : Runtime m Ref W) (req : HttpRequest Ref) (entry : RouteEntry Ref)
    (input : HandlerInput Ref) : PyResult m Ref W (BodyOutcome Ref) :=
  if shouldUseKwargs req entry input then do
    match ← jsonKwargs rt req entry input with
    | .validationError text => return .validationError text
    | .jsonParseError text => return .jsonParseError text
    | .assign json => return .assign (allKwargs req entry input json)
  else return .assign []

/-- The handler is called and awaited with its keywords. -/
theorem callHandler_run (input : HandlerInput Ref) :
    callHandler rt req snap entry input = (do
      match ← attempt (handlerKwargs rt req entry input) with
      | .error e => failWith rt req snap e
      | .ok (.jsonParseError text) => rejectJson rt req 400 text
      | .ok (.validationError text) => rejectJson rt req 422 text
      | .ok (.assign kwargs) =>
        match ← attempt (handlerRun rt entry (.ofList kwargs)) with
        | .ok v => return v
        | .error e => failWith rt req snap e) := by
  have hrun : runHandler rt req entry input = handlerKwargs rt req entry input >>= fun out =>
      match out with
      | .validationError text => pure (.validationError text)
      | .jsonParseError text => pure (.jsonParseError text)
      | .assign kwargs => invokeHandler rt entry (.ofList kwargs) >>= fun res => pure (.ok res) := by
    unfold runHandler handlerKwargs
    split
    · rw [bind_assoc]
      refine congrArg _ (funext fun out => ?_)
      cases out with
      | assign json => rfl
      | validationError text => rfl
      | jsonParseError text => rfl
    · rfl
  unfold callHandler
  rw [hrun, attempt_bind, bind_assoc]
  refine congrArg _ (funext fun out => ?_)
  cases out with
  | error e => rfl
  | ok out =>
    cases out with
    | validationError text => rfl
    | jsonParseError text => rfl
    | assign kwargs =>
      dsimp only
      rw [handlerRun, attempt_bind, attempt_bind, bind_assoc, bind_assoc]
      refine congrArg _ (funext fun res => ?_)
      cases res with
      | ok res => rfl
      | error e => rfl

theorem handlerKwargs_keeps (ht : Tallied rt req snap count)
    (hentry : entry ∈ snap.routes) (input : HandlerInput Ref) :
    Keeps (restPart count) (handlerKwargs rt req entry input) := by
  have hmethod (r : Ref) (name : String) (args : List (PyVal Ref)) :
      Keeps (restPart count) (Routine.effect (rt.callMethod r name args) : PyResult m Ref W _) :=
    keeps_effect (ht.callMethod r name args)
  have hvalidate (model : Ref) (hmodel : entry.bodyModel = some model) :
      Keeps (restPart count) (validateBody rt model input) := by
    unfold validateBody
    split
    · exact (hmethod _ _ _).map
    · split
      · exact keeps_pure _
      · exact (hmethod _ _ _).map.ite (keeps_effect (ht.bodyModel entry hentry model hmodel _)).map
  have hdetail (err : PyErr Ref) : Keeps (restPart count) (validationDetail rt err) := by
    unfold validationDetail
    split
    · refine (hmethod _ _ _).attempt.bind fun r => ?_
      split
      · split
        · exact keeps_pure _
        · exact keeps_pure _
      · exact keeps_pure _
    · exact keeps_pure _
  have hdecode : Keeps (restPart count) (decodeJsonBody rt entry input) := by
    unfold decodeJsonBody
    cases hmodel : entry.bodyModel with
    | none =>
      dsimp only
      split
      · exact keeps_pure _
      · exact keeps_pure _
    | some model =>
      refine (hvalidate model hmodel).attempt.bind fun r => ?_
      split
      · exact keeps_pure _
      · exact (keeps_log _).bind fun _ => keeps_pure _
      · exact (keeps_log _).bind fun _ => (hdetail _).bind fun _ => keeps_pure _
  refine Keeps.ite ((hdecode.ite (keeps_pure _)).bind fun json => ?_) (keeps_pure _)
  split
  · exact keeps_pure _
  · exact keeps_pure _
  · exact keeps_pure _

theorem rejectJson_answers {α : Type} (ht : Tallied rt req snap count)
    (status : ℕ) (text : String) :
    Answers count (rejectJson rt req status text : Dispatch m Ref W α) :=
  finish_answers (sendText_sends ht _ _ _)

theorem rejectPlain_answers {α : Type} (ht : Tallied rt req snap count)
    (status : ℕ) (text : String) :
    Answers count (rejectPlain rt req status text : Dispatch m Ref W α) :=
  finish_answers (sendText_sends ht _ _ _)

/-- An answer does not return, so it does in the place of any value. -/
theorem Answers.spends {α : Type} {c : Dispatch m Ref W α} (hc : Answers count c)
    (R : α → ℕ → Prop) : AnswersError count R c :=
  hc.mono fun _ _ => False.elim

theorem callHandler_spends (ht : Tallied rt req snap count)
    (hentry : entry ∈ snap.routes) (input : HandlerInput Ref) :
    AnswersError count (MarkerCounted rt.toInspection)
      (callHandler rt req snap entry input) := by
  rw [callHandler_run]
  refine (handlerKwargs_keeps ht hentry input).attempt.spends (fun w e he => by cases he)
    |>.bind_zero fun out => ?_
  split
  · exact (failWith_answers ht _).spends _
  · exact (rejectJson_answers ht _ _).spends _
  · exact (rejectJson_answers ht _ _).spends _
  · refine (spends_attempt (ht.handler _ hentry _)).bind
      fun r n hr => ?_
    rcases hr with ⟨v, rfl, hv⟩ | ⟨e, rfl, hn⟩
    · exact .inr (.inl ⟨v, rfl, hv⟩)
    · exact .inl ⟨hn, (failWith_answers ht e).spends _⟩

-- ════════════════════════════════════════════════════════════════════════
-- The stages of a route
-- ════════════════════════════════════════════════════════════════════════

theorem passes_of_keeps {α : Type} {c : Dispatch m Ref W α} (hc : Keeps (restPart count) c)
    (hexit : ∀ w e, (c.run w).result = .error e → e ≠ .done) : Passes count c :=
  hc.spends hexit

theorem passes_attempt {α : Type} {c : PyResult m Ref W α} (hc : Keeps (restPart count) c) :
    Passes count (attempt c : Dispatch m Ref W _) :=
  passes_of_keeps hc.attempt fun w e he => by cases he

theorem passes_log (i : RequestEvent Ref) : Passes count (Routine.log i : Dispatch m Ref W Unit) :=
  passes_of_keeps (keeps_log i) fun w e he => by cases he

theorem passes_orRaise_ofExcept {α : Type} (r : Except (PyErr Ref) α) :
    Passes count (orRaise (Routine.ofExcept r) : Dispatch m Ref W α) :=
  orRaise_spends (keeps_ofExcept r).spends_zero

theorem setTemplate_passes (ht : Tallied rt req snap count) (template : String) :
    Passes count (setTemplate rt req template) :=
  passes_of_keeps (keeps_effect (ht.setPathTemplate template)) fun w e he => by cases he

theorem checkRateLimit_passes (ht : Tallied rt req snap count) :
    Passes count (checkRateLimit rt req entry) := by
  unfold checkRateLimit
  split
  · exact spends_pure rfl
  · refine Spends.bind_zero (passes_of_keeps (keeps_effect fun w => ht.rateLimit _ _ w)
      fun w e he => by cases he) fun decision => ?_
    refine (passes_log _).bind_zero fun _ => ?_
    cases decision with
    | allowed limit remaining resetSecs => exact spends_pure rfl
    | denied limit resetSecs =>
      exact (finish_answers (respond_sends ht _)).spends _

theorem readRequestBody_passes (ht : Tallied rt req snap count) :
    Passes count (readRequestBody rt req entry) := by
  have htoo {α : Type} : Passes count (payloadTooLarge rt req : Dispatch m Ref W α) :=
    (rejectJson_answers ht _ _).spends _
  have hdeclared : Passes count (checkDeclaredLength rt req) := by
    unfold checkDeclaredLength
    split
    · exact htoo.ite (spends_pure rfl)
    · exact spends_pure rfl
  refine Spends.ite (hdeclared.bind_zero fun _ => ?_) (spends_pure rfl)
  refine (passes_attempt (keeps_effect ht.readBody)).bind_zero fun read => ?_
  refine (passes_log _).bind_zero fun _ => ?_
  refine (passes_orRaise_ofExcept read).bind_zero fun v => ?_
  exact htoo.ite (spends_pure rfl)

theorem checkJwt_passes (ht : Tallied rt req snap count) :
    Passes count (checkJwt rt req entry) := by
  refine Spends.ite ((passes_orRaise_ofExcept req.headers).bind_zero fun headers => ?_)
    (spends_pure rfl)
  split
  · exact spends_pure rfl
  · exact (rejectPlain_answers ht _ _).spends _

theorem readForm_passes (ht : Tallied rt req snap count) (body : List UInt8) :
    Passes count (readForm rt req snap entry body) := by
  unfold readForm
  split
  · split
    · exact spends_pure rfl
    · exact (failWith_answers ht _).spends _
    · exact (rejectJson_answers ht _ _).spends _
  · exact spends_pure rfl

theorem requestContext_passes (ht : Tallied rt req snap count) :
    Passes count (requestContext rt req snap entry) := by
  unfold requestContext
  split
  · split
    · exact spends_pure rfl
    · exact (failWith_answers ht _).spends _
  · exact spends_pure rfl

theorem runDependencies_passes (ht : Tallied rt req snap count) (hentry : entry ∈ snap.routes)
    (ctx : Option (PyVal Ref)) {deps : List (DependencyEntry Ref)}
    (hdeps : ∀ dep ∈ deps, dep ∈ entry.extra.dependencies) (prev : List (String × PyVal Ref)) :
    Passes count (runDependencies rt req snap ctx deps prev) := by
  induction deps generalizing prev with
  | nil => exact spends_pure rfl
  | cons dep deps ih =>
    have hkeeps := ht.dependency entry hentry dep (hdeps dep List.mem_cons_self) ctx prev
    have hdep : Passes count (runDependency rt req snap dep ctx prev) := by
      refine (passes_attempt hkeeps).bind_zero fun out => ?_
      refine (passes_log _).bind_zero fun _ => ?_
      cases out with
      | ok v => exact spends_pure rfl
      | error e => exact (failWith_answers ht e).spends _
    exact hdep.bind_zero fun v => ih (fun d hd => hdeps d (List.mem_cons_of_mem dep hd)) _

/-- A matched route answers. -/
theorem serveRoute_answers (ht : Tallied rt req snap count)
    (hentry : entry ∈ snap.routes) (idx : ℕ) (params : PathParams) :
    Answers count (serveRoute rt req snap entry idx params) := by
  refine (passes_log _).bind_zero fun _ => ?_
  refine (checkRateLimit_passes ht).bind_zero fun _ => ?_
  refine (setTemplate_passes ht _).bind_zero fun _ => ?_
  refine (readRequestBody_passes ht).bind_zero fun body => ?_
  refine (checkJwt_passes ht).bind_zero fun claims => ?_
  refine (readForm_passes ht body.1).bind_zero fun form => ?_
  refine (requestContext_passes ht).bind_zero fun ctx => ?_
  refine (runDependencies_passes ht hentry ctx (fun _ h => h) []).bind_zero fun deps => ?_
  refine (callHandler_spends ht hentry _).bind fun v n hv => ?_
  rcases hv with ⟨hm, hn⟩ | ⟨hm, hn⟩
  · -- the helper has started the response
    exact .inr (.inr ⟨hn, .done, respondOrFail_marker hm, rfl⟩)
  · exact .inl ⟨hn, respondOrFail_answers ht hm⟩

-- ════════════════════════════════════════════════════════════════════════
-- The dispatchers
-- ════════════════════════════════════════════════════════════════════════

theorem serveOpenapi_answers (ht : Tallied rt req snap count) :
    Answers count (serveOpenapi rt req) := by
  have htext : Passes count (openapiText rt) := by
    refine passes_of_keeps (keeps_effect fun w => ?_) fun w e he => ?_
    · split
      · rfl
      · rfl
    · unfold openapiText at he
      rw [effect_run] at he
      split at he
      · cases he
      · cases he
  refine (setTemplate_passes ht _).bind_zero fun _ => htext.bind_zero fun doc => ?_
  exact Spends.ite (finish_answers (respond_sends ht _))
    (finish_answers (respond_sends ht _))

theorem answerPreflight_passes (ht : Tallied rt req snap count) :
    Passes count (answerPreflight rt req snap) := by
  have hpreflight : Passes count (orRaise (preflight rt req snap)) := by
    refine orRaise_spends ?_
    unfold preflight
    refine Spends.ite ?_ (spends_pure rfl)
    split
    · exact spends_pure rfl
    · refine (keeps_ofExcept req.headers).spends_zero.bind_zero fun headers => ?_
      dsimp only
      split
      · exact spends_pure rfl
      · exact spends_pure rfl
  refine hpreflight.bind_zero fun out => ?_
  split
  · exact spends_pure rfl
  · exact (finish_answers (sendWithHeaders_sends ht _ _ _)).spends _
  · exact (rejectPlain_answers ht _ _).spends _

theorem runMiddleware_passes (ht : Tallied rt req snap count) {fs : List Ref}
    (hfs : ∀ f ∈ fs, f ∈ snap.requestMiddleware) :
    Passes count (runMiddleware rt req snap fs) := by
  induction fs with
  | nil => exact spends_pure rfl
  | cons f fs ih =>
    have hmem : f ∈ snap.requestMiddleware ++ snap.responseMiddleware :=
      List.mem_append_left _ (hfs f List.mem_cons_self)
    have hcall := middleware_spends ht hmem [.object req.scope, .object req.protocol]
    refine Spends.bind_zero_of (P := fun out => ∀ v, out = .ok v → ¬ IsMarker rt.toInspection v)
      ((spends_attempt hcall).mono ?_) fun out hout => ?_
    · rintro r n (⟨v, rfl, hn, hv⟩ | ⟨e, rfl, hn⟩)
      · exact ⟨hn, fun v' h => by cases h; exact hv⟩
      · exact ⟨hn, fun v' h => by cases h⟩
    · refine (passes_log _).bind_zero fun _ => ?_
      cases out with
      | error e => exact (failWith_answers ht e).spends _
      | ok v =>
        exact Spends.ite (ih fun g hg => hfs g (List.mem_cons_of_mem f hg))
          ((respondOrFail_answers ht (hout v rfl)).spends _)

theorem compiledTables_passes : Passes count (compiledTables rt snap) := by
  unfold compiledTables
  split
  · exact spends_pure rfl
  · refine passes_of_keeps (keeps_effect fun w => ?_) fun w e he => ?_
    · split
      · rfl
      · rfl
    · rw [effect_run] at he
      split at he
      · cases he
      · cases he
        exact fun h => by cases h

theorem matchRoute_passes (ht : Tallied rt req snap count)
    (compiled : CompiledRouters m) : Passes count (matchRoute rt req compiled) := by
  unfold matchRoute
  split
  · exact spends_exit fun h => by cases h
  · refine Spends.ite ((rejectPlain_answers ht _ _).spends _) ?_
    exact (finish_answers (respond_sends ht _)).spends _
  · exact spends_pure rfl

theorem routeEntry_spends (idx : ℕ) :
    AnswersError count (fun entry n => n = 0 ∧ entry ∈ snap.routes) (routeEntry snap idx) := by
  unfold routeEntry
  split
  · next entry hentry => exact spends_pure ⟨rfl, List.mem_of_getElem? hentry⟩
  · exact spends_exit fun h => by cases h

theorem runRsgi_answers (ht : Tallied rt req snap count) :
    Answers count (runRsgi rt req snap) := by
  have hroute : Answers count (routeAndServe rt req snap) := by
    refine compiledTables_passes.bind_zero fun compiled => ?_
    refine (matchRoute_passes ht compiled).bind_zero fun matched => ?_
    exact (routeEntry_spends matched.1).bind_zero_of fun entry hentry =>
      serveRoute_answers ht hentry matched.1 matched.2
  have hrest : Answers count (answerPreflight rt req snap >>= fun _ =>
      runMiddleware rt req snap snap.requestMiddleware >>= fun _ => routeAndServe rt req snap) :=
    (answerPreflight_passes ht).bind_zero fun _ =>
      (runMiddleware_passes ht fun _ h => h).bind_zero fun _ => hroute
  exact Spends.ite (((serveOpenapi_answers ht).spends _).bind_zero fun _ => hrest) hrest

/-- A handler in the short circuit, which is not awaited. -/
theorem trivialResponse_sends (ht : Tallied rt req snap count)
    (hentry : entry ∈ snap.routes) (hsync : entry.isAsync = false) (params : PathParams) :
    Sends count (trivialResponse rt req snap entry params) := by
  have hinvoke (kwargs : Dict String (PyVal Ref)) :
      Spends (restPart count) (fun _ => False) (MarkerCounted rt.toInspection)
        (invokeHandler rt entry kwargs) := by
    have hrun := ht.handler _ hentry kwargs
    have hvalue : handlerValue rt entry = pure := by
      funext res
      rw [handlerValue, hsync]
      rfl
    rwa [handlerRun, hvalue, bind_pure] at hrun
  refine (hinvoke _).bind fun v n hv => ?_
  rcases hv with ⟨hm, hn⟩ | ⟨hm, hn⟩
  · refine .inr (.inl ⟨(), ?_, hn⟩)
    have hmap : mapHandlerReturn rt.toInspection v = .ok .alreadySent := hm
    rw [hmap]
    rfl
  · refine .inl ⟨hn, ?_⟩
    have hmapped : Yields (· ≠ .alreadySent)
        (Routine.ofExcept (mapHandlerReturn rt.toInspection v) : PyResult m Ref W HandlerMap) :=
      yields_ofExcept fun mapped hmap hsent => hm (by rw [IsMarker, hmap, hsent])
    refine ((keeps_ofExcept _).spends_zero_yields hmapped).bind_zero_of fun mapped hne => ?_
    exact ((mergeConfigResponseHeaders_keeps ht mapped).spends_zero_yields
      (mergeConfigResponseHeaders_ne hne)).bind_zero_of fun mapped hne =>
        sendHandlerMapInline_sends ht _ hne

theorem tryRsgiSyncShortCircuit_passes (ht : Tallied rt req snap count)
    (hsync : ∀ entry ∈ snap.routes, entry.trivialSync = true → entry.isAsync = false) :
    Passes count (tryRsgiSyncShortCircuit rt req snap) := by
  have hserve {entry : RouteEntry Ref} (hentry : entry ∈ snap.routes)
      (htrivial : entry.trivialSync = true) (idx : ℕ) (params : PathParams) :
      AnswersError count (fun _ n => n = 1) (runTrivialSyncRoute rt req snap entry idx params) := by
    refine (passes_log _).bind_zero fun _ => (setTemplate_passes ht _).bind_zero fun _ => ?_
    refine (spends_attempt (trivialResponse_sends ht hentry
      (hsync entry hentry htrivial) params)).bind fun r n hr => ?_
    rcases hr with ⟨u, rfl, hn⟩ | ⟨e, rfl, hn⟩
    · exact .inr (.inl ⟨(), rfl, hn⟩)
    · exact .inl ⟨hn, sendPythonErrorSync_spends ht e⟩
  have hroute : Passes count (routeTrivialSync rt req snap) := by
    refine compiledTables_passes.bind_zero fun compiled => ?_
    refine (matchRoute_passes ht compiled).bind_zero fun matched => ?_
    refine Spends.ite (spends_pure rfl) ?_
    refine (routeEntry_spends matched.1).bind_zero_of fun entry hentry => ?_
    by_cases htrivial : entry.trivialSync = true
    · rw [if_pos htrivial]
      exact (hserve hentry htrivial matched.1 matched.2).bind_exit rfl
    · rw [if_neg htrivial]
      exact spends_pure rfl
  refine (answerPreflight_passes ht).bind_zero fun _ => ?_
  refine Spends.ite (spends_pure rfl) ?_
  exact Spends.ite (((serveOpenapi_answers ht).spends _).bind_zero fun _ => hroute) hroute

/-- A request for a state whose routes were registered is answered once. -/
theorem dispatchWith_answers (ht : Tallied rt req snap count)
    (hsync : ∀ entry ∈ snap.routes, entry.trivialSync = true → entry.isAsync = false) :
    Answers count (dispatchWith rt req snap) := by
  have hothers : Passes count
      (Routine.effect fun w => (.ok (), rt.others w) : Dispatch m Ref W Unit) :=
    passes_of_keeps (keeps_effect ht.others) fun w e he => by cases he
  exact (tryRsgiSyncShortCircuit_passes ht hsync).bind_zero fun _ =>
    hothers.bind_zero fun _ => runRsgi_answers ht

/-- A request over the concurrency limit is answered once. -/
theorem shed_answers (ht : Tallied rt req snap count) :
    Answers count (shedRequest rt req) :=
  finish_answers (sendWithHeaders_sends ht 503 _ _)

end

end OxyRoute
