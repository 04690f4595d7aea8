import OxyRoute.Native.Stops

/-!
# HEAD requests

A `HEAD` request is served as the `GET` request is, up to the response calls. The mapped values
and the document are then sent without their bodies; refusals, `HTTPException`s and the answer
with status 500 are sent with them.

## Main definitions

- `HeadOf` — a response call answers `HEAD` as another one answers `GET`
- `ServerAlike` — the server does not tell the two apart
- `HttpRequest.asGet`, `HttpRequest.asHead` — the two requests
- `ComesTo` — where a request stops, as `GET` and as `HEAD`
- `IgnoresHead` — a stop that ends at a response with a body
- `HeadLaw` — the `HEAD` request is answered as the `GET` request is, without a body

## Main results

- `sendHandlerMapInline_head` — a mapped value is answered properly
- `head_law_iff` — the law holds where the request does not come to such a stop
-/

namespace OxyRoute

open Routine

variable {m : Matchit} {Ref W : Type}

-- ════════════════════════════════════════════════════════════════════════
-- Response calls
-- ════════════════════════════════════════════════════════════════════════

namespace ProtocolCall

/-- The call sends a body. -/
def hasBody : ProtocolCall → Bool
  | .responseEmpty _ _ => false
  | _ => true

/-- The length of the body in bytes. -/
def bodyLength : ProtocolCall → ℕ
  | .responseStr _ _ body => (utf8 body.text).length
  | .responseBytes _ _ body => body.length
  | .responseEmpty _ _ => 0

/-- The text of the body has a UTF-8 form. -/
def encodable : ProtocolCall → Bool
  | .responseStr _ _ body => !body.surrogates
  | _ => true

/-- The headers other than `content-length`. -/
def otherHeaders (call : ProtocolCall) : HeaderPairs :=
  call.headers.filter fun e => !Text.eqIgnoreAsciiCase e.1 "content-length"

/-- The values of the `content-length` headers. -/
def contentLengths (call : ProtocolCall) : List String :=
  (call.headers.filter fun e => Text.eqIgnoreAsciiCase e.1 "content-length").map (·.2)

end ProtocolCall

/-- The response calls of a log that a server can take. -/
def answers (l : List (RequestEvent Ref)) : List ProtocolCall :=
  (responses l).filter (·.encodable)

@[simp] theorem answers_append (l l' : List (RequestEvent Ref)) :
    answers (l ++ l') = answers l ++ answers l' := by
  rw [answers, responses_append, List.filter_append]
  rfl

/-- The second call answers `HEAD` as the first one answers `GET`. -/
structure HeadOf (get head : ProtocolCall) : Prop where
  noBody : head.hasBody = false
  status : head.status = get.status
  headers : head.otherHeaders = get.otherHeaders

/-- It also gives the length of the body that is left out. -/
structure MappedHeadOf (get head : ProtocolCall) : Prop extends HeadOf get head where
  length : head.contentLengths = [toString get.bodyLength]

/-- The server treats all calls it can take alike, and refuses the others. -/
structure ServerAlike (rt : Runtime m Ref W) (protocol : Ref) : Prop where
  alike : ∀ call call' w e w', call.encodable = true → call'.encodable = true →
    rt.respond protocol call w = (.error e, w') → rt.respond protocol call' w = (.error e, w')
  unencodable : ∀ call w, call.encodable = false →
    rt.respond protocol call w = (.error .unicodeEncodeError, w)

/-- The request, as a `GET` request. -/
abbrev HttpRequest.asGet (req : HttpRequest Ref) : HttpRequest Ref :=
  req.withMethod "GET" req.scope

/-- The request, as a `HEAD` request with a scope of its own. -/
abbrev HttpRequest.asHead (req : HttpRequest Ref) (scope : Ref) : HttpRequest Ref :=
  req.withMethod "HEAD" scope

/-- Two computations that make response calls end alike, up to the state after a value. -/
structure SendAlike {α : Type} (get head : Ending (World m Ref W) (RequestEvent Ref) (PyErr Ref) α) :
    Prop where
  result : head.result = get.result
  state : ∀ e, get.result = .error e → head.state = get.state
  calls : List.Forall₂ MappedHeadOf (answers get.log) (answers head.log)

section

variable {rt : Runtime m Ref W} {req : HttpRequest Ref} {scope : Ref} {snap : FrozenState m Ref}

theorem respond_alike (hserver : ServerAlike rt req.protocol) {get head : ProtocolCall}
    (hget : get.encodable = true) (hhead : head.encodable = true) (h : MappedHeadOf get head)
    (w : World m Ref W) :
    SendAlike ((respond rt req get).run w) ((respond rt req head).run w) := by
  have hrun (call : ProtocolCall) : (respond rt req call).run w =
      ⟨(rt.respond req.protocol call w).1, (rt.respond req.protocol call w).2,
        [.sent call]⟩ := rfl
  have hcalls : List.Forall₂ MappedHeadOf (answers [@RequestEvent.sent Ref get])
      (answers [@RequestEvent.sent Ref head]) := by
    have hanswers {call : ProtocolCall} (h : call.encodable = true) :
        answers [@RequestEvent.sent Ref call] = [call] := by
      show List.filter _ [call] = _
      rw [List.filter_cons, if_pos h]
      rfl
    rw [hanswers hget, hanswers hhead]
    exact .cons h .nil
  rw [hrun, hrun]
  rcases hr : rt.respond req.protocol get w with ⟨r, w'⟩
  rcases hr' : rt.respond req.protocol head w with ⟨r', w''⟩
  cases r with
  | error e =>
    rw [hserver.alike _ _ _ _ _ hget hhead hr] at hr'
    cases hr'
    exact ⟨rfl, fun _ _ => rfl, hcalls⟩
  | ok u =>
    cases r' with
    | ok u' => exact ⟨rfl, fun _ h => (by cases h), hcalls⟩
    | error e =>
      rw [hserver.alike _ _ _ _ _ hhead hget hr'] at hr
      cases hr

-- ════════════════════════════════════════════════════════════════════════
-- Mapped values
-- ════════════════════════════════════════════════════════════════════════

theorem eqIgnoreAsciiCase_toAsciiLowercase (a b : String) :
    Text.eqIgnoreAsciiCase (Text.toAsciiLowercase a) b = Text.eqIgnoreAsciiCase a b := by
  unfold Text.eqIgnoreAsciiCase
  rw [Text.toAsciiLowercase_idem]

theorem filter_buildHeaderListFromPairs (p : String → Bool)
    (hp : ∀ name, p (Text.toAsciiLowercase name) = p name) (headers : HeaderPairs) :
    (buildHeaderListFromPairs headers).filter (fun e => p e.1) =
      buildHeaderListFromPairs (headers.filter fun e => p e.1) := by
  unfold buildHeaderListFromPairs
  rw [List.filter_map]
  refine congrArg _ (congrArg (fun f => headers.filter f) (funext fun e => ?_))
  exact hp e.1

/-- The call of `send_bytes`. -/
def bytesCall (status : ℕ) (body : List UInt8) (contentType : String) : ProtocolCall :=
  if body = [] then .responseEmpty status [("content-type", contentType)]
  else .responseBytes status [("content-type", contentType)] body

theorem sendBytes_eq (rt : Runtime m Ref W) (req : HttpRequest Ref) (status : ℕ)
    (body : List UInt8) (contentType : String) :
    sendBytes rt req status body contentType = respond rt req (bytesCall status body contentType) := by
  unfold sendBytes bytesCall
  split
  · rfl
  · rfl

/-- The `HEAD` call for a response with headers of its own. -/
theorem mappedHeadOf_withHeaders {get : ProtocolCall} {status n : ℕ} {headers : HeaderPairs}
    (hstatus : get.status = status) (hheaders : get.headers = buildHeaderListFromPairs headers)
    (hlength : get.bodyLength = n) :
    MappedHeadOf get (.responseEmpty status (buildHeaderListFromPairs
      ((headers.filter fun e => !Text.eqIgnoreAsciiCase e.1 "content-length") ++
        [("content-length", toString n)]))) := by
  let isLength (name : String) : Bool := Text.eqIgnoreAsciiCase name "content-length"
  have hlow (name : String) : isLength (Text.toAsciiLowercase name) = isLength name :=
    eqIgnoreAsciiCase_toAsciiLowercase name _
  have hother (hs : HeaderPairs) : (buildHeaderListFromPairs hs).filter (fun e => !isLength e.1) =
      buildHeaderListFromPairs (hs.filter fun e => !isLength e.1) :=
    filter_buildHeaderListFromPairs (fun name => !isLength name)
      (fun name => congrArg not (hlow name)) hs
  have hlengths (hs : HeaderPairs) : (buildHeaderListFromPairs hs).filter (fun e => isLength e.1) =
      buildHeaderListFromPairs (hs.filter fun e => isLength e.1) :=
    filter_buildHeaderListFromPairs isLength hlow hs
  refine ⟨⟨rfl, hstatus.symm, ?_⟩, ?_⟩
  · show (buildHeaderListFromPairs _).filter (fun e => !isLength e.1) =
      get.headers.filter fun e => !isLength e.1
    rw [hheaders, hother, hother, List.filter_append, List.filter_filter]
    have hnone : [("content-length", toString n)].filter (fun e => !isLength e.1) = [] := by
      simp [isLength, Text.eqIgnoreAsciiCase_refl]
    rw [hnone, List.append_nil]
    simp only [Bool.and_self, isLength]
  · show ((buildHeaderListFromPairs _).filter (fun e => isLength e.1)).map (·.2) = _
    rw [hlengths, List.filter_append, List.filter_filter, hlength]
    have hnone : headers.filter (fun e => isLength e.1 && !Text.eqIgnoreAsciiCase e.1
        "content-length") = [] := by
      refine List.filter_eq_nil_iff.mpr fun e _ => ?_
      show ¬ (isLength e.1 && !isLength e.1) = true
      rw [Bool.and_not_self]
      decide
    have hself : [("content-length", toString n)].filter (fun e => isLength e.1) =
        [("content-length", toString n)] := by
      simp [isLength, Text.eqIgnoreAsciiCase_refl]
    rw [hnone, hself]
    rfl

/-- The `HEAD` call for a response with a content type only. -/
theorem mappedHeadOf_simple {get : ProtocolCall} {status n : ℕ} {contentType : String}
    (hstatus : get.status = status) (hheaders : get.headers = [("content-type", contentType)])
    (hlength : get.bodyLength = n) :
    MappedHeadOf get (.responseEmpty status
      [("content-type", contentType), ("content-length", toString n)]) := by
  have htype : Text.eqIgnoreAsciiCase "content-type" "content-length" = false := by decide
  have hname : Text.eqIgnoreAsciiCase "content-length" "content-length" = true := by decide
  refine ⟨⟨rfl, hstatus.symm, ?_⟩, ?_⟩
  · rw [ProtocolCall.otherHeaders, ProtocolCall.otherHeaders, hheaders]
    simp only [ProtocolCall.headers, List.filter_cons, htype, hname, List.filter_nil]
    rfl
  · rw [ProtocolCall.contentLengths, hlength]
    simp only [ProtocolCall.headers, List.filter_cons, htype, hname, List.filter_nil]
    rfl

/-- What a response call sends. -/
structure ProtocolCall.Carries (call : ProtocolCall) (status : ℕ) (headers : HeaderPairs)
    (length : ℕ) : Prop where
  encodable : call.encodable = true
  status : call.status = status
  headers : call.headers = headers
  bodyLength : call.bodyLength = length

theorem withHeadersCall_carries (status : ℕ) (body : List UInt8) (headers : HeaderPairs) :
    (withHeadersCall status body headers).Carries status (buildHeaderListFromPairs headers)
      body.length := by
  unfold withHeadersCall
  split
  · next hbody =>
    rw [hbody]
    exact ⟨rfl, rfl, rfl, rfl⟩
  · exact ⟨rfl, rfl, rfl, rfl⟩

theorem bytesCall_carries (status : ℕ) (body : List UInt8) (contentType : String) :
    (bytesCall status body contentType).Carries status [("content-type", contentType)]
      body.length := by
  unfold bytesCall
  split
  · next hbody =>
    rw [hbody]
    exact ⟨rfl, rfl, rfl, rfl⟩
  · exact ⟨rfl, rfl, rfl, rfl⟩

theorem textCall_carries (status : ℕ) (text contentType : String) :
    (textCall status text contentType).Carries status [("content-type", contentType)]
      (utf8 text).length := by
  unfold textCall
  split
  · next htext =>
    rw [htext]
    exact ⟨rfl, rfl, rfl, (congrArg List.length (utf8_eq_nil_iff.mpr rfl)).symm⟩
  · exact ⟨rfl, rfl, rfl, rfl⟩

/-- A body with headers, and its length with them. -/
theorem sendWithHeaders_head (hserver : ServerAlike rt req.protocol) (status : ℕ)
    (body : SimpleBody) (headers : HeaderPairs) (w : World m Ref W) :
    SendAlike ((sendHandlerMapInline rt req false (.withHeaders status body headers)).run w)
      ((sendHandlerMapInline rt req true (.withHeaders status body headers)).run w) := by
  have hheaders (n : ℕ) : sendHeadLenWithHeaders rt req status n headers =
      respond rt req (.responseEmpty status (buildHeaderListFromPairs
        ((headers.filter fun e => !Text.eqIgnoreAsciiCase e.1 "content-length") ++
          [("content-length", toString n)]))) :=
    sendWithHeaders_eq rt req status [] _
  cases body with
  | owned b =>
    show SendAlike ((sendWithHeaders rt req status b headers).run w)
      ((sendHeadLenWithHeaders rt req status b.length headers).run w)
    obtain ⟨henc, hstatus, hhs, hlength⟩ := withHeadersCall_carries status b headers
    rw [sendWithHeaders_eq, hheaders]
    exact respond_alike hserver henc rfl (mappedHeadOf_withHeaders hstatus hhs hlength) w
  | pyBytes b =>
    show SendAlike ((respond rt req _).run w)
      ((sendHeadLenWithHeaders rt req status b.length headers).run w)
    rw [hheaders]
    exact respond_alike hserver rfl rfl (mappedHeadOf_withHeaders rfl rfl rfl) w
  | pyString s =>
    obtain ⟨text, surrogates⟩ := s
    cases surrogates with
    | false =>
      show SendAlike ((respond rt req _).run w)
        ((sendHeadLenWithHeaders rt req status (utf8 text).length headers).run w)
      rw [hheaders]
      exact respond_alike hserver rfl rfl (mappedHeadOf_withHeaders rfl rfl rfl) w
    | true =>
      -- the server refuses the text where the length of it cannot be taken
      have hrefused : (sendHandlerMapInline rt req false
          (.withHeaders status (.pyString ⟨text, true⟩) headers)).run w =
          ⟨.error .unicodeEncodeError, w, [.sent (.responseStr status
            (buildHeaderListFromPairs headers) ⟨text, true⟩)]⟩ := by
        show (respond rt req _).run w = _
        rw [respond, bind_run_ok (log_run _ w), effect_run, hserver.unencodable _ _ rfl]
        rfl
      rw [hrefused]
      exact ⟨rfl, fun _ _ => rfl, .nil⟩

/-- A body with a content type, and its length with it. -/
theorem sendSimple_head (hserver : ServerAlike rt req.protocol) (status : ℕ) (body : SimpleBody)
    (contentType : String) (w : World m Ref W) :
    SendAlike ((sendHandlerMapInline rt req false (.simple status body contentType)).run w)
      ((sendHandlerMapInline rt req true (.simple status body contentType)).run w) := by
  have hsend (b : List UInt8) : SendAlike ((sendBytes rt req status b contentType).run w)
      ((sendHeadSimple rt req status b.length contentType).run w) := by
    obtain ⟨henc, hstatus, hhs, hlength⟩ := bytesCall_carries status b contentType
    rw [sendBytes_eq]
    exact respond_alike hserver henc rfl (mappedHeadOf_simple hstatus hhs hlength) w
  cases body with
  | owned b => exact hsend b
  | pyBytes b => exact hsend b
  | pyString s =>
    obtain ⟨text, surrogates⟩ := s
    cases surrogates with
    | true => exact ⟨rfl, fun _ _ => rfl, .nil⟩
    | false =>
      show SendAlike ((sendText rt req status text contentType).run w)
        ((sendHeadSimple rt req status (utf8 text).length contentType).run w)
      obtain ⟨henc, hstatus, hhs, hlength⟩ := textCall_carries status text contentType
      rw [sendText_eq]
      exact respond_alike hserver henc rfl (mappedHeadOf_simple hstatus hhs hlength) w

/-- The two ways to send a mapped value. -/
theorem sendHandlerMapInline_head (hserver : ServerAlike rt req.protocol) (mapped : HandlerMap)
    (w : World m Ref W) :
    SendAlike ((sendHandlerMapInline rt req false mapped).run w)
      ((sendHandlerMapInline rt req true mapped).run w) := by
  cases mapped with
  | alreadySent => exact ⟨rfl, fun _ _ => rfl, .nil⟩
  | withHeaders status body headers => exact sendWithHeaders_head hserver status body headers w
  | simple status body contentType => exact sendSimple_head hserver status body contentType w

-- ════════════════════════════════════════════════════════════════════════
-- Values at a stop
-- ════════════════════════════════════════════════════════════════════════

/-- The response to the value of a stop before it is sent. -/
def Stop.prepared (rt : Runtime m Ref W) (req : HttpRequest Ref) (snap : FrozenState m Ref) :
    Stop Ref → Option (PyResult m Ref W HandlerMap)
  | .value v => some do
    let mapped ← Routine.ofExcept (mapHandlerReturn rt.toInspection v)
    let mapped ← runResponseMiddleware rt req snap.responseMiddleware mapped
    if snap.securityHeaders.isSome || snap.cors.isSome then
      mergeConfigResponseHeaders rt req snap mapped
    else pure mapped
  | .trivialValue v => some do
    let mapped ← Routine.ofExcept (mapHandlerReturn rt.toInspection v)
    mergeConfigResponseHeaders rt req snap mapped
  | _ => none

/-- A stop with a value: the response is prepared and sent, and an error on the way is answered. -/
theorem prepared_run {t : Stop Ref} {p : PyResult m Ref W HandlerMap}
    (hp : t.prepared rt req snap = some p) :
    t.run rt req snap = (do
      match ← attempt (p >>= sendHandlerMapInline rt req (req.method = "HEAD")) with
      | .ok () => Routine.exit .done
      | .error e => (t.failed e).run rt req snap) := by
  cases t with
  | value v =>
    cases hp
    show respondOrFail rt req snap v = _
    unfold respondOrFail respondWith
    rw [bind_assoc]
    refine congrArg (fun c => attempt c >>= _) (congrArg _ (funext fun mapped => ?_))
    rw [bind_assoc]
    refine congrArg _ (funext fun mapped => ?_)
    split
    · rfl
    · rfl
  | trivialValue v =>
    cases hp
    show answerTrivial rt req snap v = _
    unfold answerTrivial respondTrivial
    rw [bind_assoc]
    rfl
  | _ => cases hp

theorem runResponseMiddleware_withMethod (method : String) {fs : List Ref}
    (hfs : ∀ f ∈ fs, ∀ v w,
      rt.call f [.object scope, v] .empty w = rt.call f [.object req.scope, v] .empty w)
    (mapped : HandlerMap) :
    runResponseMiddleware rt (req.withMethod method scope) fs mapped =
      runResponseMiddleware rt req fs mapped := by
  induction fs generalizing mapped with
  | nil => rfl
  | cons f fs ih =>
    obtain ⟨hf, hfs⟩ := List.forall_mem_cons.mp hfs
    have hrest : runResponseMiddleware rt (req.withMethod method scope) fs =
        runResponseMiddleware rt req fs := funext (ih hfs)
    have hcall (v : PyVal Ref) : rt.call f [.object (req.withMethod method scope).scope, v] .empty =
        rt.call f [.object req.scope, v] .empty := funext (hf v)
    cases mapped with
    | alreadySent => rfl
    | withHeaders status body headers =>
      rw [runResponseMiddleware, runResponseMiddleware, hrest, hcall]
    | simple status body contentType =>
      rw [runResponseMiddleware, runResponseMiddleware, hrest, hcall]

theorem mergeConfigResponseHeaders_withMethod (method : String)
    (hblind : AnswersBlind rt snap req.scope scope) (mapped : HandlerMap) :
    mergeConfigResponseHeaders rt (req.withMethod method scope) snap mapped =
      mergeConfigResponseHeaders rt req snap mapped := by
  have hpairs {c : Ref} (hc : snap.securityHeaders = some c ∨ snap.cors = some c) :
      (configHeaderPairs rt (req.withMethod method scope) c : PyResult m Ref W HeaderPairs) =
        configHeaderPairs rt req c := by
    have hcall : rt.callMethod c "response_header_pairs" [.object scope] =
        rt.callMethod c "response_header_pairs" [.object req.scope] :=
      funext (hblind.config c hc)
    unfold configHeaderPairs
    exact congrArg (fun f => effect f >>= _) hcall
  have hsec (mapped : HandlerMap) : mergeSecurityHeaders rt (req.withMethod method scope) snap mapped =
      mergeSecurityHeaders rt req snap mapped := by
    unfold mergeSecurityHeaders
    split
    · rfl
    · next hsome => rw [hpairs (.inl hsome)]
    · rfl
  have hcors (mapped : HandlerMap) : mergeCorsHeaders rt (req.withMethod method scope) snap mapped =
      mergeCorsHeaders rt req snap mapped := by
    unfold mergeCorsHeaders
    split
    · rfl
    · next hsome =>
      rw [hpairs (.inr hsome)]
      rfl
    · rfl
  unfold mergeConfigResponseHeaders
  split
  · rfl
  · rw [hsec]
    exact congrArg _ (funext hcors)

/-- Preparing does not depend on the method. -/
theorem prepared_withMethod (hblind : AnswersBlind rt snap req.scope scope)
    (t : Stop Ref) (method : String) :
    t.prepared rt (req.withMethod method scope) snap = t.prepared rt req snap := by
  have hmerge : mergeConfigResponseHeaders rt (req.withMethod method scope) snap =
      mergeConfigResponseHeaders rt req snap :=
    funext (mergeConfigResponseHeaders_withMethod method hblind)
  cases t with
  | value v =>
    unfold Stop.prepared
    refine congrArg some (congrArg _ (funext fun mapped => ?_))
    rw [runResponseMiddleware_withMethod method hblind.responseMiddleware, hmerge]
  | trivialValue v =>
    unfold Stop.prepared
    rw [hmerge]
  | _ => rfl

theorem prepared_quiet {t : Stop Ref} {p : PyResult m Ref W HandlerMap}
    (hp : t.prepared rt req snap = some p) : Logs (fun _ => False) p := by
  cases t with
  | value v =>
    cases hp
    refine (logs_ofExcept _).bind fun mapped => ?_
    refine (runResponseMiddleware_logs rt req _ mapped).bind fun mapped => ?_
    exact Logs.ite (mergeConfigResponseHeaders_logs rt req snap mapped) (logs_pure mapped)
  | trivialValue v =>
    cases hp
    exact (logs_ofExcept _).bind fun mapped => mergeConfigResponseHeaders_logs rt req snap mapped
  | _ => cases hp

-- ════════════════════════════════════════════════════════════════════════
-- Errors at a stop
-- ════════════════════════════════════════════════════════════════════════

/-- The second call answers `HEAD` as the first one answers `GET`, or is the same call with its
body. -/
def AnsweredAlike (get head : ProtocolCall) : Prop :=
  HeadOf get head ∨ get = head ∧ head.hasBody = true

/-- JSON texts are not empty. -/
structure JsonTexts (rt : Runtime m Ref W) : Prop where
  dumps : ∀ v s, rt.jsonDumps v = .ok s → s ≠ ""
  toString : ∀ j, rt.jsonToString j ≠ ""

theorem answeredAlike_of_mapped {get head : List ProtocolCall}
    (h : List.Forall₂ MappedHeadOf get head) : List.Forall₂ AnsweredAlike get head :=
  h.imp fun _ _ h => .inl h.toHeadOf

theorem noBody_of_headOf {get head : List ProtocolCall} (h : List.Forall₂ HeadOf get head) :
    ¬ ∃ call ∈ head, call.hasBody = true := by
  induction h with
  | nil =>
    rintro ⟨call, hmem, -⟩
    cases hmem
  | cons hcall _ ih =>
    rintro ⟨call, hmem, hbody⟩
    rcases List.mem_cons.mp hmem with rfl | hmem
    · rw [hcall.noBody] at hbody
      cases hbody
    · exact ih ⟨call, hmem, hbody⟩

theorem noBody_of_mapped {get head : List ProtocolCall}
    (h : List.Forall₂ MappedHeadOf get head) : ¬ ∃ call ∈ head, call.hasBody = true :=
  noBody_of_headOf (h.imp fun _ _ h => h.toHeadOf)

theorem headOf_of_noBody {get head : List ProtocolCall}
    (h : List.Forall₂ AnsweredAlike get head) (hno : ¬ ∃ call ∈ head, call.hasBody = true) :
    List.Forall₂ HeadOf get head := by
  induction h with
  | nil => exact .nil
  | @cons g c gs cs hcall _ ih =>
    have hrest := ih fun ⟨call, hmem, hbody⟩ => hno ⟨call, List.mem_cons_of_mem c hmem, hbody⟩
    rcases hcall with hcall | ⟨-, hbody⟩
    · exact .cons hcall hrest
    · exact absurd ⟨c, List.mem_cons_self, hbody⟩ hno

theorem answeredAlike_self {calls : List ProtocolCall} (h : ∀ call ∈ calls, call.hasBody = true) :
    List.Forall₂ AnsweredAlike calls calls :=
  List.forall₂_same.mpr fun call hcall => .inr ⟨rfl, h call hcall⟩

theorem answers_quiet {l : List (RequestEvent Ref)} (hl : ∀ i ∈ l, NotSent i) : answers l = [] := by
  have hnone : responses l = [] := by
    refine List.filterMap_eq_nil_iff.mpr fun i hi => ?_
    have hni := hl i hi
    cases i with
    | sent call => exact hni.elim
    | _ => rfl
  rw [answers, hnone]
  rfl

theorem textCall_hasBody {status : ℕ} {text contentType : String} (h : text ≠ "") :
    (textCall status text contentType).hasBody = true ∧
      (textCall status text contentType).encodable = true := by
  rw [textCall, if_neg h]
  exact ⟨rfl, rfl⟩

theorem internalErrorText_ne (hjson : JsonTexts rt) {err : PyErr Ref} {text : String}
    (h : internalErrorText rt err = some text) : text ≠ "" := by
  unfold internalErrorText at h
  split at h
  · obtain ⟨d, -, rfl⟩ := Option.map_eq_some_iff.mp h
    exact hjson.toString _
  · cases h
    decide

theorem httpExceptionBody_ne (hjson : JsonTexts rt) {exc : HttpException Ref} {body : List UInt8}
    (h : httpExceptionBody rt.toInspection exc = .ok body) : body ≠ [] := by
  have hdumps {v : PyVal Ref} {body : List UInt8} (h : (do
      let text ← rt.jsonDumps v
      return utf8 text) = Except.ok (ε := PyErr Ref) body) : body ≠ [] := by
    obtain ⟨text, htext, h⟩ := Except.of_bind_eq_ok h
    cases h
    exact fun hnil => hjson.dumps _ _ htext (utf8_eq_nil_iff.mp hnil)
  unfold httpExceptionBody at h
  dsimp only at h
  split at h
  · exact hdumps h
  · exact hdumps h
  · exact hdumps h
  · obtain ⟨s, -, h⟩ := Except.of_bind_eq_ok h
    exact hdumps h

/-- The answer without exception handlers makes a response call. -/
def FallbackAnswers (rt : Runtime m Ref W) (err : PyErr Ref) : Prop :=
  (∃ payload, httpExceptionPayload rt.toInspection err = .ok (some payload)) ∨
    httpExceptionPayload rt.toInspection err = .ok none ∧ (internalErrorText rt err).isSome = true

theorem fallbackCalls_hasBody (hjson : JsonTexts rt) (err : PyErr Ref) :
    ∀ call ∈ fallbackCalls rt err, call.hasBody = true ∧ call.encodable = true := by
  intro call hcall
  unfold fallbackCalls at hcall
  split at hcall
  · cases hcall
  · next status body headers hpayload =>
    rw [List.mem_singleton.mp hcall]
    have hbody : body ≠ [] := by
      unfold httpExceptionPayload at hpayload
      split at hpayload
      · split at hpayload
        · cases hpayload
        · split at hpayload
          · obtain ⟨body', hb, hpayload⟩ := Except.of_bind_eq_ok hpayload
            obtain ⟨hs, -, hpayload⟩ := Except.of_bind_eq_ok hpayload
            obtain ⟨_, -, hp⟩ := Option.map_eq_some_iff.mp (Except.ok.inj hpayload)
            cases hp
            exact httpExceptionBody_ne hjson hb
          · cases hpayload
      · cases hpayload
    rw [withHeadersCall, if_neg hbody]
    exact ⟨rfl, rfl⟩
  · obtain ⟨text, htext, rfl⟩ := List.mem_map.mp hcall
    exact textCall_hasBody (internalErrorText_ne hjson (Option.mem_toList.mp htext))

theorem fallbackCalls_ne_nil (err : PyErr Ref) :
    fallbackCalls rt err ≠ [] ↔ FallbackAnswers rt err := by
  unfold fallbackCalls FallbackAnswers
  cases httpExceptionPayload rt.toInspection err with
  | error e => simp
  | ok payload =>
    cases payload with
    | some p => simp
    | none =>
      cases internalErrorText rt err with
      | none => simp
      | some text => simp

-- ════════════════════════════════════════════════════════════════════════
-- Exception handlers
-- ════════════════════════════════════════════════════════════════════════

/-- Sending with the errors going to the caller. -/
theorem orRaise_alike {c c' : PyResult m Ref W Unit} {w : World m Ref W}
    (h : SendAlike (c.run w) (c'.run w)) :
    ((orRaise c' >>= fun _ => pure true).run w).result =
        ((orRaise c >>= fun _ => pure true).run w).result ∧
      List.Forall₂ MappedHeadOf (answers ((orRaise c >>= fun _ => pure true).run w).log)
        (answers ((orRaise c' >>= fun _ => pure true).run w).log) := by
  have hrun (c : PyResult m Ref W Unit) :
      ((orRaise c >>= fun _ => pure true).run w).log = (c.run w).log ∧
        ((orRaise c >>= fun _ => pure true).run w).result =
          (c.run w).result.mapError Exit.raised >>= fun _ => .ok true := by
    rcases hr : c.run w with ⟨r, w', l⟩
    cases r with
    | ok u =>
      rw [orRaise, bind_run_ok (handle_run_ok hr _)]
      exact ⟨List.append_nil l, rfl⟩
    | error e =>
      rw [orRaise, bind_run_error (handle_run_error hr _)]
      exact ⟨List.append_nil l, rfl⟩
  rw [(hrun c).1, (hrun c').1, (hrun c).2, (hrun c').2, h.result]
  exact ⟨rfl, h.calls⟩

/-- Sending with the errors taken. -/
theorem attempt_alike {c c' : PyResult m Ref W Unit} {w : World m Ref W}
    (h : SendAlike (c.run w) (c'.run w)) {k : Except (PyErr Ref) Unit → Dispatch m Ref W Bool}
    (hk : ∀ r, ∃ b, k r = pure b) :
    ((attempt c' >>= k).run w).result = ((attempt c >>= k).run w).result ∧
      List.Forall₂ MappedHeadOf (answers ((attempt c >>= k).run w).log)
        (answers ((attempt c' >>= k).run w).log) := by
  have hsilent (r : Except (PyErr Ref) Unit) : Logs (fun _ => False) (k r) := by
    obtain ⟨b, hb⟩ := hk r
    rw [hb]
    exact logs_pure b
  have hresult : ((attempt c' >>= k).run w).result = ((attempt c >>= k).run w).result := by
    obtain ⟨b, hb⟩ := hk (c.run w).result
    rw [bind_run_ok (attempt_run c' w), bind_run_ok (attempt_run c w), h.result, hb]
    rfl
  rw [log_bind_of_silent hsilent, log_bind_of_silent hsilent]
  exact ⟨hresult, h.calls⟩

/-- The exception handler does the same with one scope as with the other. -/
def HandlerBlind (rt : Runtime m Ref W) (scope scope' : Ref) (h : ExceptionHandler Ref) : Prop :=
  ∀ v w, rt.call h.handler [.object scope', v] .empty w = rt.call h.handler [.object scope, v] .empty w

theorem callExceptionHandler_withMethod {h : ExceptionHandler Ref}
    (hblind : HandlerBlind rt req.scope scope h) (method : String) (err : PyErr Ref) :
    callExceptionHandler rt (req.withMethod method scope) err h =
      callExceptionHandler rt req err h := by
  have hcall : rt.call h.handler [.object scope, rt.exceptionObject err] .empty =
      rt.call h.handler [.object req.scope, rt.exceptionObject err] .empty :=
    funext (hblind (rt.exceptionObject err))
  exact congrArg (fun f => Routine.log (RequestEvent.exceptionHandler h.handler) >>= fun _ =>
    (effect f : PyResult m Ref W (PyVal Ref))) hcall

/-- The exception handlers of the short circuit. -/
theorem answerByHandlerSync_head (hserver : ServerAlike rt req.protocol) (err : PyErr Ref)
    {hs : List (ExceptionHandler Ref)} (hhs : ∀ h ∈ hs, HandlerBlind rt req.scope scope h)
    (w : World m Ref W) :
    ((answerByHandlerSync rt (req.asHead scope) err hs).run w).result =
        ((answerByHandlerSync rt req.asGet err hs).run w).result ∧
      List.Forall₂ MappedHeadOf
        (answers ((answerByHandlerSync rt req.asGet err hs).run w).log)
        (answers ((answerByHandlerSync rt (req.asHead scope) err hs).run w).log) := by
  induction hs generalizing w with
  | nil => exact ⟨rfl, .nil⟩
  | cons h hs ih =>
    obtain ⟨hblind, hhs⟩ := List.forall_mem_cons.mp hhs
    have ih := ih hhs
    unfold answerByHandlerSync
    by_cases hmatch : rt.isInstance err h.excType = true ∧ h.isAsync = false
    · rw [if_pos hmatch, if_pos hmatch]
      have hget : callExceptionHandler rt req.asGet err h = callExceptionHandler rt req err h := rfl
      rw [hget, callExceptionHandler_withMethod hblind "HEAD" err]
      have hquiet : Logs NotSent (callExceptionHandler rt req err h) :=
        (logs_log trivial).bind fun _ => logs_effect _
      rcases hr : (callExceptionHandler rt req err h).run w with ⟨r, w', l⟩
      have hl : answers l = [] := answers_quiet (by simpa [hr] using hquiet w)
      have hattempt : (attempt (callExceptionHandler rt req err h) : Dispatch m Ref W _).run w =
          ⟨.ok r, w', l⟩ := by
        rw [attempt_run, hr]
      rw [bind_run_ok hattempt, bind_run_ok hattempt]
      simp only [Ending.result_after, Ending.log_after, answers_append, hl, List.nil_append]
      cases r with
      | error e => exact ih w'
      | ok res =>
        dsimp only
        split
        · exact ih w'
        · next mapped _ =>
          exact orRaise_alike (sendHandlerMapInline_head hserver mapped w')
    · rw [if_neg hmatch, if_neg hmatch]
      exact ih w

theorem firstHandlerValue_withMethod (method : String) (err : PyErr Ref)
    {hs : List (ExceptionHandler Ref)} (hhs : ∀ h ∈ hs, HandlerBlind rt req.scope scope h) :
    firstHandlerValue rt (req.withMethod method scope) err hs = firstHandlerValue rt req err hs := by
  induction hs with
  | nil => rfl
  | cons h hs ih =>
    obtain ⟨hblind, hhs⟩ := List.forall_mem_cons.mp hhs
    unfold firstHandlerValue
    rw [ih hhs, callExceptionHandler_withMethod hblind method err]

variable (rt req) in
theorem firstHandlerValue_notSent (err : PyErr Ref) (hs : List (ExceptionHandler Ref)) :
    Logs NotSent (firstHandlerValue rt req err hs) := by
  induction hs with
  | nil => exact logs_pure _
  | cons h hs ih =>
    have hcall : Logs NotSent (callExceptionHandler rt req err h) :=
      (logs_log trivial).bind fun _ => logs_effect _
    refine Logs.ite (hcall.attempt.bind fun r => ?_) ih
    cases r with
    | error e => exact ih
    | ok res => exact logs_pure _

/-- The error of awaiting the value of a handler is answered with status 500. -/
def AwaitIgnoresHead (rt : Runtime m Ref W) (first : Option (PyVal Ref × Bool))
    (w : World m Ref W) : Prop :=
  ∃ res isAsync e, first = some (res, isAsync) ∧
    ((awaitHandlerValue rt res isAsync).run w).result = .ok (.error e) ∧
    (internalErrorText rt e).isSome = true

/-- The exception handlers of `run_rsgi`, once one of them has returned. -/
theorem answerFrom_head (hserver : ServerAlike rt req.protocol) (hjson : JsonTexts rt)
    (first : Option (PyVal Ref × Bool)) (w : World m Ref W) :
    ((answerFrom rt (req.asHead scope) first).run w).result =
        ((answerFrom rt req.asGet first).run w).result ∧
      List.Forall₂ AnsweredAlike
        (answers ((answerFrom rt req.asGet first).run w).log)
        (answers ((answerFrom rt (req.asHead scope) first).run w).log) ∧
      ((∃ call ∈ answers ((answerFrom rt (req.asHead scope) first).run w).log,
        call.hasBody = true) ↔ AwaitIgnoresHead rt first w) := by
  cases first with
  | none =>
    refine ⟨rfl, .nil, ?_⟩
    constructor
    · rintro ⟨call, hmem, -⟩
      cases hmem
    · rintro ⟨res, isAsync, e, hfirst, -⟩
      cases hfirst
  | some value =>
    obtain ⟨res, isAsync⟩ := value
    obtain ⟨r, w', hawait⟩ := awaitHandlerValue_run rt res isAsync w
    unfold answerFrom
    dsimp only
    rw [bind_run_ok hawait, bind_run_ok hawait]
    simp only [Ending.result_after, Ending.log_after, List.nil_append]
    cases r with
    | error e =>
      have hsend (req : HttpRequest Ref) : answers ((sendInternalError rt req e >>=
          fun _ => pure true).run w').log =
            (internalErrorText rt e).toList.map internalErrorCall := by
        rw [log_bind_of_silent fun _ => logs_pure _, answers, sendInternalError_responses]
        refine List.filter_eq_self.mpr fun call hcall => ?_
        obtain ⟨text, htext, rfl⟩ := List.mem_map.mp hcall
        exact (textCall_hasBody (internalErrorText_ne hjson (Option.mem_toList.mp htext))).2
      have hbody : ∀ call ∈ (internalErrorText rt e).toList.map internalErrorCall,
          call.hasBody = true := by
        intro call hcall
        obtain ⟨text, htext, rfl⟩ := List.mem_map.mp hcall
        exact (textCall_hasBody (internalErrorText_ne hjson (Option.mem_toList.mp htext))).1
      dsimp only
      rw [hsend, hsend]
      refine ⟨rfl, answeredAlike_self hbody, ?_⟩
      constructor
      · rintro ⟨call, hmem, -⟩
        obtain ⟨text, htext, -⟩ := List.mem_map.mp hmem
        rw [Option.mem_toList] at htext
        exact ⟨res, isAsync, e, rfl, by rw [hawait], by rw [htext]; rfl⟩
      · rintro ⟨_, _, e', hfirst, hresult, htext⟩
        cases hfirst
        rw [hawait] at hresult
        cases hresult
        obtain ⟨text, htext⟩ := Option.isSome_iff_exists.mp htext
        refine ⟨internalErrorCall text, List.mem_map.mpr ⟨text, ?_, rfl⟩, ?_⟩
        · exact Option.mem_toList.mpr htext
        · exact (textCall_hasBody (internalErrorText_ne hjson htext)).1
    | ok final =>
      have hno : ¬ AwaitIgnoresHead rt (some (res, isAsync)) w := by
        rintro ⟨_, _, e, hfirst, hresult, -⟩
        cases hfirst
        rw [hawait] at hresult
        cases hresult
      dsimp only
      split
      · refine ⟨rfl, .nil, ?_⟩
        refine iff_of_false ?_ hno
        rintro ⟨call, hmem, -⟩
        cases hmem
      · next mapped _ =>
        have halike := attempt_alike (sendHandlerMapInline_head hserver mapped w') (k := fun r =>
            match r with
            | .ok () => pure true
            | .error _ => pure false) fun r => by
          cases r with
          | ok u => exact ⟨true, rfl⟩
          | error e => exact ⟨false, rfl⟩
        refine ⟨halike.1, answeredAlike_of_mapped halike.2, ?_⟩
        exact iff_of_false (noBody_of_mapped halike.2) hno

/-- An error comes to a response with a body: no exception handler answers it, and the error
itself is answered; or the error of awaiting the value of an exception handler is. -/
inductive ErrorIgnoresHead (rt : Runtime m Ref W) (req : HttpRequest Ref)
    (snap : FrozenState m Ref) (trivialRoute : Bool) (err : PyErr Ref) (w : World m Ref W) : Prop
  | unanswered :
      ((handlersAnswer rt req.asGet snap trivialRoute err).run w).result = .ok false →
      FallbackAnswers rt err → ErrorIgnoresHead rt req snap trivialRoute err w
  | awaited {first : Option (PyVal Ref × Bool)} {w' : World m Ref W}
      {l : List (RequestEvent Ref)} : trivialRoute = false →
      (firstHandlerValue rt req err snap.exceptionHandlers.reverse).run w = ⟨.ok first, w', l⟩ →
      AwaitIgnoresHead rt first w' → ErrorIgnoresHead rt req snap trivialRoute err w

variable (snap) in
theorem handlersAnswer_head (hserver : ServerAlike rt req.protocol) (hjson : JsonTexts rt)
    (hblind : AnswersBlind rt snap req.scope scope) (trivialRoute : Bool) (err : PyErr Ref)
    (w : World m Ref W) :
    ((handlersAnswer rt (req.asHead scope) snap trivialRoute err).run w).result =
        ((handlersAnswer rt req.asGet snap trivialRoute err).run w).result ∧
      List.Forall₂ AnsweredAlike
        (answers ((handlersAnswer rt req.asGet snap trivialRoute err).run w).log)
        (answers ((handlersAnswer rt (req.asHead scope) snap trivialRoute err).run w).log) ∧
      ((∃ call ∈ answers
          ((handlersAnswer rt (req.asHead scope) snap trivialRoute err).run w).log,
        call.hasBody = true) ↔ trivialRoute = false ∧ ∃ first w' l,
          (firstHandlerValue rt req err snap.exceptionHandlers.reverse).run w = ⟨.ok first, w', l⟩ ∧
            AwaitIgnoresHead rt first w') := by
  have hhandlers : ∀ h ∈ snap.exceptionHandlers.reverse, HandlerBlind rt req.scope scope h :=
    fun h hmem => hblind.exceptionHandler h (List.mem_reverse.mp hmem)
  cases trivialRoute with
  | true =>
    obtain ⟨hresult, hcalls⟩ := answerByHandlerSync_head hserver err hhandlers w
    refine ⟨hresult, answeredAlike_of_mapped hcalls, ?_⟩
    exact iff_of_false (noBody_of_mapped hcalls) fun h => by cases h.1
  | false =>
    have hrun {scope : Ref} (method : String)
        (hhs : ∀ h ∈ snap.exceptionHandlers.reverse, HandlerBlind rt req.scope scope h) :
        handlersAnswer rt (req.withMethod method scope) snap false err =
          firstHandlerValue rt req err snap.exceptionHandlers.reverse >>= fun first =>
            answerFrom rt (req.withMethod method scope) first := by
      show answerByHandler rt (req.withMethod method scope) snap err = _
      unfold answerByHandler
      rw [firstHandlerValue_withMethod method err hhs]
    rw [hrun "HEAD" hhandlers, hrun "GET" fun _ _ _ _ => rfl]
    rcases hr : (firstHandlerValue rt req err snap.exceptionHandlers.reverse).run w with ⟨r, w', l⟩
    have hquiet := firstHandlerValue_notSent rt req err
      snap.exceptionHandlers.reverse w
    rw [hr] at hquiet
    have hl : answers l = [] := answers_quiet hquiet
    cases r with
    | error e =>
      rw [bind_run_error hr, bind_run_error hr]
      refine ⟨rfl, hl ▸ .nil, ?_⟩
      refine iff_of_false ?_ ?_
      · rintro ⟨call, hmem, -⟩
        rw [hl] at hmem
        cases hmem
      · rintro ⟨-, first, w₁, l₁, h, -⟩
        cases h
    | ok first =>
      obtain ⟨hresult, hcalls, hbody⟩ := answerFrom_head hserver hjson first w'
      rw [bind_run_ok hr, bind_run_ok hr]
      simp only [Ending.result_after, Ending.log_after, answers_append, hl, List.nil_append]
      refine ⟨hresult, hcalls, hbody.trans ?_⟩
      constructor
      · intro h
        exact ⟨trivial, first, w', l, rfl, h⟩
      · rintro ⟨-, first', w₁, l₁, h, hawait⟩
        cases h
        exact hawait

/-- The fallback, where no handler has answered. -/
def fallbackAfter (rt : Runtime m Ref W) (err : PyErr Ref) :
    Except (Exit Ref) Bool → List ProtocolCall
  | .ok false => fallbackCalls rt err
  | _ => []

variable (snap) in
/-- What is left of a stop after an error. -/
theorem failed_head (hserver : ServerAlike rt req.protocol) (hjson : JsonTexts rt)
    (hblind : AnswersBlind rt snap req.scope scope) (t : Stop Ref) (err : PyErr Ref)
    (w : World m Ref W) :
    List.Forall₂ AnsweredAlike
        (answers (((t.failed err).run rt req.asGet snap).run w).log)
        (answers (((t.failed err).run rt (req.asHead scope) snap).run w).log) ∧
      ((∃ call ∈ answers (((t.failed err).run rt (req.asHead scope) snap).run w).log,
        call.hasBody = true) ↔ ErrorIgnoresHead rt req snap t.isTrivial err w) := by
  obtain ⟨hresult, hcalls, hbody⟩ :=
    handlersAnswer_head snap hserver hjson hblind t.isTrivial err w
  let rest : List ProtocolCall :=
    fallbackAfter rt err ((handlersAnswer rt req.asGet snap t.isTrivial err).run w).result
  have hrest : ∀ call ∈ rest, call.hasBody = true ∧ call.encodable = true := by
    intro call hcall
    simp only [rest, fallbackAfter] at hcall
    split at hcall
    · exact fallbackCalls_hasBody hjson err call hcall
    · cases hcall
  have hget : answers (((t.failed err).run rt req.asGet snap).run w).log =
      answers ((handlersAnswer rt req.asGet snap t.isTrivial err).run w).log ++
        rest := by
    rw [answers, failed_responses, List.filter_append]
    exact congrArg _ (List.filter_eq_self.mpr fun call h => (hrest call h).2)
  have hhead : answers (((t.failed err).run rt (req.asHead scope) snap).run w).log =
      answers ((handlersAnswer rt (req.asHead scope) snap t.isTrivial err).run w).log ++
        rest := by
    rw [answers, failed_responses, List.filter_append, hresult]
    exact congrArg _ (List.filter_eq_self.mpr fun call h => (hrest call h).2)
  rw [hget, hhead]
  refine ⟨List.rel_append hcalls (answeredAlike_self fun call h => (hrest call h).1), ?_⟩
  simp only [List.mem_append, or_and_right, exists_or]
  rw [hbody]
  constructor
  · rintro (⟨htriv, first, w', l, hfirst, hawait⟩ | ⟨call, hcall, -⟩)
    · exact .awaited htriv hfirst hawait
    · have hunanswered : ((handlersAnswer rt req.asGet snap t.isTrivial err).run
          w).result = .ok false ∧ call ∈ fallbackCalls rt err := by
        simp only [rest, fallbackAfter] at hcall
        split at hcall
        · exact ⟨‹_›, hcall⟩
        · cases hcall
      refine .unanswered hunanswered.1 ((fallbackCalls_ne_nil err).mp ?_)
      exact List.ne_nil_of_mem hunanswered.2
  · rintro (⟨hunanswered, hanswers⟩ | ⟨htriv, hfirst, hawait⟩)
    · right
      have heq : rest = fallbackCalls rt err := by
        simp only [rest, fallbackAfter, hunanswered]
      obtain ⟨call, hcall⟩ := List.exists_mem_of_ne_nil _ ((fallbackCalls_ne_nil err).mpr hanswers)
      exact ⟨call, heq ▸ hcall, (fallbackCalls_hasBody hjson err call hcall).1⟩
    · exact .inl ⟨htriv, _, _, _, hfirst, hawait⟩

-- ════════════════════════════════════════════════════════════════════════
-- Stops
-- ════════════════════════════════════════════════════════════════════════

/-- A stop that ends at a response with a body: a refusal, or an error that comes to one. -/
inductive IgnoresHead (rt : Runtime m Ref W) (req : HttpRequest Ref) (snap : FrozenState m Ref) :
    Stop Ref → World m Ref W → Prop
  | refused {call : ProtocolCall} {w : World m Ref W} : IgnoresHead rt req snap (.fixed call) w
  | error {err : PyErr Ref} {w : World m Ref W} : ErrorIgnoresHead rt req snap false err w →
      IgnoresHead rt req snap (.error err) w
  | trivialError {err : PyErr Ref} {w : World m Ref W} :
      ErrorIgnoresHead rt req snap true err w → IgnoresHead rt req snap (.trivialError err) w
  | value {t : Stop Ref} {p : PyResult m Ref W HandlerMap} {err : PyErr Ref} {w w' : World m Ref W}
      {l : List (RequestEvent Ref)} : t.prepared rt req snap = some p →
      (p >>= sendHandlerMapInline rt req false).run w = ⟨.error err, w', l⟩ →
      ErrorIgnoresHead rt req snap t.isTrivial err w' → IgnoresHead rt req snap t w

theorem finish_respond_answers {call : ProtocolCall} (hcall : call.encodable = true)
    (req : HttpRequest Ref) (w : World m Ref W) :
    answers ((finish (respond rt req call) : Dispatch m Ref W Empty).run w).log = [call] := by
  rw [finish, log_bind_of_silent fun _ => logs_exit _, answers, orRaise_respond_responses,
    List.filter_cons, if_pos hcall, List.filter_nil]

theorem fixedCall_hasBody (hjson : JsonTexts rt) {call : ProtocolCall}
    (h : FixedCall rt req.asGet snap call) :
    call.hasBody = true ∧ call.encodable = true := by
  cases h with
  | text status htext hct =>
    refine textCall_hasBody ?_
    rcases htext with htext | ⟨j, rfl⟩
    · exact htext
    · exact hjson.toString j
  | notAllowed c => exact ⟨rfl, rfl⟩
  | rateLimited limit resetSecs => exact ⟨rfl, rfl⟩
  | preflight hm hcors hok =>
    have hget : "GET" = "OPTIONS" := hm
    exact absurd hget (by decide)

variable (rt req scope snap) in
theorem serveDocument_head (w : World m Ref W) :
    List.Forall₂ MappedHeadOf
      (answers (((Stop.document).run rt req.asGet snap).run w).log)
      (answers (((Stop.document).run rt (req.asHead scope) snap).run w).log) := by
  obtain ⟨text, w', htext⟩ :=
    exists_openapiText_run (rt.setPathTemplate req.protocol "/openapi.json" w)
  have hset (method : String) (scope : Ref) :
      (setTemplate rt (req.withMethod method scope) "/openapi.json").run w =
        ⟨.ok (), rt.setPathTemplate req.protocol "/openapi.json" w, []⟩ := rfl
  show List.Forall₂ _ (answers ((serveDocument rt _ : Dispatch m Ref W Empty).run w).log)
    (answers ((serveDocument rt _ : Dispatch m Ref W Empty).run w).log)
  unfold serveDocument
  rw [bind_run_ok (hset "GET" req.scope), bind_run_ok (hset "HEAD" scope), bind_run_ok htext,
    bind_run_ok htext]
  simp only [Ending.log_after, List.nil_append]
  rw [if_neg (show ¬ req.asGet.method = "HEAD" by
    show ¬ "GET" = "HEAD"
    decide), if_pos (show (req.asHead scope).method = "HEAD" from rfl)]
  unfold sendStr sendHeadSimple
  rw [finish_respond_answers rfl, finish_respond_answers rfl]
  exact .cons (mappedHeadOf_simple rfl rfl rfl) .nil

/-- A value that is mapped and sent, or an error on the way. -/
theorem prepared_head (hserver : ServerAlike rt req.protocol)
    (hblind : AnswersBlind rt snap req.scope scope) {t : Stop Ref}
    {p : PyResult m Ref W HandlerMap} (hp : t.prepared rt req snap = some p) (w : World m Ref W) :
    (((p >>= sendHandlerMapInline rt req false).run w).result = .ok () ∧
      List.Forall₂ MappedHeadOf
        (answers ((t.run rt req.asGet snap).run w).log)
        (answers ((t.run rt (req.asHead scope) snap).run w).log)) ∨
    ∃ err w' l l₁ l₂, (p >>= sendHandlerMapInline rt req false).run w = ⟨.error err, w', l⟩ ∧
      List.Forall₂ MappedHeadOf l₁ l₂ ∧
      answers ((t.run rt req.asGet snap).run w).log =
        l₁ ++ answers (((t.failed err).run rt req.asGet snap).run w').log ∧
      answers ((t.run rt (req.asHead scope) snap).run w).log =
        l₂ ++ answers (((t.failed err).run rt (req.asHead scope) snap).run w').log := by
  have halike : SendAlike ((p >>= sendHandlerMapInline rt req false).run w)
      ((p >>= sendHandlerMapInline rt req true).run w) := by
    have hquiet := (prepared_quiet hp).log_eq_nil w
    rcases hr : p.run w with ⟨r, w', l⟩
    cases r with
    | error e =>
      rw [bind_run_error hr, bind_run_error hr]
      rw [hr] at hquiet
      obtain rfl : l = [] := hquiet
      exact ⟨rfl, fun _ _ => rfl, .nil⟩
    | ok mapped =>
      rw [bind_run_ok hr, bind_run_ok hr]
      rw [hr] at hquiet
      obtain rfl : l = [] := hquiet
      exact sendHandlerMapInline_head hserver mapped w'
  have hget := prepared_run
    ((prepared_withMethod (answersBlind_self rt snap req.scope) t "GET").trans hp)
  have hhead := prepared_run ((prepared_withMethod hblind t "HEAD").trans hp)
  rcases hg : (p >>= sendHandlerMapInline rt req false).run w with ⟨r, w', l₁⟩
  rcases hh : (p >>= sendHandlerMapInline rt req true).run w with ⟨r', w'', l₂⟩
  rw [hg, hh] at halike
  obtain ⟨hresult, hstate, hcalls⟩ := halike
  have hsendGet : (attempt (p >>= sendHandlerMapInline rt req.asGet
      (req.asGet.method = "HEAD")) : Dispatch m Ref W _).run w = ⟨.ok r, w', l₁⟩ := by
    show (attempt (p >>= sendHandlerMapInline rt req false) : Dispatch m Ref W _).run w = _
    rw [attempt_run, hg]
  have hsendHead : (attempt (p >>= sendHandlerMapInline rt (req.asHead scope)
      ((req.asHead scope).method = "HEAD")) : Dispatch m Ref W _).run w =
        ⟨.ok r', w'', l₂⟩ := by
    show (attempt (p >>= sendHandlerMapInline rt req true) : Dispatch m Ref W _).run w = _
    rw [attempt_run, hh]
  have hr' : r' = r := hresult
  subst hr'
  rw [hget, hhead, bind_run_ok hsendGet, bind_run_ok hsendHead]
  cases r' with
  | ok u =>
    left
    refine ⟨rfl, ?_⟩
    show List.Forall₂ _ (answers (l₁ ++ [])) (answers (l₂ ++ []))
    rw [List.append_nil, List.append_nil]
    exact hcalls
  | error e =>
    right
    have hw : w'' = w' := hstate e rfl
    refine ⟨e, w', l₁, answers l₁, answers l₂, rfl, hcalls, ?_, ?_⟩
    · exact answers_append _ _
    · rw [hw]
      exact answers_append _ _

/-- At a stop of the request, both versions are answered alike, and the one for `HEAD` has a body
where the stop ignores it. -/
theorem stop_head (hserver : ServerAlike rt req.protocol) (hjson : JsonTexts rt)
    (hblind : AnswersBlind rt snap req.scope scope) {t : Stop Ref}
    (ht : t.Possible rt req.asGet snap) (w : World m Ref W) :
    List.Forall₂ AnsweredAlike
        (answers ((t.run rt req.asGet snap).run w).log)
        (answers ((t.run rt (req.asHead scope) snap).run w).log) ∧
      ((∃ call ∈ answers ((t.run rt (req.asHead scope) snap).run w).log,
        call.hasBody = true) ↔ IgnoresHead rt req snap t w) := by
  have hvalue {t : Stop Ref} {p : PyResult m Ref W HandlerMap}
      (hp : t.prepared rt req snap = some p) :
      List.Forall₂ AnsweredAlike
          (answers ((t.run rt req.asGet snap).run w).log)
          (answers ((t.run rt (req.asHead scope) snap).run w).log) ∧
        ((∃ call ∈ answers ((t.run rt (req.asHead scope) snap).run w).log,
          call.hasBody = true) ↔ IgnoresHead rt req snap t w) := by
    rcases prepared_head hserver hblind hp w with ⟨hok, hcalls⟩ |
      ⟨err, w', l, l₁, l₂, herr, hcalls, hget, hhead⟩
    · refine ⟨answeredAlike_of_mapped hcalls, iff_of_false (noBody_of_mapped hcalls) ?_⟩
      intro h
      cases h with
      | value hp' herr _ =>
        rw [hp] at hp'
        cases hp'
        rw [herr] at hok
        cases hok
      | _ => cases hp
    · obtain ⟨hrest, hbody⟩ := failed_head snap hserver hjson hblind t err w'
      rw [hget, hhead]
      refine ⟨List.rel_append (answeredAlike_of_mapped hcalls) hrest, ?_⟩
      simp only [List.mem_append, or_and_right, exists_or]
      rw [hbody]
      constructor
      · rintro (hno | h)
        · exact absurd hno (noBody_of_mapped hcalls)
        · exact .value hp herr h
      · intro h
        right
        cases h with
        | value hp' herr' h =>
          rw [hp] at hp'
          cases hp'
          rw [herr] at herr'
          cases herr'
          exact h
        | _ => cases hp
  cases t with
  | document =>
    have hcalls := serveDocument_head rt req scope snap w
    refine ⟨answeredAlike_of_mapped hcalls, iff_of_false (noBody_of_mapped hcalls) ?_⟩
    intro h
    cases h with
    | value hp _ _ => cases hp
  | fixed call =>
    obtain ⟨hbody, henc⟩ := fixedCall_hasBody hjson ht
    have hcalls (req : HttpRequest Ref) : answers
        (((Stop.fixed call).run rt req snap).run w).log = [call] :=
      finish_respond_answers henc _ w
    rw [hcalls, hcalls]
    refine ⟨.cons (.inr ⟨rfl, hbody⟩) .nil, iff_of_true ?_ .refused⟩
    exact ⟨call, List.mem_singleton_self call, hbody⟩
  | value v => exact hvalue rfl
  | error e =>
    obtain ⟨hcalls, hbody⟩ := failed_head snap hserver hjson hblind (.error e) e w
    refine ⟨hcalls, hbody.trans ⟨fun h => .error h, ?_⟩⟩
    intro h
    cases h with
    | error h => exact h
    | value hp _ _ => cases hp
  | trivialValue v => exact hvalue rfl
  | trivialError e =>
    obtain ⟨hcalls, hbody⟩ := failed_head snap hserver hjson hblind (.trivialError e) e w
    refine ⟨hcalls, hbody.trans ⟨fun h => .trivialError h, ?_⟩⟩
    intro h
    cases h with
    | trivialError h => exact h
    | value hp _ _ => cases hp

-- ════════════════════════════════════════════════════════════════════════
-- Requests
-- ════════════════════════════════════════════════════════════════════════

/-- The response calls for a request. -/
def answersTo (rt : Runtime m Ref W) (req : HttpRequest Ref) (w : World m Ref W) :
    List ProtocolCall :=
  answers ((dispatch rt req).run w).log

/-- The request comes to a stop without a response call before. -/
def EndsAt (rt : Runtime m Ref W) (req : HttpRequest Ref) (w : World m Ref W) (t : Stop Ref)
    (w' : World m Ref W) : Prop :=
  ∃ l, (∀ i ∈ l, NotSent i) ∧
    (dispatch rt req).run w = ((t.run rt req w.app.hotSnapshot).run w').recast.after l

/-- The request comes to a stop, as `GET` and as `HEAD`. -/
structure ComesTo (rt : Runtime m Ref W) (req : HttpRequest Ref) (scope : Ref) (w : World m Ref W)
    (t : Stop Ref) (w' : World m Ref W) : Prop where
  possible : t.Possible rt req.asGet w.app.hotSnapshot
  get : EndsAt rt req.asGet w t w'
  head : EndsAt rt (req.asHead scope) w t w'

/-- The request is answered with a value that is mapped and sent. -/
def AnsweredByValue (rt : Runtime m Ref W) (req : HttpRequest Ref) (scope : Ref)
    (w : World m Ref W) : Prop :=
  ∃ t w' p, ComesTo rt req scope w t w' ∧ t.prepared rt req w.app.hotSnapshot = some p ∧
    ((p >>= sendHandlerMapInline rt req false).run w').result = .ok ()

/-- The `HEAD` request is answered as the `GET` request is, without a body; for a value with the
length of the body that is left out. -/
structure HeadLaw (rt : Runtime m Ref W) (req : HttpRequest Ref) (scope : Ref) (w : World m Ref W) :
    Prop where
  calls : List.Forall₂ HeadOf (answersTo rt req.asGet w) (answersTo rt (req.asHead scope) w)
  length : AnsweredByValue rt req scope w → List.Forall₂
    (fun get head => head.contentLengths = [toString get.bodyLength])
    (answersTo rt req.asGet w) (answersTo rt (req.asHead scope) w)

theorem EndsAt.answersTo {w w' : World m Ref W} {t : Stop Ref} (h : EndsAt rt req w t w') :
    answersTo rt req w = answers ((t.run rt req w.app.hotSnapshot).run w').log := by
  obtain ⟨l, hquiet, hrun⟩ := h
  rw [OxyRoute.answersTo, hrun, Ending.log_after, Ending.log_recast, answers_append,
    answers_quiet hquiet, List.nil_append]

/-- A request comes to a stop, or to no answer. -/
theorem comesTo_or_quiet {w : World m Ref W}
    (hblind : ScopeBlind rt w.app.hotSnapshot req.asGet (req.asHead scope)) :
    (∃ t w', ComesTo rt req scope w t w') ∨
      answersTo rt req.asGet w = [] ∧ answersTo rt (req.asHead scope) w = [] := by
  have htwins : Twins rt req.asGet "HEAD" scope w.app.hotSnapshot := twins_head rfl hblind
  have hget := dispatch_run rt req.asGet w
  have hhead := dispatch_run rt (req.asHead scope) w
  rcases dispatch_stops w.app.hotSnapshot htwins w with
    ⟨r, w', l, l', ⟨hl, hl'⟩, -, hrun, hrun'⟩ | ⟨t, w', l, l', ⟨hl, hl'⟩, ht, hrun, hrun'⟩
  · right
    constructor
    · rw [answersTo, hget, hrun]
      exact answers_quiet hl
    · rw [answersTo, hhead]
      exact (congrArg (fun r => answers r.log) hrun').trans (answers_quiet hl')
  · left
    exact ⟨t, w', ht, ⟨l, hl, hget.trans hrun⟩, l', hl', hhead.trans hrun'⟩

/-- **HEAD.** For every runtime with a server that does not tell the two methods apart, and every
request and state, with Python code that answers alike for the scopes of the two requests: the
`HEAD` request is answered as the `GET` request is, without a body, if and only if it does not
come to a refusal, to an error that is answered as an `HTTPException` or with status 500, or to
an exception handler whose value cannot be awaited. -/
theorem head_law_iff (rt : Runtime m Ref W) (req : HttpRequest Ref) (scope : Ref) (w : World m Ref W)
    (hserver : ServerAlike rt req.protocol) (hjson : JsonTexts rt)
    (hblind : ScopeBlind rt w.app.hotSnapshot req.asGet (req.asHead scope)) :
    HeadLaw rt req scope w ↔
      ¬ ∃ t w', ComesTo rt req scope w t w' ∧ IgnoresHead rt req w.app.hotSnapshot t w' := by
  have hanswers : AnswersBlind rt w.app.hotSnapshot req.scope scope := hblind.toAnswersBlind
  constructor
  · rintro hlaw ⟨t, w', hcomes, hignores⟩
    obtain ⟨-, hbody⟩ := stop_head hserver hjson hanswers hcomes.possible w'
    rw [← hcomes.head.answersTo] at hbody
    exact noBody_of_headOf hlaw.calls (hbody.mpr hignores)
  · intro hnot
    refine ⟨?_, ?_⟩
    · rcases comesTo_or_quiet hblind with ⟨t, w', hcomes⟩ | ⟨hget, hhead⟩
      · obtain ⟨hcalls, hbody⟩ := stop_head hserver hjson hanswers hcomes.possible w'
        rw [← hcomes.get.answersTo, ← hcomes.head.answersTo] at hcalls
        rw [← hcomes.head.answersTo] at hbody
        exact headOf_of_noBody hcalls fun h => hnot ⟨t, w', hcomes, hbody.mp h⟩
      · rw [hget, hhead]
        exact .nil
    · rintro ⟨t, w', p, hcomes, hp, hok⟩
      rcases prepared_head hserver hanswers hp w' with
        ⟨-, hcalls⟩ | ⟨err, w'', l, l₁, l₂, herr, -⟩
      · rw [← hcomes.get.answersTo, ← hcomes.head.answersTo] at hcalls
        exact hcalls.imp fun _ _ h => h.length
      · rw [herr] at hok
        cases hok

end

-- ════════════════════════════════════════════════════════════════════════
-- Concrete runs
-- ════════════════════════════════════════════════════════════════════════

/-- A runtime whose server refuses texts without UTF-8 form, and whose `Request` objects tell the
method. -/
def strictRuntime : Runtime segmentMatcher String Unit :=
  { plainRuntime segmentMatcher with
    respond := fun _ call w =>
      if call.encodable then (.ok (), w) else (.error .unicodeEncodeError, w)
    newRequest := fun _ method _ _ => .ok (.object method) }

theorem strictRuntime_alike (protocol : String) : ServerAlike strictRuntime protocol where
  alike := by
    intro call call' w e w' hcall hcall' h
    simp [strictRuntime, hcall] at h
  unencodable := by
    intro call w hcall
    simp [strictRuntime, hcall]

theorem strictRuntime_jsonTexts : JsonTexts strictRuntime where
  dumps := by
    rintro v s ⟨⟩
    decide
  toString := fun _ => by simp [strictRuntime, plainRuntime]

/-- Calls do not look at their arguments. -/
theorem strictRuntime_blind (snap : FrozenState segmentMatcher String)
    (req req' : HttpRequest String) : ScopeBlind strictRuntime snap req req' where
  responseMiddleware _ _ _ _ := rfl
  exceptionHandler _ _ _ _ := rfl
  config _ _ _ := rfl
  middleware _ _ _ := rfl
  factory _ _ _ _ _ := .inr ⟨_, _, rfl, rfl, fun _ _ => rfl⟩

/-- A host with the dependency `client`, which takes the request, and handlers that take it. -/
def clientHost : Host String :=
  { plainHost with
    tupleItems := fun item => .ok [item, item]
    parameters := fun f =>
      .ok [(if f = "client" then "request" else "client", .positionalOrKeyword)] }

/-- An application with one route. -/
def helloApp : World segmentMatcher String Unit :=
  ⟨(addRoute clientHost (AppState.new true)
    { method := "GET", path := "/", handler := "hello", readJsonBody := false,
      dependencies := some ["client"] }).1, ()⟩

/-- The value of its handler is answered properly, also where the factory of a dependency is given
a `Request` of another method. -/
theorem hello_head_law : HeadLaw strictRuntime (plainRequest "GET" "/") "head scope" helloApp := by
  have hblind := strictRuntime_blind helloApp.app.hotSnapshot (plainRequest "GET" "/").asGet
    ((plainRequest "GET" "/").asHead "head scope")
  have hanswersBlind : AnswersBlind strictRuntime helloApp.app.hotSnapshot
      (plainRequest "GET" "/").scope "head scope" := hblind.toAnswersBlind
  refine (head_law_iff strictRuntime (plainRequest "GET" "/") "head scope" helloApp
    (strictRuntime_alike _) strictRuntime_jsonTexts hblind).mpr ?_
  rintro ⟨t, w', hcomes, hignores⟩
  obtain ⟨-, hbody⟩ := stop_head (strictRuntime_alike _) strictRuntime_jsonTexts hanswersBlind
    hcomes.possible w'
  rw [← hcomes.head.answersTo] at hbody
  obtain ⟨call, hcall, hhas⟩ := hbody.mpr hignores
  have hanswers : answersTo strictRuntime ((plainRequest "GET" "/").asHead "head scope") helloApp =
      [.responseEmpty 200 [("content-type", "text/plain; charset=utf-8"),
        ("content-length", toString (utf8 "hello").length)]] := rfl
  rw [hanswers, List.mem_singleton] at hcall
  rw [hcall] at hhas
  cases hhas

/-- A path without a route is answered with a body. -/
theorem missing_not_head_law :
    ¬ HeadLaw strictRuntime (plainRequest "GET" "/missing") "head scope" helloApp := by
  intro hlaw
  have hanswers : answersTo strictRuntime ((plainRequest "GET" "/missing").asHead "head scope")
      helloApp = [.responseStr 404 [("content-type", "text/plain; charset=utf-8")]
        ⟨"Not Found", false⟩] := rfl
  refine noBody_of_headOf hlaw.calls ?_
  rw [hanswers]
  exact ⟨_, List.mem_singleton_self _, rfl⟩

end OxyRoute
