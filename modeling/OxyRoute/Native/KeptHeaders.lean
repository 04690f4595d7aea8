import OxyRoute.Native.MergedHeaders

/-!
# Headers that the configurations leave alone

The merge keeps every header of a response that is neither an `Access-Control` header nor `Vary`.
A `Vary: Origin` of CORS replaces the `Vary` of the response, with all its tokens.

## Main definitions

- `KeepsHeaders` — two lists of headers that are sent, the second with all of the first
- `AddsVary` — CORS adds `Vary: Origin` to the response to a request

## Main results

- `keepsHeaders_iff` — nothing is lost where the response varies on nothing but `Origin`
-/

namespace OxyRoute

variable {m : Matchit} {Ref W : Type}

/-- The name of a CORS header. -/
def IsAccessControl (name : String) : Prop :=
  "access-control-".toList <+: (Text.toAsciiLowercase name).toList

/-- The name is `Vary`. -/
def IsVary (name : String) : Prop := Text.toAsciiLowercase name = "vary"

/-- The parts of a header value between commas, without the white space around them. -/
def fieldTokens (value : String) : List String :=
  ((value.toList.splitOn ',').map fun part => Text.trim (String.ofList part)).filter (· ≠ "")

/-- The tokens of the `Vary` headers. -/
def varyTokens (hs : HeaderPairs) : List String :=
  (headersNamed "vary" hs).flatMap fun e => fieldTokens e.2

/-- What is sent has the headers that were to be sent, `Access-Control` headers apart, and where
CORS adds `Vary: Origin` the tokens of `Vary`. -/
structure KeepsHeaders (addsVary : Prop) (sent sent' : HeaderPairs) : Prop where
  others : ∀ name, ¬ IsAccessControl name → ¬ (addsVary ∧ IsVary name) →
    headersNamed name sent ≠ [] → headersNamed name sent' = headersNamed name sent
  vary : addsVary → ∀ token ∈ varyTokens sent,
    ∃ token' ∈ varyTokens sent', Text.eqIgnoreAsciiCase token token' = true

/-- CORS adds `Vary: Origin`: the request has an origin that is allowed by its name. -/
def AddsVary (py : Inspection Ref) (headers : PyVal Ref) (snap : FrozenState m Ref) : Prop :=
  ∃ cors origin selected, snap.compiledCors = some cors ∧
    headerGetLax py headers "origin" = some origin ∧
    cors.selectAllowOrigin origin = some selected ∧ selected ≠ "*"

/-- The headers that are sent for those of a mapped response. -/
def outHeaders (isHead : Bool) (body : SimpleBody) (hs : HeaderPairs) : HeaderPairs :=
  buildHeaderListFromPairs (sentHeaders isHead body.lossy.length hs)

-- ════════════════════════════════════════════════════════════════════════
-- Headers that are sent
-- ════════════════════════════════════════════════════════════════════════

theorem fieldName_lower (e : String × String) :
    fieldName (Text.toAsciiLowercase e.1, e.2) = fieldName e :=
  Text.toAsciiLowercase_idem e.1

/-- The headers of a name that are sent, in lower case. -/
theorem headersNamed_build (name : String) (hs : HeaderPairs) :
    headersNamed name (buildHeaderListFromPairs hs) =
      buildHeaderListFromPairs (headersNamed name hs) := by
  unfold headersNamed buildHeaderListFromPairs FieldList.withKey
  rw [List.filter_map]
  refine congrArg _ (congrArg (fun p => List.filter p hs) (funext fun e => ?_))
  rw [Function.comp_apply, fieldName_lower]

theorem buildHeaderListFromPairs_eq_nil_iff (hs : HeaderPairs) :
    buildHeaderListFromPairs hs = [] ↔ hs = [] :=
  List.map_eq_nil_iff

/-- The headers of a name once those of another are dropped and one with that name is appended. -/
theorem headersNamed_replaced (name : String) (e : String × String) (hs : HeaderPairs) :
    headersNamed name ((hs.filter fun h => !Text.eqIgnoreAsciiCase h.1 e.1) ++ [e]) =
      if Text.toAsciiLowercase name = Text.toAsciiLowercase e.1 then [e] else headersNamed name hs := by
  have hone : ([e].map fieldName).Nodup := List.nodup_singleton _
  have hmerged := FieldList.withKey_overwrite hone (Text.toAsciiLowercase name) hs
  have hreplaced : (hs.filter fun h => !Text.eqIgnoreAsciiCase h.1 e.1) ++ [e] =
      FieldList.overwrite fieldName [e] hs := rfl
  rw [hreplaced, headersNamed, hmerged]
  by_cases hname : Text.toAsciiLowercase name = Text.toAsciiLowercase e.1
  · have hone : FieldList.withKey fieldName (Text.toAsciiLowercase name) [e] = [e] := by
      rw [hname]
      exact FieldList.withKey_cons_self
    rw [if_pos hname, hone, if_neg (List.cons_ne_nil e [])]
  · have hnone : FieldList.withKey fieldName (Text.toAsciiLowercase name) [e] = [] :=
      FieldList.withKey_cons_of_ne (Ne.symm hname)
    rw [if_neg hname, hnone, if_pos rfl]
    rfl

theorem lower_contentLength : Text.toAsciiLowercase "content-length" = "content-length" := by decide

/-- The length of a `HEAD` response replaces that of the headers; the others are sent. -/
theorem headersNamed_sentHeaders (isHead : Bool) (length : ℕ) (name : String) (hs : HeaderPairs) :
    headersNamed name (sentHeaders isHead length hs) =
      if isHead = true ∧ Text.toAsciiLowercase name = "content-length" then
        [("content-length", toString length)]
      else headersNamed name hs := by
  cases isHead with
  | false =>
    rw [if_neg fun h => Bool.false_ne_true h.1]
    rfl
  | true =>
    have hreplaced := headersNamed_replaced name ("content-length", toString length) hs
    rw [lower_contentLength] at hreplaced
    rw [sentHeaders, if_pos rfl, hreplaced]
    simp only [true_and]

theorem headersNamed_out (isHead : Bool) (body : SimpleBody) (name : String) (hs : HeaderPairs) :
    headersNamed name (outHeaders isHead body hs) =
      if isHead = true ∧ Text.toAsciiLowercase name = "content-length" then
        [("content-length", toString body.lossy.length)]
      else buildHeaderListFromPairs (headersNamed name hs) := by
  rw [outHeaders, headersNamed_build, headersNamed_sentHeaders]
  split
  · rw [buildHeaderListFromPairs, List.map_cons, lower_contentLength]
    rfl
  · rfl

theorem varyTokens_out (isHead : Bool) (body : SimpleBody) (hs : HeaderPairs) :
    varyTokens (outHeaders isHead body hs) = varyTokens hs := by
  have hvary : ¬ (isHead = true ∧ Text.toAsciiLowercase "vary" = "content-length") :=
    fun h => absurd h.2 (by decide)
  rw [varyTokens, headersNamed_out, if_neg hvary, buildHeaderListFromPairs, List.flatMap_map]
  rfl

theorem headersNamed_out_eq_nil_iff {isHead : Bool} {body : SimpleBody} {name : String}
    {hs : HeaderPairs}
    (hname : ¬ (isHead = true ∧ Text.toAsciiLowercase name = "content-length")) :
    headersNamed name (outHeaders isHead body hs) = [] ↔ headersNamed name hs = [] := by
  rw [headersNamed_out, if_neg hname, buildHeaderListFromPairs_eq_nil_iff]

-- ════════════════════════════════════════════════════════════════════════
-- CORS headers
-- ════════════════════════════════════════════════════════════════════════

/-- The CORS headers are `Access-Control` headers and `Vary: Origin`. -/
theorem responseHeaderPairs_names {cors : CompiledCorsConfig} {origin : String}
    {e : String × String} (h : e ∈ cors.responseHeaderPairs origin) :
    IsAccessControl e.1 ∨ e = ("Vary", "Origin") := by
  have hnames : ∀ name ∈ ["Access-Control-Allow-Origin", "Access-Control-Allow-Credentials",
      "Access-Control-Expose-Headers"], IsAccessControl name := by
    unfold IsAccessControl
    decide
  unfold CompiledCorsConfig.responseHeaderPairs at h
  cases hselected : cors.selectAllowOrigin origin with
  | none =>
    rw [hselected] at h
    cases h
  | some selected =>
    rw [hselected] at h
    simp only [List.mem_append] at h
    obtain ((h | h) | h) | h := h
    · left
      rw [List.mem_singleton.mp h]
      exact hnames _ (.head _)
    · left
      split at h
      · rw [List.mem_singleton.mp h]
        exact hnames _ (.tail _ (.head _))
      · cases h
    · left
      cases hexposed : cors.exposeHeadersHeader with
      | none =>
        rw [hexposed] at h
        cases h
      | some exposed =>
        rw [hexposed] at h
        rw [List.mem_singleton.mp h]
        exact hnames _ (.tail _ (.tail _ (.head _)))
    · right
      split at h
      · exact List.mem_singleton.mp h
      · cases h

/-- `Vary: Origin` is among them for a selected origin that is no wildcard. -/
theorem vary_mem_responseHeaderPairs (cors : CompiledCorsConfig) (origin : String) :
    ("Vary", "Origin") ∈ cors.responseHeaderPairs origin ↔
      ∃ selected, cors.selectAllowOrigin origin = some selected ∧ selected ≠ "*" := by
  unfold CompiledCorsConfig.responseHeaderPairs
  cases hselected : cors.selectAllowOrigin origin with
  | none => simp
  | some selected =>
    cases cors.allowCredentials <;> cases cors.exposeHeadersHeader <;> simp

section

variable {py : Inspection Ref} {req : HttpRequest Ref} {snap : FrozenState m Ref}

/-- Where the request has headers there are CORS headers, perhaps none. -/
theorem nativeCorsPairs_of_headers {headers : PyVal Ref} (hheaders : req.headers = .ok headers) :
    ∃ cors, nativeCorsPairs py req snap = .ok cors ∧
      (∀ e ∈ cors, IsAccessControl e.1 ∨ e = ("Vary", "Origin")) ∧
      (("Vary", "Origin") ∈ cors ↔ AddsVary py headers snap) := by
  unfold AddsVary
  cases hcompiled : snap.compiledCors with
  | none =>
    refine ⟨[], ?_, by simp, by simp⟩
    unfold nativeCorsPairs
    rw [hcompiled]
    rfl
  | some config =>
    rw [nativeCorsPairs_eq hheaders hcompiled]
    cases horigin : headerGetLax py headers "origin" with
    | none => exact ⟨[], rfl, by simp, by simp⟩
    | some origin =>
      refine ⟨config.responseHeaderPairs origin, rfl, fun e he => responseHeaderPairs_names he, ?_⟩
      rw [vary_mem_responseHeaderPairs]
      constructor
      · rintro ⟨selected, hselected, hstar⟩
        exact ⟨config, origin, selected, rfl, rfl, hselected, hstar⟩
      · rintro ⟨config', origin', selected, hconfig, horigin', hselected, hstar⟩
        cases hconfig
        cases horigin'
        exact ⟨selected, hselected, hstar⟩

end

-- ════════════════════════════════════════════════════════════════════════
-- What is kept
-- ════════════════════════════════════════════════════════════════════════

/-- The headers of a name that CORS does not set are kept. -/
theorem Merged.headersNamed_of_present {hs security cors hs' : HeaderPairs}
    (h : Merged hs security cors hs') {name : String} (hcors : headersNamed name cors = [])
    (hpresent : headersNamed name hs ≠ []) : headersNamed name hs' = headersNamed name hs := by
  by_cases hsecurity : headersNamed name security = []
  · exact h.kept name hsecurity hcors
  · rw [(h.added name hsecurity).2 hcors, if_neg hpresent]

/-- A name that is not set by CORS. -/
theorem headersNamed_cors_eq_nil {cors : HeaderPairs}
    (hnames : ∀ e ∈ cors, IsAccessControl e.1 ∨ e = ("Vary", "Origin")) {name : String}
    (hname : ¬ IsAccessControl name) (hvary : ¬ (("Vary", "Origin") ∈ cors ∧ IsVary name)) :
    headersNamed name cors = [] := by
  rw [headersNamed, FieldList.withKey_eq_nil_iff]
  intro e he heq
  rcases hnames e he with h | rfl
  · unfold IsAccessControl at h hname
    rw [show Text.toAsciiLowercase e.1 = Text.toAsciiLowercase name from heq] at h
    exact hname h
  · have hlower : Text.toAsciiLowercase "Vary" = "vary" := by decide
    exact hvary ⟨he, heq.symm.trans hlower⟩

/-- With `Vary: Origin` from CORS there is no other token. -/
theorem varyTokens_merged {hs security cors hs' : HeaderPairs} (h : Merged hs security cors hs')
    (hvary : ("Vary", "Origin") ∈ cors) : varyTokens hs' = ["Origin"] := by
  have hreplaced : headersNamed "Vary" hs' = [("Vary", "Origin")] :=
    h.replaced ("Vary", "Origin") hvary
  have hname : headersNamed "vary" hs' = headersNamed "Vary" hs' := by
    unfold headersNamed
    rw [show Text.toAsciiLowercase "vary" = Text.toAsciiLowercase "Vary" by decide]
  rw [varyTokens, hname, hreplaced]
  decide

/-- Nothing is lost exactly if, where CORS adds `Vary: Origin`, the response varies on nothing
else. -/
theorem Merged.keeps_iff {hs security cors hs' : HeaderPairs}
    (h : Merged hs security cors hs')
    (hnames : ∀ e ∈ cors, IsAccessControl e.1 ∨ e = ("Vary", "Origin")) (isHead : Bool)
    (body : SimpleBody) :
    KeepsHeaders (("Vary", "Origin") ∈ cors) (outHeaders isHead body hs)
        (outHeaders isHead body hs') ↔
      (("Vary", "Origin") ∈ cors →
        ∀ token ∈ varyTokens hs, Text.eqIgnoreAsciiCase token "Origin" = true) := by
  have hothers (name : String) (hname : ¬ IsAccessControl name)
      (hvary : ¬ (("Vary", "Origin") ∈ cors ∧ IsVary name))
      (hsent : headersNamed name (outHeaders isHead body hs) ≠ []) :
      headersNamed name (outHeaders isHead body hs') =
        headersNamed name (outHeaders isHead body hs) := by
    by_cases hlength : isHead = true ∧ Text.toAsciiLowercase name = "content-length"
    · rw [headersNamed_out, headersNamed_out, if_pos hlength, if_pos hlength]
    · have hpresent : headersNamed name hs ≠ [] :=
        fun hnil => hsent ((headersNamed_out_eq_nil_iff hlength).mpr hnil)
      rw [headersNamed_out, headersNamed_out, if_neg hlength, if_neg hlength,
        h.headersNamed_of_present (headersNamed_cors_eq_nil hnames hname hvary) hpresent]
  constructor
  · intro hkeeps hvary token htoken
    obtain ⟨token', htoken', heq⟩ := hkeeps.vary hvary token (by rwa [varyTokens_out])
    rw [varyTokens_out, varyTokens_merged h hvary, List.mem_singleton] at htoken'
    rwa [htoken'] at heq
  · intro hcond
    refine ⟨hothers, fun hvary token htoken => ⟨"Origin", ?_, ?_⟩⟩
    · rw [varyTokens_out, varyTokens_merged h hvary]
      exact .head _
    · rw [varyTokens_out] at htoken
      exact hcond hvary token htoken

/-- The merge loses nothing the response had to be sent with, exactly if CORS adds no
`Vary: Origin`, or the response varies on nothing else. -/
theorem keepsHeaders_iff (rt : Runtime m Ref W) (req : HttpRequest Ref) (snap : FrozenState m Ref)
    (hconfig : NativeConfig snap) {headers : PyVal Ref} (hheaders : req.headers = .ok headers)
    {mapped : HandlerMap} {status : ℕ} {body : SimpleBody} {hs : HeaderPairs}
    (hparts : mapped.parts = some (status, body, hs)) (isHead : Bool) :
    ∃ cors merged hs', nativeCorsPairs rt.toInspection req snap = .ok cors ∧
      mergeConfigResponseHeaders rt req snap mapped = pure merged ∧
      merged.parts = some (status, body, hs') ∧
      (body.encodable = true →
        ∃ call call', sendHandlerMapInline rt req isHead mapped = respond rt req call ∧
          sendHandlerMapInline rt req isHead merged = respond rt req call' ∧
          call.headers = outHeaders isHead body hs ∧ call'.headers = outHeaders isHead body hs') ∧
      (KeepsHeaders (("Vary", "Origin") ∈ cors) (outHeaders isHead body hs)
          (outHeaders isHead body hs') ↔
        (AddsVary rt.toInspection headers snap →
          ∀ token ∈ varyTokens hs, Text.eqIgnoreAsciiCase token "Origin" = true)) := by
  have hpairs : ∃ cors, nativeCorsPairs rt.toInspection req snap = .ok cors ∧ _ :=
    nativeCorsPairs_of_headers hheaders
  obtain ⟨cors, hcors, hnames, hvary⟩ := hpairs
  have hmerge := mergeConfigResponseHeaders_of_cors hconfig hcors mapped
  have hmerged := parts_addConfigured hparts (nativeSecurityPairs req snap, cors)
  refine ⟨cors, mapped.addConfigured (nativeSecurityPairs req snap, cors),
    replaceAll cors (addAbsent (nativeSecurityPairs req snap) hs), hcors, hmerge, hmerged, ?_, ?_⟩
  · intro hbody
    obtain ⟨call, hcall, hsends⟩ := send_parts rt req hparts hbody isHead
    obtain ⟨call', hcall', hsends'⟩ := send_parts rt req hmerged hbody isHead
    exact ⟨call, call', hcall, hcall', hsends.headers, hsends'.headers⟩
  · rw [(merged_of (nodup_nativeCorsPairs hcors)).keeps_iff hnames, hvary]

/-- The body of a response. -/
def variedBody : SimpleBody := .owned [104, 105]

/-- Nothing of it is lost. -/
theorem origin_token_kept :
    ∃ merged hs', mergeConfigResponseHeaders (plainRuntime segmentMatcher) originRequest
        presetApp.app.hotSnapshot (.withHeaders 200 variedBody [("vary", "origin")]) = pure merged ∧
      merged.parts = some (200, variedBody, hs') ∧
      KeepsHeaders True (outHeaders false variedBody [("vary", "origin")])
        (outHeaders false variedBody hs') := by
  obtain ⟨cors, merged, hs', hcors, hmerge, hparts, -, hiff⟩ :=
    keepsHeaders_iff (plainRuntime segmentMatcher) originRequest presetApp.app.hotSnapshot
      ⟨rfl, rfl⟩ rfl
      (rfl : (HandlerMap.withHeaders 200 variedBody [("vary", "origin")]).parts =
        some (200, variedBody, [("vary", "origin")])) false
  have hpairs : nativeCorsPairs (plainRuntime segmentMatcher).toInspection originRequest
      presetApp.app.hotSnapshot =
        .ok [("Access-Control-Allow-Origin", "https://a.example"), ("Vary", "Origin")] := rfl
  obtain rfl := Except.ok.inj (hcors.symm.trans hpairs)
  have hkeeps := hiff.mpr fun _ => by decide
  have hvary : (("Vary", "Origin") ∈
      [("Access-Control-Allow-Origin", "https://a.example"), ("Vary", "Origin")]) = True :=
    eq_true (by decide)
  rw [hvary] at hkeeps
  exact ⟨merged, hs', hmerge, hparts, hkeeps⟩

/-- A response that varies on its encoding: the token is lost. -/
theorem encoding_token_lost :
    mergeConfigResponseHeaders (plainRuntime segmentMatcher) originRequest
        presetApp.app.hotSnapshot
        (.withHeaders 200 variedBody [("content-type", "text/html"), ("vary", "Accept-Encoding")]) =
      pure (.withHeaders 200 variedBody [("content-type", "text/html"),
        ("Referrer-Policy", "no-referrer"), ("Access-Control-Allow-Origin", "https://a.example"),
        ("Vary", "Origin")]) ∧
      ¬ KeepsHeaders True
        (outHeaders false variedBody [("content-type", "text/html"), ("vary", "Accept-Encoding")])
        (outHeaders false variedBody [("content-type", "text/html"),
          ("Referrer-Policy", "no-referrer"), ("Access-Control-Allow-Origin", "https://a.example"),
          ("Vary", "Origin")]) := by
  refine ⟨rfl, fun h => ?_⟩
  obtain ⟨token', htoken', heq⟩ := h.vary trivial "Accept-Encoding" (by decide)
  revert htoken' heq
  have hone : varyTokens (outHeaders false variedBody [("content-type", "text/html"),
      ("Referrer-Policy", "no-referrer"), ("Access-Control-Allow-Origin", "https://a.example"),
      ("Vary", "Origin")]) = ["Origin"] := by decide
  rw [hone]
  rintro (_ | ⟨_, ⟨⟩⟩)
  decide

end OxyRoute
