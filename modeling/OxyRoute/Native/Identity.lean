import OxyRoute.Lib.FieldList
import OxyRoute.Native.Head
import OxyRoute.Native.LineBreaks

/-!
# Response middlewares that change nothing

A response middleware is given a `Response` object, with the headers as a dict, and what it
returns is mapped again. A middleware that returns the object loses what a dict cannot hold:
headers with the same name, such as a second `set-cookie` line.

## Main definitions

- `HandlerMap.parts` — status, body and headers of a mapped response
- `responsePairs` — the configured headers of a response
- `SameResponse` — two response calls with the same status, body and headers
- `keptHeaders` — the mapped headers that are not replaced afterwards

## Main results

- `responseObject_mapped` — the round trip through a `Response` object
- `identity_middlewares_iff` — the response is the same where no header name is repeated
-/

namespace OxyRoute

open Routine

variable {m : Matchit} {Ref W : Type}

-- ════════════════════════════════════════════════════════════════════════
-- Mapped responses
-- ════════════════════════════════════════════════════════════════════════

/-- The bytes of a body; where a text has no UTF-8 form, of its replacement. -/
def SimpleBody.lossy : SimpleBody → List UInt8
  | .owned b | .pyBytes b => b
  | .pyString s => utf8 s.text

/-- The body is no text without UTF-8 form. -/
def SimpleBody.encodable : SimpleBody → Bool
  | .pyString s => !s.surrogates
  | _ => true

/-- Status, body and headers of a mapped response. -/
def HandlerMap.parts : HandlerMap → Option (ℕ × SimpleBody × HeaderPairs)
  | .alreadySent => none
  | .withHeaders status body headers => some (status, body, headers)
  | .simple status body contentType => some (status, body, [("content-type", contentType)])

/-- The body that a call sends. -/
def ProtocolCall.bodyBytes : ProtocolCall → List UInt8
  | .responseStr _ _ body => utf8 body.text
  | .responseBytes _ _ body => body
  | .responseEmpty _ _ => []

/-- The headers have a content type. -/
def HasContentType (headers : HeaderPairs) : Prop :=
  (headers.any fun e => Text.eqIgnoreAsciiCase e.1 "content-type") = true

theorem u16OfInt_lt {n : ℤ} {k : ℕ} (h : (u16OfInt n : Except (PyErr Ref) ℕ) = .ok k) : k < 2 ^ 16 := by
  unfold u16OfInt at h
  split at h
  · cases h
  · split at h
    · cases h
      omega
    · cases h

theorem extractU16_lt {py : Inspection Ref} {v : PyVal Ref} {k : ℕ}
    (h : extractU16 py v = .ok k) : k < 2 ^ 16 := by
  unfold extractU16 at h
  split at h
  · exact u16OfInt_lt h
  · cases h
    exact Nat.lt_of_le_of_lt (Bool.toNat_le _) (by decide)
  · obtain ⟨n, -, h⟩ := Except.of_bind_eq_ok h
    exact u16OfInt_lt h
  · cases h

theorem hasContentType_withContentType (contentType : String) (pairs cookies : HeaderPairs) :
    HasContentType (withContentType contentType pairs ++ cookies) := by
  unfold HasContentType withContentType
  rw [List.any_append, Bool.or_eq_true]
  left
  split
  · assumption
  · rw [List.any_cons, Text.eqIgnoreAsciiCase_refl, Bool.true_or]

/-- A mapped response can be given to a response middleware. -/
structure Presentable (mapped : HandlerMap) : Prop where
  status : ∀ p, mapped.parts = some p → p.1 < 2 ^ 16
  clean : ∀ p, mapped.parts = some p → Clean p.2.2
  contentType : ∀ p, mapped.parts = some p → HasContentType p.2.2

theorem presentable_simple {status : ℕ} {body : SimpleBody} {contentType : String}
    (hstatus : status < 2 ^ 16) (hct : containsCrlf contentType = false) :
    Presentable (.simple status body contentType) := by
  refine ⟨?_, ?_, ?_⟩
  · rintro p ⟨⟩
    exact hstatus
  · rintro p ⟨⟩
    exact contentType_clean hct
  · rintro p ⟨⟩
    unfold HasContentType
    rw [List.any_cons, Text.eqIgnoreAsciiCase_refl, Bool.true_or]

theorem structuredFromStatusBody_presentable {py : Inspection Ref} {st body : PyVal Ref}
    {headers cookies : Option (PyVal Ref)} {mapped : HandlerMap}
    (h : structuredFromStatusBody py st body headers cookies = .ok mapped) :
    Presentable mapped := by
  have hclean := structuredFromStatusBody_clean h
  rw [structuredFromStatusBody_eq] at h
  obtain ⟨status, hstatus, h⟩ := Except.of_bind_eq_ok h
  obtain ⟨typed, -, h⟩ := Except.of_bind_eq_ok h
  obtain ⟨pairs, -, h⟩ := Except.of_bind_eq_ok h
  obtain ⟨cookies, -, h⟩ := Except.of_bind_eq_ok h
  cases h
  refine ⟨?_, ?_, ?_⟩
  · rintro p ⟨⟩
    exact extractU16_lt hstatus
  · rintro p ⟨⟩
    exact hclean
  · rintro p ⟨⟩
    exact hasContentType_withContentType typed.2 pairs cookies

theorem mapHandlerReturn_presentable {py : Inspection Ref} {v : PyVal Ref} {mapped : HandlerMap}
    (h : mapHandlerReturn py v = .ok mapped) : Presentable mapped := by
  have hclean := mapHandlerReturn_clean h
  rcases mapHandlerReturn_cases h with rfl | ⟨status, body, contentType, rfl, hstatus, -⟩ |
    ⟨st, body, headers, cookies, h⟩
  · refine ⟨?_, ?_, ?_⟩
    · rintro p ⟨⟩
    · rintro p ⟨⟩
    · rintro p ⟨⟩
  · exact presentable_simple (by omega) hclean
  · exact structuredFromStatusBody_presentable h

-- ════════════════════════════════════════════════════════════════════════
-- The round trip
-- ════════════════════════════════════════════════════════════════════════

theorem rawPairs_text (py : Inspection Ref) (hs : HeaderPairs) :
    rawPairs py (hs.map fun e => (PyVal.text e.1, PyVal.text e.2)) = .ok hs := by
  induction hs with
  | nil => rfl
  | cons e hs ih =>
    rw [rawPairs] at ih ⊢
    rw [List.map_cons, List.mapM_cons, ih]
    rfl

theorem clean_ofList {hs : HeaderPairs} (h : Clean hs) : Clean (Dict.ofList hs).entries := by
  intro e he
  have hkey : e.1 ∈ hs.map Prod.fst :=
    (Dict.mem_keys_ofList hs e.1).mp (List.mem_map.mpr ⟨e, he, rfl⟩)
  obtain ⟨v, hv, hget⟩ := Dict.exists_get?_ofList hkey
  have hsame := (Dict.get?_of_mem_entries (d := Dict.ofList hs) (k := e.1) (v := e.2) he).symm.trans hget
  rw [← Option.some.inj hsame] at hv
  exact h e hv

theorem hasContentType_ofList {hs : HeaderPairs} (h : HasContentType hs) :
    HasContentType (Dict.ofList hs).entries := by
  obtain ⟨e, he, heq⟩ := List.any_eq_true.mp h
  have hkey : e.1 ∈ (Dict.ofList hs).keys :=
    (Dict.mem_keys_ofList hs e.1).mpr (List.mem_map.mpr ⟨e, he, rfl⟩)
  obtain ⟨e', he', hname⟩ := List.mem_map.mp hkey
  exact List.any_eq_true.mpr ⟨e', he', by rw [hname]; exact heq⟩

/-- A `Response` object is mapped to what it was made of, with the headers as a dict. -/
theorem responseObject_mapped {py : Inspection Ref} {status : ℕ} {body : SimpleBody}
    {hs : HeaderPairs} (hstatus : status < 2 ^ 16) (hclean : Clean hs) (hct : HasContentType hs) :
    mapHandlerReturn py (responseObject status body hs) =
      .ok (.withHeaders status (.owned body.lossy) (Dict.ofList hs).entries) := by
  have hpairs : headerPairs py ((Dict.ofList hs).entries.map fun e =>
      (PyVal.text e.1, PyVal.text e.2)) = .ok (Dict.ofList hs).entries := by
    rw [headerPairs_of_raw (rawPairs_text py _), if_pos (clean_ofList hclean)]
  have hu16 : extractU16 py (.int status) = .ok status := by
    show u16OfInt (status : ℤ) = _
    rw [u16OfInt, if_neg (by omega), if_pos (by omega)]
    rfl
  have htyped : ∃ contentType, valueToBytesAndCt py (body.toPyVal : PyVal Ref) =
      .ok (body.lossy, contentType) := by
    cases body with
    | owned b => exact ⟨_, rfl⟩
    | pyBytes b => exact ⟨_, rfl⟩
    | pyString s => exact ⟨_, rfl⟩
  obtain ⟨contentType, htyped⟩ := htyped
  have hparts : structuredParts py (responseObject status body hs) =
      some (.int status, body.toPyVal, some (.dict ((Dict.ofList hs).entries.map fun e =>
        (PyVal.text e.1, PyVal.text e.2))), some .none) := rfl
  have hany : ((Dict.ofList hs).entries.any fun e =>
      Text.eqIgnoreAsciiCase e.1 "content-type") = true := hasContentType_ofList hct
  rw [mapHandlerReturn_structured hparts, structuredFromStatusBody_eq, hu16, htyped]
  show (do
    let pairs ← headerPairs py _
    return HandlerMap.withHeaders status (.owned body.lossy)
      (withContentType contentType pairs ++ [])) = _
  rw [hpairs]
  show Except.ok (HandlerMap.withHeaders _ _ (withContentType contentType _ ++ [])) = _
  rw [List.append_nil, withContentType, if_pos hany]

-- ════════════════════════════════════════════════════════════════════════
-- Configured headers
-- ════════════════════════════════════════════════════════════════════════

/-- The pairs that are new are appended. -/
def addAbsent (extra headers : HeaderPairs) : HeaderPairs :=
  extra.foldl
    (fun hs e => if hs.any fun h => Text.eqIgnoreAsciiCase h.1 e.1 then hs else hs ++ [e]) headers

/-- The pairs are appended, the headers with their names dropped. -/
def replaceAll (extra headers : HeaderPairs) : HeaderPairs :=
  extra.foldl (fun hs e => (hs.filter fun h => !Text.eqIgnoreAsciiCase h.1 e.1) ++ [e]) headers

/-- The headers have the same names. -/
def SameNames (headers headers' : HeaderPairs) : Prop :=
  ∀ name, (headers.any fun h => Text.eqIgnoreAsciiCase h.1 name) =
    headers'.any fun h => Text.eqIgnoreAsciiCase h.1 name

/-- What is appended depends on the names only. -/
theorem addAbsent_sameNames (extra : HeaderPairs) {headers headers' : HeaderPairs}
    (h : SameNames headers headers') :
    ∃ added, addAbsent extra headers = headers ++ added ∧
      addAbsent extra headers' = headers' ++ added := by
  induction extra generalizing headers headers' with
  | nil => exact ⟨[], (List.append_nil _).symm, (List.append_nil _).symm⟩
  | cons e extra ih =>
    have hstep (hs : HeaderPairs) : addAbsent (e :: extra) hs = addAbsent extra
        (if hs.any fun h => Text.eqIgnoreAsciiCase h.1 e.1 then hs else hs ++ [e]) := rfl
    rw [hstep, hstep, h e.1]
    by_cases hname : (headers'.any fun h => Text.eqIgnoreAsciiCase h.1 e.1) = true
    · rw [if_pos hname, if_pos hname]
      exact ih h
    · rw [if_neg hname, if_neg hname]
      have happend : SameNames (headers ++ [e]) (headers' ++ [e]) := by
        intro name
        rw [List.any_append, List.any_append, h name]
      obtain ⟨added, hadded, hadded'⟩ := ih happend
      refine ⟨e :: added, ?_, ?_⟩
      · rw [hadded, List.append_assoc]
        rfl
      · rw [hadded', List.append_assoc]
        rfl

/-- The headers whose names are not replaced stay, in front. -/
theorem replaceAll_append (extra headers added : HeaderPairs) :
    replaceAll extra (headers ++ added) =
      (headers.filter fun h => !extra.any fun e => Text.eqIgnoreAsciiCase h.1 e.1) ++
        replaceAll extra added := by
  show FieldList.overwrite (fun e : String × String => Text.toAsciiLowercase e.1) extra
    (headers ++ added) = _
  exact FieldList.overwrite_append extra headers added

section

variable (rt : Runtime m Ref W) (req : HttpRequest Ref) (snap : FrozenState m Ref)

/-- The configured security headers. -/
def securityPairs : PyResult m Ref W HeaderPairs :=
  match snap.compiledSecurityHeaders, snap.securityHeaders with
  | some sec, _ => pure (sec.responseHeaderPairs (req.scheme.getD ""))
  | none, some secPy => configHeaderPairs rt req secPy
  | none, none => pure []

/-- The configured CORS headers. -/
def corsPairs : PyResult m Ref W HeaderPairs :=
  match snap.compiledCors, snap.cors with
  | some cors, _ => do
    let headers ← Routine.ofExcept req.headers
    match headerGetLax rt.toInspection headers "origin" with
    | some origin => pure (cors.responseHeaderPairs origin)
    | none => pure []
  | none, some corsPy => do
    let headers ← Routine.ofExcept req.headers
    match headerGetLax rt.toInspection headers "origin" with
    | some _ => configHeaderPairs rt req corsPy
    | none => pure []
  | none, none => pure []

/-- The configured headers of a response: those that are added if absent, and those that replace
others. -/
def responsePairs : PyResult m Ref W (HeaderPairs × HeaderPairs) :=
  if snap.securityHeaders.isSome || snap.cors.isSome then do
    let security ← securityPairs rt req snap
    let cors ← corsPairs rt req snap
    return (security, cors)
  else pure ([], [])

end

/-- The mapped response with configured headers. -/
def HandlerMap.addConfigured (pairs : HeaderPairs × HeaderPairs) (mapped : HandlerMap) :
    HandlerMap :=
  mergeHeaderPairsReplace (mergeHeaderPairsIfAbsent mapped pairs.1) pairs.2

section

variable {rt : Runtime m Ref W} {req : HttpRequest Ref} {snap : FrozenState m Ref}

theorem mergeSecurityHeaders_eq (mapped : HandlerMap) :
    mergeSecurityHeaders rt req snap mapped =
      securityPairs rt req snap >>= fun pairs => pure (mergeHeaderPairsIfAbsent mapped pairs) := by
  unfold mergeSecurityHeaders securityPairs
  cases snap.compiledSecurityHeaders with
  | some sec => rfl
  | none =>
    cases snap.securityHeaders with
    | some secPy => rfl
    | none => rfl

theorem mergeCorsHeaders_eq (mapped : HandlerMap) :
    mergeCorsHeaders rt req snap mapped =
      corsPairs rt req snap >>= fun pairs => pure (mergeHeaderPairsReplace mapped pairs) := by
  unfold mergeCorsHeaders corsPairs
  cases snap.compiledCors with
  | some cors =>
    dsimp only
    rw [bind_assoc]
    refine congrArg _ (funext fun headers => ?_)
    cases headerGetLax rt.toInspection headers "origin" with
    | some origin => rfl
    | none => rfl
  | none =>
    cases snap.cors with
    | none => rfl
    | some corsPy =>
      dsimp only
      rw [bind_assoc]
      refine congrArg _ (funext fun headers => ?_)
      cases headerGetLax rt.toInspection headers "origin" with
      | some origin => rfl
      | none => rfl

/-- The configured headers are read, and added to the mapped response. -/
theorem configured_eq {mapped : HandlerMap} (hmapped : mapped ≠ .alreadySent) :
    (if snap.securityHeaders.isSome || snap.cors.isSome then
      mergeConfigResponseHeaders rt req snap mapped else pure mapped) =
      responsePairs rt req snap >>= fun pairs => pure (mapped.addConfigured pairs) := by
  unfold responsePairs
  split
  · rw [mergeConfigResponseHeaders, if_neg hmapped, mergeSecurityHeaders_eq, bind_assoc, bind_assoc]
    refine congrArg _ (funext fun security => ?_)
    rw [pure_bind, mergeCorsHeaders_eq, bind_assoc]
    rfl
  · rfl

theorem parts_mergeWith {mapped : HandlerMap} {status : ℕ} {body : SimpleBody} {hs : HeaderPairs}
    (h : mapped.parts = some (status, body, hs)) (f : HeaderPairs → HeaderPairs) :
    (mapped.mergeWith f).parts = some (status, body, f hs) := by
  cases mapped with
  | alreadySent => cases h
  | withHeaders => cases h; rfl
  | simple => cases h; rfl

theorem parts_ifAbsent {mapped : HandlerMap} {status : ℕ} {body : SimpleBody} {hs : HeaderPairs}
    (h : mapped.parts = some (status, body, hs)) (extra : HeaderPairs) :
    (mergeHeaderPairsIfAbsent mapped extra).parts = some (status, body, addAbsent extra hs) := by
  unfold mergeHeaderPairsIfAbsent
  by_cases hextra : extra = []
  · rw [if_pos hextra, h, hextra]
    rfl
  · rw [if_neg hextra]
    exact parts_mergeWith h _

theorem parts_replace {mapped : HandlerMap} {status : ℕ} {body : SimpleBody} {hs : HeaderPairs}
    (h : mapped.parts = some (status, body, hs)) (extra : HeaderPairs) :
    (mergeHeaderPairsReplace mapped extra).parts = some (status, body, replaceAll extra hs) := by
  unfold mergeHeaderPairsReplace
  by_cases hextra : extra = []
  · rw [if_pos hextra, h, hextra]
    rfl
  · rw [if_neg hextra]
    exact parts_mergeWith h _

theorem parts_addConfigured {mapped : HandlerMap} {status : ℕ} {body : SimpleBody}
    {hs : HeaderPairs} (h : mapped.parts = some (status, body, hs))
    (pairs : HeaderPairs × HeaderPairs) : (mapped.addConfigured pairs).parts =
      some (status, body, replaceAll pairs.2 (addAbsent pairs.1 hs)) :=
  parts_replace (parts_ifAbsent h pairs.1) pairs.2

-- ════════════════════════════════════════════════════════════════════════
-- Sending
-- ════════════════════════════════════════════════════════════════════════

/-- The headers that are sent: for `HEAD` with the length of the body. -/
def sentHeaders (isHead : Bool) (length : ℕ) (headers : HeaderPairs) : HeaderPairs :=
  if isHead then
    (headers.filter fun e => !Text.eqIgnoreAsciiCase e.1 "content-length") ++
      [("content-length", toString length)]
  else headers

/-- The call sends the parts of a mapped response. -/
structure SendsParts (isHead : Bool) (status : ℕ) (body : SimpleBody) (headers : HeaderPairs)
    (call : ProtocolCall) : Prop where
  encodable : call.encodable = true
  status : call.status = status
  bytes : call.bodyBytes = if isHead then [] else body.lossy
  headers : call.headers = buildHeaderListFromPairs (sentHeaders isHead body.lossy.length headers)

theorem sendsParts_withHeaders (status : ℕ) (b : List UInt8) (headers : HeaderPairs) :
    SendsParts false status (.owned b) headers (withHeadersCall status b headers) := by
  unfold withHeadersCall
  split
  · next hb => exact ⟨rfl, rfl, hb.symm, rfl⟩
  · exact ⟨rfl, rfl, rfl, rfl⟩

theorem buildHeaderListFromPairs_contentType (contentType : String) :
    buildHeaderListFromPairs [("content-type", contentType)] = [("content-type", contentType)] := by
  have hname : Text.toAsciiLowercase "content-type" = "content-type" := by decide
  rw [buildHeaderListFromPairs, List.map_cons, hname]
  rfl

theorem buildHeaderListFromPairs_lengths (contentType length : String) :
    buildHeaderListFromPairs [("content-type", contentType), ("content-length", length)] =
      [("content-type", contentType), ("content-length", length)] := by
  have hname : Text.toAsciiLowercase "content-length" = "content-length" := by decide
  have htype := buildHeaderListFromPairs_contentType contentType
  rw [buildHeaderListFromPairs, List.map_cons] at htype ⊢
  rw [(List.cons.inj htype).1, List.map_cons, hname]
  rfl

theorem sentHeaders_contentType (length : ℕ) (contentType : String) :
    sentHeaders true length [("content-type", contentType)] =
      [("content-type", contentType), ("content-length", toString length)] := by
  have hname : (!Text.eqIgnoreAsciiCase "content-type" "content-length") = true := by decide
  rw [sentHeaders, if_pos rfl, List.filter_cons, if_pos hname]
  rfl

theorem sendsParts_bytes (status : ℕ) (b : List UInt8) (contentType : String) :
    SendsParts false status (.owned b) [("content-type", contentType)]
      (bytesCall status b contentType) := by
  have hheaders := (buildHeaderListFromPairs_contentType contentType).symm
  unfold bytesCall
  split
  · next hb => exact ⟨rfl, rfl, hb.symm, hheaders⟩
  · exact ⟨rfl, rfl, rfl, hheaders⟩

theorem sendsParts_text (status : ℕ) (text contentType : String) :
    SendsParts false status (.pyString ⟨text, false⟩) [("content-type", contentType)]
      (textCall status text contentType) := by
  have hheaders := (buildHeaderListFromPairs_contentType contentType).symm
  unfold textCall
  split
  · next htext => exact ⟨rfl, rfl, (utf8_eq_nil_iff.mpr htext).symm, hheaders⟩
  · exact ⟨rfl, rfl, rfl, hheaders⟩

/-- For `HEAD` the length of the body is sent. -/
theorem sendHead_parts {mapped : HandlerMap} {status : ℕ} {body : SimpleBody}
    {headers : HeaderPairs} (h : mapped.parts = some (status, body, headers))
    (hbody : body.encodable = true) :
    ∃ call, sendHandlerMapInline rt req true mapped = respond rt req call ∧
      SendsParts true status body headers call := by
  have hlength : body.byteLen = .ok (ε := PyErr Ref) body.lossy.length := by
    cases body with
    | owned b => rfl
    | pyBytes b => rfl
    | pyString s =>
      obtain ⟨text, surrogates⟩ := s
      cases surrogates with
      | false => rfl
      | true => cases hbody
  cases mapped with
  | alreadySent => cases h
  | withHeaders =>
    cases h
    refine ⟨.responseEmpty status
      (buildHeaderListFromPairs (sentHeaders true body.lossy.length headers)), ?_, rfl, rfl, rfl, rfl⟩
    rw [sendHandlerMapInline, hlength]
    exact sendWithHeaders_eq rt req status [] _
  | simple status body contentType =>
    cases h
    refine ⟨.responseEmpty status
      [("content-type", contentType), ("content-length", toString body.lossy.length)], ?_,
      rfl, rfl, rfl, ?_⟩
    · rw [sendHandlerMapInline, hlength]
      rfl
    · rw [sentHeaders_contentType, buildHeaderListFromPairs_lengths]
      rfl

theorem sendGet_parts {mapped : HandlerMap} {status : ℕ} {body : SimpleBody}
    {headers : HeaderPairs} (h : mapped.parts = some (status, body, headers))
    (hbody : body.encodable = true) :
    ∃ call, sendHandlerMapInline rt req false mapped = respond rt req call ∧
      SendsParts false status body headers call := by
  cases mapped with
  | alreadySent => cases h
  | withHeaders =>
    cases h
    cases body with
    | owned b => exact ⟨_, sendWithHeaders_eq rt req status b headers, sendsParts_withHeaders status b headers⟩
    | pyBytes b => exact ⟨_, rfl, rfl, rfl, rfl, rfl⟩
    | pyString s => exact ⟨.responseStr status _ s, rfl, hbody, rfl, rfl, rfl⟩
  | simple status body contentType =>
    cases h
    cases body with
    | owned b => exact ⟨_, sendBytes_eq rt req status b contentType, sendsParts_bytes status b contentType⟩
    | pyBytes b =>
      obtain ⟨henc, hstatus, hbytes, hheaders⟩ := sendsParts_bytes status b contentType
      exact ⟨_, sendBytes_eq rt req status b contentType, henc, hstatus, hbytes, hheaders⟩
    | pyString s =>
      obtain ⟨text, surrogates⟩ := s
      cases surrogates with
      | false => exact ⟨_, sendText_eq rt req status text contentType, sendsParts_text status text contentType⟩
      | true => cases hbody

variable (rt req) in
/-- A mapped response is sent by one call. -/
theorem send_parts {mapped : HandlerMap} {status : ℕ} {body : SimpleBody} {headers : HeaderPairs}
    (h : mapped.parts = some (status, body, headers)) (hbody : body.encodable = true)
    (isHead : Bool) : ∃ call, sendHandlerMapInline rt req isHead mapped = respond rt req call ∧
      SendsParts isHead status body headers call := by
  cases isHead with
  | true => exact sendHead_parts h hbody
  | false => exact sendGet_parts h hbody

/-- A text without UTF-8 form is not sent. -/
theorem send_unencodable {mapped : HandlerMap} {status : ℕ} {body : SimpleBody}
    {headers : HeaderPairs} (h : mapped.parts = some (status, body, headers))
    (hbody : body.encodable = false) (isHead : Bool) (w : World m Ref W) :
    answers ((sendHandlerMapInline rt req isHead mapped).run w).log = [] := by
  have hs : ∃ text, body = .pyString ⟨text, true⟩ := by
    cases body with
    | owned b => cases hbody
    | pyBytes b => cases hbody
    | pyString s =>
      obtain ⟨text, surrogates⟩ := s
      cases surrogates with
      | false => cases hbody
      | true => exact ⟨text, rfl⟩
  obtain ⟨text, rfl⟩ := hs
  cases mapped with
  | alreadySent => cases h
  | withHeaders => cases h; cases isHead with
    | true => rfl
    | false => rfl
  | simple => cases h; cases isHead with
    | true => rfl
    | false => rfl

-- ════════════════════════════════════════════════════════════════════════
-- Middlewares that return what they are given
-- ════════════════════════════════════════════════════════════════════════

/-- The middleware returns the `Response` object it is given. -/
def ReturnsUnchanged (rt : Runtime m Ref W) (req : HttpRequest Ref) (f : Ref) : Prop :=
  ∀ status body headers w,
    (rt.call f [.object req.scope, responseObject status body headers] .empty w).1 =
      .ok (responseObject status body headers)

/-- From the first such middleware on the headers are those of a dict. -/
theorem runIdentity {fs : List Ref} (hid : ∀ f ∈ fs, ReturnsUnchanged rt req f) (hne : fs ≠ [])
    {mapped : HandlerMap} (hp : Presentable mapped) {status : ℕ} {body : SimpleBody}
    {hs : HeaderPairs} (hparts : mapped.parts = some (status, body, hs)) (w : World m Ref W) :
    ∃ w', (runResponseMiddleware rt req fs mapped).run w =
      ⟨.ok (.withHeaders status (.owned body.lossy) (Dict.ofList hs).entries), w', []⟩ := by
  induction fs generalizing mapped body hs w with
  | nil => exact absurd rfl hne
  | cons f fs ih =>
    have hres : mapped.responseObject = some (responseObject status body hs : PyVal Ref) := by
      cases mapped with
      | alreadySent => cases hparts
      | withHeaders => cases hparts; rfl
      | simple => cases hparts; rfl
    have hmapped : mapHandlerReturn rt.toInspection (responseObject status body hs) =
        .ok (.withHeaders status (.owned body.lossy) (Dict.ofList hs).entries) :=
      responseObject_mapped (hp.status _ hparts) (hp.clean _ hparts) (hp.contentType _ hparts)
    have hcall := hid f List.mem_cons_self status body hs w
    rcases hr : rt.call f [.object req.scope, responseObject status body hs] .empty w with ⟨r, w'⟩
    rw [hr] at hcall
    have hrun : (Routine.effect (rt.call f [.object req.scope, responseObject status body hs] .empty) :
        PyResult m Ref W _).run w = ⟨.ok (responseObject status body hs), w', []⟩ := by
      rw [effect_run, hr, ← hcall]
    rw [runResponseMiddleware_cons hres, bind_run_ok hrun, hmapped]
    by_cases hfs : fs = []
    · rw [hfs]
      exact ⟨w', rfl⟩
    · obtain ⟨w'', hrest⟩ := ih (fun f hf => hid f (List.mem_cons_of_mem _ hf)) hfs
        (mapHandlerReturn_presentable hmapped) rfl w'
      -- a dict does not change any more
      rw [Dict.entries_ofList_of_nodup (Dict.ofList hs).nodup] at hrest
      exact ⟨w'', congrArg (Ending.after []) hrest⟩

end

/-- The header with this name is sent as it was mapped. -/
def isKept (isHead : Bool) (cors : HeaderPairs) (name : String) : Bool :=
  (!cors.any fun e => Text.eqIgnoreAsciiCase name e.1) &&
    !(isHead && Text.eqIgnoreAsciiCase name "content-length")

/-- The mapped headers that are not replaced afterwards. -/
def keptHeaders (isHead : Bool) (cors headers : HeaderPairs) : HeaderPairs :=
  headers.filter fun e => isKept isHead cors e.1

/-- The headers that are sent for mapped ones. -/
def finalHeaders (isHead : Bool) (length : ℕ) (pairs : HeaderPairs × HeaderPairs)
    (headers : HeaderPairs) : HeaderPairs :=
  buildHeaderListFromPairs
    (sentHeaders isHead length (replaceAll pairs.2 (addAbsent pairs.1 headers)))

theorem sameNames_ofList (hs : HeaderPairs) : SameNames hs (Dict.ofList hs).entries := by
  intro name
  have hkeys (headers : HeaderPairs) : (headers.any fun h => Text.eqIgnoreAsciiCase h.1 name) =
      (headers.map Prod.fst).any fun n => Text.eqIgnoreAsciiCase n name := by
    rw [List.any_map]
    rfl
  rw [hkeys, hkeys, Bool.eq_iff_iff, List.any_eq_true, List.any_eq_true]
  refine exists_congr fun n => and_congr_left fun _ => ?_
  exact (Dict.mem_keys_ofList hs n).symm

/-- The other headers that are sent depend on the names of the mapped headers only. -/
theorem finalHeaders_split (isHead : Bool) (length : ℕ) (pairs : HeaderPairs × HeaderPairs)
    {headers headers' : HeaderPairs} (h : SameNames headers headers') :
    ∃ rest, finalHeaders isHead length pairs headers =
        buildHeaderListFromPairs (keptHeaders isHead pairs.2 headers) ++ rest ∧
      finalHeaders isHead length pairs headers' =
        buildHeaderListFromPairs (keptHeaders isHead pairs.2 headers') ++ rest := by
  obtain ⟨added, hadded, hadded'⟩ := addAbsent_sameNames pairs.1 h
  have hsplit : ∃ rest, ∀ hs, sentHeaders isHead length
      (replaceAll pairs.2 (hs ++ added)) = keptHeaders isHead pairs.2 hs ++ rest := by
    cases isHead with
    | false =>
      refine ⟨replaceAll pairs.2 added, fun hs => ?_⟩
      show replaceAll pairs.2 (hs ++ added) = _
      rw [replaceAll_append]
      refine congrArg (fun p => List.filter p hs ++ _) (funext fun e => ?_)
      simp [isKept]
    | true =>
      refine ⟨((replaceAll pairs.2 added).filter fun e =>
        !Text.eqIgnoreAsciiCase e.1 "content-length") ++ [("content-length", toString length)],
        fun hs => ?_⟩
      show (replaceAll pairs.2 (hs ++ added)).filter _ ++ _ = _
      rw [replaceAll_append, List.filter_append, List.append_assoc, List.filter_filter]
      refine congrArg (fun p => List.filter p hs ++ _) (funext fun e => ?_)
      simp [isKept, Bool.and_comm]
  obtain ⟨rest, hrest⟩ := hsplit
  refine ⟨buildHeaderListFromPairs rest, ?_, ?_⟩
  · rw [finalHeaders, hadded, hrest]
    exact List.map_append
  · rw [finalHeaders, hadded', hrest]
    exact List.map_append

/-- The headers of a dict are the same where no name is lost. -/
theorem finalHeaders_perm_iff (isHead : Bool) (length : ℕ) (pairs : HeaderPairs × HeaderPairs)
    (hs : HeaderPairs) :
    (finalHeaders isHead length pairs hs).Perm
        (finalHeaders isHead length pairs (Dict.ofList hs).entries) ↔
      ((keptHeaders isHead pairs.2 hs).map Prod.fst).Nodup := by
  obtain ⟨rest, hrest, hrest'⟩ := finalHeaders_split isHead length pairs (sameNames_ofList hs)
  have hkept : keptHeaders isHead pairs.2 (Dict.ofList hs).entries =
      (Dict.ofList (keptHeaders isHead pairs.2 hs)).entries :=
    Dict.filter_entries_ofList (isKept isHead pairs.2) hs
  rw [hrest, hrest', List.perm_append_right_iff, hkept]
  constructor
  · intro hperm
    have hlength := hperm.length_eq
    rw [buildHeaderListFromPairs, buildHeaderListFromPairs, List.length_map, List.length_map]
      at hlength
    exact Dict.nodup_of_length_ofList (Nat.le_of_eq hlength)
  · intro hnodup
    rw [Dict.entries_ofList_of_nodup hnodup]

-- ════════════════════════════════════════════════════════════════════════
-- Responses with and without middlewares
-- ════════════════════════════════════════════════════════════════════════

/-- Two calls with the same status, body and headers, these in any order. -/
structure SameResponse (call call' : ProtocolCall) : Prop where
  status : call.status = call'.status
  body : call.bodyBytes = call'.bodyBytes
  headers : call.headers.Perm call'.headers

/-- The calls that answer with a value, those a server can take. -/
def valueAnswers (rt : Runtime m Ref W) (req : HttpRequest Ref) (snap : FrozenState m Ref)
    (v : PyVal Ref) (w : World m Ref W) : List ProtocolCall :=
  answers ((respondWith rt req snap v).run w).log

/-- The configuration with the response middlewares left out. -/
def FrozenState.withoutResponseMiddleware (snap : FrozenState m Ref) : FrozenState m Ref :=
  { snap with responseMiddleware := [] }

/-- The configured headers are the same before and after the response middlewares. -/
structure ReadsPairs (rt : Runtime m Ref W) (req : HttpRequest Ref) (snap : FrozenState m Ref)
    (mapped : HandlerMap) (w : World m Ref W) (pairs : HeaderPairs × HeaderPairs) : Prop where
  before : ((responsePairs rt req snap).run w).result = .ok pairs
  after : ∀ mapped' w' l,
    (runResponseMiddleware rt req snap.responseMiddleware mapped).run w = ⟨.ok mapped', w', l⟩ →
      ((responsePairs rt req snap).run w').result = .ok pairs

section

variable {rt : Runtime m Ref W} {req : HttpRequest Ref} {snap : FrozenState m Ref}

theorem responsePairs_quiet : Logs (fun _ => False) (responsePairs rt req snap) := by
  have hsecurity : Logs (fun _ => False) (securityPairs rt req snap) := by
    unfold securityPairs
    split
    · exact logs_pure _
    · exact configHeaderPairs_logs rt req _
    · exact logs_pure _
  have hcors : Logs (fun _ => False) (corsPairs rt req snap) := by
    unfold corsPairs
    split
    · refine (logs_ofExcept _).bind fun _ => ?_
      split
      · exact logs_pure _
      · exact logs_pure _
    · refine (logs_ofExcept _).bind fun _ => ?_
      split
      · exact configHeaderPairs_logs rt req _
      · exact logs_pure _
    · exact logs_pure _
  exact (hsecurity.bind fun _ => hcors.bind fun _ => logs_pure _).ite (logs_pure _)

variable (snap) in
/-- After the middlewares the configured headers are added, and the response is sent. -/
theorem valueAnswers_eq {v : PyVal Ref} {mapped mapped' : HandlerMap} {w w' : World m Ref W}
    {pairs : HeaderPairs × HeaderPairs} (hmap : mapHandlerReturn rt.toInspection v = .ok mapped)
    (hrun : (runResponseMiddleware rt req snap.responseMiddleware mapped).run w =
      ⟨.ok mapped', w', []⟩) (hne : mapped' ≠ .alreadySent)
    (hpairs : ((responsePairs rt req snap).run w').result = .ok pairs) :
    ∃ w'', valueAnswers rt req snap v w =
      answers ((sendHandlerMapInline rt req (req.method = "HEAD")
        (mapped'.addConfigured pairs)).run w'').log := by
  rcases hr : (responsePairs rt req snap).run w' with ⟨r, w'', l⟩
  have hl : l = [] := by
    have hquiet : ((responsePairs rt req snap).run w').log = [] := responsePairs_quiet.log_eq_nil w'
    rwa [hr] at hquiet
  rw [hr] at hpairs
  cases hpairs
  refine ⟨w'', ?_⟩
  have hconfigured : (if snap.securityHeaders.isSome || snap.cors.isSome then
      mergeConfigResponseHeaders rt req snap mapped' else pure mapped').run w' =
        ⟨.ok (mapped'.addConfigured pairs), w'', []⟩ := by
    rw [configured_eq hne, bind_run_ok hr, hl]
    rfl
  have hrespond : respondWith rt req snap v =
      runResponseMiddleware rt req snap.responseMiddleware mapped >>= fun mapped =>
        (if snap.securityHeaders.isSome || snap.cors.isSome then
          mergeConfigResponseHeaders rt req snap mapped else pure mapped) >>=
          sendHandlerMapInline rt req (req.method = "HEAD") := by
    rw [respondWith, hmap]
    show runResponseMiddleware rt req snap.responseMiddleware mapped >>= _ = _
    refine congrArg _ (funext fun mapped => ?_)
    split
    · rfl
    · rfl
  rw [valueAnswers, hrespond, bind_run_ok hrun, bind_run_ok hconfigured]
  rfl

variable (rt req) in
/-- A response that can be sent is sent by one call. -/
theorem answers_send {mapped : HandlerMap} {status : ℕ} {body : SimpleBody} {hs : HeaderPairs}
    (hparts : mapped.parts = some (status, body, hs)) (hbody : body.encodable = true)
    (isHead : Bool) (w : World m Ref W) :
    ∃ call, answers ((sendHandlerMapInline rt req isHead mapped).run w).log = [call] ∧
      SendsParts isHead status body hs call := by
  obtain ⟨call, hsend, hcall⟩ := send_parts rt req hparts hbody isHead
  refine ⟨call, ?_, hcall⟩
  have hlog : ((respond rt req call).run w).log = [.sent call] := rfl
  rw [hsend, hlog]
  show List.filter _ [call] = _
  rw [List.filter_cons, if_pos hcall.encodable]
  rfl

end

/-- **Middlewares that change nothing.** For every value that is mapped to a response: where the
response middlewares return the `Response` they are given, the response is the one without them
if and only if there are none, or the body has a UTF-8 form and no two of the mapped headers have
the same name, those aside that are replaced by CORS headers or by the length for `HEAD`. -/
theorem identity_middlewares_iff (rt : Runtime m Ref W) (req : HttpRequest Ref)
    (snap : FrozenState m Ref) (v : PyVal Ref) (w : World m Ref W) {mapped : HandlerMap}
    {status : ℕ} {body : SimpleBody} {headers : HeaderPairs} {pairs : HeaderPairs × HeaderPairs}
    (hid : ∀ f ∈ snap.responseMiddleware, ReturnsUnchanged rt req f)
    (hmap : mapHandlerReturn rt.toInspection v = .ok mapped)
    (hparts : mapped.parts = some (status, body, headers))
    (hpairs : ReadsPairs rt req snap mapped w pairs) :
    List.Forall₂ SameResponse (valueAnswers rt req snap.withoutResponseMiddleware v w)
        (valueAnswers rt req snap v w) ↔
      snap.responseMiddleware = [] ∨ body.encodable = true ∧
        ((keptHeaders (req.method = "HEAD") pairs.2 headers).map Prod.fst).Nodup := by
  by_cases hnone : snap.responseMiddleware = []
  · have hsame : snap.withoutResponseMiddleware = snap := by
      rw [FrozenState.withoutResponseMiddleware, ← hnone]
    rw [hsame]
    exact iff_of_true (List.forall₂_same.mpr fun call _ => ⟨rfl, rfl, .refl _⟩) (.inl hnone)
  · have hmapped : mapped ≠ .alreadySent := by
      rintro rfl
      cases hparts
    obtain ⟨w', hrun⟩ := runIdentity hid hnone (mapHandlerReturn_presentable hmap) hparts w
    obtain ⟨w₁, hanswers⟩ := valueAnswers_eq (snap.withoutResponseMiddleware)
      hmap rfl hmapped hpairs.before
    obtain ⟨w₂, hanswers'⟩ := valueAnswers_eq snap hmap hrun (by rintro ⟨⟩)
      (hpairs.after _ _ _ hrun)
    have hparts' : (HandlerMap.withHeaders status (.owned body.lossy)
        (Dict.ofList headers).entries).parts =
          some (status, .owned body.lossy, (Dict.ofList headers).entries) := rfl
    obtain ⟨call', hcall', hsends'⟩ := answers_send rt req (parts_addConfigured hparts' pairs) rfl
      (req.method = "HEAD") w₂
    rw [hanswers, hanswers', hcall', or_iff_right hnone]
    cases hbody : body.encodable with
    | false =>
      rw [send_unencodable (parts_addConfigured hparts pairs) hbody]
      refine iff_of_false ?_ ?_
      · rintro ⟨⟩
      · rintro ⟨⟨⟩, -⟩
    | true =>
      obtain ⟨call, hcall, hsends⟩ := answers_send rt req
        (parts_addConfigured hparts pairs) hbody (req.method = "HEAD") w₁
      rw [hcall, List.forall₂_cons, and_iff_left List.Forall₂.nil, and_iff_right rfl,
        ← finalHeaders_perm_iff _ body.lossy.length]
      constructor
      · intro h
        have hperm := h.headers
        rwa [hsends.headers, hsends'.headers] at hperm
      · intro hperm
        refine ⟨?_, ?_, ?_⟩
        · rw [hsends.status, hsends'.status]
        · rw [hsends.bytes, hsends'.bytes]
          rfl
        · rw [hsends.headers, hsends'.headers]
          exact hperm

-- ════════════════════════════════════════════════════════════════════════
-- Concrete runs
-- ════════════════════════════════════════════════════════════════════════

/-- A runtime where functions return their second argument. -/
def secondRuntime : Runtime segmentMatcher String Unit :=
  { plainRuntime segmentMatcher with
    call := fun f args _ w => (.ok (args.getD 1 (.text f)), w) }

/-- An application with a response middleware. -/
def loggedApp : World segmentMatcher String Unit :=
  ⟨(AppState.new true).configure (.addMiddleware "log" false true), ()⟩

theorem second_returnsUnchanged (req : HttpRequest String) (f : String) :
    ReturnsUnchanged secondRuntime req f := fun _ _ _ _ => rfl

/-- A text is answered in the same way. -/
theorem text_kept :
    List.Forall₂ SameResponse
      (valueAnswers secondRuntime (plainRequest "GET" "/")
        loggedApp.app.hotSnapshot.withoutResponseMiddleware (.text "hello") loggedApp)
      (valueAnswers secondRuntime (plainRequest "GET" "/") loggedApp.app.hotSnapshot (.text "hello")
        loggedApp) := by
  have hpairs : ReadsPairs secondRuntime (plainRequest "GET" "/") loggedApp.app.hotSnapshot
      (.simple 200 (.pyString ⟨"hello", false⟩) "text/plain; charset=utf-8") loggedApp ([], []) :=
    ⟨rfl, fun _ _ _ _ => rfl⟩
  refine (identity_middlewares_iff secondRuntime (plainRequest "GET" "/")
    loggedApp.app.hotSnapshot (.text "hello") loggedApp
    (fun f _ => second_returnsUnchanged _ f) rfl rfl hpairs).mpr (.inr ⟨rfl, ?_⟩)
  decide

/-- Of two cookies one is left. -/
theorem two_cookies_lost :
    (∀ f ∈ loggedApp.app.hotSnapshot.responseMiddleware,
        ReturnsUnchanged secondRuntime (plainRequest "GET" "/") f) ∧
      ¬ List.Forall₂ SameResponse
        (valueAnswers secondRuntime (plainRequest "GET" "/")
          loggedApp.app.hotSnapshot.withoutResponseMiddleware
          (.response (.bytes [104]) (.int 200) (.dict []) (.list [.text "a=1", .text "b=2"]))
          loggedApp)
        (valueAnswers secondRuntime (plainRequest "GET" "/") loggedApp.app.hotSnapshot
          (.response (.bytes [104]) (.int 200) (.dict []) (.list [.text "a=1", .text "b=2"]))
          loggedApp) := by
  refine ⟨fun f _ => second_returnsUnchanged _ f, ?_⟩
  have hwithout : valueAnswers secondRuntime (plainRequest "GET" "/")
      loggedApp.app.hotSnapshot.withoutResponseMiddleware
      (.response (.bytes [104]) (.int 200) (.dict []) (.list [.text "a=1", .text "b=2"])) loggedApp =
        [.responseBytes 200 [("content-type", "application/octet-stream"), ("set-cookie", "a=1"),
          ("set-cookie", "b=2")] [104]] := rfl
  have hwith : valueAnswers secondRuntime (plainRequest "GET" "/") loggedApp.app.hotSnapshot
      (.response (.bytes [104]) (.int 200) (.dict []) (.list [.text "a=1", .text "b=2"])) loggedApp =
        [.responseBytes 200 [("content-type", "application/octet-stream"), ("set-cookie", "b=2")]
          [104]] := rfl
  rw [hwithout, hwith]
  rintro (_ | ⟨h, -⟩)
  exact absurd h.headers.length_eq (by decide)

end OxyRoute
