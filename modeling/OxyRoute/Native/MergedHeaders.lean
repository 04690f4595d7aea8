import OxyRoute.Lib.FieldList
import OxyRoute.Native.Identity

/-!
# Configured headers merged into a response

The security headers are added to a mapped response where it has none of their names, then the
CORS headers replace those of their names. Names are compared without regard to case.

## Main definitions

- `nativeSecurityPairs`, `nativeCorsPairs` — the headers of the compiled configurations
- `Merged` — what the merged headers are made of

## Main results

- `mergeConfigResponseHeaders_native` — the merge, with compiled configurations
- `configured_headers_merged` — it is idempotent, and its result is made of the three lists
-/

namespace OxyRoute

open Routine

variable {m : Matchit} {Ref W : Type}

/-- The name of a header, in lower case. -/
def fieldName (e : String × String) : String := Text.toAsciiLowercase e.1

/-- The headers of a name, in any case. -/
def headersNamed (name : String) (hs : HeaderPairs) : HeaderPairs :=
  FieldList.withKey fieldName (Text.toAsciiLowercase name) hs

/-- What merged headers are made of: those of the response, of the security headers and of CORS. -/
structure Merged (hs security cors merged : HeaderPairs) : Prop where
  /-- A security header is there, as the response has it or as it comes first. -/
  added : ∀ name, headersNamed name security ≠ [] → headersNamed name merged ≠ [] ∧
    (headersNamed name cors = [] → headersNamed name merged =
      if headersNamed name hs = [] then (headersNamed name security).take 1
      else headersNamed name hs)
  /-- A CORS header is there once. -/
  replaced : ∀ e ∈ cors, headersNamed e.1 merged = [e]
  /-- The other headers are as they were. -/
  kept : ∀ name, headersNamed name security = [] → headersNamed name cors = [] →
    headersNamed name merged = headersNamed name hs
  /-- No name is repeated that was not. -/
  unrepeated : ∀ name, (headersNamed name hs).length ≤ 1 → (headersNamed name merged).length ≤ 1

-- ════════════════════════════════════════════════════════════════════════
-- Merged lists
-- ════════════════════════════════════════════════════════════════════════

theorem addAbsent_eq (extra hs : HeaderPairs) :
    addAbsent extra hs = FieldList.addNew fieldName extra hs := rfl

theorem replaceAll_eq (extra hs : HeaderPairs) :
    replaceAll extra hs = FieldList.overwrite fieldName extra hs := rfl

theorem map_fieldName (hs : HeaderPairs) :
    hs.map fieldName = (hs.map Prod.fst).map Text.toAsciiLowercase :=
  (List.map_map ..).symm

/-- No name is twice among the CORS headers. -/
theorem nodup_corsNames (cors : CompiledCorsConfig) (origin : String) :
    ((cors.responseHeaderPairs origin).map fieldName).Nodup := by
  rw [map_fieldName]
  unfold CompiledCorsConfig.responseHeaderPairs
  cases cors.selectAllowOrigin origin with
  | none => exact List.nodup_nil
  | some selected =>
    cases cors.allowCredentials <;> cases cors.exposeHeadersHeader <;>
      by_cases hstar : selected = "*"
    all_goals simp only [hstar, List.map_append, List.map_cons, List.map_nil, if_true, if_false,
      ne_eq, not_true_eq_false, not_false_eq_true, Bool.false_eq_true]
    all_goals decide

/-- The merged headers of a name. -/
theorem headersNamed_merged {hs security cors : HeaderPairs} (hcors : (cors.map fieldName).Nodup)
    (name : String) : headersNamed name (replaceAll cors (addAbsent security hs)) =
      if headersNamed name cors = [] then
        if headersNamed name hs = [] then (headersNamed name security).take 1
        else headersNamed name hs
      else headersNamed name cors := by
  rw [replaceAll_eq, addAbsent_eq, headersNamed, FieldList.withKey_overwrite hcors,
    FieldList.withKey_addNew]
  rfl

theorem take_one_ne_nil {α : Type} {l : List α} (h : l ≠ []) : l.take 1 ≠ [] := by
  cases l with
  | nil => exact absurd rfl h
  | cons a l => exact List.cons_ne_nil a []

theorem merged_present {hs security cors : HeaderPairs} (hcors : (cors.map fieldName).Nodup)
    {name : String} (h : headersNamed name security ≠ []) :
    headersNamed name (replaceAll cors (addAbsent security hs)) ≠ [] := by
  rw [headersNamed_merged hcors]
  split
  · split
    · exact take_one_ne_nil h
    · assumption
  · assumption

/-- A list of one item at most that has an item. -/
theorem eq_singleton {α : Type} {l : List α} {a : α} (h : a ∈ l) (hlen : l.length ≤ 1) : l = [a] := by
  cases l with
  | nil => cases h
  | cons b l =>
    have hnil : l = [] := List.length_eq_zero_iff.mp (by rw [List.length_cons] at hlen; omega)
    rw [hnil, List.mem_singleton] at h
    rw [hnil, h]

theorem merged_of {hs security cors : HeaderPairs} (hcors : (cors.map fieldName).Nodup) :
    Merged hs security cors (replaceAll cors (addAbsent security hs)) where
  added name h := by
    refine ⟨merged_present hcors h, fun hno => ?_⟩
    rw [headersNamed_merged hcors, if_pos hno]
  replaced e he := by
    have hmem : e ∈ headersNamed e.1 cors := FieldList.mem_withKey.mpr ⟨he, rfl⟩
    have hlen : (headersNamed e.1 cors).length ≤ 1 := FieldList.length_withKey_le hcors _
    rw [headersNamed_merged hcors, if_neg (List.ne_nil_of_mem hmem)]
    exact eq_singleton hmem hlen
  kept name hsecurity hno := by
    rw [headersNamed_merged hcors, if_pos hno, hsecurity]
    split
    · next h => rw [h, List.take_nil]
    · rfl
  unrepeated name h := by
    rw [headersNamed_merged hcors]
    split
    · split
      · exact List.length_take_le 1 _
      · exact h
    · exact FieldList.length_withKey_le hcors _

/-- A second merge changes nothing. -/
theorem merge_merge {hs security cors : HeaderPairs} (hcors : (cors.map fieldName).Nodup) :
    replaceAll cors (addAbsent security (replaceAll cors (addAbsent security hs))) =
      replaceAll cors (addAbsent security hs) := by
  have hpresent : addAbsent security (replaceAll cors (addAbsent security hs)) =
      replaceAll cors (addAbsent security hs) := by
    apply FieldList.addNew_of_present
    intro e he
    have hne : headersNamed e.1 security ≠ [] := FieldList.withKey_ne_nil he
    exact merged_present hcors hne
  rw [hpresent]
  exact FieldList.overwrite_overwrite cors _

-- ════════════════════════════════════════════════════════════════════════
-- Merged responses
-- ════════════════════════════════════════════════════════════════════════

theorem addConfigured_alreadySent (pairs : HeaderPairs × HeaderPairs) :
    HandlerMap.alreadySent.addConfigured pairs = .alreadySent := by
  unfold HandlerMap.addConfigured mergeHeaderPairsReplace mergeHeaderPairsIfAbsent
  rw [HandlerMap.mergeWith, ite_self, HandlerMap.mergeWith, ite_self]

theorem addConfigured_withHeaders (pairs : HeaderPairs × HeaderPairs) (status : ℕ)
    (body : SimpleBody) (hs : HeaderPairs) :
    (HandlerMap.withHeaders status body hs).addConfigured pairs =
      .withHeaders status body (replaceAll pairs.2 (addAbsent pairs.1 hs)) := by
  unfold HandlerMap.addConfigured mergeHeaderPairsReplace mergeHeaderPairsIfAbsent
  by_cases hsecurity : pairs.1 = [] <;> by_cases hcors : pairs.2 = []
  all_goals simp only [hsecurity, hcors, if_true, if_false]; rfl

/-- Where there is nothing to merge a response is left as it is. -/
theorem addConfigured_simple (pairs : HeaderPairs × HeaderPairs) (status : ℕ) (body : SimpleBody)
    (contentType : String) :
    (HandlerMap.simple status body contentType).addConfigured pairs =
      if pairs = ([], []) then .simple status body contentType
      else (HandlerMap.withHeaders status body [("content-type", contentType)]).addConfigured pairs := by
  obtain ⟨security, cors⟩ := pairs
  unfold HandlerMap.addConfigured mergeHeaderPairsReplace mergeHeaderPairsIfAbsent
  by_cases hsecurity : security = [] <;> by_cases hcors : cors = []
  all_goals simp [hsecurity, hcors, HandlerMap.mergeWith]

theorem addConfigured_addConfigured {pairs : HeaderPairs × HeaderPairs}
    (hcors : (pairs.2.map fieldName).Nodup) (mapped : HandlerMap) :
    (mapped.addConfigured pairs).addConfigured pairs = mapped.addConfigured pairs := by
  have htwice (status : ℕ) (body : SimpleBody) (hs : HeaderPairs) :
      ((HandlerMap.withHeaders status body hs).addConfigured pairs).addConfigured pairs =
        (HandlerMap.withHeaders status body hs).addConfigured pairs := by
    rw [addConfigured_withHeaders, addConfigured_withHeaders, merge_merge hcors]
  cases mapped with
  | alreadySent => rw [addConfigured_alreadySent, addConfigured_alreadySent]
  | withHeaders status body hs => exact htwice status body hs
  | simple status body contentType =>
    rw [addConfigured_simple]
    by_cases hpairs : pairs = ([], [])
    · rw [if_pos hpairs, addConfigured_simple, if_pos hpairs]
    · rw [if_neg hpairs]
      exact htwice status body _

-- ════════════════════════════════════════════════════════════════════════
-- Compiled configurations
-- ════════════════════════════════════════════════════════════════════════

/-- The security headers of the compiled configuration. -/
def nativeSecurityPairs (req : HttpRequest Ref) (snap : FrozenState m Ref) : HeaderPairs :=
  match snap.compiledSecurityHeaders with
  | some sec => sec.responseHeaderPairs (req.scheme.getD "")
  | none => []

/-- The CORS headers of the compiled configuration: none without an `Origin`. -/
def nativeCorsPairs (py : Inspection Ref) (req : HttpRequest Ref) (snap : FrozenState m Ref) :
    Except (PyErr Ref) HeaderPairs :=
  match snap.compiledCors with
  | some cors => do
    let headers ← req.headers
    match headerGetLax py headers "origin" with
    | some origin => return cors.responseHeaderPairs origin
    | none => return []
  | none => return []

section

variable {rt : Runtime m Ref W} {req : HttpRequest Ref} {snap : FrozenState m Ref}

theorem securityPairs_native (hconfig : NativeConfig snap) :
    securityPairs rt req snap = pure (nativeSecurityPairs req snap) := by
  have hsome := hconfig.securityHeaders
  unfold securityPairs nativeSecurityPairs
  cases hcompiled : snap.compiledSecurityHeaders with
  | some sec => rfl
  | none =>
    rw [hcompiled, eq_comm, Option.isSome_none, Option.isSome_eq_false_iff] at hsome
    rw [Option.isNone_iff_eq_none.mp hsome]

theorem corsPairs_native (hconfig : NativeConfig snap) :
    corsPairs rt req snap = Routine.ofExcept (nativeCorsPairs rt.toInspection req snap) := by
  have hsome := hconfig.cors
  unfold corsPairs nativeCorsPairs
  cases hcompiled : snap.compiledCors with
  | some cors =>
    cases req.headers with
    | error e => rfl
    | ok headers =>
      dsimp only
      show (match headerGetLax rt.toInspection headers "origin" with
        | some origin => pure (cors.responseHeaderPairs origin)
        | none => pure []) = Routine.ofExcept (match headerGetLax rt.toInspection headers "origin" with
        | some origin => pure (cors.responseHeaderPairs origin)
        | none => pure [])
      cases headerGetLax rt.toInspection headers "origin" with
      | some origin => rfl
      | none => rfl
  | none =>
    rw [hcompiled, eq_comm, Option.isSome_none, Option.isSome_eq_false_iff] at hsome
    rw [Option.isNone_iff_eq_none.mp hsome]
    rfl

theorem nativeCorsPairs_eq {py : Inspection Ref} {headers : PyVal Ref} {cors : CompiledCorsConfig}
    (hheaders : req.headers = .ok headers) (hcompiled : snap.compiledCors = some cors) :
    nativeCorsPairs py req snap =
      .ok (((headerGetLax py headers "origin").map cors.responseHeaderPairs).getD []) := by
  unfold nativeCorsPairs
  rw [hcompiled, hheaders]
  dsimp only [bind, Except.bind]
  cases headerGetLax py headers "origin" with
  | some origin => rfl
  | none => rfl

theorem nodup_nativeCorsPairs {py : Inspection Ref} {pairs : HeaderPairs}
    (h : nativeCorsPairs py req snap = .ok pairs) : (pairs.map fieldName).Nodup := by
  unfold nativeCorsPairs at h
  cases hcompiled : snap.compiledCors with
  | none =>
    rw [hcompiled] at h
    cases h
    exact List.nodup_nil
  | some cors =>
    rw [hcompiled] at h
    obtain ⟨headers, -, h⟩ := Except.of_bind_eq_ok h
    cases horigin : headerGetLax py headers "origin" with
    | none =>
      rw [horigin] at h
      cases h
      exact List.nodup_nil
    | some origin =>
      rw [horigin] at h
      cases h
      exact nodup_corsNames cors origin

/-- With compiled configurations the merge is a pure function; it fails only where the headers of
the request cannot be read. -/
theorem mergeConfigResponseHeaders_native (hconfig : NativeConfig snap) {mapped : HandlerMap}
    (hmapped : mapped ≠ .alreadySent) :
    mergeConfigResponseHeaders rt req snap mapped =
      Routine.ofExcept (nativeCorsPairs rt.toInspection req snap) >>= fun cors =>
        pure (mapped.addConfigured (nativeSecurityPairs req snap, cors)) := by
  rw [mergeConfigResponseHeaders, if_neg hmapped, mergeSecurityHeaders_eq, bind_assoc,
    securityPairs_native hconfig, pure_bind, pure_bind, mergeCorsHeaders_eq,
    corsPairs_native hconfig]
  rfl

theorem mergeConfigResponseHeaders_of_cors (hconfig : NativeConfig snap) {cors : HeaderPairs}
    (hcors : nativeCorsPairs rt.toInspection req snap = .ok cors) (mapped : HandlerMap) :
    mergeConfigResponseHeaders rt req snap mapped =
      pure (mapped.addConfigured (nativeSecurityPairs req snap, cors)) := by
  by_cases hmapped : mapped = .alreadySent
  · rw [hmapped, addConfigured_alreadySent]
    exact if_pos rfl
  · rw [mergeConfigResponseHeaders_native hconfig hmapped, hcors]
    rfl

theorem mergeConfigResponseHeaders_of_error (hconfig : NativeConfig snap) {e : PyErr Ref}
    (hcors : nativeCorsPairs rt.toInspection req snap = .error e) {mapped : HandlerMap}
    (hmapped : mapped ≠ .alreadySent) :
    mergeConfigResponseHeaders rt req snap mapped = Routine.exit e := by
  rw [mergeConfigResponseHeaders_native hconfig hmapped, hcors]
  rfl

end

/-- The merge is idempotent, keeps status and body, and yields headers made of those of the
response, the security headers and the CORS headers. -/
theorem configured_headers_merged (rt : Runtime m Ref W) (req : HttpRequest Ref)
    (snap : FrozenState m Ref) (hconfig : NativeConfig snap) (mapped : HandlerMap) :
    mergeConfigResponseHeaders rt req snap mapped >>= mergeConfigResponseHeaders rt req snap =
        mergeConfigResponseHeaders rt req snap mapped ∧
      (∀ e, nativeCorsPairs rt.toInspection req snap = .error e → mapped ≠ .alreadySent →
        mergeConfigResponseHeaders rt req snap mapped = Routine.exit e) ∧
      ∀ cors, nativeCorsPairs rt.toInspection req snap = .ok cors →
        ∃ merged, mergeConfigResponseHeaders rt req snap mapped = pure merged ∧
          (mapped = .alreadySent → merged = .alreadySent) ∧
          ∀ status body hs, mapped.parts = some (status, body, hs) →
            ∃ hs', merged.parts = some (status, body, hs') ∧
              Merged hs (nativeSecurityPairs req snap) cors hs' := by
  refine ⟨?_, fun e he hmapped => mergeConfigResponseHeaders_of_error hconfig he hmapped,
    fun cors hcors => ?_⟩
  · by_cases hmapped : mapped = .alreadySent
    · have hsent : mergeConfigResponseHeaders rt req snap mapped = pure mapped := if_pos hmapped
      rw [hsent, pure_bind, hsent]
    cases hcors : nativeCorsPairs rt.toInspection req snap with
    | error e =>
      rw [mergeConfigResponseHeaders_of_error hconfig hcors hmapped]
      rfl
    | ok cors =>
      rw [mergeConfigResponseHeaders_of_cors hconfig hcors mapped, pure_bind,
        mergeConfigResponseHeaders_of_cors hconfig hcors,
        addConfigured_addConfigured (nodup_nativeCorsPairs hcors)]
  · refine ⟨_, mergeConfigResponseHeaders_of_cors hconfig hcors mapped, ?_, ?_⟩
    · rintro rfl
      exact addConfigured_alreadySent _
    · intro status body hs hparts
      exact ⟨_, parts_addConfigured hparts _, merged_of (nodup_nativeCorsPairs hcors)⟩

/-- An application with native CORS and one security header. -/
def presetApp : World segmentMatcher String Unit :=
  ⟨((AppState.new true).configure (.cors (some "cors") (some (.fromPy oneOrigin)))).configure
    (.securityHeaders (some "security")
      (some ⟨none, none, none, some "no-referrer", none, none, []⟩)), ()⟩

/-- A request from the origin. -/
def originRequest : HttpRequest String :=
  { plainRequest "GET" "/" with
    headers := .ok (.dict [(.text "origin", .text "https://a.example")]) }

/-- The policy of the response is kept. -/
theorem policy_kept :
    ∃ merged hs', mergeConfigResponseHeaders (plainRuntime segmentMatcher) originRequest
        presetApp.app.hotSnapshot (.withHeaders 200 (.owned []) [("referrer-policy", "origin")]) =
          pure merged ∧
      merged.parts = some (200, .owned [], hs') ∧
      Merged [("referrer-policy", "origin")] [("Referrer-Policy", "no-referrer")]
        [("Access-Control-Allow-Origin", "https://a.example"), ("Vary", "Origin")] hs' := by
  obtain ⟨-, -, hmerged⟩ := configured_headers_merged (plainRuntime segmentMatcher) originRequest
    presetApp.app.hotSnapshot ⟨rfl, rfl⟩
    (.withHeaders 200 (.owned []) [("referrer-policy", "origin")])
  obtain ⟨merged, hmerge, -, hparts⟩ := hmerged
    [("Access-Control-Allow-Origin", "https://a.example"), ("Vary", "Origin")] rfl
  obtain ⟨hs', hparts', h⟩ := hparts 200 (.owned []) [("referrer-policy", "origin")] rfl
  exact ⟨merged, hs', hmerge, hparts', h⟩

end OxyRoute
