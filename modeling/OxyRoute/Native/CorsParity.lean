import OxyRoute.Native.CorsObject
import OxyRoute.Native.Identity
import OxyRoute.Native.Middleware

/-!
# CORS in Python and compiled

What an application answers to a preflight after `apply_cors`, and which CORS headers it merges
into other responses, against the methods of the configuration object. The compiled form agrees
with the object where there is one, except that Python takes the information separators
U+001C to U+001F for white space.

## Main definitions

- `HeaderValues` — the headers of a scope as texts
- `SentAs` — a response call sends a `Response`
- `CorsObject.SplitsAlike` — the separators of a request make no difference
- `MergesPairs` — responses are sent with these CORS headers
- `CorsObject.AgreesOn` — the application does what the object says

## Main results

- `corsObject_agrees_iff` — when it does
-/

namespace OxyRoute

open Routine CompiledCorsConfig

variable {m : Matchit} {Ref W : Type}

-- ════════════════════════════════════════════════════════════════════════
-- Headers of a scope
-- ════════════════════════════════════════════════════════════════════════

/-- A text, or `None`. -/
def optionalText : Option String → PyVal Ref
  | some s => .text s
  | none => .none

/-- What the headers of a scope hold under a name: texts under names in lower case, in a dict or in
an object that may look names up in any case. -/
inductive HeaderValues (py : Inspection Ref) : PyVal Ref → (String → Option String) → Prop
  | dict {entries : List (String × String)} (hnodup : (entries.map Prod.fst).Nodup)
      (hlower : ∀ e ∈ entries, Text.toAsciiLowercase e.1 = e.1) :
      HeaderValues py (.dict (entries.map fun e => (.text e.1, .text e.2)))
        fun name => (entries.find? fun e => e.1 = name).map Prod.snd
  | object {r : Ref} {get : String → Except (PyErr Ref) (PyVal Ref)} {value : String → Option String}
      (hget : py.mappingGet r = some get)
      (hvalue : ∀ name, get name = .ok (optionalText (value name)))
      (hcase : ∀ name, value (Text.toAsciiUppercase name) = none ∨
        value (Text.toAsciiUppercase name) = value name) :
      HeaderValues py (.object r) value

/-- `str(scope.headers.get(name, "") or "")`. -/
def headerText (value : String → Option String) (name : String) : String := (value name).getD ""

variable {py : Inspection Ref} {headers : PyVal Ref} {value : String → Option String}

theorem nonEmptyString_text (py : Inspection Ref) (s : String) :
    nonEmptyString py (.text s) = (some s).filter (· ≠ "") := by
  show (if s = "" then none else some s) = _
  by_cases h : s = ""
  · rw [if_pos h, h]
    rfl
  · rw [if_neg h, Option.filter_some, if_pos (decide_eq_true h)]

theorem headerVia_eq {get : String → Except (PyErr Ref) (PyVal Ref)} {name : String}
    (hget : get name = .ok (optionalText (value name))) :
    headerVia py get name = (value name).filter (· ≠ "") := by
  unfold headerVia
  rw [hget]
  cases value name with
  | none => rfl
  | some s => exact nonEmptyString_text py s

theorem getItem_texts (entries : List (String × String)) (name : String) :
    PyVal.getItem (entries.map fun e => ((.text e.1, .text e.2) : PyVal Ref × PyVal Ref)) name =
      (entries.find? fun e => e.1 = name).map fun e => .text e.2 := by
  induction entries with
  | nil => rfl
  | cons e entries ih =>
    unfold PyVal.getItem at ih ⊢
    rw [List.map_cons, List.find?_cons, List.find?_cons]
    by_cases h : e.1 = name
    · simp [PyVal.text, h]
    · simpa [PyVal.text, h] using ih

/-- The scan of a dict without repeated names finds what stands under the name. -/
theorem findSome?_texts {entries : List (String × String)} {name : String}
    (hnodup : (entries.map Prod.fst).Nodup) {f : PyVal Ref × PyVal Ref → Option String}
    (hf : ∀ e ∈ entries, f (.text e.1, .text e.2) =
      if e.1 = name then (some e.2).filter (· ≠ "") else none) :
    (entries.map fun e => ((.text e.1, .text e.2) : PyVal Ref × PyVal Ref)).findSome? f =
      ((entries.find? fun e => e.1 = name).map Prod.snd).filter (· ≠ "") := by
  induction entries with
  | nil => rfl
  | cons e entries ih =>
    rw [List.map_cons, List.nodup_cons] at hnodup
    have ih := ih hnodup.2 fun e he => hf e (List.mem_cons_of_mem _ he)
    rw [List.map_cons, List.findSome?_cons, hf e List.mem_cons_self, List.find?_cons, ih]
    by_cases h : e.1 = name
    · have hnone : entries.find? (fun e => e.1 = name) = none := by
        apply List.find?_eq_none.mpr
        intro e' he' heq
        refine hnodup.1 (List.mem_map.mpr ⟨e', he', ?_⟩)
        rw [of_decide_eq_true heq, h]
      rw [if_pos h, hnone, decide_eq_true h]
      show _ = (some e.2).filter (· ≠ "")
      cases (some e.2).filter (· ≠ "") <;> rfl
    · rw [if_neg h, decide_eq_false h]

/-- A name in lower case is found where it stands, however it is looked up. -/
theorem HeaderValues.headerGetLax_eq (h : HeaderValues py headers value) {name : String}
    (hname : Text.toAsciiLowercase name = name) :
    headerGetLax py headers name = (value name).filter (· ≠ "") := by
  cases h with
  | @dict entries hnodup hlower =>
    unfold headerGetLax
    dsimp only
    rw [getItem_texts, findSome?_texts hnodup]
    · cases entries.find? fun e => e.1 = name with
      | none => rfl
      | some e =>
        show (nonEmptyString py (.text e.2)).or _ = (some e.2).filter _
        rw [nonEmptyString_text]
        exact Option.or_self
    · intro e he
      have hiff : Text.eqIgnoreAsciiCase e.1 name = true ↔ e.1 = name := by
        rw [Text.eqIgnoreAsciiCase, decide_eq_true_iff, hlower e he, hname]
      show (if Text.eqIgnoreAsciiCase e.1 name = true then nonEmptyString py (.text e.2) else none) = _
      rw [nonEmptyString_text]
      simp only [hiff]
  | @object r get _ hget hvalue hcase =>
    unfold headerGetLax
    dsimp only
    rw [hget]
    show (headerVia py get name).or _ = _
    rw [hname, if_neg (not_not.mpr rfl), Option.none_or, headerVia_eq (hvalue _),
      headerVia_eq (hvalue _)]
    rcases hcase name with hnone | hsame
    · rw [hnone]
      cases (value name).filter (· ≠ "") <;> split <;> rfl
    · rw [hsame]
      cases (value name).filter (· ≠ "") <;> split <;> rfl

-- ════════════════════════════════════════════════════════════════════════
-- Responses and response calls
-- ════════════════════════════════════════════════════════════════════════

/-- The same header map: no name stands twice, and the pairs are the same in some order. -/
structure SameMap (l l' : HeaderPairs) : Prop where
  perm : l.Perm l'
  nodup : (l.map Prod.fst).Nodup

/-- The headers of a response, with the content type that a text body has if none is set. -/
def TextResponse.headerPairs (r : TextResponse) : HeaderPairs :=
  match r.body with
  | some _ => withContentType "text/plain; charset=utf-8" r.headers.entries
  | none => r.headers.entries

/-- The call sends the status, the body and the header map of the response. -/
structure SentAs (r : TextResponse) (call : ProtocolCall) : Prop where
  status : call.status = r.status
  body : call.bodyBytes = utf8 (r.body.getD "")
  headers : SameMap call.headers (buildHeaderListFromPairs r.headerPairs)

/-- The call that answers a preflight. -/
def preflightCall : Except (ℕ × String) HeaderPairs → ProtocolCall
  | .ok headers => .responseEmpty 204 (buildHeaderListFromPairs headers)
  | .error (status, msg) =>
    .responseStr status [("content-type", "text/plain; charset=utf-8")] ⟨msg, false⟩

/-- What comes of a preflight: the selected origin and the allowed headers, or the reason of the
refusal. -/
def preflightVerdict (method : Bool) (selected acah : Option String) :
    Except String (String × String) :=
  if method then
    match selected with
    | none => .error "CORS origin not allowed"
    | some selected =>
      match acah with
      | none => .error "Disallowed CORS request headers"
      | some acah => .ok (selected, acah)
  else .error "Disallowed CORS method"

theorem preflightVerdict_error_ne {method : Bool} {selected acah : Option String} {msg : String}
    (h : preflightVerdict method selected acah = .error msg) : msg ≠ "" := by
  cases method with
  | false =>
    rw [← Except.error.inj h]
    decide
  | true =>
    cases selected with
    | none =>
      rw [← Except.error.inj h]
      decide
    | some selected =>
      cases acah with
      | none =>
        rw [← Except.error.inj h]
        decide
      | some acah => cases h

/-- The response of the object with a verdict. -/
def CorsObject.verdictResponse (o : CorsObject) : Except String (String × String) → TextResponse
  | .ok (selected, acah) => ⟨none, 204, o.preflightHeaders selected acah⟩
  | .error msg => ⟨some msg, 400, .empty⟩

/-- The headers of the compiled form with a verdict. -/
def CompiledCorsConfig.verdictHeaders (cfg : CompiledCorsConfig) :
    Except String (String × String) → Except (ℕ × String) HeaderPairs
  | .ok (selected, acah) => .ok (
      [("Access-Control-Allow-Origin", selected),
        ("Access-Control-Allow-Methods", cfg.allowMethodsHeader),
        ("Access-Control-Allow-Headers", acah)] ++
      (if cfg.allowCredentials then [("Access-Control-Allow-Credentials", "true")] else []) ++
      (match cfg.maxAgeHeader with
        | some maxAge => [("Access-Control-Max-Age", maxAge)]
        | none => []) ++
      (if selected ≠ "*" then [("Vary", "Origin")] else []))
  | .error msg => .error (400, msg)

theorem handlePreflight_eq (cfg : CompiledCorsConfig) (acrm origin ach : String) :
    cfg.handlePreflight acrm origin ach = cfg.verdictHeaders (preflightVerdict
      (Text.toAsciiUppercase (Text.trim acrm) ∈ cfg.allowMethodsUpper)
      (cfg.selectAllowOrigin origin) (cfg.preflightAllowHeaders ach)) := by
  unfold handlePreflight preflightVerdict
  by_cases hmethod : Text.toAsciiUppercase (Text.trim acrm) ∈ cfg.allowMethodsUpper
  · dsimp only
    rw [if_neg (not_not.mpr hmethod), if_pos (decide_eq_true hmethod)]
    cases cfg.selectAllowOrigin origin with
    | none => rfl
    | some selected =>
      cases cfg.preflightAllowHeaders ach with
      | none => rfl
      | some acah => rfl
  · dsimp only
    rw [if_pos hmethod, if_neg (by rwa [decide_eq_true_iff])]
    rfl

theorem preflightResponse_eq (case : StrCase) (o : CorsObject) {header : String → String}
    (hacrm : header "access-control-request-method" ≠ "") :
    o.preflightResponse case "OPTIONS" header = some (o.verdictResponse (preflightVerdict
      (case.upper (strStrip (header "access-control-request-method")) ∈ o.allowMethodsUpper case)
      (o.selectAllowOrigin (header "origin"))
      (o.preflightAllowHeaders case (header "access-control-request-headers")))) := by
  have hupper : case.upper "OPTIONS" = "OPTIONS" := by
    have hascii : IsAscii "OPTIONS" := by decide
    rw [case.upper_ascii hascii]
    decide
  unfold CorsObject.preflightResponse preflightVerdict
  rw [if_neg (not_not.mpr hupper)]
  dsimp only
  rw [if_neg hacrm]
  by_cases hmethod : case.upper (strStrip (header "access-control-request-method")) ∈
      o.allowMethodsUpper case
  · rw [if_neg (not_not.mpr hmethod), if_pos (decide_eq_true hmethod)]
    cases o.selectAllowOrigin (header "origin") with
    | none => rfl
    | some selected =>
      cases o.preflightAllowHeaders case (header "access-control-request-headers") with
      | none => rfl
      | some acah => rfl
  · rw [if_pos hmethod, if_neg (by rwa [decide_eq_true_iff])]
    rfl

section

variable {case : StrCase} {o : CorsObject}

theorem maxAgeHeader_eq (h : o.Compiles) :
    (fromPy o.fields).maxAgeHeader = o.maxAge.map toString := by
  show (o.maxAge.map Int.toNat).map toString = _
  cases hage : o.maxAge with
  | none => rfl
  | some n =>
    obtain ⟨k, rfl⟩ := Int.eq_ofNat_of_zero_le (h.maxAge n hage).1
    rfl

/-- The names of an accepted preflight in lower case. -/
def answerNames : List String :=
  ["access-control-allow-origin", "access-control-allow-methods", "access-control-allow-headers",
    "access-control-allow-credentials", "access-control-max-age", "vary"]

/-- The order of the headers is the only difference between the two answers. -/
theorem sameMap_answers (a b c : String × String) {credentials age vary : HeaderPairs}
    (hnames : (([a, b, c] ++ credentials ++ age ++ vary).map
      fun e => Text.toAsciiLowercase e.1).Sublist answerNames) :
    SameMap (buildHeaderListFromPairs ([a, b, c] ++ credentials ++ age ++ vary))
      (buildHeaderListFromPairs
        (Dict.ofList ([a] ++ credentials ++ [b, c] ++ age ++ vary)).entries) := by
  have hswap : ([b, c] ++ credentials).Perm (credentials ++ [b, c]) := List.perm_append_comm
  have hperm : ([a, b, c] ++ credentials ++ age ++ vary).Perm
      ([a] ++ credentials ++ [b, c] ++ age ++ vary) :=
    ((hswap.cons a).append_right age).append_right vary
  have hnodup := hnames.nodup (by decide)
  have hentries : (Dict.ofList ([a] ++ credentials ++ [b, c] ++ age ++ vary)).entries =
      [a] ++ credentials ++ [b, c] ++ age ++ vary := by
    apply Dict.entries_ofList_of_nodup
    apply List.Nodup.of_map Text.toAsciiLowercase
    rw [List.map_map]
    exact (hperm.map _).nodup_iff.mp hnodup
  rw [hentries]
  refine ⟨hperm.map _, ?_⟩
  rwa [buildHeaderListFromPairs, List.map_map]

theorem ite_names_sublist {p : Prop} [Decidable p] {name lower value : String}
    (h : Text.toAsciiLowercase name = lower) :
    ((if p then [(name, value)] else []).map fun e => Text.toAsciiLowercase e.1).Sublist [lower] := by
  split
  · rw [← h]
    exact .refl _
  · exact List.nil_sublist _

theorem answerNames_sublist {selected methods acah : String} {p q : Prop} [Decidable p]
    [Decidable q] {age : HeaderPairs}
    (hage : (age.map fun e => Text.toAsciiLowercase e.1).Sublist ["access-control-max-age"]) :
    (([("Access-Control-Allow-Origin", selected), ("Access-Control-Allow-Methods", methods),
        ("Access-Control-Allow-Headers", acah)] ++
      (if p then [("Access-Control-Allow-Credentials", "true")] else []) ++ age ++
      (if q then [("Vary", "Origin")] else [])).map fun e => Text.toAsciiLowercase e.1).Sublist
        answerNames := by
  have hfixed : (["Access-Control-Allow-Origin", "Access-Control-Allow-Methods",
      "Access-Control-Allow-Headers"].map Text.toAsciiLowercase).Sublist (answerNames.take 3) := by
    decide
  simp only [List.map_append]
  show List.Sublist _ (answerNames.take 3 ++ ["access-control-allow-credentials"] ++
    ["access-control-max-age"] ++ ["vary"])
  apply List.Sublist.append
  · apply List.Sublist.append
    · exact List.Sublist.append hfixed (ite_names_sublist (by decide))
    · exact hage
  · exact ite_names_sublist (by decide)

/-- With the same verdict both forms answer alike. -/
theorem sentAs_verdict (h : o.Compiles) (verdict : Except String (String × String)) :
    SentAs (o.verdictResponse verdict)
      (preflightCall ((fromPy o.fields).verdictHeaders verdict)) := by
  cases verdict with
  | error msg => exact ⟨rfl, rfl, .rfl, List.nodup_singleton _⟩
  | ok answer =>
    obtain ⟨selected, acah⟩ := answer
    refine ⟨rfl, (utf8_eq_nil_iff.mpr rfl).symm, ?_⟩
    show SameMap (buildHeaderListFromPairs _) (buildHeaderListFromPairs
      (o.preflightHeaders selected acah).entries)
    unfold CorsObject.preflightHeaders
    rw [maxAgeHeader_eq h]
    cases o.maxAge with
    | none => exact sameMap_answers _ _ _ (answerNames_sublist (List.nil_sublist _))
    | some n =>
      have hage : [Text.toAsciiLowercase "Access-Control-Max-Age"].Sublist
          ["access-control-max-age"] := by
        decide
      exact sameMap_answers _ _ _ (answerNames_sublist hage)

/-- A refusal is sent for a refusal with the same reason only. -/
theorem eq_of_sentAs_error {verdict : Except String (String × String)} {msg : String}
    (h : SentAs (o.verdictResponse verdict) (preflightCall (.error (400, msg)))) :
    verdict = .error msg := by
  cases verdict with
  | error msg' => exact congrArg Except.error (utf8_injective h.body).symm
  | ok answer =>
    have hstatus : 400 = 204 := h.status
    cases hstatus

-- ════════════════════════════════════════════════════════════════════════
-- One preflight
-- ════════════════════════════════════════════════════════════════════════

/-- Where the separators of a request would make a difference, the object refuses it anyway. -/
structure CorsObject.SplitsAlike (case : StrCase) (o : CorsObject) (acrm origin ach : String) :
    Prop where
  method : HasSeparator acrm → ¬ o.AllowsMethod case acrm
  headers : HasSeparator ach → o.allowHeaders ≠ ["*"] → o.AllowsMethod case acrm →
    o.AllowsOrigin origin → ¬ o.AllowsHeaders case ach

/-- The verdict of the compiled form. -/
def nativeVerdict (o : CorsObject) (acrm origin ach : String) : Except String (String × String) :=
  preflightVerdict
    (Text.toAsciiUppercase (Text.trim acrm) ∈ (fromPy o.fields).allowMethodsUpper)
    ((fromPy o.fields).selectAllowOrigin origin) ((fromPy o.fields).preflightAllowHeaders ach)

/-- The verdict of the object. -/
def pythonVerdict (case : StrCase) (o : CorsObject) (acrm origin ach : String) :
    Except String (String × String) :=
  preflightVerdict (case.upper (strStrip acrm) ∈ o.allowMethodsUpper case)
    (o.selectAllowOrigin origin) (o.preflightAllowHeaders case ach)

variable {acrm origin ach : String}

theorem nativeVerdict_eq (ho : o.Printable) (hacrm : IsAscii acrm) (hach : IsAscii ach)
    (h : o.SplitsAlike case acrm origin ach) :
    nativeVerdict o acrm origin ach = pythonVerdict case o acrm origin ach := by
  have hmethod : Text.toAsciiUppercase (Text.trim acrm) ∈ (fromPy o.fields).allowMethodsUpper ↔
      case.upper (strStrip acrm) ∈ o.allowMethodsUpper case := by
    by_cases hsep : HasSeparator acrm
    · exact iff_of_false (CorsObject.method_of_separator ho hsep)
        fun hmem => h.method hsep ((CorsObject.allowsMethod_iff case o acrm).mp hmem)
    · exact CorsObject.method_iff case ho hacrm hsep
  unfold nativeVerdict pythonVerdict
  rw [CorsObject.selectAllowOrigin_eq, decide_eq_decide.mpr hmethod]
  by_cases hallowed : case.upper (strStrip acrm) ∈ o.allowMethodsUpper case
  · rw [decide_eq_true hallowed]
    cases hselected : o.selectAllowOrigin origin with
    | none => rfl
    | some selected =>
      have horigin := (CorsObject.selectAllowOrigin_isSome_iff o origin).mp ⟨selected, hselected⟩
      have hheaders : (fromPy o.fields).preflightAllowHeaders ach =
          o.preflightAllowHeaders case ach := by
        by_cases hsep : HasSeparator ach
        · by_cases hstar : o.allowHeaders = ["*"]
          · obtain ⟨hnative, hpython⟩ := CorsObject.preflightAllowHeaders_star case hstar ach
            rw [hnative, hpython]
          · have hrefused := h.headers hsep hstar
              ((CorsObject.allowsMethod_iff case o acrm).mp hallowed) horigin
            rw [← CorsObject.preflightAllowHeaders_isSome_iff] at hrefused
            rw [CorsObject.preflightAllowHeaders_of_separator ho hstar hsep]
            exact (Option.eq_none_iff_forall_ne_some.mpr fun acah hsome =>
              hrefused ⟨acah, hsome⟩).symm
        · exact CorsObject.preflightAllowHeaders_eq case ho hach hsep
      rw [hheaders]
  · rw [decide_eq_false hallowed]
    rfl

theorem pythonVerdict_ne_method (hmethod : o.AllowsMethod case acrm) :
    pythonVerdict case o acrm origin ach ≠ .error "Disallowed CORS method" := by
  have hallowed := (CorsObject.allowsMethod_iff case o acrm).mpr hmethod
  unfold pythonVerdict
  rw [decide_eq_true hallowed]
  cases o.selectAllowOrigin origin with
  | none => exact fun h => absurd (Except.error.inj h) (by decide)
  | some selected =>
    cases o.preflightAllowHeaders case ach with
    | none => exact fun h => absurd (Except.error.inj h) (by decide)
    | some acah => exact fun h => by cases h

/-- Both forms answer a preflight alike exactly if the separators make no difference. -/
theorem sentAs_iff (ho : o.Printable) (hcompiles : o.Compiles) (hacrm : IsAscii acrm)
    (hach : IsAscii ach) :
    SentAs (o.verdictResponse (pythonVerdict case o acrm origin ach))
        (preflightCall ((fromPy o.fields).verdictHeaders (nativeVerdict o acrm origin ach))) ↔
      o.SplitsAlike case acrm origin ach := by
  constructor
  · intro hsent
    have hdiffers {msg : String} (hnative : nativeVerdict o acrm origin ach = .error msg) :
        pythonVerdict case o acrm origin ach = .error msg := by
      rw [hnative] at hsent
      exact eq_of_sentAs_error hsent
    constructor
    · intro hsep hmethod
      refine pythonVerdict_ne_method hmethod (hdiffers ?_)
      unfold nativeVerdict
      rw [decide_eq_false (CorsObject.method_of_separator ho hsep)]
      rfl
    · intro hsep hstar hmethod horigin hheaders
      obtain ⟨selected, hselected⟩ := (CorsObject.selectAllowOrigin_isSome_iff o origin).mpr horigin
      obtain ⟨acah, hacah⟩ := (CorsObject.preflightAllowHeaders_isSome_iff case o ach).mpr hheaders
      have hallowed := (CorsObject.allowsMethod_iff case o acrm).mpr hmethod
      have hpython : pythonVerdict case o acrm origin ach = .ok (selected, acah) := by
        unfold pythonVerdict
        rw [decide_eq_true hallowed, hselected, hacah]
        rfl
      by_cases hnative : Text.toAsciiUppercase (Text.trim acrm) ∈
          (fromPy o.fields).allowMethodsUpper
      · have hrefused : nativeVerdict o acrm origin ach =
            .error "Disallowed CORS request headers" := by
          unfold nativeVerdict
          rw [decide_eq_true hnative, CorsObject.selectAllowOrigin_eq, hselected,
            CorsObject.preflightAllowHeaders_of_separator ho hstar hsep]
          rfl
        have herror := hdiffers hrefused
        rw [hpython] at herror
        cases herror
      · have hrefused : nativeVerdict o acrm origin ach = .error "Disallowed CORS method" := by
          unfold nativeVerdict
          rw [decide_eq_false hnative]
          rfl
        exact pythonVerdict_ne_method hmethod (hdiffers hrefused)
  · intro h
    rw [nativeVerdict_eq ho hacrm hach h]
    exact sentAs_verdict hcompiles _

end

-- ════════════════════════════════════════════════════════════════════════
-- Applications
-- ════════════════════════════════════════════════════════════════════════

section

variable (rt : Runtime m Ref W) (req : HttpRequest Ref)

/-- The application answers with the response, and does nothing else. -/
def AnswersOnly (r : TextResponse) (w : World m Ref W) : Prop :=
  ∃ call, SentAs r call ∧ (dispatch rt req).run w = (finish (respond rt req call)).run w

/-- The last part of a response, with these CORS headers: each takes the place of the headers of its
name, after the security headers. A response that was sent already stays as it is. -/
def sendMerging (pairs : HeaderPairs) (snap : FrozenState m Ref) (mapped : HandlerMap) :
    PyResult m Ref W Unit :=
  if mapped = .alreadySent then sendHandlerMapInline rt req (req.method = "HEAD") mapped
  else do
    let mapped ← mergeSecurityHeaders rt req snap mapped
    sendHandlerMapInline rt req (req.method = "HEAD") (mergeHeaderPairsReplace mapped pairs)

/-- The CORS headers that are merged into any response are these pairs: into what a handler or a
request middleware returned, and into the response of a route that is served in the short circuit. -/
structure MergesPairs (pairs : HeaderPairs) (snap : FrozenState m Ref) : Prop where
  merged : ∀ mapped, (mergeCorsHeaders rt req snap mapped : PyResult m Ref W HandlerMap) =
    pure (mergeHeaderPairsReplace mapped pairs)
  responds : ∀ v, respondWith rt req snap v = (do
    let mapped ← Routine.ofExcept (mapHandlerReturn rt.toInspection v)
    let mapped ← runResponseMiddleware rt req snap.responseMiddleware mapped
    sendMerging rt req pairs snap mapped)
  respondsTrivial : ∀ (entry : RouteEntry Ref) (params : PathParams),
    trivialResponse rt req snap entry params = (do
      let kwargs := Dict.ofList
        (params.map fun e => (e.1, pathParamValue entry.extra.wildcardParams e))
      let out ← invokeHandler rt entry kwargs
      let mapped ← Routine.ofExcept (mapHandlerReturn rt.toInspection out)
      sendMerging rt req pairs snap mapped)

/-- However the application is set up otherwise: after `apply_cors` a preflight is answered with the
response of the object, and the pairs of the object are merged into other responses. -/
structure CorsObject.AgreesOn (config : Ref) (case : StrCase) (o : CorsObject)
    (header : String → String) (rest : W) : Prop where
  preflight : req.method = "OPTIONS" → header "access-control-request-method" ≠ "" →
    ∀ (st : AppState m Ref) corsMiddleware,
      ∃ r, o.preflightResponse case req.method header = some r ∧
        AnswersOnly rt req r ⟨st.applyCors config o corsMiddleware, rest⟩
  response : ∀ (st : AppState m Ref) corsMiddleware, MergesPairs rt req
    (o.responseHeaderPairs header) (st.applyCors config o corsMiddleware).hotSnapshot

variable {rt req} {case : StrCase} {o : CorsObject} {config : Ref}

theorem applyCors_compiledCors (st : AppState m Ref) (config : Ref) (o : CorsObject)
    (corsMiddleware : Option Ref) :
    (st.applyCors config o corsMiddleware).hotSnapshot.compiledCors = o.compiled := by
  cases corsMiddleware <;> rfl

theorem applyCors_cors (st : AppState m Ref) (config : Ref) (o : CorsObject)
    (corsMiddleware : Option Ref) :
    (st.applyCors config o corsMiddleware).hotSnapshot.cors = some config := by
  cases corsMiddleware <;> rfl

/-- Where the pairs are what is merged, responses are sent with them. -/
theorem mergesPairs_of_merged {pairs : HeaderPairs} {snap : FrozenState m Ref}
    (hcors : snap.cors.isSome) (hmerged : ∀ mapped,
      (mergeCorsHeaders rt req snap mapped : PyResult m Ref W HandlerMap) =
        pure (mergeHeaderPairsReplace mapped pairs)) : MergesPairs rt req pairs snap := by
  have hsend : ∀ mapped, (mergeConfigResponseHeaders rt req snap mapped >>= fun mapped =>
      sendHandlerMapInline rt req (req.method = "HEAD") mapped) =
        sendMerging rt req pairs snap mapped := by
    intro mapped
    unfold mergeConfigResponseHeaders sendMerging
    split
    · rw [pure_bind]
    · rw [bind_assoc]
      refine bind_congr fun mapped => ?_
      rw [hmerged, pure_bind]
  refine ⟨hmerged, fun v => ?_, fun entry params => ?_⟩
  · unfold respondWith
    rw [hcors, Bool.or_true]
    refine bind_congr fun mapped => bind_congr fun mapped => ?_
    exact hsend mapped
  · unfold trivialResponse
    refine bind_congr fun out => bind_congr fun mapped => ?_
    exact hsend mapped

theorem filter_getD (s : Option String) : (s.filter (· ≠ "")).getD "" = s.getD "" := by
  cases s with
  | none => rfl
  | some s =>
    rw [Option.filter_some]
    split
    · rfl
    · next h => exact (not_not.mp fun hne => h (decide_eq_true hne)).symm

/-- A native preflight is answered with the call for what comes of it. -/
theorem answerPreflight_eq {cfg : CompiledCorsConfig} {snap : FrozenState m Ref}
    (hsnap : snap.compiledCors = some cfg) (hheaders : req.headers = .ok headers)
    (hvalues : HeaderValues rt.toInspection headers value) (hmethod : req.method = "OPTIONS")
    (hacrm : headerText value "access-control-request-method" ≠ "") :
    answerPreflight rt req snap = finish (respond rt req (preflightCall
      (cfg.handlePreflight (headerText value "access-control-request-method")
        (headerText value "origin") (headerText value "access-control-request-headers")))) := by
  have hlook (name : String) (hname : Text.toAsciiLowercase name = name) :
      (headerGetLax rt.toInspection headers name).getD "" = headerText value name := by
    rw [hvalues.headerGetLax_eq hname, filter_getD]
    rfl
  have hfound : headerGetLax rt.toInspection headers "access-control-request-method" =
      some (headerText value "access-control-request-method") := by
    have hget := hlook "access-control-request-method" (by decide)
    cases hlax : headerGetLax rt.toInspection headers "access-control-request-method" with
    | none =>
      rw [hlax] at hget
      exact absurd hget.symm hacrm
    | some acrm =>
      rw [hlax] at hget
      exact congrArg some hget
  have hpreflight : preflight rt req snap = pure (some
      (cfg.handlePreflight (headerText value "access-control-request-method")
        (headerText value "origin") (headerText value "access-control-request-headers"))) := by
    unfold preflight
    rw [if_pos hmethod, hsnap, hheaders, ← hlook "origin" (by decide),
      ← hlook "access-control-request-headers" (by decide)]
    show (pure headers >>= _ : PyResult m Ref W _) = _
    rw [pure_bind]
    dsimp only
    rw [hfound]
  rw [answerPreflight, hpreflight, handlePreflight_eq, orRaise, handle_pure, pure_bind]
  cases hverdict : preflightVerdict _ (cfg.selectAllowOrigin (headerText value "origin"))
      (cfg.preflightAllowHeaders (headerText value "access-control-request-headers")) with
  | ok answer => rfl
  | error msg =>
    show rejectPlain rt req 400 msg = _
    rw [rejectPlain, sendText, if_neg (preflightVerdict_error_ne hverdict)]
    rfl

/-- The preflight is answered before anything else. -/
theorem dispatch_preflight (hcompiles : o.Compiles) {w : World m Ref W}
    (hw : w.app.hotSnapshot.compiledCors = o.compiled) (hheaders : req.headers = .ok headers)
    (hvalues : HeaderValues rt.toInspection headers value) (hmethod : req.method = "OPTIONS")
    (hacrm : headerText value "access-control-request-method" ≠ "") :
    (dispatch rt req).run w = (finish (respond rt req (preflightCall
      ((fromPy o.fields).verdictHeaders (nativeVerdict o
        (headerText value "access-control-request-method") (headerText value "origin")
        (headerText value "access-control-request-headers")))))).run w := by
  have hsnap : w.app.hotSnapshot.compiledCors = some (fromPy o.fields) :=
    hw.trans (CorsObject.compiled_eq hcompiles)
  have hanswer := answerPreflight_eq hsnap hheaders hvalues hmethod hacrm
  rw [handlePreflight_eq] at hanswer
  rw [dispatch, bind_run_ok (get_run w)]
  dsimp only
  rw [tryRsgiSyncShortCircuit, hanswer]
  simp only [finish_bind]
  rfl

/-- The pairs that the method returns are read as they are. -/
theorem extractPairs_tuples (py : Inspection Ref) (pairs : HeaderPairs) :
    extractPairs py (.list (pairs.map fun e => .tuple [.text e.1, .text e.2])) = .ok pairs := by
  show (pairs.map fun e => PyVal.tuple [.text e.1, .text e.2]).mapM (extractPair py) = _
  induction pairs with
  | nil => rfl
  | cons e pairs ih =>
    rw [List.map_cons, List.mapM_cons, ih]
    rfl

theorem configHeaderPairs_run {header : String → String}
    (hruns : RunsResponseHeaderPairs rt req config o header) (w : World m Ref W) :
    (configHeaderPairs rt req config).run w = ⟨.ok (o.responseHeaderPairs header), w, []⟩ := by
  have hcall : (effect (rt.callMethod config "response_header_pairs" [.object req.scope]) :
      PyResult m Ref W (PyVal Ref)).run w = ⟨.ok (.list ((o.responseHeaderPairs header).map fun e =>
        .tuple [.text e.1, .text e.2])), w, []⟩ := by
    rw [effect_run, hruns w]
  rw [configHeaderPairs, bind_run_ok hcall, extractPairs_tuples]
  rfl

/-- The pairs of the object are merged, whether it was compiled or not. -/
theorem mergesPairs (hheaders : req.headers = .ok headers)
    (hvalues : HeaderValues rt.toInspection headers value)
    (hruns : RunsResponseHeaderPairs rt req config o (headerText value)) (st : AppState m Ref)
    (corsMiddleware : Option Ref) :
    MergesPairs rt req (o.responseHeaderPairs (headerText value))
      (st.applyCors config o corsMiddleware).hotSnapshot := by
  refine mergesPairs_of_merged (Option.isSome_of_eq_some (applyCors_cors st config o
    corsMiddleware)) fun mapped => Routine.ext (funext fun w => ?_)
  have hlook : (headerGetLax rt.toInspection headers "origin").getD "" =
      headerText value "origin" := by
    rw [hvalues.headerGetLax_eq (by decide), filter_getD]
    rfl
  -- without an origin there is nothing to merge
  have hnone (horigin : headerGetLax rt.toInspection headers "origin" = none) :
      o.responseHeaderPairs (headerText value) = [] := by
    rw [horigin] at hlook
    unfold CorsObject.responseHeaderPairs
    rw [← hlook, CorsObject.selectAllowOrigin]
    rfl
  unfold mergeCorsHeaders
  rw [applyCors_compiledCors, applyCors_cors, hheaders]
  by_cases hcompiles : o.Compiles
  · rw [CorsObject.compiled_eq hcompiles]
    show ((pure headers >>= _ : PyResult m Ref W _)).run w = _
    rw [pure_bind]
    cases horigin : headerGetLax rt.toInspection headers "origin" with
    | none =>
      rw [hnone horigin]
      rfl
    | some origin =>
      rw [horigin] at hlook
      rw [← CorsObject.responseHeaderPairs_eq, ← hlook]
      rfl
  · rw [CorsObject.compiled_eq_none hcompiles]
    show ((pure headers >>= _ : PyResult m Ref W _)).run w = _
    rw [pure_bind]
    cases horigin : headerGetLax rt.toInspection headers "origin" with
    | none =>
      rw [hnone horigin]
      rfl
    | some origin =>
      have hpairs := configHeaderPairs_run hruns w
      show (configHeaderPairs rt req config >>= fun pairs =>
        pure (mergeHeaderPairsReplace mapped pairs) : PyResult m Ref W HandlerMap).run w = _
      rw [bind_run_ok hpairs]
      rfl

-- ════════════════════════════════════════════════════════════════════════
-- Without a compiled form
-- ════════════════════════════════════════════════════════════════════════

/-- The call of a 404. -/
def notFoundCall : ProtocolCall :=
  .responseStr 404 [("content-type", "text/plain; charset=utf-8")] ⟨"Not Found", false⟩

theorem snapshotRouters_empty (order : MaskOrder) {st : AppState m Ref}
    (hmasks : st.pathMethodMasks = .empty) :
    st.snapshotRouters order = some ⟨st.routers, st.websocket, .new⟩ := by
  have hnil : order.order (Dict.empty : Dict String MethodMask).entries = [] :=
    (order.perm []).eq_nil
  unfold AppState.snapshotRouters
  rw [hmasks, hnil]
  rfl

/-- The tables of an application without routes are empty. -/
theorem compiledTables_run {snap : FrozenState m Ref} (hsnap : snap.compiled = none)
    {w : World m Ref W} (hcompiled : w.app.compiled = none)
    (hmasks : w.app.pathMethodMasks = .empty) :
    ∃ w', (compiledTables rt snap).run w =
      ⟨.ok ⟨w.app.routers, w.app.websocket, .new⟩, w', []⟩ := by
  have htables : w.app.ensureCompiledSnapshot rt.maskOrder =
      some (w.app.storeCompiled ⟨w.app.routers, w.app.websocket, .new⟩,
        ⟨w.app.routers, w.app.websocket, .new⟩) := by
    unfold AppState.ensureCompiledSnapshot
    rw [hcompiled, snapshotRouters_empty rt.maskOrder hmasks]
    rfl
  refine ⟨{ w with app := w.app.storeCompiled ⟨w.app.routers, w.app.websocket, .new⟩ }, ?_⟩
  unfold compiledTables
  rw [hsnap]
  dsimp only
  rw [effect_run, htables]

/-- No route is found in empty tables, for any method. -/
theorem noRoute_new {α : Type} (websocket : Router m ℕ) :
    (noRoute rt req ⟨.new, websocket, .new⟩ : Dispatch m Ref W α) =
      finish (respond rt req notFoundCall) := by
  have hallow : methodsMatchingPathCompiled (⟨.new, websocket, .new⟩ : CompiledRouters m) req.path =
      [] := by
    unfold methodsMatchingPathCompiled
    rw [Router.atPath_new]
    unfold methodsByRouter
    have hnone (e : String × RouterKey) :
        (((⟨.new, websocket, .new⟩ : CompiledRouters m).router e.2).atPath req.path).isSome =
          false := by
      rw [MethodRouters.router_new, Router.atPath_new]
      rfl
    simp only [hnone]
    rfl
  unfold noRoute
  rw [hallow]
  rfl

/-- A preflight that no compiled form answers is not found by an application without routes. -/
theorem dispatch_not_found (hcompiles : ¬ o.Compiles) (hmethod : req.method = "OPTIONS")
    (rest : W) : ∃ w', (dispatch rt req).run
      ⟨(AppState.new false).applyCors config o none, rest⟩ =
        (finish (respond rt req notFoundCall)).run w' := by
  let w : World m Ref W := ⟨(AppState.new false).applyCors config o none, rest⟩
  let snap := w.app.hotSnapshot
  have htables : ∃ w', (compiledTables rt snap).run w =
      ⟨.ok ⟨.new, w.app.websocket, .new⟩, w', []⟩ := compiledTables_run rfl rfl rfl
  obtain ⟨w', htables⟩ := htables
  have hpreflight : answerPreflight rt req snap = pure () := by
    apply NotPreflight.answerPreflight_eq
    intro _ cors hcors
    have hnone : snap.compiledCors = none :=
      (applyCors_compiledCors _ config o none).trans (CorsObject.compiled_eq_none hcompiles)
    rw [hnone] at hcors
    cases hcors
  have hopenapi : servesOpenapi req snap = false := by
    unfold servesOpenapi
    rw [hmethod]
    rfl
  have hmatch : matchRoute rt req ⟨.new, w.app.websocket, .new⟩ =
      finish (respond rt req notFoundCall) := by
    have hlookup : matchRouteCompiled (⟨.new, w.app.websocket, .new⟩ : CompiledRouters m)
        req.method req.path = some none := by
      rw [hmethod]
      exact congrArg some (Router.atPath_new req.path)
    unfold matchRoute
    rw [hlookup]
    exact noRoute_new w.app.websocket
  refine ⟨w', ?_⟩
  show (dispatch rt req).run w = _
  rw [dispatch, bind_run_ok (get_run w)]
  show ((tryRsgiSyncShortCircuit rt req snap >>= _).run w).after [] = _
  rw [tryRsgiSyncShortCircuit, hpreflight, pure_bind, if_neg (by rintro (h | h) <;> exact h rfl),
    hopenapi]
  show ((routeTrivialSync rt req snap >>= _).run w).after [] = _
  rw [routeTrivialSync, bind_assoc, bind_run_ok htables]
  dsimp only
  rw [hmatch, bind_assoc, finish_bind]
  rfl

-- ════════════════════════════════════════════════════════════════════════
-- Agreement
-- ════════════════════════════════════════════════════════════════════════

theorem finish_respond_log (call : ProtocolCall) (w : World m Ref W) :
    ((finish (respond rt req call) : Dispatch m Ref W Unit).run w).log = [.sent call] := by
  rw [finish_respond_run]
  rcases rt.respond req.protocol call w with ⟨_ | _, w'⟩ <;> rfl

/-- Two last response calls that run alike are the same. -/
theorem call_eq_of_run {call call' : ProtocolCall} {w w' : World m Ref W}
    (h : (finish (respond rt req call) : Dispatch m Ref W Unit).run w =
      (finish (respond rt req call')).run w') : call = call' := by
  have hlog := congrArg Ending.log h
  rw [finish_respond_log, finish_respond_log] at hlog
  exact RequestEvent.sent.inj (List.head_eq_of_cons_eq hlog)

theorem CorsObject.verdictResponse_status (o : CorsObject)
    (verdict : Except String (String × String)) : (o.verdictResponse verdict).status ≠ 404 := by
  cases verdict with
  | error msg =>
    show 400 ≠ 404
    decide
  | ok answer =>
    show 204 ≠ 404
    decide

/-- An application without routes answers no preflight with a response of the object, if this was
not compiled. -/
theorem not_answersOnly (hcompiles : ¬ o.Compiles) (hmethod : req.method = "OPTIONS")
    (verdict : Except String (String × String)) (rest : W) :
    ¬ AnswersOnly rt req (o.verdictResponse verdict)
      ⟨(AppState.new false).applyCors config o none, rest⟩ := by
  rintro ⟨call, hsent, hrun⟩
  have hnotfound : ∃ w', (dispatch rt req).run
      ⟨(AppState.new false).applyCors config o none, rest⟩ =
        (finish (respond rt req notFoundCall)).run w' := dispatch_not_found hcompiles hmethod rest
  obtain ⟨w', hnotfound⟩ := hnotfound
  rw [hrun] at hnotfound
  have hstatus := hsent.status
  rw [call_eq_of_run hnotfound] at hstatus
  exact o.verdictResponse_status verdict hstatus.symm

variable (rt req) in
/-- **CORS in both languages.** For every configuration of printable texts and every request with
ASCII headers: after `apply_cors` the application answers a preflight without routing with the
response of the object, and merges the pairs of the object into every other response, exactly if
a preflight is of no concern, or the object is compiled and no information separator of the
request makes a difference. -/
theorem corsObject_agrees_iff (config : Ref) (case : StrCase) {o : CorsObject} (ho : o.Printable)
    {headers : PyVal Ref} {value : String → Option String} (hheaders : req.headers = .ok headers)
    (hvalues : HeaderValues rt.toInspection headers value)
    (hascii : ∀ name, IsAscii (headerText value name))
    (hruns : RunsResponseHeaderPairs rt req config o (headerText value)) (rest : W) :
    o.AgreesOn rt req config case (headerText value) rest ↔
      (req.method = "OPTIONS" → headerText value "access-control-request-method" ≠ "" →
        o.Compiles ∧ o.SplitsAlike case (headerText value "access-control-request-method")
          (headerText value "origin") (headerText value "access-control-request-headers")) := by
  have hverdict (hmethod : req.method = "OPTIONS")
      (hacrm : headerText value "access-control-request-method" ≠ "") :
      o.preflightResponse case req.method (headerText value) = some (o.verdictResponse
        (pythonVerdict case o (headerText value "access-control-request-method")
          (headerText value "origin") (headerText value "access-control-request-headers"))) := by
    rw [hmethod]
    exact preflightResponse_eq case o hacrm
  constructor
  · intro h hmethod hacrm
    have hcompiles : o.Compiles := by
      by_contra hno
      obtain ⟨r, hr, hanswers⟩ := h.preflight hmethod hacrm (.new false) none
      rw [hverdict hmethod hacrm] at hr
      rw [← Option.some.inj hr] at hanswers
      exact not_answersOnly hno hmethod _ rest hanswers
    obtain ⟨r, hr, call, hsent, hrun⟩ := h.preflight hmethod hacrm (.new false) none
    rw [hverdict hmethod hacrm] at hr
    rw [dispatch_preflight hcompiles (applyCors_compiledCors _ config o none) hheaders hvalues
      hmethod hacrm] at hrun
    rw [← Option.some.inj hr, ← call_eq_of_run hrun] at hsent
    exact ⟨hcompiles, (sentAs_iff ho hcompiles (hascii _) (hascii _)).mp hsent⟩
  · intro h
    refine ⟨fun hmethod hacrm st corsMiddleware => ?_,
      fun st corsMiddleware => mergesPairs hheaders hvalues hruns st corsMiddleware⟩
    obtain ⟨hcompiles, hsplits⟩ := h hmethod hacrm
    refine ⟨_, hverdict hmethod hacrm, _,
      (sentAs_iff ho hcompiles (hascii _) (hascii _)).mpr hsplits, ?_⟩
    exact dispatch_preflight hcompiles (applyCors_compiledCors st config o corsMiddleware) hheaders
      hvalues hmethod hacrm

end

/-- Case mapping of ASCII letters. -/
def asciiCase : StrCase where
  upper := Text.toAsciiUppercase
  lower := Text.toAsciiLowercase
  upper_ascii _ := rfl
  lower_ascii _ := rfl

/-- A configuration for one origin. -/
def siteCors : CorsObject where
  className := "CORSConfig"
  allowOrigins := ["https://a.example"]
  allowMethods := ["GET", "POST"]
  allowHeaders := ["X-Token"]
  exposeHeaders := ["X-Total"]
  allowCredentials := true
  maxAge := some 600

/-- The headers of a preflight. -/
def preflightEntries : List (String × String) :=
  [("origin", "https://a.example"), ("access-control-request-method", "POST"),
    ("access-control-request-headers", "x-token")]

/-- A header of this preflight. -/
def preflightValue (name : String) : Option String :=
  (preflightEntries.find? fun e => e.1 = name).map Prod.snd

/-- A preflight. -/
def preflightRequest : HttpRequest String :=
  { plainRequest "OPTIONS" "/a" with
    headers := .ok (.dict (preflightEntries.map fun e => (.text e.1, .text e.2))) }

/-- A runtime in which methods return these pairs. -/
def pairsRuntime (pairs : HeaderPairs) : Runtime segmentMatcher String Unit :=
  { plainRuntime segmentMatcher with
    callMethod := fun _ _ _ w => (.ok (.list (pairs.map fun e => .tuple [.text e.1, .text e.2])), w) }

theorem isAscii_preflightValue (name : String) : IsAscii (headerText preflightValue name) := by
  have hall : ∀ e ∈ preflightEntries, IsAscii e.2 := by decide
  unfold headerText preflightValue
  cases hfind : preflightEntries.find? fun e => e.1 = name with
  | none => exact fun c hc => by cases hc
  | some e => exact hall e (List.mem_of_find?_eq_some hfind)

/-- The preflight is answered as the configuration says. -/
theorem site_agrees :
    siteCors.AgreesOn (pairsRuntime (siteCors.responseHeaderPairs (headerText preflightValue)))
      preflightRequest "cors" asciiCase (headerText preflightValue) () := by
  have hprintable : siteCors.Printable := by
    constructor <;> decide
  have hvalues : HeaderValues
      (pairsRuntime (siteCors.responseHeaderPairs (headerText preflightValue))).toInspection
      (.dict (preflightEntries.map fun e => (.text e.1, .text e.2))) preflightValue :=
    .dict (by decide) (by decide)
  refine (corsObject_agrees_iff _ preflightRequest "cors" asciiCase hprintable rfl hvalues
    isAscii_preflightValue (fun w => rfl) ()).mpr fun _ _ => ⟨⟨rfl, ?_⟩, ?_, ?_⟩
  · rintro n ⟨⟩
    decide
  · intro hsep
    exact absurd hsep (by decide)
  · intro hsep
    exact absurd hsep (by decide)

/-- A negative age: the preflight is lost. -/
theorem negative_age_lost :
    { siteCors with maxAge := some (-1) }.compiled = none ∧
    (∃ r, { siteCors with maxAge := some (-1) }.preflightResponse asciiCase "OPTIONS"
      (headerText preflightValue) = some r ∧ r.status = 204) ∧
    ((dispatch (pairsRuntime []) preflightRequest).run ⟨(AppState.new false).applyCors "cors"
      { siteCors with maxAge := some (-1) } none, ()⟩).log = [.sent notFoundCall] ∧
    ¬ { siteCors with maxAge := some (-1) }.AgreesOn (pairsRuntime []) preflightRequest "cors"
      asciiCase (headerText preflightValue) () := by
  have hcompiles : ¬ { siteCors with maxAge := some (-1) }.Compiles :=
    fun h => absurd (h.maxAge (-1) rfl).1 (by decide)
  have hresponse := preflightResponse_eq asciiCase { siteCors with maxAge := some (-1) }
    (show headerText preflightValue "access-control-request-method" ≠ "" by decide)
  have hnotfound : ∃ w', (dispatch (pairsRuntime []) preflightRequest).run
      ⟨(AppState.new false).applyCors "cors" { siteCors with maxAge := some (-1) } none, ()⟩ =
        (finish (respond (pairsRuntime []) preflightRequest notFoundCall)).run w' :=
    dispatch_not_found hcompiles rfl ()
  refine ⟨CorsObject.compiled_eq_none hcompiles, ⟨_, hresponse, ?_⟩, ?_, fun h => ?_⟩
  · decide
  · obtain ⟨w', hrun⟩ := hnotfound
    rw [hrun, finish_respond_log]
  · obtain ⟨r, hr, hanswers⟩ := h.preflight rfl (by decide) (.new false) none
    rw [← Option.some.inj (hresponse.symm.trans hr)] at hanswers
    exact not_answersOnly hcompiles rfl _ () hanswers

end OxyRoute
