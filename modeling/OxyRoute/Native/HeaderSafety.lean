import OxyRoute.Native.CorsObject
import OxyRoute.Native.ErrorPaths
import OxyRoute.Native.Registered
import OxyRoute.Native.SecurityHeaders
import OxyRoute.Native.Stops

/-!
# Line breaks in headers

No header of a response contains a line break. What handlers, middlewares and exception handlers
return is checked where it is mapped, what an `HTTPException` carries where it is read, and what
the request brings in reaches a header only if a configuration lists it.

## Main definitions

- `Clean` — header pairs without line breaks
- `CleanPython`, `CleanConfig` — configurations without line breaks of their own
- `SafeEvent` — no response call with a line break in its headers

## Main results

- `mapHandlerReturn_clean` — what is mapped was checked
- `stop_safe`, `dispatch_headers_clean` — no response call of a request has one
-/

namespace OxyRoute

open Routine

variable {m : Matchit} {Ref W : Type}

-- ════════════════════════════════════════════════════════════════════════
-- Strings
-- ════════════════════════════════════════════════════════════════════════

theorem containsCrlf_eq_false_iff (s : String) :
    containsCrlf s = false ↔ ∀ c ∈ s.toList, c ≠ '\r' ∧ c ≠ '\n' := by
  simp [containsCrlf]

theorem containsCrlf_append {s t : String} (hs : containsCrlf s = false)
    (ht : containsCrlf t = false) : containsCrlf (s ++ t) = false := by
  unfold containsCrlf at *
  rw [String.toList_append, List.any_append, hs, ht]
  rfl

theorem containsCrlf_joinWith {sep : String} (hsep : containsCrlf sep = false) {l : List String}
    (hl : ∀ s ∈ l, containsCrlf s = false) : containsCrlf (Text.joinWith sep l) = false := by
  induction l with
  | nil => rfl
  | cons s l ih =>
    have hs : containsCrlf s = false := hl s List.mem_cons_self
    cases l with
    | nil => exact hs
    | cons t l =>
      have hrest := ih fun u hu => hl u (List.mem_cons_of_mem s hu)
      exact containsCrlf_append (containsCrlf_append hs hsep) hrest

theorem containsCrlf_toAsciiLowercase (s : String) :
    containsCrlf (Text.toAsciiLowercase s) = containsCrlf s := by
  unfold containsCrlf Text.toAsciiLowercase
  rw [String.toList_ofList, List.any_map]
  congr 1
  funext c
  show (c.toLower == '\r' || c.toLower == '\n') = (c == '\r' || c == '\n')
  rw [Bool.eq_iff_iff]
  simp only [Bool.or_eq_true, beq_iff_eq, Text.toLower_eq_iff (show '\r'.toNat < 65 by decide),
    Text.toLower_eq_iff (show '\n'.toNat < 65 by decide)]

theorem containsCrlf_toString (n : ℕ) : containsCrlf (toString n) = false := by
  rw [containsCrlf_eq_false_iff]
  intro c hc
  have hdigit : c.isDigit = true := by
    refine Nat.isDigit_of_mem_toDigits (b := 10) (n := n) (by decide) (by decide) ?_
    rw [← Nat.toList_repr]
    exact hc
  constructor
  · rintro rfl
    revert hdigit
    decide
  · rintro rfl
    revert hdigit
    decide

-- ════════════════════════════════════════════════════════════════════════
-- Header pairs
-- ════════════════════════════════════════════════════════════════════════

/-- No name and no value contains a line break. -/
def Clean (hs : HeaderPairs) : Prop :=
  ∀ e ∈ hs, containsCrlf e.1 = false ∧ containsCrlf e.2 = false

instance (hs : HeaderPairs) : Decidable (Clean hs) :=
  inferInstanceAs (Decidable (∀ e ∈ hs, containsCrlf e.1 = false ∧ containsCrlf e.2 = false))

theorem clean_nil : Clean [] := fun e he => by cases he

theorem clean_cons {e : String × String} {hs : HeaderPairs} :
    Clean (e :: hs) ↔ (containsCrlf e.1 = false ∧ containsCrlf e.2 = false) ∧ Clean hs :=
  List.forall_mem_cons

theorem Clean.cons {k v : String} {hs : HeaderPairs} (hk : containsCrlf k = false)
    (hv : containsCrlf v = false) (hhs : Clean hs) : Clean ((k, v) :: hs) :=
  clean_cons.mpr ⟨⟨hk, hv⟩, hhs⟩

theorem Clean.append {hs hs' : HeaderPairs} (h : Clean hs) (h' : Clean hs') :
    Clean (hs ++ hs') := by
  intro e he
  rcases List.mem_append.mp he with he | he
  · exact h e he
  · exact h' e he

theorem Clean.filter {hs : HeaderPairs} (h : Clean hs) (p : String × String → Bool) :
    Clean (hs.filter p) := fun e he => h e (List.mem_filter.mp he).1

theorem Clean.ite {p : Prop} [Decidable p] {hs hs' : HeaderPairs} (h : Clean hs)
    (h' : Clean hs') : Clean (if p then hs else hs') := by
  split
  · exact h
  · exact h'

theorem Clean.buildHeaderListFromPairs {hs : HeaderPairs} (h : Clean hs) :
    Clean (buildHeaderListFromPairs hs) := by
  intro e he
  obtain ⟨e', he', rfl⟩ := List.mem_map.mp he
  rw [containsCrlf_toAsciiLowercase]
  exact h e' he'

-- ════════════════════════════════════════════════════════════════════════
-- Configurations
-- ════════════════════════════════════════════════════════════════════════

/-- The strings of a CORS configuration contain no line break. -/
structure CorsConfig.Clean (cfg : CorsConfig) : Prop where
  origins : ∀ s ∈ cfg.allowOrigins, containsCrlf s = false
  methods : ∀ s ∈ cfg.allowMethods, containsCrlf s = false
  headers : ∀ s ∈ cfg.allowHeaders, containsCrlf s = false
  exposed : ∀ s ∈ cfg.exposeHeaders, containsCrlf s = false

/-- The strings of a security header configuration contain no line break. -/
structure CompiledSecurityHeadersConfig.Clean (cfg : CompiledSecurityHeadersConfig) : Prop where
  values : ∀ v ∈ [cfg.hsts, cfg.xContentTypeOptions, cfg.xFrameOptions, cfg.referrerPolicy,
    cfg.contentSecurityPolicy, cfg.permissionsPolicy], ∀ s, v = some s → containsCrlf s = false
  extra : OxyRoute.Clean cfg.extra

/-- The strings of a security header configuration in Python contain no line break. -/
structure SecurityHeadersConfig.Clean (cfg : SecurityHeadersConfig) : Prop where
  values : ∀ v ∈ [cfg.hsts, cfg.xContentTypeOptions, cfg.xFrameOptions, cfg.referrerPolicy,
    cfg.contentSecurityPolicy, cfg.permissionsPolicy], ∀ s, v = some s → containsCrlf s.text = false
  extra : ∀ e ∈ cfg.extra.entries, containsCrlf e.1.text = false ∧ containsCrlf e.2.text = false

/-- The interpreter runs `response_header_pairs` of a security header configuration. -/
def RunsSecurityHeaderPairs (rt : Runtime m Ref W) (req : HttpRequest Ref) (config : Ref)
    (cfg : SecurityHeadersConfig) (lower : String → String) (scheme : String) : Prop :=
  ∀ w, rt.callMethod config "response_header_pairs" [.object req.scope] w =
    (.ok (.list ((cfg.responseHeaderPairs lower scheme).map fun e => .tuple [.str e.1, .str e.2])), w)

/-- A configuration that Python is asked for its pairs: an object of one of the two classes with no
line break in its strings, or another one, whose pairs have none. -/
inductive CleanPython (rt : Runtime m Ref W) (req : HttpRequest Ref) (config : Ref) : Prop
  | cors (o : CorsObject) (header : String → String) : o.fields.Clean →
      RunsResponseHeaderPairs rt req config o header → CleanPython rt req config
  | security (cfg : SecurityHeadersConfig) (lower : String → String) (scheme : String) :
      cfg.Clean → RunsSecurityHeaderPairs rt req config cfg lower scheme →
      CleanPython rt req config
  | other : Yields Clean (configHeaderPairs rt req config) → CleanPython rt req config

/-- No configuration of the application brings a line break into a header. -/
structure CleanConfig (rt : Runtime m Ref W) (req : HttpRequest Ref) (snap : FrozenState m Ref) :
    Prop where
  cors : ∀ cors, snap.compiledCors = some cors →
    ∃ cfg : CorsConfig, cfg.Clean ∧ cors = .fromPy cfg
  security : ∀ sec, snap.compiledSecurityHeaders = some sec → sec.Clean
  python : ∀ config, snap.cors = some config ∨ snap.securityHeaders = some config →
    CleanPython rt req config

theorem selectAllowOrigin_clean {cfg : CorsConfig} (h : cfg.Clean) {origin selected : String}
    (hsel : (CompiledCorsConfig.fromPy cfg).selectAllowOrigin origin = some selected) :
    containsCrlf selected = false := by
  have hlisted : origin ∈ cfg.allowOrigins → some origin = some selected →
      containsCrlf selected = false := by
    rintro hmem ⟨⟩
    exact h.origins origin hmem
  unfold CompiledCorsConfig.selectAllowOrigin at hsel
  split at hsel
  · cases hsel
  · split at hsel
    · split at hsel
      · exact hlisted ‹_› hsel
      · cases hsel
    · split at hsel
      · cases hsel
        decide
      · split at hsel
        · exact hlisted ‹_› hsel
        · cases hsel

/-- White space separates the parts of a header list, so no part has a line break. -/
theorem headerListParts_clean (raw : String) :
    ∀ p ∈ CompiledCorsConfig.headerListParts raw, containsCrlf p = false := by
  intro p hp
  obtain ⟨cs, hcs, rfl⟩ := List.mem_map.mp hp
  have hmem := (List.mem_filter.mp hcs).1
  rw [containsCrlf_eq_false_iff, String.toList_ofList]
  intro c hc
  have hsep := Text.forall_mem_splitOnP _ hmem c hc
  constructor
  · rintro rfl
    revert hsep
    decide
  · rintro rfl
    revert hsep
    decide

theorem preflightAllowHeaders_clean {cfg : CorsConfig} (h : cfg.Clean) {raw allowed : String}
    (hallow : (CompiledCorsConfig.fromPy cfg).preflightAllowHeaders raw = some allowed) :
    containsCrlf allowed = false := by
  have hsep : containsCrlf ", " = false := by decide
  unfold CompiledCorsConfig.preflightAllowHeaders at hallow
  split at hallow
  · cases hallow
    decide
  · dsimp only at hallow
    split at hallow
    · cases hallow
      exact containsCrlf_joinWith hsep h.headers
    · split at hallow
      · cases hallow
      · cases hallow
        exact containsCrlf_joinWith hsep (headerListParts_clean raw)

theorem optionalHeader_clean {name : String} (hname : containsCrlf name = false)
    {value : Option String} (hvalue : ∀ s, value = some s → containsCrlf s = false) :
    Clean (optionalHeader name value) := by
  cases value with
  | none => exact clean_nil
  | some v => exact .cons hname (hvalue v rfl) clean_nil

theorem fromPy_maxAge_clean (cfg : CorsConfig) :
    ∀ s, (CompiledCorsConfig.fromPy cfg).maxAgeHeader = some s → containsCrlf s = false := by
  intro s hs
  obtain ⟨n, -, rfl⟩ := Option.map_eq_some_iff.mp hs
  exact containsCrlf_toString n

theorem fromPy_exposed_clean {cfg : CorsConfig} (h : cfg.Clean) :
    ∀ s, (CompiledCorsConfig.fromPy cfg).exposeHeadersHeader = some s →
      containsCrlf s = false := by
  intro s hs
  unfold CompiledCorsConfig.fromPy at hs
  by_cases he : cfg.exposeHeaders = []
  · simp only [he, if_true, reduceCtorEq] at hs
  · simp only [he, if_false, Option.some.injEq] at hs
    rw [← hs]
    exact containsCrlf_joinWith (by decide) h.exposed

theorem handlePreflight_clean {cfg : CorsConfig} (h : cfg.Clean) {acrm origin ach : String}
    {headers : HeaderPairs}
    (hok : (CompiledCorsConfig.fromPy cfg).handlePreflight acrm origin ach = .ok headers) :
    Clean headers := by
  unfold CompiledCorsConfig.handlePreflight at hok
  dsimp only at hok
  split at hok
  · cases hok
  · split at hok
    · cases hok
    · next selected hsel =>
      split at hok
      · cases hok
      · next allowed hallow =>
        cases hok
        have hmethods : containsCrlf (Text.joinWith ", " cfg.allowMethods) = false :=
          containsCrlf_joinWith (by decide) h.methods
        have hfixed : Clean [("Access-Control-Allow-Origin", selected),
            ("Access-Control-Allow-Methods", Text.joinWith ", " cfg.allowMethods),
            ("Access-Control-Allow-Headers", allowed)] :=
          .cons (by decide) (selectAllowOrigin_clean h hsel) (.cons (by decide) hmethods
            (.cons (by decide) (preflightAllowHeaders_clean h hallow) clean_nil))
        have hname : containsCrlf "Access-Control-Max-Age" = false := by decide
        have hmaxAge := optionalHeader_clean hname (fromPy_maxAge_clean cfg)
        refine ((hfixed.append ?_).append hmaxAge).append ?_
        · exact .ite (.cons (by decide) (by decide) clean_nil) clean_nil
        · exact .ite (.cons (by decide) (by decide) clean_nil) clean_nil

theorem corsHeaders_clean {cfg : CorsConfig} (h : cfg.Clean) (origin : String) :
    Clean ((CompiledCorsConfig.fromPy cfg).responseHeaderPairs origin) := by
  unfold CompiledCorsConfig.responseHeaderPairs
  split
  · exact clean_nil
  · next selected hsel =>
    have horigin : Clean [("Access-Control-Allow-Origin", selected)] :=
      .cons (by decide) (selectAllowOrigin_clean h hsel) clean_nil
    have hname : containsCrlf "Access-Control-Expose-Headers" = false := by decide
    have hexposed := optionalHeader_clean hname (fromPy_exposed_clean h)
    refine ((horigin.append ?_).append hexposed).append ?_
    · exact .ite (.cons (by decide) (by decide) clean_nil) clean_nil
    · exact .ite (.cons (by decide) (by decide) clean_nil) clean_nil

theorem securityHeaders_clean {cfg : CompiledSecurityHeadersConfig} (h : cfg.Clean)
    (scheme : String) : Clean (cfg.responseHeaderPairs scheme) := by
  have hvalues := h.values
  simp only [List.forall_mem_cons] at hvalues
  obtain ⟨hhsts, hoptions, hframe, hreferrer, hcsp, hpermissions, -⟩ := hvalues
  unfold CompiledSecurityHeadersConfig.responseHeaderPairs
  refine .append (.append (.append (.append (.append (.append ?_ ?_) ?_) ?_) ?_) ?_) h.extra
  · exact .ite (optionalHeader_clean (by decide) hhsts) clean_nil
  · exact optionalHeader_clean (by decide) hoptions
  · exact optionalHeader_clean (by decide) hframe
  · exact optionalHeader_clean (by decide) hreferrer
  · exact optionalHeader_clean (by decide) hcsp
  · exact optionalHeader_clean (by decide) hpermissions

/-- Names and values in Python without line breaks. -/
def CleanPyPairs (pairs : PyPairs) : Prop :=
  ∀ e ∈ pairs, containsCrlf e.1.text = false ∧ containsCrlf e.2.text = false

theorem CleanPyPairs.append {pairs pairs' : PyPairs} (h : CleanPyPairs pairs)
    (h' : CleanPyPairs pairs') : CleanPyPairs (pairs ++ pairs') := by
  intro e he
  rcases List.mem_append.mp he with he | he
  · exact h e he
  · exact h' e he

theorem truthyHeader_clean {name : String} (hname : containsCrlf name = false)
    {value : Option PyStr} (hvalue : ∀ s, value = some s → containsCrlf s.text = false) :
    CleanPyPairs (truthyHeader name value) := by
  cases value with
  | none => exact fun e he => absurd he List.not_mem_nil
  | some v =>
    show CleanPyPairs (if v.truthy then [(.ofText name, v)] else [])
    split
    · intro e he
      rw [List.mem_singleton.mp he]
      exact ⟨hname, hvalue v rfl⟩
    · exact fun e he => absurd he List.not_mem_nil

/-- The pairs of a security header configuration consist of its strings. -/
theorem SecurityHeadersConfig.Clean.pairs {cfg : SecurityHeadersConfig} (h : cfg.Clean)
    (lower : String → String) (scheme : String) :
    CleanPyPairs (cfg.responseHeaderPairs lower scheme) := by
  have hvalues := h.values
  simp only [List.forall_mem_cons] at hvalues
  obtain ⟨hhsts, hoptions, hframe, hreferrer, hcsp, hpermissions, -⟩ := hvalues
  unfold SecurityHeadersConfig.responseHeaderPairs
  refine .append (.append (.append (.append (.append (.append ?_ ?_) ?_) ?_) ?_) ?_) h.extra
  · split
    · exact truthyHeader_clean (by decide) hhsts
    · exact fun e he => absurd he List.not_mem_nil
  · exact truthyHeader_clean (by decide) hoptions
  · exact truthyHeader_clean (by decide) hframe
  · exact truthyHeader_clean (by decide) hreferrer
  · exact truthyHeader_clean (by decide) hcsp
  · exact truthyHeader_clean (by decide) hpermissions

/-- What is read from pairs without line breaks has none. -/
theorem extractPairs_clean {py : Inspection Ref} {pairs : PyPairs} (h : CleanPyPairs pairs)
    {out : HeaderPairs}
    (hout : extractPairs py (.list (pairs.map fun e => .tuple [.str e.1, .str e.2])) = .ok out) :
    Clean out := by
  have hmap : (pairs.map fun e => PyVal.tuple [.str e.1, .str e.2]).mapM (extractPair py) =
      .ok out := hout
  have htext {s : PyStr} {t : String} (hs : extractString py (.str s) = .ok t) : t = s.text := by
    unfold extractString PyStr.toStr at hs
    dsimp only at hs
    split at hs
    · cases hs
    · exact (Except.ok.inj hs).symm
  induction pairs generalizing out with
  | nil =>
    cases hmap
    exact clean_nil
  | cons e pairs ih =>
    rw [List.map_cons, List.mapM_cons] at hmap
    obtain ⟨pair, hpair, hmap⟩ := Except.of_bind_eq_ok hmap
    obtain ⟨rest, hrest, hmap⟩ := Except.of_bind_eq_ok hmap
    obtain ⟨k, hk, hpair⟩ := Except.of_bind_eq_ok hpair
    obtain ⟨v, hv, hpair⟩ := Except.of_bind_eq_ok hpair
    cases hpair
    cases hmap
    obtain ⟨he, hpairs⟩ := List.forall_mem_cons.mp h
    refine .cons ?_ ?_ (ih hpairs hrest hrest)
    · rw [htext hk]
      exact he.1
    · rw [htext hv]
      exact he.2

/-- A configuration in Python brings no line break in. -/
theorem CleanPython.yields {rt : Runtime m Ref W} {req : HttpRequest Ref} {config : Ref}
    (h : CleanPython rt req config) : Yields Clean (configHeaderPairs rt req config) := by
  have hruns {pairs : PyPairs} (hclean : CleanPyPairs pairs)
      (hcall : ∀ w, rt.callMethod config "response_header_pairs" [.object req.scope] w =
        (.ok (.list (pairs.map fun e => .tuple [.str e.1, .str e.2])), w)) :
      Yields Clean (configHeaderPairs rt req config) := by
    refine (yields_effect (R := fun v => v = .list (pairs.map fun e => .tuple [.str e.1, .str e.2]))
      fun w v hv => ?_).bind ?_
    · rw [hcall w] at hv
      exact (Except.ok.inj hv).symm
    · rintro v rfl
      exact yields_ofExcept fun out hout => extractPairs_clean hclean hout
  cases h with
  | cors o header hclean hcall =>
    have hpairs : Clean (o.responseHeaderPairs header) := by
      rw [← CorsObject.responseHeaderPairs_eq]
      exact corsHeaders_clean hclean _
    have hclean : CleanPyPairs (toPython (o.responseHeaderPairs header)) := by
      intro e he
      obtain ⟨e', he', rfl⟩ := List.mem_map.mp he
      exact hpairs e' he'
    refine hruns hclean fun w => ?_
    rw [hcall w, toPython, List.map_map]
    rfl
  | security cfg lower scheme hclean hcall => exact hruns (hclean.pairs lower scheme) hcall
  | other hyields => exact hyields

-- ════════════════════════════════════════════════════════════════════════
-- Mapped values
-- ════════════════════════════════════════════════════════════════════════

/-- The headers of a mapped response contain no line break. -/
def HandlerMap.Clean : HandlerMap → Prop
  | .alreadySent => True
  | .withHeaders _ _ headers => OxyRoute.Clean headers
  | .simple _ _ contentType => containsCrlf contentType = false

theorem headerPairs_clean {py : Inspection Ref} {d : List (PyVal Ref × PyVal Ref)}
    {hs : HeaderPairs} (h : headerPairs py d = .ok hs) : Clean hs := by
  induction d generalizing hs with
  | nil =>
    cases h
    exact clean_nil
  | cons e d ih =>
    obtain ⟨key, -, h⟩ := Except.of_bind_eq_ok h
    obtain ⟨val, -, h⟩ := Except.of_bind_eq_ok h
    by_cases hbreak : containsCrlf key = true ∨ containsCrlf val = true
    · rw [if_pos hbreak] at h
      cases h
    · rw [if_neg hbreak] at h
      obtain ⟨rest, hrest, h⟩ := Except.of_bind_eq_ok h
      cases h
      rw [not_or, Bool.not_eq_true, Bool.not_eq_true] at hbreak
      exact .cons hbreak.1 hbreak.2 (ih hrest)

theorem containsCrlf_of_safe {s : String} (h : isUnsafeCookieLine s = false) :
    containsCrlf s = false := by
  rw [containsCrlf_eq_false_iff]
  intro c hc
  have hsafe := List.any_eq_false.mp h c hc
  rw [Bool.not_eq_true, Bool.or_eq_false_iff, Bool.or_eq_false_iff] at hsafe
  exact ⟨ne_of_beq_false hsafe.1.1, ne_of_beq_false hsafe.1.2⟩

theorem cookiePairs_clean {py : Inspection Ref} {items : List (PyVal Ref)} {hs : HeaderPairs}
    (h : cookiePairs py items = .ok hs) : Clean hs := by
  induction items generalizing hs with
  | nil =>
    cases h
    exact clean_nil
  | cons item items ih =>
    obtain ⟨s, -, h⟩ := Except.of_bind_eq_ok h
    by_cases hunsafe : isUnsafeCookieLine s = true
    · rw [if_pos hunsafe] at h
      cases h
    · rw [if_neg hunsafe] at h
      obtain ⟨rest, hrest, h⟩ := Except.of_bind_eq_ok h
      cases h
      exact .cons (by decide) (containsCrlf_of_safe (Bool.eq_false_iff.mpr hunsafe)) (ih hrest)

theorem valueToBytesAndCt_clean {py : Inspection Ref} {v : PyVal Ref} {r : List UInt8 × String}
    (h : valueToBytesAndCt py v = .ok r) : containsCrlf r.2 = false := by
  have hjson {v : PyVal Ref} (h : (do
      return (← py.jsonBytes v, "application/json; charset=utf-8")) = Except.ok r) :
      containsCrlf r.2 = false := by
    obtain ⟨bytes, -, h⟩ := Except.of_bind_eq_ok h
    cases h
    show containsCrlf "application/json; charset=utf-8" = false
    decide
  unfold valueToBytesAndCt at h
  split at h
  · cases h
    show containsCrlf "text/plain; charset=utf-8" = false
    decide
  · cases h
    show containsCrlf "text/plain; charset=utf-8" = false
    decide
  · cases h
    show containsCrlf "application/octet-stream" = false
    decide
  · exact hjson h
  · exact hjson h
  · exact hjson h
  · dsimp only at h
    split at h
    · cases h
      show containsCrlf "application/octet-stream" = false
      decide
    · exact hjson h

theorem structuredHeaders_clean {py : Inspection Ref} {headers : Option (PyVal Ref)}
    {hs : HeaderPairs} (h : structuredHeaders py headers = .ok hs) : Clean hs := by
  unfold structuredHeaders at h
  split at h
  · cases h
    exact clean_nil
  · cases h
    exact clean_nil
  · exact headerPairs_clean h
  · cases h

theorem structuredCookies_clean {py : Inspection Ref} {cookies : Option (PyVal Ref)}
    {hs : HeaderPairs} (h : structuredCookies py cookies = .ok hs) : Clean hs := by
  unfold structuredCookies at h
  split at h
  · cases h
    exact clean_nil
  · cases h
    exact clean_nil
  · exact cookiePairs_clean h
  · cases h

theorem structuredFromStatusBody_clean {py : Inspection Ref} {st body : PyVal Ref}
    {headers cookies : Option (PyVal Ref)} {mapped : HandlerMap}
    (h : structuredFromStatusBody py st body headers cookies = .ok mapped) : mapped.Clean := by
  rw [structuredFromStatusBody_eq] at h
  obtain ⟨status, -, h⟩ := Except.of_bind_eq_ok h
  obtain ⟨typed, htyped, h⟩ := Except.of_bind_eq_ok h
  obtain ⟨pairs, hpairs, h⟩ := Except.of_bind_eq_ok h
  obtain ⟨cookies, hcookies, h⟩ := Except.of_bind_eq_ok h
  cases h
  have hpairs : Clean pairs := structuredHeaders_clean hpairs
  have htyped : Clean (("content-type", typed.2) :: pairs) :=
    .cons (by decide) (valueToBytesAndCt_clean htyped) hpairs
  exact Clean.append (hpairs.ite htyped) (structuredCookies_clean hcookies)

/-- What a value is mapped to: nothing more to send, a body with a fixed content type, or a
structured response. -/
theorem mapHandlerReturn_cases {py : Inspection Ref} {v : PyVal Ref} {mapped : HandlerMap}
    (h : mapHandlerReturn py v = .ok mapped) :
    mapped = .alreadySent ∨
      (∃ status body contentType, mapped = .simple status body contentType ∧ status ≤ 599 ∧
        contentType ∈ ["text/plain; charset=utf-8", "application/octet-stream",
          "application/json; charset=utf-8"]) ∨
      ∃ st body headers cookies, structuredFromStatusBody py st body headers cookies = .ok mapped := by
  have hsimple {status : ℕ} {body : SimpleBody} {contentType : String} (hstatus : status ≤ 599)
      (hct : contentType ∈ ["text/plain; charset=utf-8", "application/octet-stream",
        "application/json; charset=utf-8"]) :
      HandlerMap.simple status body contentType = .alreadySent ∨
        (∃ status' body' contentType', HandlerMap.simple status body contentType =
          .simple status' body' contentType' ∧ status' ≤ 599 ∧
          contentType' ∈ ["text/plain; charset=utf-8", "application/octet-stream",
            "application/json; charset=utf-8"]) ∨
        ∃ st bd headers cookies, structuredFromStatusBody py st bd headers cookies =
          .ok (.simple status body contentType) :=
    .inr (.inl ⟨_, _, _, rfl, hstatus, hct⟩)
  have hjson {v : PyVal Ref} {mapped : HandlerMap} (h : jsonResponse py v = .ok mapped) :
      ∃ body, mapped = .simple 200 body "application/json; charset=utf-8" := by
    obtain ⟨bytes, -, h⟩ := Except.of_bind_eq_ok h
    cases h
    exact ⟨_, rfl⟩
  unfold mapHandlerReturn at h
  split at h
  · cases h
    exact hsimple (by decide) (by decide)
  · cases h
    exact hsimple (by decide) (by decide)
  · unfold mapDict at h
    split at h
    · dsimp only at h
      split at h
      · exact .inr (.inr ⟨_, _, _, _, h⟩)
      · split at h
        · split at h
          · next hcode =>
            cases h
            exact hsimple hcode.2 (by decide)
          · obtain ⟨body, rfl⟩ := hjson h
            exact hsimple (by decide) (by decide)
        · obtain ⟨body, rfl⟩ := hjson h
          exact hsimple (by decide) (by decide)
    · obtain ⟨body, rfl⟩ := hjson h
      exact hsimple (by decide) (by decide)
  · obtain ⟨body, rfl⟩ := hjson h
    exact hsimple (by decide) (by decide)
  · obtain ⟨body, rfl⟩ := hjson h
    exact hsimple (by decide) (by decide)
  · unfold mapObject at h
    split at h
    · cases h
      exact .inl rfl
    · obtain ⟨isResponse, -, h⟩ := Except.of_bind_eq_ok h
      split at h
      · obtain ⟨st, -, h⟩ := Except.of_bind_eq_ok h
        obtain ⟨body, -, h⟩ := Except.of_bind_eq_ok h
        obtain ⟨headers, -, h⟩ := Except.of_bind_eq_ok h
        obtain ⟨cookies, -, h⟩ := Except.of_bind_eq_ok h
        exact .inr (.inr ⟨_, _, _, _, h⟩)
      · split at h
        · cases h
          exact hsimple (by decide) (by decide)
        · obtain ⟨body, rfl⟩ := hjson h
          exact hsimple (by decide) (by decide)

/-- What is mapped was checked. -/
theorem mapHandlerReturn_clean {py : Inspection Ref} {v : PyVal Ref} {mapped : HandlerMap}
    (h : mapHandlerReturn py v = .ok mapped) : mapped.Clean := by
  rcases mapHandlerReturn_cases h with rfl | ⟨status, body, contentType, rfl, -, hct⟩ |
    ⟨st, body, headers, cookies, h⟩
  · trivial
  · have hall : ∀ s ∈ ["text/plain; charset=utf-8", "application/octet-stream",
        "application/json; charset=utf-8"], containsCrlf s = false := by decide
    exact hall contentType hct
  · exact structuredFromStatusBody_clean h

theorem HandlerMap.Clean.mergeWith {mapped : HandlerMap} (h : mapped.Clean)
    {f : HeaderPairs → HeaderPairs} (hf : ∀ hs, OxyRoute.Clean hs → OxyRoute.Clean (f hs)) :
    (mapped.mergeWith f).Clean := by
  cases mapped with
  | alreadySent => trivial
  | withHeaders status body headers => exact hf headers h
  | simple status body contentType => exact hf _ (.cons (by decide) h clean_nil)

/-- Adding clean pairs one by one, each in a way that keeps clean headers clean. -/
theorem Clean.foldl {f : HeaderPairs → String × String → HeaderPairs}
    (hf : ∀ hs e, Clean hs → Clean [e] → Clean (f hs e)) {hs extra : HeaderPairs}
    (h : Clean hs) (hextra : Clean extra) : Clean (extra.foldl f hs) := by
  induction extra generalizing hs with
  | nil => exact h
  | cons e extra ih =>
    obtain ⟨he, hextra⟩ := clean_cons.mp hextra
    exact ih (hf hs e h (clean_cons.mpr ⟨he, clean_nil⟩)) hextra

theorem mergeHeaderPairsReplace_clean {mapped : HandlerMap} (h : mapped.Clean)
    {extra : HeaderPairs} (hextra : Clean extra) : (mergeHeaderPairsReplace mapped extra).Clean := by
  unfold mergeHeaderPairsReplace
  split
  · exact h
  · refine h.mergeWith fun hs hhs => ?_
    exact hhs.foldl (fun hs e hhs he => (hhs.filter _).append he) hextra

theorem mergeHeaderPairsIfAbsent_clean {mapped : HandlerMap} (h : mapped.Clean)
    {extra : HeaderPairs} (hextra : Clean extra) :
    (mergeHeaderPairsIfAbsent mapped extra).Clean := by
  unfold mergeHeaderPairsIfAbsent
  split
  · exact h
  · refine h.mergeWith fun hs hhs => ?_
    exact hhs.foldl (fun hs e hhs he => hhs.ite (hhs.append he)) hextra

-- ════════════════════════════════════════════════════════════════════════
-- Response calls
-- ════════════════════════════════════════════════════════════════════════

/-- An event that puts no line break into a header. -/
def SafeEvent : RequestEvent Ref → Prop
  | .sent call => Clean call.headers
  | _ => True

section

variable (rt : Runtime m Ref W) (req : HttpRequest Ref) {snap : FrozenState m Ref}

theorem respond_safe {call : ProtocolCall} (h : Clean call.headers) :
    Logs SafeEvent (respond rt req call) := by
  have hlog : SafeEvent (.sent call : RequestEvent Ref) := h
  exact (logs_log hlog).bind fun _ => logs_effect _

theorem contentType_clean {contentType : String} (h : containsCrlf contentType = false) :
    Clean [("content-type", contentType)] :=
  .cons (by decide) h clean_nil

theorem sendText_safe (status : ℕ) (text : String) {contentType : String}
    (h : containsCrlf contentType = false) :
    Logs SafeEvent (sendText rt req status text contentType) :=
  Logs.ite (respond_safe rt req (contentType_clean h)) (respond_safe rt req (contentType_clean h))

theorem sendBytes_safe (status : ℕ) (body : List UInt8) {contentType : String}
    (h : containsCrlf contentType = false) :
    Logs SafeEvent (sendBytes rt req status body contentType) :=
  Logs.ite (respond_safe rt req (contentType_clean h)) (respond_safe rt req (contentType_clean h))

theorem sendWithHeaders_safe (status : ℕ) (body : List UInt8) {headers : HeaderPairs}
    (h : Clean headers) : Logs SafeEvent (sendWithHeaders rt req status body headers) :=
  Logs.ite (respond_safe rt req h.buildHeaderListFromPairs)
    (respond_safe rt req h.buildHeaderListFromPairs)

theorem sendHandlerMapInline_safe (isHead : Bool) {mapped : HandlerMap} (h : mapped.Clean) :
    Logs SafeEvent (sendHandlerMapInline rt req isHead mapped) := by
  have hlength (n : ℕ) : Clean [("content-length", toString n)] :=
    .cons (by decide) (containsCrlf_toString n) clean_nil
  unfold sendHandlerMapInline
  split
  · exact logs_pure _
  · next headers =>
    have hheaders : Clean headers := h
    exact (logs_ofExcept _).bind fun len =>
      sendWithHeaders_safe rt req _ _ ((hheaders.filter _).append (hlength len))
  · exact (logs_ofExcept _).bind fun len =>
      respond_safe rt req ((contentType_clean h).append (hlength len))
  · exact respond_safe rt req (Clean.buildHeaderListFromPairs h)
  · exact respond_safe rt req (Clean.buildHeaderListFromPairs h)
  · exact sendWithHeaders_safe rt req _ _ h
  · unfold sendSimpleBody
    split
    · exact sendBytes_safe rt req _ _ h
    · exact sendBytes_safe rt req _ _ h
    · exact (logs_ofExcept _).bind fun text => sendText_safe rt req _ text h

variable {rt req}

/-- Configured headers bring no line breaks in. -/
theorem mergeConfigResponseHeaders_clean (hconfig : CleanConfig rt req snap) {mapped : HandlerMap}
    (h : mapped.Clean) : Yields HandlerMap.Clean (mergeConfigResponseHeaders rt req snap mapped) := by
  have hsecurity {mapped : HandlerMap} (h : mapped.Clean) :
      Yields HandlerMap.Clean (mergeSecurityHeaders rt req snap mapped) := by
    unfold mergeSecurityHeaders
    split
    · next sec hsec =>
      exact yields_pure (mergeHeaderPairsIfAbsent_clean h
        (securityHeaders_clean (hconfig.security sec hsec) _))
    · next secPy _ hsec =>
      exact (hconfig.python secPy (.inr hsec)).yields.bind fun pairs hpairs =>
        yields_pure (mergeHeaderPairsIfAbsent_clean h hpairs)
    · exact yields_pure h
  have hcors {mapped : HandlerMap} (h : mapped.Clean) :
      Yields HandlerMap.Clean (mergeCorsHeaders rt req snap mapped) := by
    unfold mergeCorsHeaders
    split
    · next cors hcors =>
      obtain ⟨cfg, hcfg, rfl⟩ := hconfig.cors cors hcors
      refine (yields_ofExcept (R := fun _ => True) fun _ _ => trivial).bind fun headers _ => ?_
      split
      · exact yields_pure (mergeHeaderPairsReplace_clean h (corsHeaders_clean hcfg _))
      · exact yields_pure h
    · next corsPy _ hcors =>
      refine (yields_ofExcept (R := fun _ => True) fun _ _ => trivial).bind fun headers _ => ?_
      split
      · exact (hconfig.python corsPy (.inl hcors)).yields.bind fun pairs hpairs =>
          yields_pure (mergeHeaderPairsReplace_clean h hpairs)
      · exact yields_pure h
    · exact yields_pure h
  unfold mergeConfigResponseHeaders
  split
  · exact yields_pure h
  · exact (hsecurity h).bind fun mapped hm => hcors hm

theorem mapped_clean {py : Inspection Ref} (v : PyVal Ref) :
    Yields HandlerMap.Clean (Routine.ofExcept (mapHandlerReturn py v) : PyResult m Ref W HandlerMap) :=
  yields_ofExcept fun _ h => mapHandlerReturn_clean h

theorem runResponseMiddleware_clean (fs : List Ref) {mapped : HandlerMap} (h : mapped.Clean) :
    Yields HandlerMap.Clean (runResponseMiddleware rt req fs mapped) := by
  have hcall (f : Ref) (res : PyVal Ref) : Yields (fun _ => True)
      (Routine.effect (rt.call f [.object req.scope, res] .empty) : PyResult m Ref W (PyVal Ref)) :=
    yields_effect fun _ _ _ => trivial
  induction fs generalizing mapped with
  | nil => exact yields_pure h
  | cons f fs ih =>
    cases mapped with
    | alreadySent => exact yields_pure h
    | withHeaders status body headers =>
      exact (hcall f _).bind fun out _ => (mapped_clean out).bind fun mapped hm => ih hm
    | simple status body contentType =>
      exact (hcall f _).bind fun out _ => (mapped_clean out).bind fun mapped hm => ih hm

theorem respondWith_safe (hconfig : CleanConfig rt req snap) (v : PyVal Ref) :
    Logs SafeEvent (respondWith rt req snap v) := by
  refine (logs_ofExcept _).bind_yields (mapped_clean v) fun mapped hm => ?_
  refine (runResponseMiddleware_logs rt req _ mapped).bind_yields
    (runResponseMiddleware_clean _ hm) fun mapped hm => ?_
  split
  · exact (mergeConfigResponseHeaders_logs rt req snap mapped).bind_yields
      (mergeConfigResponseHeaders_clean hconfig hm) fun mapped hm =>
        sendHandlerMapInline_safe rt req _ hm
  · exact sendHandlerMapInline_safe rt req _ hm

-- ════════════════════════════════════════════════════════════════════════
-- Errors
-- ════════════════════════════════════════════════════════════════════════

theorem httpExceptionHeaders_clean {py : Inspection Ref} {es : List (PyVal Ref × PyVal Ref)}
    {hs : HeaderPairs} (h : httpExceptionHeaders py es = .ok (some hs)) : Clean hs := by
  induction es generalizing hs with
  | nil =>
    cases h
    exact clean_nil
  | cons e es ih =>
    obtain ⟨k, -, h⟩ := Except.of_bind_eq_ok h
    obtain ⟨v, -, h⟩ := Except.of_bind_eq_ok h
    by_cases hbreak : containsCrlf k = true ∨ containsCrlf v = true
    · rw [if_pos hbreak] at h
      cases h
    · rw [if_neg hbreak] at h
      obtain ⟨rest, hrest, h⟩ := Except.of_bind_eq_ok h
      cases rest with
      | none => cases h
      | some rest =>
        cases h
        rw [not_or, Bool.not_eq_true, Bool.not_eq_true] at hbreak
        exact .cons hbreak.1 hbreak.2 (ih hrest)

theorem httpExceptionPayload_clean {py : Inspection Ref} {err : PyErr Ref}
    {r : ℕ × List UInt8 × HeaderPairs} (h : httpExceptionPayload py err = .ok (some r)) :
    Clean r.2.2 := by
  unfold httpExceptionPayload at h
  split at h
  · split at h
    · cases h
    · split at h
      · obtain ⟨body, -, h⟩ := Except.of_bind_eq_ok h
        obtain ⟨headers, hheaders, h⟩ := Except.of_bind_eq_ok h
        cases headers with
        | none => cases h
        | some hs =>
          cases h
          exact httpExceptionHeaders_clean hheaders
      · cases h
  · cases h

theorem ensureHttpExceptionContentType_clean {hs : HeaderPairs} (h : Clean hs) :
    Clean (ensureHttpExceptionContentType hs) :=
  .ite h (.cons (by decide) (by decide) h)

variable (rt req)

theorem orRaise_safe {α : Type} {c : PyResult m Ref W α} (hc : Logs SafeEvent c) :
    Logs SafeEvent (orRaise c) :=
  hc.handle fun _ => logs_exit _

theorem finish_safe {α : Type} {c : PyResult m Ref W Unit} (hc : Logs SafeEvent c) :
    Logs SafeEvent (finish c : Dispatch m Ref W α) :=
  (orRaise_safe hc).bind fun _ => logs_exit _

theorem sendInternalError_safe (err : PyErr Ref) :
    Logs SafeEvent (sendInternalError rt req err) := by
  have hjson (text : String) : Logs SafeEvent
      (orRaise (sendText rt req 500 text "application/json; charset=utf-8")) :=
    orRaise_safe (sendText_safe rt req _ _ (by decide))
  unfold sendInternalError
  split
  · split
    · exact logs_exit _
    · exact hjson _
  · exact hjson _

theorem sendErrorFallback_safe (err : PyErr Ref) :
    Logs SafeEvent (sendErrorFallback rt req err) := by
  have hpayload : Yields (fun r => ∀ p, r = some p → Clean p.2.2)
      (Routine.ofExcept (httpExceptionPayload rt.toInspection err) : PyResult m Ref W _) := by
    refine yields_ofExcept fun r hr p hp => ?_
    rw [hp] at hr
    exact httpExceptionPayload_clean hr
  have hhttp : Logs SafeEvent (tryHttpException rt req err) := by
    refine (logs_ofExcept _).bind_yields hpayload fun payload hp => ?_
    cases payload with
    | none => exact logs_pure _
    | some r =>
      have hclean := ensureHttpExceptionContentType_clean (hp r rfl)
      exact (sendWithHeaders_safe rt req _ _ hclean).bind fun _ => logs_pure _
  refine (orRaise_safe hhttp).bind fun sent => ?_
  split
  · exact logs_pure _
  · exact sendInternalError_safe rt req err

theorem callExceptionHandler_safe (err : PyErr Ref) (h : ExceptionHandler Ref) :
    Logs SafeEvent (callExceptionHandler rt req err h) :=
  (logs_log trivial).bind fun _ => logs_effect _

theorem sendPythonErrorSync_safe (err : PyErr Ref) :
    Logs SafeEvent (sendPythonErrorSync rt req snap err) := by
  have hhandlers (hs : List (ExceptionHandler Ref)) :
      Logs SafeEvent (answerByHandlerSync rt req err hs) := by
    induction hs with
    | nil => exact logs_pure _
    | cons h hs ih =>
      refine Logs.ite ((callExceptionHandler_safe rt req err h).attempt.bind fun r => ?_) ih
      cases r with
      | error e => exact ih
      | ok res =>
        dsimp only
        split
        · exact ih
        · next mapped hmap =>
          have hm := mapHandlerReturn_clean hmap
          exact (orRaise_safe (sendHandlerMapInline_safe rt req _ hm)).bind fun _ => logs_pure _
  refine (hhandlers _).bind fun answered => ?_
  split
  · exact logs_pure _
  · exact sendErrorFallback_safe rt req err

theorem firstHandlerValue_safe (err : PyErr Ref) (hs : List (ExceptionHandler Ref)) :
    Logs SafeEvent (firstHandlerValue rt req err hs) := by
  induction hs with
  | nil => exact logs_pure _
  | cons h hs ih =>
    refine Logs.ite ((callExceptionHandler_safe rt req err h).attempt.bind fun r => ?_) ih
    cases r with
    | error e => exact ih
    | ok res => exact logs_pure _

theorem answerFrom_safe (first : Option (PyVal Ref × Bool)) :
    Logs SafeEvent (answerFrom rt req first) := by
  have hawait (res : PyVal Ref) (isAsync : Bool) :
      Logs SafeEvent (awaitHandlerValue rt res isAsync) := by
    unfold awaitHandlerValue
    split
    · split
      · exact (logs_effect _).attempt
      · exact logs_pure _
    · exact logs_pure _
  cases first with
  | none => exact logs_pure _
  | some value =>
    refine (hawait value.1 value.2).bind fun final => ?_
    cases final with
    | error e => exact (sendInternalError_safe rt req e).bind fun _ => logs_pure _
    | ok final =>
      dsimp only
      split
      · exact logs_pure _
      · next mapped hmap =>
        refine (sendHandlerMapInline_safe rt req _
          (mapHandlerReturn_clean hmap)).attempt.bind fun r => ?_
        split
        · exact logs_pure _
        · exact logs_pure _

theorem sendPythonError_safe (err : PyErr Ref) :
    Logs SafeEvent (sendPythonError rt req snap err) := by
  refine ((firstHandlerValue_safe rt req err _).bind fun first =>
    answerFrom_safe rt req first).bind fun answered => ?_
  split
  · exact logs_pure _
  · exact sendErrorFallback_safe rt req err

-- ════════════════════════════════════════════════════════════════════════
-- Requests
-- ════════════════════════════════════════════════════════════════════════

theorem allowHeader_clean (c : CompiledRouters m) (path : String) :
    containsCrlf (Text.joinWith ", " (methodsMatchingPathCompiled c path)) = false := by
  have hmask (mask : MethodMask) : ∀ s ∈ mask.toVec, containsCrlf s = false := by
    intro s hs
    obtain ⟨e, he, rfl⟩ := List.mem_map.mp hs
    have hall : ∀ e ∈ MethodMask.order, containsCrlf e.1 = false := by decide
    exact hall e (List.mem_filter.mp he).1
  have hrouters : ∀ s ∈ methodsByRouter c path, containsCrlf s = false := by
    intro s hs
    obtain ⟨e, he, rfl⟩ := List.mem_map.mp hs
    have hall : ∀ e ∈ allowOrder, containsCrlf e.1 = false := by decide
    exact hall e (List.mem_filter.mp he).1
  refine containsCrlf_joinWith (by decide) fun s hs => ?_
  unfold methodsMatchingPathCompiled at hs
  split at hs
  · split at hs
    · exact hmask _ s hs
    · exact hrouters s hs
  · exact hrouters s hs

variable {rt req}

theorem fixedCall_clean (hconfig : CleanConfig rt req snap) {call : ProtocolCall}
    (h : FixedCall rt req snap call) : Clean call.headers := by
  cases h with
  | @text status text contentType htext hct =>
    have hct : Clean [("content-type", contentType)] := by
      rcases hct with rfl | rfl
      · exact contentType_clean (by decide)
      · exact contentType_clean (by decide)
    unfold textCall
    split
    · exact hct
    · exact hct
  | notAllowed c =>
    exact .cons (by decide) (allowHeader_clean c _) (contentType_clean (by decide))
  | rateLimited limit resetSecs =>
    exact .cons (by decide) (by decide) (.cons (by decide) (containsCrlf_toString limit)
      (.cons (by decide) (by decide) (.cons (by decide) (containsCrlf_toString resetSecs)
        (.cons (by decide) (containsCrlf_toString resetSecs) clean_nil))))
  | preflight hm hcors hok =>
    obtain ⟨cfg, hcfg, rfl⟩ := hconfig.cors _ hcors
    exact (handlePreflight_clean hcfg hok).buildHeaderListFromPairs

/-- No response call of a stop has a line break in its headers. -/
theorem stop_safe (hconfig : CleanConfig rt req snap) {t : Stop Ref}
    (ht : t.Possible rt req snap) : Logs SafeEvent (t.run rt req snap) := by
  have htrivial (e : PyErr Ref) : Logs SafeEvent (failTrivial rt req snap e : Dispatch m Ref W Empty) :=
    (sendPythonErrorSync_safe rt req e).bind fun _ => logs_exit _
  have hfail (e : PyErr Ref) : Logs SafeEvent (failWith rt req snap e : Dispatch m Ref W Empty) :=
    (sendPythonError_safe rt req e).bind fun _ => logs_exit _
  cases t with
  | document =>
    refine (logs_effect _).bind fun _ => (logs_effect _).bind fun text => ?_
    have hlength : Clean [("content-type", "application/json; charset=utf-8"),
        ("content-length", toString (utf8 text).length)] :=
      .cons (by decide) (by decide) (.cons (by decide) (containsCrlf_toString _) clean_nil)
    exact Logs.ite (finish_safe (respond_safe rt req hlength))
      (finish_safe (respond_safe rt req (contentType_clean (by decide))))
  | fixed call => exact finish_safe (respond_safe rt req (fixedCall_clean hconfig ht))
  | value v =>
    refine (respondWith_safe hconfig v).attempt.bind fun r => ?_
    cases r with
    | ok u => exact logs_exit _
    | error e => exact hfail e
  | error e => exact hfail e
  | trivialValue v =>
    have hrespond : Logs SafeEvent (respondTrivial rt req snap v) := by
      refine (logs_ofExcept _).bind_yields (mapped_clean v) fun mapped hm => ?_
      exact (mergeConfigResponseHeaders_logs rt req snap mapped).bind_yields
        (mergeConfigResponseHeaders_clean hconfig hm) fun mapped hm =>
          sendHandlerMapInline_safe rt req _ hm
    refine hrespond.attempt.bind fun r => ?_
    cases r with
    | ok u => exact logs_exit _
    | error e => exact htrivial e
  | trivialError e => exact htrivial e

theorem dispatch_headers_clean (hconfig : CleanConfig rt req snap) (w : World m Ref W) :
    ∀ call ∈ responses ((dispatchWith rt req snap).run w).log, Clean call.headers := by
  have hquiet {l : List (RequestEvent Ref)} (hl : ∀ i ∈ l, NotSent i) : ∀ i ∈ l, SafeEvent i := by
    intro i hi
    have hni := hl i hi
    cases i with
    | sent call => exact hni.elim
    | _ => trivial
  have hsafe : ∀ i ∈ ((dispatchWith rt req snap).run w).log, SafeEvent i := by
    rcases dispatch_stops snap (twins_self rt req snap) w with
      ⟨r, w', l, -, ⟨hl, -⟩, -, hrun, -⟩ | ⟨t, w', l, -, ⟨hl, -⟩, ht, hrun, -⟩
    · rw [hrun]
      exact hquiet hl
    · rw [hrun, Ending.log_after, Ending.log_recast]
      intro i hi
      rcases List.mem_append.mp hi with hi | hi
      · exact hquiet hl i hi
      · exact stop_safe hconfig ht w' i hi
  intro call hcall
  obtain ⟨i, hi, hsent⟩ := List.mem_filterMap.mp hcall
  cases i with
  | sent c =>
    cases hsent
    exact hsafe _ hi
  | _ => cases hsent

end

end OxyRoute
