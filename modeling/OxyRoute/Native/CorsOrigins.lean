import OxyRoute.Native.Cors

/-!
# Origins that CORS lets in

Which origin the compiled configuration answers with, and what the headers with it say. The
origin of a request is compared with the allowed ones as a text, so a request can name the entry
`*` itself.

## Main definitions

- `OriginSafe` — headers that open a response to one allowed origin, or to all without credentials
- `PreflightAllowed` — the requested method and headers are allowed
- `CorsSafe` — the headers for a request are safe, and its preflight is accepted only if allowed

## Main results

- `selectAllowOrigin_eq_some_iff` — the selected origin
- `corsSafe_iff` — the headers are safe unless the request names the entry `*`
-/

namespace OxyRoute

open CompiledCorsConfig

/-- Every origin is allowed, without credentials. -/
structure CorsConfig.IsOpen (cfg : CorsConfig) : Prop where
  origins : cfg.allowOrigins = ["*"]
  credentials : cfg.allowCredentials = false

/-- The headers do not open the response to all origins with credentials; an allowed origin is `*`
only for an open configuration, and is else the origin of the request, listed and named in `Vary`.
-/
structure OriginSafe (cfg : CorsConfig) (origin : String) (pairs : HeaderPairs) : Prop where
  no_open_credentials : ¬ (("Access-Control-Allow-Origin", "*") ∈ pairs ∧
    ("Access-Control-Allow-Credentials", "true") ∈ pairs)
  allowed : ∀ value, ("Access-Control-Allow-Origin", value) ∈ pairs →
    (value = "*" ∧ cfg.IsOpen) ∨
      (value ≠ "*" ∧ value = origin ∧ value ∈ cfg.allowOrigins ∧ ("Vary", "Origin") ∈ pairs)

/-- The requested method and every requested header are allowed. -/
structure PreflightAllowed (cfg : CorsConfig) (acrm ach : String) : Prop where
  method : ∃ method ∈ cfg.allowMethods,
    Text.toAsciiUppercase method = Text.toAsciiUppercase (Text.trim acrm)
  headers : cfg.allowHeaders = ["*"] ∨ ∀ name ∈ headerListParts ach,
    ∃ header ∈ cfg.allowHeaders, header ≠ "*" ∧ Text.eqIgnoreAsciiCase header name = true

/-- What is sent for a request is safe, and its preflight is accepted only if it is allowed. -/
structure CorsSafe (cfg : CorsConfig) (acrm origin ach : String) : Prop where
  response : OriginSafe cfg origin ((fromPy cfg).responseHeaderPairs origin)
  preflight : ∀ pairs, (fromPy cfg).handlePreflight acrm origin ach = .ok pairs →
    OriginSafe cfg origin pairs ∧ PreflightAllowed cfg acrm ach

variable {cfg : CorsConfig} {acrm origin ach selected : String} {pairs : HeaderPairs}

theorem any_star_iff (l : List String) : l.any (· == "*") = true ↔ "*" ∈ l := by
  rw [List.any_eq_true]
  constructor
  · rintro ⟨s, hs, heq⟩
    rwa [beq_iff_eq.mp heq] at hs
  · exact fun h => ⟨"*", h, rfl⟩

theorem singleton_star_iff (l : List String) :
    (l.length = 1 ∧ l.any (· == "*") = true) ↔ l = ["*"] := by
  rw [any_star_iff]
  constructor
  · rintro ⟨hlen, hmem⟩
    obtain ⟨s, rfl⟩ := List.length_eq_one_iff.mp hlen
    rw [List.mem_singleton.mp hmem]
  · rintro rfl
    exact ⟨rfl, List.mem_singleton_self _⟩

theorem selectAllowOrigin_open (h : cfg.IsOpen) (horigin : origin ≠ "") :
    (fromPy cfg).selectAllowOrigin origin = some "*" := by
  have hcredentials : (fromPy cfg).allowCredentials = false := h.credentials
  have hwildcard : (fromPy cfg).allowOriginsWildcard = true := by
    show cfg.allowOrigins.any (· == "*") = true
    rw [h.origins]
    rfl
  have hguard : ¬ ((fromPy cfg).allowCredentials || !(fromPy cfg).allowOriginsWildcard) = true := by
    rw [hcredentials, hwildcard]
    decide
  have hsingle : (fromPy cfg).allowOrigins.length = 1 ∧ (fromPy cfg).allowOriginsWildcard = true :=
    (singleton_star_iff cfg.allowOrigins).mpr h.origins
  rw [selectAllowOrigin, if_neg horigin, if_neg hguard, if_pos hsingle]

theorem selectAllowOrigin_listed (h : ¬ cfg.IsOpen) (horigin : origin ≠ "") :
    (fromPy cfg).selectAllowOrigin origin =
      if origin ∈ cfg.allowOrigins then some origin else none := by
  rw [selectAllowOrigin, if_neg horigin]
  by_cases hguard : ((fromPy cfg).allowCredentials || !(fromPy cfg).allowOriginsWildcard) = true
  · rw [if_pos hguard]
    rfl
  · have hcredentials : cfg.allowCredentials = false := by
      rw [Bool.or_eq_true, not_or] at hguard
      exact Bool.eq_false_iff.mpr hguard.1
    have hsingle : ¬ ((fromPy cfg).allowOrigins.length = 1 ∧
        (fromPy cfg).allowOriginsWildcard = true) :=
      fun hsingle => h ⟨(singleton_star_iff cfg.allowOrigins).mp hsingle, hcredentials⟩
    rw [if_neg hguard, if_neg hsingle]
    rfl

/-- The selected origin is that of the request if it is listed; an open configuration selects
`*`. -/
theorem selectAllowOrigin_eq_some_iff :
    (fromPy cfg).selectAllowOrigin origin = some selected ↔
      origin ≠ "" ∧ ((cfg.IsOpen ∧ selected = "*") ∨
        (¬ cfg.IsOpen ∧ selected = origin ∧ origin ∈ cfg.allowOrigins)) := by
  by_cases horigin : origin = ""
  · have hnone : (fromPy cfg).selectAllowOrigin origin = none := if_pos horigin
    rw [hnone]
    simp [horigin]
  by_cases hopen : cfg.IsOpen
  · rw [selectAllowOrigin_open hopen horigin]
    simp [horigin, hopen, eq_comm]
  · rw [selectAllowOrigin_listed hopen horigin]
    by_cases hmem : origin ∈ cfg.allowOrigins
    · simp [horigin, hopen, hmem, eq_comm]
    · simp [hmem, hopen]

/-- The headers that say which origin is let in, as both builders send them. -/
structure OpensTo (credentials : Bool) (selected : String) (pairs : HeaderPairs) : Prop where
  origin : ∀ value, ("Access-Control-Allow-Origin", value) ∈ pairs ↔ value = selected
  credentials : ("Access-Control-Allow-Credentials", "true") ∈ pairs ↔ credentials = true
  vary : ("Vary", "Origin") ∈ pairs ↔ selected ≠ "*"

/-- The headers do not say which origin is let in. -/
def SaysNoOrigin (pairs : HeaderPairs) : Prop :=
  ∀ e ∈ pairs, e.1 ∉ ["Access-Control-Allow-Origin", "Access-Control-Allow-Credentials", "Vary"]

theorem SaysNoOrigin.notMem {name value : String} (h : SaysNoOrigin pairs)
    (hname : name ∈ ["Access-Control-Allow-Origin", "Access-Control-Allow-Credentials", "Vary"]) :
    (name, value) ∉ pairs :=
  fun hmem => h _ hmem hname

theorem opensTo_append {others more : HeaderPairs} (hothers : SaysNoOrigin others)
    (hmore : SaysNoOrigin more) (credentials : Bool) (selected : String) :
    OpensTo credentials selected ([("Access-Control-Allow-Origin", selected)] ++ others ++
      (if credentials then [("Access-Control-Allow-Credentials", "true")] else []) ++ more ++
      (if selected ≠ "*" then [("Vary", "Origin")] else [])) := by
  have horigin (value : String) : ("Access-Control-Allow-Origin", value) ∉ others ++ more :=
    List.not_mem_append (hothers.notMem (by decide)) (hmore.notMem (by decide))
  have hcredentials : ("Access-Control-Allow-Credentials", "true") ∉ others ++ more :=
    List.not_mem_append (hothers.notMem (by decide)) (hmore.notMem (by decide))
  have hvary : ("Vary", "Origin") ∉ others ++ more :=
    List.not_mem_append (hothers.notMem (by decide)) (hmore.notMem (by decide))
  rw [List.mem_append, not_or] at hcredentials hvary
  refine ⟨fun value => ?_, ?_, ?_⟩
  · have hvalue := horigin value
    rw [List.mem_append, not_or] at hvalue
    cases credentials <;> by_cases hstar : selected = "*" <;> simp [hvalue, hstar]
  · cases credentials <;> by_cases hstar : selected = "*" <;> simp [hcredentials, hstar]
  · cases credentials <;> by_cases hstar : selected = "*" <;> simp [hvary, hstar]

theorem saysNoOrigin_nil : SaysNoOrigin [] := fun _ he => absurd he List.not_mem_nil

theorem SaysNoOrigin.cons (h : SaysNoOrigin pairs) {name : String} (value : String)
    (hname : name ∉ ["Access-Control-Allow-Origin", "Access-Control-Allow-Credentials", "Vary"]) :
    SaysNoOrigin ((name, value) :: pairs) := by
  intro e he
  rcases List.mem_cons.mp he with rfl | he
  · exact hname
  · exact h e he

theorem responseHeaderPairs_opens (h : (fromPy cfg).selectAllowOrigin origin = some selected) :
    OpensTo cfg.allowCredentials selected ((fromPy cfg).responseHeaderPairs origin) := by
  have hopens {exposed : HeaderPairs} (hexposed : SaysNoOrigin exposed) :
      OpensTo cfg.allowCredentials selected ([("Access-Control-Allow-Origin", selected)] ++
        (if cfg.allowCredentials then [("Access-Control-Allow-Credentials", "true")] else []) ++
        exposed ++ (if selected ≠ "*" then [("Vary", "Origin")] else [])) := by
    have happend := opensTo_append saysNoOrigin_nil hexposed cfg.allowCredentials selected
    rwa [List.append_nil] at happend
  unfold responseHeaderPairs
  rw [h]
  cases (fromPy cfg).exposeHeadersHeader with
  | none => exact hopens saysNoOrigin_nil
  | some exp => exact hopens (saysNoOrigin_nil.cons exp (by decide))

theorem handlePreflight_ok (h : (fromPy cfg).handlePreflight acrm origin ach = .ok pairs) :
    ∃ selected allowed, Text.toAsciiUppercase (Text.trim acrm) ∈ (fromPy cfg).allowMethodsUpper ∧
      (fromPy cfg).selectAllowOrigin origin = some selected ∧
      (fromPy cfg).preflightAllowHeaders ach = some allowed ∧
      OpensTo cfg.allowCredentials selected pairs := by
  unfold handlePreflight at h
  dsimp only at h
  split at h
  · cases h
  · next hmethod =>
    split at h
    · cases h
    · next selected hselected =>
      split at h
      · cases h
      · next allowed hallowed =>
        refine ⟨selected, allowed, not_not.mp hmethod, hselected, hallowed, ?_⟩
        rw [← Except.ok.inj h]
        have hothers : SaysNoOrigin [("Access-Control-Allow-Methods", (fromPy cfg).allowMethodsHeader),
            ("Access-Control-Allow-Headers", allowed)] :=
          (saysNoOrigin_nil.cons allowed (by decide)).cons _ (by decide)
        cases (fromPy cfg).maxAgeHeader with
        | none => exact opensTo_append hothers saysNoOrigin_nil cfg.allowCredentials selected
        | some maxAge =>
          have hage : SaysNoOrigin [("Access-Control-Max-Age", maxAge)] :=
            saysNoOrigin_nil.cons maxAge (by decide)
          exact opensTo_append hothers hage cfg.allowCredentials selected

/-- The request names the entry `*` of a configuration that is not open. -/
structure NamesStar (cfg : CorsConfig) (origin : String) : Prop where
  origin : origin = "*"
  listed : "*" ∈ cfg.allowOrigins
  closed : ¬ cfg.IsOpen

/-- Headers that open to the selected origin are safe unless this is a listed `*`. -/
theorem originSafe_of_opensTo (hselected : (fromPy cfg).selectAllowOrigin origin = some selected)
    (hopens : OpensTo cfg.allowCredentials selected pairs) (hstar : ¬ NamesStar cfg origin) :
    OriginSafe cfg origin pairs := by
  obtain ⟨horigin, ⟨hopen, rfl⟩ | ⟨hclosed, rfl, hmem⟩⟩ :=
    selectAllowOrigin_eq_some_iff.mp hselected
  · refine ⟨?_, fun value hvalue => .inl ⟨(hopens.origin value).mp hvalue, hopen⟩⟩
    rintro ⟨-, hcredentials⟩
    have htrue := hopens.credentials.mp hcredentials
    rw [hopen.credentials] at htrue
    cases htrue
  · have hne : selected ≠ "*" := by
      rintro rfl
      exact hstar ⟨rfl, hmem, hclosed⟩
    refine ⟨fun h => hne ((hopens.origin "*").mp h.1).symm, fun value hvalue => .inr ?_⟩
    rw [(hopens.origin value).mp hvalue]
    exact ⟨hne, rfl, hmem, hopens.vary.mpr hne⟩

/-- A preflight that is accepted asks for an allowed method and for allowed headers. -/
theorem preflightAllowed_of_ok {allowed : String}
    (hmethod : Text.toAsciiUppercase (Text.trim acrm) ∈ (fromPy cfg).allowMethodsUpper)
    (hallowed : (fromPy cfg).preflightAllowHeaders ach = some allowed) :
    PreflightAllowed cfg acrm ach := by
  obtain ⟨method, hmem, hupper⟩ := List.mem_map.mp hmethod
  refine ⟨⟨method, hmem, hupper⟩, ?_⟩
  by_cases hstar : cfg.allowHeaders = ["*"]
  · exact .inl hstar
  refine .inr fun name hname => ?_
  have hwildcard : ¬ ((fromPy cfg).allowHeadersWildcard = true ∧
      (fromPy cfg).allowHeaders.length = 1) :=
    fun h => hstar ((singleton_star_iff cfg.allowHeaders).mp h.symm)
  have hparts : headerListParts ach ≠ [] := List.ne_nil_of_mem hname
  unfold preflightAllowHeaders at hallowed
  simp only [if_neg hwildcard, if_neg hparts] at hallowed
  split at hallowed
  · cases hallowed
  · next hall =>
    rw [List.any_eq_true] at hall
    have hlower : Text.toAsciiLowercase name ∈ (fromPy cfg).allowHeadersLower := by
      by_contra hno
      exact hall ⟨name, hname, decide_eq_true hno⟩
    obtain ⟨header, hheader, heq⟩ := List.mem_map.mp hlower
    obtain ⟨hlisted, hne⟩ := List.mem_filter.mp hheader
    exact ⟨header, hlisted, of_decide_eq_true hne, decide_eq_true heq⟩

theorem selectAllowOrigin_of_namesStar (h : NamesStar cfg origin) :
    (fromPy cfg).selectAllowOrigin origin = some "*" := by
  have hne : origin ≠ "" := by
    rw [h.origin]
    decide
  exact selectAllowOrigin_eq_some_iff.mpr
    ⟨hne, .inr ⟨h.closed, h.origin.symm, h.origin ▸ h.listed⟩⟩

/-- **Origins.** What is sent for a request is safe unless its origin is the text `*` and a
configuration that is not open lists this text. -/
theorem corsSafe_iff (cfg : CorsConfig) (acrm origin ach : String) :
    CorsSafe cfg acrm origin ach ↔ ¬ NamesStar cfg origin := by
  constructor
  · intro hsafe hstar
    have hopens := responseHeaderPairs_opens (selectAllowOrigin_of_namesStar hstar)
    rcases hsafe.response.allowed "*" ((hopens.origin "*").mpr rfl) with h | h
    · exact hstar.closed h.2
    · exact h.1 rfl
  · intro hstar
    refine ⟨?_, fun pairs hpairs => ?_⟩
    · cases hselected : (fromPy cfg).selectAllowOrigin origin with
      | some selected =>
        exact originSafe_of_opensTo hselected (responseHeaderPairs_opens hselected) hstar
      | none =>
        have hnil : (fromPy cfg).responseHeaderPairs origin = [] := by
          unfold responseHeaderPairs
          rw [hselected]
        rw [hnil]
        exact ⟨fun h => List.not_mem_nil h.1, fun value h => absurd h List.not_mem_nil⟩
    · obtain ⟨selected, allowed, hmethod, hselected, hallowed, hopens⟩ := handlePreflight_ok hpairs
      exact ⟨originSafe_of_opensTo hselected hopens hstar, preflightAllowed_of_ok hmethod hallowed⟩

/-- A configuration for all origins, with credentials. -/
def openWithCredentials : CorsConfig where
  allowOrigins := ["*"]
  allowMethods := ["GET"]
  allowHeaders := ["*"]
  exposeHeaders := []
  allowCredentials := true
  maxAge := none

/-- The origin `*` is let in with credentials. -/
theorem star_origin_with_credentials :
    (fromPy openWithCredentials).handlePreflight "GET" "*" "" = .ok
      [("Access-Control-Allow-Origin", "*"), ("Access-Control-Allow-Methods", "GET"),
        ("Access-Control-Allow-Headers", "*"), ("Access-Control-Allow-Credentials", "true")] ∧
    ¬ CorsSafe openWithCredentials "GET" "*" "" := by
  have hpreflight : (fromPy openWithCredentials).handlePreflight "GET" "*" "" = .ok
      [("Access-Control-Allow-Origin", "*"), ("Access-Control-Allow-Methods", "GET"),
        ("Access-Control-Allow-Headers", "*"), ("Access-Control-Allow-Credentials", "true")] := by
    decide
  refine ⟨hpreflight, fun h => ?_⟩
  exact (h.preflight _ hpreflight).1.no_open_credentials (by decide)

end OxyRoute
