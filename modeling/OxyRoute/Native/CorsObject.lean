import OxyRoute.ApiRouter.Defs
import OxyRoute.Native.CorsOrigins
import OxyRoute.Native.HandlerMap
import OxyRoute.Native.Registration

/-!
# CORS in Python

`CORSConfig` and `apply_cors` of `oxyroute/cors.py`, and `set_cors`, which compiles an object of
this class. The methods of the object answer preflights and yield headers as the compiled form
does, with the text operations of Python.

## Main definitions

- `StrCase` — `str.upper` and `str.lower`
- `CorsObject` — the configuration in Python, with its methods
- `CorsObject.compiled` — what `set_cors` compiles of it
- `AppState.applyCors` — `apply_cors`

## Main results

- `CorsObject.compiled_eq` — what is compiled, and when
- `preflightAllowHeaders_of_plain`, `preflightAllowHeaders_of_separator` — the requested headers in
  Python and compiled
-/

namespace OxyRoute

open CompiledCorsConfig (headerListParts)

variable {m : Matchit} {Ref W : Type}

-- ════════════════════════════════════════════════════════════════════════
-- Text in Python
-- ════════════════════════════════════════════════════════════════════════

/-- The text is ASCII. -/
def IsAscii (s : String) : Prop := ∀ c ∈ s.toList, c.toNat < 128

/-- The text is ASCII without control characters. -/
def IsPrintable (s : String) : Prop := ∀ c ∈ s.toList, 32 ≤ c.toNat ∧ c.toNat < 127

instance (s : String) : Decidable (IsAscii s) :=
  decidable_of_iff (s.toList.all (fun c => c.toNat < 128) = true) (by simp [IsAscii])

instance (s : String) : Decidable (IsPrintable s) :=
  decidable_of_iff (s.toList.all (fun c => 32 ≤ c.toNat && c.toNat < 127) = true)
    (by simp [IsPrintable])

/-- `str.upper` and `str.lower`: on ASCII they change letters only. -/
structure StrCase where
  upper : String → String
  lower : String → String
  upper_ascii : ∀ {s}, IsAscii s → upper s = Text.toAsciiUppercase s
  lower_ascii : ∀ {s}, IsAscii s → lower s = Text.toAsciiLowercase s

/-- The information separators U+001C to U+001F, white space to Python only. -/
def isInfoSeparator (c : Char) : Bool := 0x1c ≤ c.toNat && c.toNat ≤ 0x1f

/-- `str.strip`. -/
def strStrip (s : String) : String := String.ofList (pyStrip s.toList)

/-- The non-empty parts of `re.split(r"[\s,]+", s)`. -/
def hdrSplit (s : String) : List String :=
  (Text.words (fun c => pyIsSpace c || c == ',') s.toList).map String.ofList

-- ════════════════════════════════════════════════════════════════════════
-- The configuration
-- ════════════════════════════════════════════════════════════════════════

/-- A `CORSConfig` object: the name of its class and its fields. -/
structure CorsObject where
  className : String
  allowOrigins : List String
  allowMethods : List String
  allowHeaders : List String
  exposeHeaders : List String
  allowCredentials : Bool
  maxAge : Option ℤ

/-- `oxyroute.Response` with a text or without a body. -/
structure TextResponse where
  body : Option String
  status : ℕ
  headers : Dict String String

namespace CorsObject

variable (case : StrCase) (o : CorsObject)

/-- `_allow_methods_upper`. -/
def allowMethodsUpper : List String := o.allowMethods.map case.upper

/-- `_select_allow_origin`. -/
def selectAllowOrigin (origin : String) : Option String :=
  if origin = "" then none
  else if o.allowCredentials = true ∨ "*" ∉ o.allowOrigins then
    if origin ∈ o.allowOrigins then some origin else none
  else if o.allowOrigins = ["*"] then some "*"
  else if origin ∈ o.allowOrigins then some origin
  else none

/-- `response_header_pairs`, for a scope with these header values. -/
def responseHeaderPairs (header : String → String) : HeaderPairs :=
  match o.selectAllowOrigin (header "origin") with
  | none => []
  | some selected =>
    [("Access-Control-Allow-Origin", selected)] ++
    (if o.allowCredentials then [("Access-Control-Allow-Credentials", "true")] else []) ++
    (if o.exposeHeaders ≠ [] then
      [("Access-Control-Expose-Headers", Text.joinWith ", " o.exposeHeaders)] else []) ++
    (if selected ≠ "*" then [("Vary", "Origin")] else [])

/-- `_preflight_access_control_allow_headers_value`. -/
def preflightAllowHeaders (rawAch : String) : Option String :=
  if o.allowHeaders = ["*"] ∨ (o.allowHeaders.length = 1 ∧ o.allowHeaders.head? = some "*") then
    some "*"
  else
    let allowLower := (o.allowHeaders.filter (· ≠ "*")).map case.lower
    let parts := hdrSplit (strStrip rawAch)
    if parts = [] then some (Text.joinWith ", " o.allowHeaders)
    else if parts.any fun p => case.lower p ∉ allowLower then none
    else some (Text.joinWith ", " parts)

/-- The headers of an accepted preflight. -/
def preflightHeaders (selected acah : String) : Dict String String :=
  .ofList ([("Access-Control-Allow-Origin", selected)] ++
    (if o.allowCredentials then [("Access-Control-Allow-Credentials", "true")] else []) ++
    [("Access-Control-Allow-Methods", Text.joinWith ", " o.allowMethods),
      ("Access-Control-Allow-Headers", acah)] ++
    (match o.maxAge with
      | some maxAge => [("Access-Control-Max-Age", toString maxAge)]
      | none => []) ++
    (if selected ≠ "*" then [("Vary", "Origin")] else []))

/-- `preflight_response`, for a scope with this method and these header values. -/
def preflightResponse (method : String) (header : String → String) : Option TextResponse :=
  if case.upper method ≠ "OPTIONS" then none
  else
    let rawAcrm := header "access-control-request-method"
    if rawAcrm = "" then none
    else if case.upper (strStrip rawAcrm) ∉ o.allowMethodsUpper case then
      some ⟨some "Disallowed CORS method", 400, .empty⟩
    else
      match o.selectAllowOrigin (header "origin") with
      | none => some ⟨some "CORS origin not allowed", 400, .empty⟩
      | some selected =>
        match o.preflightAllowHeaders case (header "access-control-request-headers") with
        | none => some ⟨some "Disallowed CORS request headers", 400, .empty⟩
        | some acah => some ⟨none, 204, o.preflightHeaders selected acah⟩

-- ════════════════════════════════════════════════════════════════════════
-- Compilation
-- ════════════════════════════════════════════════════════════════════════

/-- `extract::<Option<u64>>`. -/
def extractMaxAge : Option ℤ → Except (PyErr Ref) (Option ℕ)
  | none => .ok none
  | some n =>
    if n < 0 then .error (.overflowError "can't convert negative int to unsigned")
    else if n < 2 ^ 64 then .ok (some n.toNat)
    else .error (.overflowError "int too big to convert")

/-- The extraction of the fields in `CompiledCorsConfig::from_py`. -/
def extract : Except (PyErr Ref) CorsConfig := do
  let maxAge ← extractMaxAge o.maxAge
  return ⟨o.allowOrigins, o.allowMethods, o.allowHeaders, o.exposeHeaders, o.allowCredentials,
    maxAge⟩

/-- What `set_cors` compiles of the object. -/
def compiled : Option CompiledCorsConfig :=
  if o.className = "CORSConfig" then
    match (o.extract : Except (PyErr Unit) CorsConfig) with
    | .ok cfg => some (.fromPy cfg)
    | .error _ => none
  else none

end CorsObject

/-- `apply_cors`: set the configuration, and add the middleware that is made around `chain`, if
one is given. -/
def AppState.applyCors (st : AppState m Ref) (config : Ref) (o : CorsObject)
    (corsMiddleware : Option Ref) : AppState m Ref :=
  let st := st.configure (.cors (some config) o.compiled)
  match corsMiddleware with
  | none => st
  | some f => st.configure (.addMiddleware f true false)

/-- The interpreter runs `response_header_pairs` of the object. -/
def RunsResponseHeaderPairs (rt : Runtime m Ref W) (req : HttpRequest Ref) (config : Ref)
    (o : CorsObject) (header : String → String) : Prop :=
  ∀ w, rt.callMethod config "response_header_pairs" [.object req.scope] w =
    (.ok (.list ((o.responseHeaderPairs header).map fun e => .tuple [.text e.1, .text e.2])), w)

namespace CorsObject

variable {o : CorsObject}

-- ════════════════════════════════════════════════════════════════════════
-- What is compiled
-- ════════════════════════════════════════════════════════════════════════

/-- The class has the name that `set_cors` asks for, and the age is a `u64`. -/
structure Compiles (o : CorsObject) : Prop where
  className : o.className = "CORSConfig"
  maxAge : ∀ n, o.maxAge = some n → 0 ≤ n ∧ n < 2 ^ 64

/-- The fields of an object that compiles. -/
def fields (o : CorsObject) : CorsConfig :=
  ⟨o.allowOrigins, o.allowMethods, o.allowHeaders, o.exposeHeaders, o.allowCredentials,
    o.maxAge.map Int.toNat⟩

theorem compiled_eq (h : o.Compiles) : o.compiled = some (.fromPy o.fields) := by
  obtain ⟨className, origins, methods, headers, exposed, credentials, maxAge⟩ := o
  obtain ⟨rfl, hage⟩ := h
  cases maxAge with
  | none => rfl
  | some n =>
    obtain ⟨hn, hlt⟩ := hage n rfl
    have hextract : (extractMaxAge (some n) : Except (PyErr Unit) (Option ℕ)) = .ok (some n.toNat) := by
      rw [extractMaxAge, if_neg (not_lt.mpr hn), if_pos hlt]
    rw [compiled, extract, if_pos rfl, hextract]
    rfl

theorem compiled_eq_none (h : ¬ o.Compiles) : o.compiled = none := by
  by_cases hname : o.className = "CORSConfig"
  · rw [compiled, if_pos hname]
    cases hage : o.maxAge with
    | none => exact absurd ⟨hname, fun n hn => by rw [hage] at hn; cases hn⟩ h
    | some n =>
      have hout : ¬ (0 ≤ n ∧ n < 2 ^ 64) := by
        intro hn
        refine h ⟨hname, fun k hk => ?_⟩
        rw [hage] at hk
        exact Option.some.inj hk ▸ hn
      rw [extract, hage, extractMaxAge]
      by_cases hneg : n < 0
      · rw [if_pos hneg]
        rfl
      · rw [if_neg hneg, if_neg fun hlt => hout ⟨not_lt.mp hneg, hlt⟩]
        rfl
  · exact if_neg hname

end CorsObject

-- ════════════════════════════════════════════════════════════════════════
-- Text in Python and in Rust
-- ════════════════════════════════════════════════════════════════════════

/-- An information separator is in the text. -/
def HasSeparator (s : String) : Prop := ∃ c ∈ s.toList, isInfoSeparator c = true

instance (s : String) : Decidable (HasSeparator s) :=
  decidable_of_iff (s.toList.any isInfoSeparator = true) (by simp [HasSeparator])

theorem IsPrintable.isAscii {s : String} (h : IsPrintable s) : IsAscii s :=
  fun c hc => (h c hc).2.trans (by decide)

/-- Separators come before the letters. -/
theorem toNat_lt_of_separator {c : Char} (h : isInfoSeparator c = true) : c.toNat < 65 := by
  unfold isInfoSeparator at h
  simp only [Bool.and_eq_true, decide_eq_true_eq] at h
  omega

theorem isWhitespace_of_separator {c : Char} (h : isInfoSeparator c = true) :
    Text.isWhitespace c = false := by
  unfold isInfoSeparator at h
  unfold Text.isWhitespace
  simp only [Bool.and_eq_true, decide_eq_true_eq] at h
  simp only [Bool.or_eq_false_iff, Bool.and_eq_false_iff, decide_eq_false_iff_not, beq_eq_false_iff_ne]
  omega

theorem pyIsSpace_iff (c : Char) :
    pyIsSpace c = true ↔ Text.isWhitespace c = true ∨ isInfoSeparator c = true := by
  unfold pyIsSpace Text.isWhitespace isInfoSeparator
  simp only [Bool.or_eq_true, Bool.and_eq_true, decide_eq_true_eq, beq_iff_eq]
  omega

theorem pyIsSpace_eq {s : String} (h : ¬ HasSeparator s) :
    ∀ c ∈ s.toList, pyIsSpace c = Text.isWhitespace c := by
  intro c hc
  have hno : ¬ isInfoSeparator c = true := fun hsep => h ⟨c, hc, hsep⟩
  rw [Bool.eq_iff_iff, pyIsSpace_iff, or_iff_left hno]

theorem strStrip_eq {s : String} (h : ¬ HasSeparator s) : strStrip s = Text.trim s :=
  congrArg String.ofList (Text.strip_congr (pyIsSpace_eq h))

theorem IsAscii.trim {s : String} (h : IsAscii s) : IsAscii (Text.trim s) := by
  intro c hc
  rw [Text.trim, String.toList_ofList] at hc
  exact h c ((List.dropWhile_sublist _).subset ((List.rdropWhile_prefix _ _).subset hc))

/-- The words of a requested header list, without those separators. -/
theorem hdrSplit_eq {s : String} (h : ¬ HasSeparator s) : hdrSplit (strStrip s) = headerListParts s := by
  have hspace : ∀ c, pyIsSpace c = true → (pyIsSpace c || c == ',') = true :=
    fun c hc => Bool.or_eq_true_iff.mpr (.inl hc)
  unfold hdrSplit strStrip
  rw [String.toList_ofList]
  rw [show pyStrip s.toList = Text.strip pyIsSpace s.toList from rfl, Text.words_strip hspace]
  refine congrArg (List.map String.ofList) (Text.words_congr fun c hc => ?_)
  rw [pyIsSpace_eq h c hc]

/-- One of those separators is in a word of the compiled form. -/
theorem exists_part_of_separator {s : String} (h : HasSeparator s) :
    ∃ part ∈ headerListParts s, HasSeparator part := by
  obtain ⟨c, hc, hsep⟩ := h
  have hword : (Text.isWhitespace c || c == ',') = false := by
    rw [isWhitespace_of_separator hsep, Bool.false_or, beq_eq_false_iff_ne]
    rintro rfl
    exact absurd hsep (by decide)
  obtain ⟨w, hw, hin⟩ := Text.exists_word (p := fun c => Text.isWhitespace c || c == ',') hc hword
  refine ⟨String.ofList w, List.mem_map.mpr ⟨w, hw, rfl⟩, c, ?_, hsep⟩
  rwa [String.toList_ofList]

theorem IsPrintable.no_separator {s : String} (h : IsPrintable s) : ¬ HasSeparator s := by
  rintro ⟨c, hc, hsep⟩
  have hrange := h c hc
  unfold isInfoSeparator at hsep
  simp only [Bool.and_eq_true, decide_eq_true_eq] at hsep
  omega

-- ════════════════════════════════════════════════════════════════════════
-- The methods of the object and their compiled forms
-- ════════════════════════════════════════════════════════════════════════

/-- Every text of the configuration is ASCII without control characters. -/
structure CorsObject.Printable (o : CorsObject) : Prop where
  allowOrigins : ∀ s ∈ o.allowOrigins, IsPrintable s
  allowMethods : ∀ s ∈ o.allowMethods, IsPrintable s
  allowHeaders : ∀ s ∈ o.allowHeaders, IsPrintable s
  exposeHeaders : ∀ s ∈ o.exposeHeaders, IsPrintable s

namespace CorsObject

variable {case : StrCase} {o : CorsObject} {acrm origin ach : String}

theorem selectAllowOrigin_eq (o : CorsObject) (origin : String) :
    (CompiledCorsConfig.fromPy o.fields).selectAllowOrigin origin = o.selectAllowOrigin origin := by
  have hguard : ((CompiledCorsConfig.fromPy o.fields).allowCredentials ||
      !(CompiledCorsConfig.fromPy o.fields).allowOriginsWildcard) = true ↔
        o.allowCredentials = true ∨ "*" ∉ o.allowOrigins := by
    rw [Bool.or_eq_true, Bool.not_eq_true', ← Bool.not_eq_true]
    exact or_congr Iff.rfl (not_congr (any_star_iff o.allowOrigins))
  unfold CompiledCorsConfig.selectAllowOrigin selectAllowOrigin
  simp only [hguard, show ((CompiledCorsConfig.fromPy o.fields).allowOrigins.length = 1 ∧
    (CompiledCorsConfig.fromPy o.fields).allowOriginsWildcard = true) ↔ o.allowOrigins = ["*"] from
      singleton_star_iff o.allowOrigins]
  rfl

/-- The headers of a response are the same pairs in both forms. -/
theorem responseHeaderPairs_eq (o : CorsObject) (header : String → String) :
    (CompiledCorsConfig.fromPy o.fields).responseHeaderPairs (header "origin") =
      o.responseHeaderPairs header := by
  unfold CompiledCorsConfig.responseHeaderPairs responseHeaderPairs
  rw [selectAllowOrigin_eq]
  cases o.selectAllowOrigin (header "origin") with
  | none => rfl
  | some selected =>
    by_cases hexposed : o.exposeHeaders = []
    · have hnone : (CompiledCorsConfig.fromPy o.fields).exposeHeadersHeader = none := if_pos hexposed
      dsimp only
      rw [hnone, if_neg (not_not.mpr hexposed)]
      rfl
    · have hsome : (CompiledCorsConfig.fromPy o.fields).exposeHeadersHeader =
          some (Text.joinWith ", " o.exposeHeaders) := if_neg hexposed
      dsimp only
      rw [hsome, if_pos hexposed]
      rfl

theorem allowMethodsUpper_eq (case : StrCase) (ho : o.Printable) :
    o.allowMethodsUpper case = (CompiledCorsConfig.fromPy o.fields).allowMethodsUpper :=
  List.map_congr_left fun _ hs => case.upper_ascii (ho.allowMethods _ hs).isAscii

/-- Without separators the requested method is allowed in both forms or in none. -/
theorem method_iff (case : StrCase) (ho : o.Printable) (hacrm : IsAscii acrm)
    (h : ¬ HasSeparator acrm) :
    Text.toAsciiUppercase (Text.trim acrm) ∈ (CompiledCorsConfig.fromPy o.fields).allowMethodsUpper ↔
      case.upper (strStrip acrm) ∈ o.allowMethodsUpper case := by
  rw [allowMethodsUpper_eq case ho, strStrip_eq h, case.upper_ascii hacrm.trim]

/-- With one the compiled form refuses the method. -/
theorem method_of_separator (ho : o.Printable) (h : HasSeparator acrm) :
    Text.toAsciiUppercase (Text.trim acrm) ∉
      (CompiledCorsConfig.fromPy o.fields).allowMethodsUpper := by
  intro hmem
  obtain ⟨method, hmethod, heq⟩ := List.mem_map.mp hmem
  obtain ⟨c, hc, hsep⟩ := h
  refine (ho.allowMethods method hmethod).no_separator ⟨c, ?_, hsep⟩
  have hlow := toNat_lt_of_separator hsep
  have hin : c ∈ (Text.toAsciiUppercase (Text.trim acrm)).toList := by
    rw [Text.toAsciiUppercase, Text.trim, String.toList_ofList, String.toList_ofList]
    exact List.mem_map.mpr ⟨c, Text.mem_strip hc (isWhitespace_of_separator hsep),
      (Text.toUpper_eq_iff hlow).mpr rfl⟩
  rw [← heq, Text.toAsciiUppercase, String.toList_ofList] at hin
  obtain ⟨d, hd, hdc⟩ := List.mem_map.mp hin
  rwa [← (Text.toUpper_eq_iff hlow).mp hdc]

theorem any_star_headers_iff (o : CorsObject) :
    (o.allowHeaders = ["*"] ∨ (o.allowHeaders.length = 1 ∧ o.allowHeaders.head? = some "*")) ↔
      o.allowHeaders = ["*"] := by
  constructor
  · rintro (h | ⟨hlength, hhead⟩)
    · exact h
    · obtain ⟨s, hs⟩ := List.length_eq_one_iff.mp hlength
      rw [hs] at hhead ⊢
      rw [Option.some.inj hhead]
  · exact .inl

theorem preflightAllowHeaders_star (case : StrCase) (h : o.allowHeaders = ["*"]) (ach : String) :
    (CompiledCorsConfig.fromPy o.fields).preflightAllowHeaders ach = some "*" ∧
      o.preflightAllowHeaders case ach = some "*" :=
  ⟨if_pos ((singleton_star_iff o.allowHeaders).mpr h).symm, if_pos (.inl h)⟩

theorem allowHeadersLower_eq (case : StrCase) (ho : o.Printable) :
    (o.allowHeaders.filter (· ≠ "*")).map case.lower =
      (CompiledCorsConfig.fromPy o.fields).allowHeadersLower :=
  List.map_congr_left fun s hs =>
    case.lower_ascii (ho.allowHeaders s (List.mem_filter.mp hs).1).isAscii

theorem isAscii_part (hach : IsAscii ach) {part : String} (hpart : part ∈ headerListParts ach) :
    IsAscii part := by
  obtain ⟨w, hw, rfl⟩ := List.mem_map.mp hpart
  intro c hc
  rw [String.toList_ofList] at hc
  exact hach c (Text.mem_of_mem_words hw hc)

/-- Without separators the requested headers are answered alike. -/
theorem preflightAllowHeaders_eq (case : StrCase) (ho : o.Printable) (hach : IsAscii ach)
    (h : ¬ HasSeparator ach) : (CompiledCorsConfig.fromPy o.fields).preflightAllowHeaders ach =
      o.preflightAllowHeaders case ach := by
  by_cases hstar : o.allowHeaders = ["*"]
  · obtain ⟨hnative, hpython⟩ := preflightAllowHeaders_star case hstar ach
    rw [hnative, hpython]
  have hlower : (headerListParts ach).any (fun p => case.lower p ∉
        (CompiledCorsConfig.fromPy o.fields).allowHeadersLower) =
      (headerListParts ach).any fun p => Text.toAsciiLowercase p ∉
        (CompiledCorsConfig.fromPy o.fields).allowHeadersLower := by
    rw [Bool.eq_iff_iff, List.any_eq_true, List.any_eq_true]
    refine exists_congr fun p => and_congr_right fun hp => ?_
    rw [case.lower_ascii (isAscii_part hach hp)]
  unfold CompiledCorsConfig.preflightAllowHeaders preflightAllowHeaders
  rw [if_neg fun hwild => hstar ((singleton_star_iff o.allowHeaders).mp hwild.symm),
    if_neg fun hwild => hstar ((any_star_headers_iff o).mp hwild), hdrSplit_eq h,
    allowHeadersLower_eq case ho]
  dsimp only
  rw [hlower]
  rfl

/-- With one the compiled form refuses them, if it does not allow all. -/
theorem preflightAllowHeaders_of_separator (ho : o.Printable) (hstar : o.allowHeaders ≠ ["*"])
    (h : HasSeparator ach) :
    (CompiledCorsConfig.fromPy o.fields).preflightAllowHeaders ach = none := by
  obtain ⟨part, hpart, c, hc, hsep⟩ := exists_part_of_separator h
  have hlow := toNat_lt_of_separator hsep
  have hnot : Text.toAsciiLowercase part ∉
      (CompiledCorsConfig.fromPy o.fields).allowHeadersLower := by
    intro hmem
    obtain ⟨header, hheader, heq⟩ := List.mem_map.mp hmem
    refine (ho.allowHeaders header (List.mem_filter.mp hheader).1).no_separator ⟨c, ?_, hsep⟩
    have hin : c ∈ (Text.toAsciiLowercase part).toList := by
      rw [Text.toAsciiLowercase, String.toList_ofList]
      exact List.mem_map.mpr ⟨c, hc, (Text.toLower_eq_iff hlow).mpr rfl⟩
    rw [← heq, Text.toAsciiLowercase, String.toList_ofList] at hin
    obtain ⟨d, hd, hdc⟩ := List.mem_map.mp hin
    rwa [← (Text.toLower_eq_iff hlow).mp hdc]
  unfold CompiledCorsConfig.preflightAllowHeaders
  rw [if_neg fun hwild => hstar ((singleton_star_iff o.allowHeaders).mp hwild.symm)]
  dsimp only
  rw [if_neg (List.ne_nil_of_mem hpart), if_pos]
  exact List.any_eq_true.mpr ⟨part, hpart, decide_eq_true hnot⟩

-- ════════════════════════════════════════════════════════════════════════
-- What the object allows
-- ════════════════════════════════════════════════════════════════════════

/-- The requested method is allowed. -/
def AllowsMethod (case : StrCase) (o : CorsObject) (acrm : String) : Prop :=
  ∃ method ∈ o.allowMethods, case.upper method = case.upper (strStrip acrm)

/-- The origin is listed, or all are allowed without credentials. -/
def AllowsOrigin (o : CorsObject) (origin : String) : Prop :=
  origin ≠ "" ∧
    (origin ∈ o.allowOrigins ∨ (o.allowOrigins = ["*"] ∧ o.allowCredentials = false))

/-- All headers are allowed, or every requested one is listed. -/
def AllowsHeaders (case : StrCase) (o : CorsObject) (ach : String) : Prop :=
  o.allowHeaders = ["*"] ∨ ∀ part ∈ hdrSplit (strStrip ach),
    ∃ header ∈ o.allowHeaders, header ≠ "*" ∧ case.lower header = case.lower part

theorem allowsMethod_iff (case : StrCase) (o : CorsObject) (acrm : String) :
    case.upper (strStrip acrm) ∈ o.allowMethodsUpper case ↔ o.AllowsMethod case acrm :=
  List.mem_map

theorem selectAllowOrigin_isSome_iff (o : CorsObject) (origin : String) :
    (∃ selected, o.selectAllowOrigin origin = some selected) ↔ o.AllowsOrigin origin := by
  simp only [← selectAllowOrigin_eq, selectAllowOrigin_eq_some_iff]
  constructor
  · rintro ⟨selected, hne, ⟨hopen, -⟩ | ⟨-, -, hmem⟩⟩
    · exact ⟨hne, .inr ⟨hopen.origins, hopen.credentials⟩⟩
    · exact ⟨hne, .inl hmem⟩
  · rintro ⟨hne, hallowed⟩
    by_cases hopen : o.fields.IsOpen
    · exact ⟨"*", hne, .inl ⟨hopen, rfl⟩⟩
    · rcases hallowed with hmem | ⟨horigins, hcredentials⟩
      · exact ⟨origin, hne, .inr ⟨hopen, rfl, hmem⟩⟩
      · exact absurd ⟨horigins, hcredentials⟩ hopen

theorem preflightAllowHeaders_isSome_iff (case : StrCase) (o : CorsObject) (ach : String) :
    (∃ acah, o.preflightAllowHeaders case ach = some acah) ↔ o.AllowsHeaders case ach := by
  by_cases hstar : o.allowHeaders = ["*"]
  · exact iff_of_true ⟨"*", (preflightAllowHeaders_star case hstar ach).2⟩ (.inl hstar)
  have hall : (hdrSplit (strStrip ach)).any (fun p =>
      case.lower p ∉ (o.allowHeaders.filter (· ≠ "*")).map case.lower) = false ↔
        o.AllowsHeaders case ach := by
    simp [AllowsHeaders, hstar, and_assoc]
  unfold preflightAllowHeaders
  rw [if_neg fun hwild => hstar ((any_star_headers_iff o).mp hwild), ← hall]
  dsimp only
  by_cases hnil : hdrSplit (strStrip ach) = []
  · rw [if_pos hnil, hnil]
    exact iff_of_true ⟨_, rfl⟩ rfl
  · rw [if_neg hnil]
    split
    · next hany =>
      rw [hany]
      exact iff_of_false (fun h => by obtain ⟨acah, ⟨⟩⟩ := h) (fun h => by cases h)
    · next hany => exact iff_of_true ⟨_, rfl⟩ (Bool.eq_false_iff.mpr hany)

end CorsObject

end OxyRoute
