import OxyRoute.Lib.Dict
import OxyRoute.Native.Cors
import OxyRoute.Native.Values

/-!
# Security headers in Python and compiled

`SecurityHeadersConfig` of `oxyroute/security_headers.py`, its compiled form, and the headers that
both yield. Python leaves out what is empty and compares the scheme in lower case; the compiled
form leaves out what is `None` and compares the scheme as it is.

## Main definitions

- `SecurityHeadersConfig` — the configuration in Python
- `SecurityHeadersConfig.fromPy` — its compiled form
- `SecurityHeadersConfig.SameFor` — the configuration yields the same in both forms

## Main results

- `compiled_pairs_iff` — when the compiled form yields the pairs of the configuration
-/

namespace OxyRoute

variable {Ref : Type}

-- ════════════════════════════════════════════════════════════════════════
-- The configuration
-- ════════════════════════════════════════════════════════════════════════

/-- A `str` with a UTF-8 form. -/
def PyStr.ofText (s : String) : PyStr := ⟨s, false⟩

/-- The truth value of a `str`. -/
def PyStr.truthy (s : PyStr) : Bool := s ≠ .ofText ""

/-- `SecurityHeadersConfig`. -/
structure SecurityHeadersConfig where
  hsts : Option PyStr
  xContentTypeOptions : Option PyStr
  xFrameOptions : Option PyStr
  referrerPolicy : Option PyStr
  contentSecurityPolicy : Option PyStr
  permissionsPolicy : Option PyStr
  extra : Dict PyStr PyStr

/-- Names and values in Python. -/
abbrev PyPairs := List (PyStr × PyStr)

/-- A header that is sent when its value is true. -/
def truthyHeader (name : String) : Option PyStr → PyPairs
  | some v => if v.truthy then [(.ofText name, v)] else []
  | none => []

/-- `SecurityHeadersConfig.response_header_pairs`, for a scope with this scheme. -/
def SecurityHeadersConfig.responseHeaderPairs (cfg : SecurityHeadersConfig)
    (lower : String → String) (scheme : String) : PyPairs :=
  (if lower scheme = "https" then truthyHeader "Strict-Transport-Security" cfg.hsts else []) ++
    truthyHeader "X-Content-Type-Options" cfg.xContentTypeOptions ++
    truthyHeader "X-Frame-Options" cfg.xFrameOptions ++
    truthyHeader "Referrer-Policy" cfg.referrerPolicy ++
    truthyHeader "Content-Security-Policy" cfg.contentSecurityPolicy ++
    truthyHeader "Permissions-Policy" cfg.permissionsPolicy ++
    cfg.extra.entries

/-- `extract::<Option<String>>`. -/
def extractOptional : Option PyStr → Except (PyErr Ref) (Option String)
  | none => .ok none
  | some s => s.toStr.map some

/-- `CompiledSecurityHeadersConfig::from_py`. -/
def SecurityHeadersConfig.fromPy (cfg : SecurityHeadersConfig) :
    Except (PyErr Ref) CompiledSecurityHeadersConfig := do
  let hsts ← extractOptional cfg.hsts
  let xContentTypeOptions ← extractOptional cfg.xContentTypeOptions
  let xFrameOptions ← extractOptional cfg.xFrameOptions
  let referrerPolicy ← extractOptional cfg.referrerPolicy
  let contentSecurityPolicy ← extractOptional cfg.contentSecurityPolicy
  let permissionsPolicy ← extractOptional cfg.permissionsPolicy
  let extra ← cfg.extra.entries.mapM fun e => do return (← e.1.toStr, ← e.2.toStr)
  return ⟨hsts, xContentTypeOptions, xFrameOptions, referrerPolicy, contentSecurityPolicy,
    permissionsPolicy, extra⟩

/-- Pairs as they are in Python. -/
def toPython (pairs : HeaderPairs) : PyPairs :=
  pairs.map fun e => (.ofText e.1, .ofText e.2)

/-- No value that is sent is empty, and the scheme is written in lower case where it matters. -/
structure SecurityHeadersConfig.SameFor (cfg : SecurityHeadersConfig) (lower : String → String)
    (scheme : String) : Prop where
  filled : ∀ value ∈ [cfg.xContentTypeOptions, cfg.xFrameOptions, cfg.referrerPolicy,
    cfg.contentSecurityPolicy, cfg.permissionsPolicy], value ≠ some (.ofText "")
  hsts_empty : cfg.hsts = some (.ofText "") → scheme ≠ "https"
  hsts_filled : ∀ value, cfg.hsts = some value → value ≠ .ofText "" →
    (scheme = "https" ↔ lower scheme = "https")

-- ════════════════════════════════════════════════════════════════════════
-- What is compiled
-- ════════════════════════════════════════════════════════════════════════

theorem toStr_eq_ok {s : PyStr} {text : String} (h : (s.toStr : Except (PyErr Ref) String) = .ok text) :
    s = .ofText text := by
  obtain ⟨t, surrogates⟩ := s
  cases surrogates with
  | true => cases h
  | false =>
    cases h
    rfl

theorem extractOptional_eq_ok {value : Option PyStr} {text : Option String}
    (h : (extractOptional value : Except (PyErr Ref) (Option String)) = .ok text) :
    value = text.map .ofText := by
  cases value with
  | none =>
    cases h
    rfl
  | some s =>
    rw [extractOptional] at h
    cases hs : (s.toStr : Except (PyErr Ref) String) with
    | error e =>
      rw [hs] at h
      cases h
    | ok t =>
      rw [hs] at h
      cases h
      rw [toStr_eq_ok hs]
      rfl

theorem extractPairs_eq_ok {pairs : PyPairs} {texts : HeaderPairs}
    (h : (pairs.mapM fun e => do return (← e.1.toStr, ← e.2.toStr) :
      Except (PyErr Ref) HeaderPairs) = .ok texts) : pairs = toPython texts := by
  induction pairs generalizing texts with
  | nil =>
    cases h
    rfl
  | cons e pairs ih =>
    rw [List.mapM_cons] at h
    obtain ⟨text, htext, h⟩ := Except.of_bind_eq_ok h
    obtain ⟨rest, hrest, h⟩ := Except.of_bind_eq_ok h
    obtain ⟨name, hname, htext⟩ := Except.of_bind_eq_ok htext
    obtain ⟨value, hvalue, htext⟩ := Except.of_bind_eq_ok htext
    cases h
    cases htext
    rw [ih hrest, ← Prod.eta e, toStr_eq_ok hname, toStr_eq_ok hvalue]
    rfl

/-- What is compiled is the configuration. -/
structure CompiledAs (cfg : SecurityHeadersConfig) (compiled : CompiledSecurityHeadersConfig) :
    Prop where
  hsts : cfg.hsts = compiled.hsts.map .ofText
  xContentTypeOptions : cfg.xContentTypeOptions = compiled.xContentTypeOptions.map .ofText
  xFrameOptions : cfg.xFrameOptions = compiled.xFrameOptions.map .ofText
  referrerPolicy : cfg.referrerPolicy = compiled.referrerPolicy.map .ofText
  contentSecurityPolicy : cfg.contentSecurityPolicy = compiled.contentSecurityPolicy.map .ofText
  permissionsPolicy : cfg.permissionsPolicy = compiled.permissionsPolicy.map .ofText
  extra : cfg.extra.entries = toPython compiled.extra

theorem compiledAs_of_fromPy {cfg : SecurityHeadersConfig} {compiled : CompiledSecurityHeadersConfig}
    (h : (cfg.fromPy : Except (PyErr Ref) CompiledSecurityHeadersConfig) = .ok compiled) :
    CompiledAs cfg compiled := by
  obtain ⟨hsts, hhsts, h⟩ := Except.of_bind_eq_ok h
  obtain ⟨options, hoptions, h⟩ := Except.of_bind_eq_ok h
  obtain ⟨frame, hframe, h⟩ := Except.of_bind_eq_ok h
  obtain ⟨referrer, hreferrer, h⟩ := Except.of_bind_eq_ok h
  obtain ⟨content, hcontent, h⟩ := Except.of_bind_eq_ok h
  obtain ⟨permissions, hpermissions, h⟩ := Except.of_bind_eq_ok h
  obtain ⟨extra, hextra, h⟩ := Except.of_bind_eq_ok h
  cases h
  exact ⟨extractOptional_eq_ok hhsts, extractOptional_eq_ok hoptions, extractOptional_eq_ok hframe,
    extractOptional_eq_ok hreferrer, extractOptional_eq_ok hcontent,
    extractOptional_eq_ok hpermissions, extractPairs_eq_ok hextra⟩

-- ════════════════════════════════════════════════════════════════════════
-- The pairs
-- ════════════════════════════════════════════════════════════════════════

/-- The headers of a response besides the one for the scheme and the extra ones. -/
def CompiledSecurityHeadersConfig.fixedPairs (cfg : CompiledSecurityHeadersConfig) : HeaderPairs :=
  optionalHeader "X-Content-Type-Options" cfg.xContentTypeOptions ++
    optionalHeader "X-Frame-Options" cfg.xFrameOptions ++
    optionalHeader "Referrer-Policy" cfg.referrerPolicy ++
    optionalHeader "Content-Security-Policy" cfg.contentSecurityPolicy ++
    optionalHeader "Permissions-Policy" cfg.permissionsPolicy

/-- The pairs with a value that is not empty. -/
def filledPairs (pairs : HeaderPairs) : HeaderPairs := pairs.filter (·.2 ≠ "")

theorem ofText_injective : Function.Injective PyStr.ofText := fun _ _ h => congrArg PyStr.text h

theorem toPython_injective : Function.Injective toPython := by
  apply List.map_injective_iff.mpr
  intro e e' h
  exact Prod.ext (ofText_injective (congrArg Prod.fst h)) (ofText_injective (congrArg Prod.snd h))

theorem toPython_append (pairs pairs' : HeaderPairs) :
    toPython (pairs ++ pairs') = toPython pairs ++ toPython pairs' :=
  List.map_append

theorem filledPairs_append (pairs pairs' : HeaderPairs) :
    filledPairs (pairs ++ pairs') = filledPairs pairs ++ filledPairs pairs' :=
  List.filter_append _ _

theorem truthyHeader_eq (name : String) (value : Option String) :
    truthyHeader name (value.map .ofText) = toPython (filledPairs (optionalHeader name value)) := by
  cases value with
  | none => rfl
  | some v =>
    have htruthy : (PyStr.ofText v).truthy = decide (v ≠ "") := by
      rw [PyStr.truthy]
      exact decide_eq_decide.mpr (not_congr ofText_injective.eq_iff)
    rw [Option.map_some, truthyHeader, htruthy]
    by_cases hv : v = ""
    · simp [hv, optionalHeader, filledPairs, toPython]
    · simp [hv, optionalHeader, filledPairs, toPython]

/-- The header for the scheme, as it is compiled. -/
def CompiledSecurityHeadersConfig.schemePairs (cfg : CompiledSecurityHeadersConfig)
    (https : Prop) [Decidable https] : HeaderPairs :=
  if https then optionalHeader "Strict-Transport-Security" cfg.hsts else []

variable {cfg : SecurityHeadersConfig} {compiled : CompiledSecurityHeadersConfig}
  {lower : String → String} {scheme : String}

theorem compiled_pairs (scheme : String) : compiled.responseHeaderPairs scheme =
    compiled.schemePairs (scheme = "https") ++ compiled.fixedPairs ++ compiled.extra := by
  simp only [CompiledSecurityHeadersConfig.responseHeaderPairs,
    CompiledSecurityHeadersConfig.schemePairs, CompiledSecurityHeadersConfig.fixedPairs,
    List.append_assoc]

/-- In Python, what is empty is left out. -/
theorem CompiledAs.pairs (h : CompiledAs cfg compiled) (lower : String → String) (scheme : String) :
    cfg.responseHeaderPairs lower scheme =
      toPython (filledPairs (compiled.schemePairs (lower scheme = "https")) ++
        filledPairs compiled.fixedPairs ++ compiled.extra) := by
  have hscheme : (if lower scheme = "https" then
      truthyHeader "Strict-Transport-Security" cfg.hsts else []) =
      toPython (filledPairs (compiled.schemePairs (lower scheme = "https"))) := by
    rw [CompiledSecurityHeadersConfig.schemePairs]
    by_cases hhttps : lower scheme = "https"
    · rw [if_pos hhttps, if_pos hhttps, h.hsts, truthyHeader_eq]
    · rw [if_neg hhttps, if_neg hhttps]
      rfl
  rw [SecurityHeadersConfig.responseHeaderPairs, hscheme, h.xContentTypeOptions, h.xFrameOptions,
    h.referrerPolicy, h.contentSecurityPolicy, h.permissionsPolicy, h.extra]
  simp only [truthyHeader_eq, CompiledSecurityHeadersConfig.fixedPairs, filledPairs_append,
    toPython_append, List.append_assoc]

theorem fst_optionalHeader {name : String} {value : Option String} {e : String × String}
    (h : e ∈ optionalHeader name value) : e.1 = name := by
  cases value with
  | none => cases h
  | some v => rw [List.mem_singleton.mp h]

/-- The header for the scheme is none of the others. -/
theorem fst_fixedPairs {e : String × String} (h : e ∈ compiled.fixedPairs) :
    e.1 ≠ "Strict-Transport-Security" := by
  simp only [CompiledSecurityHeadersConfig.fixedPairs, List.mem_append] at h
  rcases h with (((h | h) | h) | h) | h <;> rw [fst_optionalHeader h] <;> decide

theorem length_schemePairs (https : Prop) [Decidable https] :
    (compiled.schemePairs https).length ≤ 1 := by
  unfold CompiledSecurityHeadersConfig.schemePairs optionalHeader
  split <;> [split; skip] <;> simp

theorem fst_schemePairs {https : Prop} [Decidable https] {e : String × String}
    (h : e ∈ compiled.schemePairs https) : e.1 = "Strict-Transport-Security" := by
  unfold CompiledSecurityHeadersConfig.schemePairs at h
  split at h
  · exact fst_optionalHeader h
  · cases h

/-- Two lists whose first parts have at most one item, which is in no second part. -/
theorem append_eq_append_iff_of_first {α : Type} {a a' b b' : List α} {first : α → Prop}
    (ha : a.length ≤ 1) (ha' : a'.length ≤ 1) (hfirst' : ∀ x ∈ a', first x)
    (hrest : ∀ x ∈ b, ¬ first x) (hle : b'.length ≤ b.length) :
    a ++ b = a' ++ b' ↔ a = a' ∧ b = b' := by
  constructor
  · intro h
    have hlen := congrArg List.length h
    rw [List.length_append, List.length_append] at hlen
    by_cases hsame : a.length = a'.length
    · exact List.append_inj h hsame
    · exfalso
      -- only the second list can start with an item of a first part
      have hnil : a = [] := List.length_eq_zero_iff.mp (by omega)
      obtain ⟨x, rfl⟩ := List.length_eq_one_iff.mp (by omega : a'.length = 1)
      rw [hnil, List.nil_append, List.singleton_append] at h
      have hx : x ∈ b := h ▸ List.mem_cons_self
      exact hrest x hx (hfirst' x List.mem_cons_self)
  · rintro ⟨rfl, rfl⟩
    rfl

theorem filledPairs_eq_self_iff (pairs : HeaderPairs) :
    pairs = filledPairs pairs ↔ ∀ e ∈ pairs, e.2 ≠ "" := by
  rw [eq_comm, filledPairs, List.filter_eq_self]
  exact forall₂_congr fun e _ => decide_eq_true_iff

theorem filled_optionalHeader_iff (name : String) (value : Option String) :
    (∀ e ∈ optionalHeader name value, e.2 ≠ "") ↔ value.map PyStr.ofText ≠ some (.ofText "") := by
  cases value with
  | none => simp [optionalHeader]
  | some v => simp [optionalHeader, ofText_injective.eq_iff]

/-- No fixed header is empty. -/
theorem filled_fixedPairs_iff (h : CompiledAs cfg compiled) :
    (∀ e ∈ compiled.fixedPairs, e.2 ≠ "") ↔
      ∀ value ∈ [cfg.xContentTypeOptions, cfg.xFrameOptions, cfg.referrerPolicy,
        cfg.contentSecurityPolicy, cfg.permissionsPolicy], value ≠ some (.ofText "") := by
  simp only [CompiledSecurityHeadersConfig.fixedPairs, List.forall_mem_append,
    filled_optionalHeader_iff, h.xContentTypeOptions, h.xFrameOptions, h.referrerPolicy,
    h.contentSecurityPolicy, h.permissionsPolicy, List.forall_mem_cons, List.not_mem_nil,
    false_imp_iff, forall_true_iff, and_true, and_assoc]

/-- The header for the scheme is sent alike. -/
theorem schemePairs_eq_iff (h : CompiledAs cfg compiled) (https https' : Prop) [Decidable https]
    [Decidable https'] :
    compiled.schemePairs https = filledPairs (compiled.schemePairs https') ↔
      (cfg.hsts = some (.ofText "") → ¬ https) ∧
      ∀ value, cfg.hsts = some value → value ≠ .ofText "" → (https ↔ https') := by
  unfold CompiledSecurityHeadersConfig.schemePairs
  rw [h.hsts]
  cases hhsts : compiled.hsts with
  | none => by_cases hs : https <;> by_cases hl : https' <;> simp [optionalHeader, filledPairs, hs, hl]
  | some v =>
    by_cases hv : v = ""
    · by_cases hs : https <;> by_cases hl : https' <;>
        simp [optionalHeader, filledPairs, hv, hs, hl]
    · have hne : PyStr.ofText v ≠ .ofText "" := fun heq => hv (ofText_injective heq)
      by_cases hs : https <;> by_cases hl : https' <;>
        simp [optionalHeader, filledPairs, hv, hs, hl, hne]

/-- The compiled form yields the pairs of the configuration where no value that is sent is empty
and the scheme is in lower case. -/
theorem compiled_pairs_iff (lower : String → String) (cfg : SecurityHeadersConfig)
    (compiled : CompiledSecurityHeadersConfig)
    (h : (cfg.fromPy : Except (PyErr Ref) CompiledSecurityHeadersConfig) = .ok compiled)
    (scheme : String) :
    toPython (compiled.responseHeaderPairs scheme) = cfg.responseHeaderPairs lower scheme ↔
      cfg.SameFor lower scheme := by
  have hcompiled := compiledAs_of_fromPy h
  have hlength : (filledPairs compiled.fixedPairs).length ≤ compiled.fixedPairs.length :=
    List.length_filter_le _ _
  have hscheme : (filledPairs (compiled.schemePairs (lower scheme = "https"))).length ≤ 1 :=
    (List.length_filter_le _ _).trans (length_schemePairs _)
  have hfirst : ∀ e ∈ filledPairs (compiled.schemePairs (lower scheme = "https")),
      e.1 = "Strict-Transport-Security" :=
    fun e he => fst_schemePairs (List.mem_of_mem_filter he)
  rw [hcompiled.pairs, compiled_pairs, toPython_injective.eq_iff, List.append_left_inj,
    append_eq_append_iff_of_first (length_schemePairs _) hscheme hfirst
      (fun e he => fst_fixedPairs he) hlength, filledPairs_eq_self_iff,
    filled_fixedPairs_iff hcompiled, schemePairs_eq_iff hcompiled]
  constructor
  · rintro ⟨⟨hempty, hfilled⟩, hfixed⟩
    exact ⟨hfixed, hempty, hfilled⟩
  · rintro ⟨hfixed, hempty, hfilled⟩
    exact ⟨⟨hempty, hfilled⟩, hfixed⟩

/-- The defaults of `SecurityHeadersConfig`, with HSTS. -/
def hstsConfig : SecurityHeadersConfig where
  hsts := some (.ofText "max-age=31536000")
  xContentTypeOptions := some (.ofText "nosniff")
  xFrameOptions := some (.ofText "DENY")
  referrerPolicy := some (.ofText "strict-origin-when-cross-origin")
  contentSecurityPolicy := none
  permissionsPolicy := none
  extra := .empty

/-- The compiled form of it. -/
def hstsCompiled : CompiledSecurityHeadersConfig where
  hsts := some "max-age=31536000"
  xContentTypeOptions := some "nosniff"
  xFrameOptions := some "DENY"
  referrerPolicy := some "strict-origin-when-cross-origin"
  contentSecurityPolicy := none
  permissionsPolicy := none
  extra := []

theorem hsts_pairs :
    toPython (hstsCompiled.responseHeaderPairs "https") =
      hstsConfig.responseHeaderPairs Text.toAsciiLowercase "https" := by
  refine (compiled_pairs_iff Text.toAsciiLowercase hstsConfig hstsCompiled
    (rfl : (hstsConfig.fromPy : Except (PyErr String) _) = .ok hstsCompiled) "https").mpr ⟨?_, ?_, ?_⟩
  · decide
  · decide
  · exact fun _ _ _ => by decide

/-- A field that is set to the empty text is sent by the compiled form only. -/
theorem empty_header_sent :
    (({ hstsConfig with xFrameOptions := some (.ofText "") } : SecurityHeadersConfig).fromPy :
      Except (PyErr String) _) = .ok { hstsCompiled with xFrameOptions := some "" } ∧
    ("X-Frame-Options", "") ∈
      ({ hstsCompiled with xFrameOptions := some "" } :
        CompiledSecurityHeadersConfig).responseHeaderPairs "http" ∧
    toPython (({ hstsCompiled with xFrameOptions := some "" } :
        CompiledSecurityHeadersConfig).responseHeaderPairs "http") ≠
      ({ hstsConfig with xFrameOptions := some (.ofText "") } :
        SecurityHeadersConfig).responseHeaderPairs Text.toAsciiLowercase "http" := by
  refine ⟨rfl, by decide, by decide⟩

end OxyRoute
