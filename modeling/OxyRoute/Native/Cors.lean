import OxyRoute.Lib.Text
import Mathlib.Data.List.Basic

/-!
# Native CORS and security headers

The compiled configurations of `cors.rs` and `security_headers.rs` and the headers they yield.

## Main definitions

- `CompiledCorsConfig.fromPy` — the compiled form of a configuration
- `CompiledCorsConfig.handlePreflight` — the answer to a preflight request
- `CompiledCorsConfig.responseHeaderPairs` — the CORS headers of a normal response
- `CompiledSecurityHeadersConfig.responseHeaderPairs` — the security headers of a response
-/

namespace OxyRoute

/-- Header names and values, in order. -/
abbrev HeaderPairs := List (String × String)

/-- The fields of a Python `CORSConfig`. -/
structure CorsConfig where
  allowOrigins : List String
  allowMethods : List String
  allowHeaders : List String
  exposeHeaders : List String
  allowCredentials : Bool
  maxAge : Option ℕ
  deriving DecidableEq, Repr

/-- `CompiledCorsConfig`. -/
structure CompiledCorsConfig where
  allowOrigins : List String
  allowOriginsWildcard : Bool
  allowMethodsUpper : List String
  allowMethodsHeader : String
  allowHeaders : List String
  allowHeadersWildcard : Bool
  allowHeadersLower : List String
  exposeHeadersHeader : Option String
  allowCredentials : Bool
  maxAgeHeader : Option String
  deriving DecidableEq, Repr

namespace CompiledCorsConfig

/-- `CompiledCorsConfig::from_py`. -/
def fromPy (cfg : CorsConfig) : CompiledCorsConfig where
  allowOrigins := cfg.allowOrigins
  allowOriginsWildcard := cfg.allowOrigins.any (· == "*")
  allowMethodsUpper := cfg.allowMethods.map Text.toAsciiUppercase
  allowMethodsHeader := Text.joinWith ", " cfg.allowMethods
  allowHeaders := cfg.allowHeaders
  allowHeadersWildcard := cfg.allowHeaders.any (· == "*")
  allowHeadersLower := (cfg.allowHeaders.filter (· ≠ "*")).map Text.toAsciiLowercase
  exposeHeadersHeader :=
    if cfg.exposeHeaders = [] then none else some (Text.joinWith ", " cfg.exposeHeaders)
  allowCredentials := cfg.allowCredentials
  maxAgeHeader := cfg.maxAge.map toString

/-- `select_allow_origin`. -/
def selectAllowOrigin (cfg : CompiledCorsConfig) (origin : String) : Option String :=
  if origin = "" then none
  else if cfg.allowCredentials || !cfg.allowOriginsWildcard then
    if origin ∈ cfg.allowOrigins then some origin else none
  else if cfg.allowOrigins.length = 1 ∧ cfg.allowOriginsWildcard then some "*"
  else if origin ∈ cfg.allowOrigins then some origin
  else none

/-- The non-empty parts of a header list, split at white space and commas. -/
def headerListParts (raw : String) : List String :=
  ((raw.toList.splitOnP fun c => Text.isWhitespace c || c == ',').filter (· ≠ [])).map String.ofList

/-- `preflight_allow_headers`. -/
def preflightAllowHeaders (cfg : CompiledCorsConfig) (rawAch : String) : Option String :=
  if cfg.allowHeadersWildcard ∧ cfg.allowHeaders.length = 1 then some "*"
  else
    let parts := headerListParts rawAch
    if parts = [] then some (Text.joinWith ", " cfg.allowHeaders)
    else if parts.any fun p => Text.toAsciiLowercase p ∉ cfg.allowHeadersLower then none
    else some (Text.joinWith ", " parts)

/-- `handle_preflight`: the headers of a 204 answer, or a status with a message. -/
def handlePreflight (cfg : CompiledCorsConfig) (rawAcrm origin rawAch : String) :
    Except (ℕ × String) HeaderPairs :=
  let requestMethod := Text.toAsciiUppercase (Text.trim rawAcrm)
  if requestMethod ∉ cfg.allowMethodsUpper then .error (400, "Disallowed CORS method")
  else
    match cfg.selectAllowOrigin origin with
    | none => .error (400, "CORS origin not allowed")
    | some selected =>
      match cfg.preflightAllowHeaders rawAch with
      | none => .error (400, "Disallowed CORS request headers")
      | some acah => .ok (
          [("Access-Control-Allow-Origin", selected),
            ("Access-Control-Allow-Methods", cfg.allowMethodsHeader),
            ("Access-Control-Allow-Headers", acah)] ++
          (if cfg.allowCredentials then [("Access-Control-Allow-Credentials", "true")] else []) ++
          (match cfg.maxAgeHeader with
            | some maxAge => [("Access-Control-Max-Age", maxAge)]
            | none => []) ++
          (if selected ≠ "*" then [("Vary", "Origin")] else []))

/-- `response_header_pairs`. -/
def responseHeaderPairs (cfg : CompiledCorsConfig) (origin : String) : HeaderPairs :=
  match cfg.selectAllowOrigin origin with
  | none => []
  | some selected =>
    [("Access-Control-Allow-Origin", selected)] ++
    (if cfg.allowCredentials then [("Access-Control-Allow-Credentials", "true")] else []) ++
    (match cfg.exposeHeadersHeader with
      | some exp => [("Access-Control-Expose-Headers", exp)]
      | none => []) ++
    (if selected ≠ "*" then [("Vary", "Origin")] else [])

end CompiledCorsConfig

/-- `CompiledSecurityHeadersConfig`. -/
structure CompiledSecurityHeadersConfig where
  hsts : Option String
  xContentTypeOptions : Option String
  xFrameOptions : Option String
  referrerPolicy : Option String
  contentSecurityPolicy : Option String
  permissionsPolicy : Option String
  extra : HeaderPairs
  deriving DecidableEq, Repr

/-- A header that is sent when its value is configured. -/
def optionalHeader (name : String) (value : Option String) : HeaderPairs :=
  match value with
  | some v => [(name, v)]
  | none => []

/-- `response_header_pairs`. -/
def CompiledSecurityHeadersConfig.responseHeaderPairs (cfg : CompiledSecurityHeadersConfig)
    (scheme : String) : HeaderPairs :=
  (if scheme = "https" then optionalHeader "Strict-Transport-Security" cfg.hsts else []) ++
    optionalHeader "X-Content-Type-Options" cfg.xContentTypeOptions ++
    optionalHeader "X-Frame-Options" cfg.xFrameOptions ++
    optionalHeader "Referrer-Policy" cfg.referrerPolicy ++
    optionalHeader "Content-Security-Policy" cfg.contentSecurityPolicy ++
    optionalHeader "Permissions-Policy" cfg.permissionsPolicy ++
    cfg.extra

end OxyRoute
