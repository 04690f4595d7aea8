import OxyRoute.Lib.Text
import Mathlib.Data.List.Basic

/-!
# JWT settings and tokens

The functions of `token.rs` that build a route's decoding key and validation, and that find the
token of a request. Signature checks and the names of the algorithms are left to the crate
`jsonwebtoken`.

## Main definitions

- `buildRouteJwtState` — the key and validation of a route
- `extractBearer`, `extractCookieValue` — the token in the request headers
-/

namespace OxyRoute

/-- `jsonwebtoken::Algorithm`. -/
inductive Algorithm
  | HS256 | HS384 | HS512 | RS256 | RS384 | RS512 | PS256 | PS384 | PS512 | ES256 | ES384 | EdDSA
  deriving DecidableEq, Repr

/-- The kinds of key material. -/
inductive KeyFamily
  | hmac | rsa | ec | ed
  deriving DecidableEq, Repr

/-- `key_family`. -/
def keyFamily : Algorithm → KeyFamily
  | .HS256 | .HS384 | .HS512 => .hmac
  | .RS256 | .RS384 | .RS512 | .PS256 | .PS384 | .PS512 => .rsa
  | .ES256 | .ES384 => .ec
  | .EdDSA => .ed

/-- `DecodingKey`: the material with the family it was read as. -/
structure DecodingKey where
  family : KeyFamily
  material : String
  deriving DecidableEq, Repr

/-- The fields of `Validation` a route sets. -/
structure Validation where
  algorithms : List Algorithm
  validateNbf : Bool
  leeway : ℕ
  issuer : Option String
  audience : Option String
  validateAud : Bool
  deriving DecidableEq, Repr

/-- `build_decoding_key`. Reading PEM material is left to the crate: `readPem` reports its
error for material that is not a key of the family. -/
def buildDecodingKey (readPem : KeyFamily → String → Option String) (keyMaterial : String)
    (algs : List Algorithm) : Except String DecodingKey :=
  match algs with
  | [] => .error "InvalidAlgorithm"
  | alg :: _ =>
    let fam := keyFamily alg
    if algs.any fun a => keyFamily a ≠ fam then .error "InvalidKeyFormat"
    else if fam = .hmac then .ok ⟨.hmac, keyMaterial⟩
    else
      match readPem fam keyMaterial with
      | some e => .error e
      | none => .ok ⟨fam, keyMaterial⟩

/-- `build_route_jwt_state`. -/
def buildRouteJwtState (readPem : KeyFamily → String → Option String) (keyMaterial : String)
    (algs : List Algorithm) (jwtIssuer jwtAudience : Option String) (jwtLeeway : ℕ) :
    Except String (DecodingKey × Validation) := do
  if algs = [] then throw "InvalidAlgorithm"
  let dk ← buildDecodingKey readPem keyMaterial algs
  return (dk, {
    algorithms := algs
    validateNbf := true
    leeway := jwtLeeway
    issuer := jwtIssuer
    audience := jwtAudience
    validateAud := jwtAudience.isSome })

/-- `extract_bearer`. -/
def extractBearer (h : Option String) : Option String := do
  let h ← h
  let (scheme, rest) ← Text.splitOnce Text.isAsciiWhitespace (Text.trimChars h.toList)
  if Text.eqIgnoreAsciiCase (String.ofList scheme) "bearer" then
    let token := Text.trimChars rest
    if token = [] then none else some (String.ofList token)
  else none

/-- `trim_cookie_dquotes`. -/
def trimCookieDquotes (s : List Char) : List Char :=
  let s := Text.trimChars s
  if 2 ≤ s.length ∧ s.head? = some '"' ∧ s.getLast? = some '"' then s.tail.dropLast else s

/-- The loop of `extract_cookie_value` over the parts of the header. -/
def cookieValueIn (name : String) : List (List Char) → Option String
  | [] => none
  | part :: parts =>
    match Text.splitOnce (· == '=') (Text.trimChars part) with
    | none => cookieValueIn name parts
    | some (k, v) =>
      if String.ofList (Text.trimChars k) ≠ name then cookieValueIn name parts
      else
        let v := trimCookieDquotes (Text.trimChars v)
        if v = [] then none else some (String.ofList v)

/-- `extract_cookie_value`. -/
def extractCookieValue (raw name : String) : Option String :=
  cookieValueIn name (raw.toList.splitOn ';')

end OxyRoute
