import OxyRoute.Native.RateLimit
import OxyRoute.Native.Values
import OxyRoute.Lib.Dict

/-!
# Request parameters

An HTTP request as the dispatcher sees its scope, and the functions of `params.rs` and
`rate_limit.rs` that read it.

## Main definitions

- `HttpRequest` — a request
- `headerGetLax` — a header, whatever the case of its name
- `parseQuery`, `valueForPathParam` — the query and the path parameters
- `extractRateLimitKey` — the key a request is counted under
-/

namespace OxyRoute

variable {Ref : Type}

/-- An HTTP request: its scope and protocol objects, and the attributes of the scope. -/
structure HttpRequest (Ref : Type) where
  scope : Ref
  protocol : Ref
  method : String
  path : String
  queryString : String
  headers : Except (PyErr Ref) (PyVal Ref)
  scheme : Option String
  client : Option (PyVal Ref)

/-- A value that is a non-empty `str`. -/
def nonEmptyString (py : Inspection Ref) (v : PyVal Ref) : Option String :=
  match extractString py v with
  | .ok s => if s = "" then none else some s
  | .error _ => none

/-- `get(key)` of a mapping, if it is a non-empty `str`. -/
def headerVia (py : Inspection Ref) (get : String → Except (PyErr Ref) (PyVal Ref))
    (key : String) : Option String :=
  match get key with
  | .ok v => if v.isNone then none else nonEmptyString py v
  | .error _ => none

/-- `header_get_lax`. -/
def headerGetLax (py : Inspection Ref) (headers : PyVal Ref) (name : String) : Option String :=
  match headers with
  | .dict entries =>
    ((PyVal.getItem entries name).bind (nonEmptyString py)).or <|
      entries.findSome? fun e =>
        match extractString py e.1 with
        | .ok k => if Text.eqIgnoreAsciiCase k name then nonEmptyString py e.2 else none
        | .error _ => none
  | .object r => do
    let get ← py.mappingGet r
    let lower := Text.toAsciiLowercase name
    let upper := Text.toAsciiUppercase name
    (headerVia py get name).or <|
      ((if lower ≠ name then headerVia py get lower else none).or <|
        if upper ≠ name ∧ upper ≠ lower then headerVia py get upper else none)
  | _ => none

/-- A header of a request; none if the scope has no headers. -/
def HttpRequest.header (py : Inspection Ref) (req : HttpRequest Ref) (name : String) :
    Option String :=
  match req.headers with
  | .ok headers => headerGetLax py headers name
  | .error _ => none

/-- `parse_query`; decoding is left to `form_urlencoded::parse`. The last of equal keys wins. -/
def parseQuery (formUrlencoded : List UInt8 → List (String × String)) (q : String) :
    Dict String String :=
  if q = "" then .empty else .ofList (formUrlencoded (utf8 q))

/-- `is_valid_integer_literal`. -/
def isValidIntegerLiteral (s : String) : Bool :=
  let (isNeg, digits) := match s.toList with
    | '-' :: rest => (true, rest)
    | rest => (false, rest)
  digits ≠ [] && !(1 < digits.length && digits.head? = some '0') &&
    !(isNeg && digits = ['0']) && digits.all Char.isDigit

/-- `is_valid_float_literal`. -/
def isValidFloatLiteral (s : String) : Bool :=
  let digits := match s.toList with
    | '-' :: rest => rest
    | rest => rest
  match digits.splitOn '.' with
  | [intPart, fracPart] =>
    intPart ≠ [] && fracPart ≠ [] && !(1 < intPart.length && intPart.head? = some '0') &&
      intPart.all Char.isDigit && fracPart.all Char.isDigit
  | _ => false

/-- `i64::from_str`, on integer literals. -/
def parseI64 (s : String) : Option ℤ :=
  let n : ℤ := match s.toList with
    | '-' :: rest => -Text.digitsValue rest
    | rest => Text.digitsValue rest
  if -(2 ^ 63) ≤ n ∧ n < 2 ^ 63 then some n else none

/-- `value_for_path_param`. -/
def valueForPathParam (s : String) : PyVal Ref :=
  if s = "true" then .bool true
  else if s = "false" then .bool false
  else
    match if isValidIntegerLiteral s then parseI64 s else none with
    | some i => .int i
    | none =>
      match if isValidFloatLiteral s then F64.parse s else none with
      | some f => .float f
      | none => .text s

/-- The value of a path parameter: a catch-all stays a `str`. -/
def pathParamValue (wildcardParams : List String) (e : String × String) : PyVal Ref :=
  if e.1 ∈ wildcardParams then .text e.2 else valueForPathParam e.2

/-- The host of a textual peer address. -/
def hostOf (s : String) : String :=
  let bracketed := match s.toList with
    | '[' :: rest => (Text.splitOnce (· == ']') rest).map (·.1)
    | _ => none
  match bracketed with
  | some inner => String.ofList (['['] ++ inner ++ [']'])
  | none =>
    match Text.rsplitOnce (· == ':') s.toList with
    | some (host, port) => if port.all Char.isDigit then String.ofList host else s
    | none => s

/-- `scope_client_host`. -/
def scopeClientHost (py : Inspection Ref) (req : HttpRequest Ref) : Option String := do
  let client ← req.client
  match extractString py client with
  | .ok s => if s = "" then none else some (hostOf s)
  | .error _ =>
    let item ← py.firstItem client
    (extractString py item).toOption

/-- The address a trusted proxy forwards. -/
def forwardedIp (py : Inspection Ref) (req : HttpRequest Ref) : Option String :=
  let first := (req.header py "x-forwarded-for").map fun xf =>
    Text.trim (String.ofList (xf.toList.takeWhile (· ≠ ',')))
  let real := (req.header py "x-real-ip").map Text.trim
  (first.filter (· ≠ "")).or (real.filter (· ≠ ""))

/-- `extract_rate_limit_key`. -/
def extractRateLimitKey (py : Inspection Ref) (req : HttpRequest Ref) :
    RateLimitKeyStrategy → String
  | .global => "global"
  | .header name => (req.header py name).getD "unknown"
  | .ip => (scopeClientHost py req).getD "127.0.0.1"
  | .trustedForwardedIp =>
    ((forwardedIp py req).or (scopeClientHost py req)).getD "127.0.0.1"

example : (valueForPathParam "-10" : PyVal Unit) = .int (-10) := by rfl

example : (valueForPathParam "007" : PyVal Unit) = .text "007" := by rfl

end OxyRoute
