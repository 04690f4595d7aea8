import OxyRoute.Native.Runtime

/-!
# Response calls

The helpers of `response.rs`. The asynchronous ones make the calls of their `_sync`
counterparts, so each pair is one definition.

## Main definitions

- `respond` — a call on the protocol object, logged
- `sendText`, `sendWithHeaders`, `sendHeadSimple`, … — the helpers
-/

namespace OxyRoute

variable {m : Matchit} {Ref W : Type} (rt : Runtime m Ref W) (req : HttpRequest Ref)

/-- A call on the protocol object of a request. -/
def respond (call : ProtocolCall) : PyResult m Ref W Unit := do
  Routine.log (.sent call)
  Routine.effect (rt.respond req.protocol call)

/-- `build_header_list_from_pairs`: names go out in lower case. -/
def buildHeaderListFromPairs (pairs : HeaderPairs) : HeaderPairs :=
  pairs.map fun e => (Text.toAsciiLowercase e.1, e.2)

/-- `send_str`. -/
def sendStr (status : ℕ) (text : String) (contentType : String) : PyResult m Ref W Unit :=
  respond rt req (.responseStr status [("content-type", contentType)] ⟨text, false⟩)

/-- `send_empty`. -/
def sendEmpty (status : ℕ) (contentType : String) : PyResult m Ref W Unit :=
  respond rt req (.responseEmpty status [("content-type", contentType)])

/-- `send_text`. -/
def sendText (status : ℕ) (text : String) (contentType : String) : PyResult m Ref W Unit :=
  if text = "" then sendEmpty rt req status contentType
  else sendStr rt req status text contentType

/-- `send_bytes` and `send_pybytes`. -/
def sendBytes (status : ℕ) (body : List UInt8) (contentType : String) :
    PyResult m Ref W Unit :=
  if body = [] then sendEmpty rt req status contentType
  else respond rt req (.responseBytes status [("content-type", contentType)] body)

/-- `send_with_headers`. -/
def sendWithHeaders (status : ℕ) (body : List UInt8) (headers : HeaderPairs) :
    PyResult m Ref W Unit :=
  if body = [] then respond rt req (.responseEmpty status (buildHeaderListFromPairs headers))
  else respond rt req (.responseBytes status (buildHeaderListFromPairs headers) body)

/-- `send_405_method_not_allowed`. -/
def send405MethodNotAllowed (allow : List String) : PyResult m Ref W Unit :=
  respond rt req (.responseBytes 405
    [("allow", Text.joinWith ", " allow), ("content-type", "text/plain; charset=utf-8")]
    (utf8 "Method Not Allowed"))

/-- The call of `send_429_rate_limited`. -/
def tooManyRequests (limit resetSecs : ℕ) : ProtocolCall :=
  .responseBytes 429
    [("content-type", "application/json; charset=utf-8"), ("ratelimit-limit", toString limit),
      ("ratelimit-remaining", "0"), ("ratelimit-reset", toString resetSecs),
      ("retry-after", toString resetSecs)]
    (utf8 "\x7b\"detail\":\"Too Many Requests\"\x7d")

/-- `send_429_rate_limited`. -/
def send429RateLimited (limit resetSecs : ℕ) : PyResult m Ref W Unit :=
  respond rt req (tooManyRequests limit resetSecs)

/-- `send_head_simple`. -/
def sendHeadSimple (status fullBodyLen : ℕ) (contentType : String) : PyResult m Ref W Unit :=
  respond rt req (.responseEmpty status
    [("content-type", contentType), ("content-length", toString fullBodyLen)])

/-- `send_head_len_with_headers`. -/
def sendHeadLenWithHeaders (status len : ℕ) (headers : HeaderPairs) : PyResult m Ref W Unit :=
  sendWithHeaders rt req status []
    ((headers.filter fun e => !Text.eqIgnoreAsciiCase e.1 "content-length") ++
      [("content-length", toString len)])

end OxyRoute
