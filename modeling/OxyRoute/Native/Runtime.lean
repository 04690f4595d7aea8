import OxyRoute.Lib.Routine
import OxyRoute.Native.Params
import OxyRoute.Native.State

/-!
# What requests run on

The dispatcher is a computation on the world: the application state and everything else that
Python code and other tasks can change. It logs what it calls and what it sends.

## Main definitions

- `Runtime` — the interpreter, the server and the crates the dispatcher uses
- `World`, `RequestEvent`, `Exit` — states, logged events, and the ways a request ends
- `Dispatch`, `PyResult` — computations that end by an `Exit`, or by a Python error
-/

namespace OxyRoute

variable {m : Matchit} {Ref W : Type}

/-- A call of `protocol.response_str`, `response_bytes` or `response_empty`. -/
inductive ProtocolCall
  | responseStr (status : ℕ) (headers : HeaderPairs) (body : PyStr)
  | responseBytes (status : ℕ) (headers : HeaderPairs) (body : List UInt8)
  | responseEmpty (status : ℕ) (headers : HeaderPairs)
  deriving DecidableEq, Repr

/-- The status of a response call. -/
def ProtocolCall.status : ProtocolCall → ℕ
  | .responseStr status _ _ | .responseBytes status _ _ | .responseEmpty status _ => status

/-- The headers of a response call. -/
def ProtocolCall.headers : ProtocolCall → HeaderPairs
  | .responseStr _ headers _ | .responseBytes _ headers _ | .responseEmpty _ headers => headers

/-- `RateLimitDecision`. -/
inductive RateLimitDecision
  | allowed (limit remaining resetSecs : ℕ)
  | denied (limit resetSecs : ℕ)
  deriving DecidableEq, Repr

/-- `ParsedFile`. -/
structure ParsedFile where
  name : String
  filename : Option String
  contentType : String
  data : List UInt8
  deriving DecidableEq, Repr

/-- A field of a multipart body, as `multer` yields it. -/
structure MultipartField where
  name : Option String
  fileName : Option String
  contentType : Option String
  data : Except String (List UInt8)
  text : Except String String

/-- The kinds of `jsonwebtoken` errors that are told apart. -/
inductive JwtError
  | expiredSignature
  | other
  deriving DecidableEq, Repr

/-- Everything a request can read or change. -/
structure World (m : Matchit) (Ref W : Type) where
  app : AppState m Ref
  rest : W

/-- What the dispatcher relies on: the interpreter, the server, crates, and functions of the
package that are defined apart from it. Operations that run user code, wait, or share state change
the world. -/
structure Runtime (m : Matchit) (Ref W : Type) extends Inspection Ref where
  /-- Call an object with positional and keyword arguments. -/
  call : Ref → List (PyVal Ref) → Dict String (PyVal Ref) → World m Ref W →
    Except (PyErr Ref) (PyVal Ref) × World m Ref W
  /-- Call a method of an object. -/
  callMethod : Ref → String → List (PyVal Ref) → World m Ref W →
    Except (PyErr Ref) (PyVal Ref) × World m Ref W
  /-- Whether a value is an awaitable the event loop takes, with the error if not. -/
  intoFuture : PyVal Ref → Except (PyErr Ref) Unit
  /-- Await a value. -/
  await : PyVal Ref → World m Ref W → Except (PyErr Ref) (PyVal Ref) × World m Ref W
  /-- Call `protocol()` and await the body. -/
  readBody : Ref → World m Ref W → Except (PyErr Ref) (PyVal Ref) × World m Ref W
  /-- A response call on the protocol object. -/
  respond : Ref → ProtocolCall → World m Ref W → Except (PyErr Ref) Unit × World m Ref W
  /-- Set `__oxyroute_path_template__` on the protocol object. -/
  setPathTemplate : Ref → String → World m Ref W → World m Ref W
  /-- `RateLimiter::check`. -/
  rateLimit : RateLimiter → String → World m Ref W → RateLimitDecision × World m Ref W
  /-- What other threads and tasks do before a task is polled. -/
  others : World m Ref W → World m Ref W
  /-- The query of a `DBQuery`, if the value is one. -/
  dbQuery : PyVal Ref → Option Ref
  /-- `execute_query`. -/
  executeQuery : PgPool → Ref → World m Ref W → Except (PyErr Ref) (PyVal Ref) × World m Ref W
  /-- `oxyroute.request.Request(scope, method, path, query_string)`. -/
  newRequest : Ref → String → String → String → Except (PyErr Ref) (PyVal Ref)
  /-- `form_urlencoded::parse`. -/
  formUrlencoded : List UInt8 → List (String × String)
  /-- `multer::parse_boundary`. -/
  parseBoundary : String → Option String
  /-- The fields of a multipart body, and the error its stream ends with, if any. -/
  multipartFields : List UInt8 → String → List MultipartField × Option String
  /-- `json_bytes_to_py`, with the text of its error. -/
  jsonBytesToPy : List UInt8 → Except String (PyVal Ref)
  /-- `jsonwebtoken::decode::<Value>`. -/
  decodeJwt : String → DecodingKey → Validation → Except JwtError Json
  /-- `serde_json::Value::to_string`. -/
  jsonToString : Json → String
  /-- The iteration order of the mask table. -/
  maskOrder : MaskOrder
  /-- `OXYROUTE_MAX_BODY_BYTES`. -/
  maxBodyBytes : ℕ
  /-- `OXYROUTE_DEBUG`. -/
  debug : Bool

/-- What a request logs: the calls it makes, with the results that decide how it goes on. -/
inductive RequestEvent (Ref : Type)
  | middleware (f : Ref) (result : Except (PyErr Ref) (PyVal Ref))
  | serving (idx : ℕ) (params : PathParams)
  | rateLimited (key : String) (decision : RateLimitDecision)
  | bodyRead (result : Except (PyErr Ref) (PyVal Ref))
  | factory (name : String) (f : Ref) (kwargs : Dict String (PyVal Ref))
  | resolved (name : String) (result : Except (PyErr Ref) (PyVal Ref))
  | validated (result : Except (PyErr Ref) (PyVal Ref))
  | handler (f : Ref) (kwargs : Dict String (PyVal Ref))
  | exceptionHandler (f : Ref)
  | sent (call : ProtocolCall)

/-- How the dispatcher leaves a request: with a response made, with an error for its caller, or
in a panic. -/
inductive Exit (Ref : Type)
  | done
  | raised (e : PyErr Ref)
  | panicked

/-- A computation that returns a Python error or a value. -/
abbrev PyResult (m : Matchit) (Ref W : Type) (α : Type) :=
  Routine (World m Ref W) (RequestEvent Ref) (PyErr Ref) α

/-- A part of the dispatcher. -/
abbrev Dispatch (m : Matchit) (Ref W : Type) (α : Type) :=
  Routine (World m Ref W) (RequestEvent Ref) (Exit Ref) α

/-- The `?` operator: an error goes to the caller of the dispatcher. -/
def orRaise {α : Type} (c : PyResult m Ref W α) : Dispatch m Ref W α :=
  Routine.handle c fun e => Routine.exit (.raised e)

/-- Return from the dispatcher after a last computation. -/
def finish {α : Type} (c : PyResult m Ref W Unit) : Dispatch m Ref W α := do
  orRaise c
  Routine.exit .done

end OxyRoute
