import OxyRoute.Lib.Dict
import Mathlib.Data.List.DropRight
import Mathlib.Data.List.Forall2

/-!
# Sub-routers and their route options

The Python layer that records routes on an `APIRouter` and mounts them on the `App`
(`oxyroute/router.py` and `App.include_router`). A decorator call binds its keyword parameters
to the written values or to the decorator's own defaults, `_reg` drops the parameters bound to
`None`, and every `include_router` on the way to the application merges its defaults under the
recorded options.

## Main definitions

- `Verb.signature` — the keyword parameters of a decorator with their defaults
- `APIRouter` — the recorded routes, with the decorators, `mount` and `includeRouter`
- `App.includeRouter` — the decorator calls an application makes for a mounted router
- `Script` — the calls that build a router, nested routers included
- `Origin.intended` — the value an option was meant to have at the application
-/

namespace OxyRoute

/-- The code points Python's `str.strip()` removes. -/
def pyIsSpace (c : Char) : Bool :=
  let n := c.toNat
  (9 ≤ n && n ≤ 13) || (28 ≤ n && n ≤ 32) || n == 0x85 || n == 0xa0 || n == 0x1680 ||
    (0x2000 ≤ n && n ≤ 0x200a) || n == 0x2028 || n == 0x2029 || n == 0x202f || n == 0x205f ||
    n == 0x3000

/-- `str.strip()`. -/
def pyStrip (s : List Char) : List Char := (s.dropWhile pyIsSpace).rdropWhile pyIsSpace

/-- `str.rstrip("/")`. -/
def rstripSlash (s : List Char) : List Char := s.rdropWhile (· = '/')

/-- A leading slash unless there is one. -/
def ensureLeadingSlash (s : List Char) : List Char :=
  if s.head? = some '/' then s else '/' :: s

/-- `join_path` on character lists. -/
def joinPathChars (pre path : List Char) : List Char :=
  let path := pyStrip path
  let path := if path = [] then ['/'] else ensureLeadingSlash path
  let p := pyStrip pre
  if p = [] then path
  else
    let p := rstripSlash (ensureLeadingSlash p)
    if path = ['/'] then p ++ ['/'] else p ++ path

/-- Join a URL path prefix and a route path. -/
def joinPath (pre path : String) : String :=
  String.ofList (joinPathChars pre.toList path.toList)

/-- The six route decorators. -/
inductive Verb
  | get | post | put | patch | delete | options
  deriving DecidableEq, Repr

/-- The keyword names of the route decorators; `include_router` takes any other name too. -/
inductive OptionName
  | requireJwt | jwtSecret | algorithms | readJsonBody | readFormBody | jwtIssuer | jwtAudience
  | jwtLeeway | jwtCookie | bodyModel | bodySchema | dependencies | tags | parameters
  | queryParams | headerParams | rateLimit | rateLimitKey
  | other (name : String)
  deriving DecidableEq, Repr

/-- A Python value given for an option: `None` and the booleans are told apart. -/
inductive Value (ν : Type*)
  | none
  | bool (b : Bool)
  | obj (v : ν)
  deriving DecidableEq, Repr

/-- `v is None`. -/
def Value.isNone {ν : Type*} : Value ν → Bool
  | .none => true
  | _ => false

/-- Keyword bindings, by name. -/
abbrev Options (ν : Type*) := Dict OptionName (Value ν)

/-- The keyword parameters of `get`, `delete` and `options`. -/
def bodylessSignature (ν : Type*) : Options ν where
  entries := [(.requireJwt, .bool false), (.jwtSecret, .none), (.algorithms, .none),
    (.jwtIssuer, .none), (.jwtAudience, .none), (.jwtLeeway, .none), (.jwtCookie, .none),
    (.dependencies, .none), (.tags, .none), (.parameters, .none), (.queryParams, .none),
    (.headerParams, .none), (.rateLimit, .none), (.rateLimitKey, .none)]
  nodup := by simp

/-- The keyword parameters of `post`, `put` and `patch`. -/
def bodySignature (ν : Type*) : Options ν where
  entries := [(.requireJwt, .bool false), (.jwtSecret, .none), (.algorithms, .none),
    (.readJsonBody, .bool true), (.readFormBody, .bool false), (.jwtIssuer, .none),
    (.jwtAudience, .none), (.jwtLeeway, .none), (.jwtCookie, .none), (.bodyModel, .none),
    (.bodySchema, .none), (.dependencies, .none), (.tags, .none), (.parameters, .none),
    (.queryParams, .none), (.headerParams, .none), (.rateLimit, .none), (.rateLimitKey, .none)]
  nodup := by simp

/-- The keyword parameters of a decorator with their defaults. `APIRouter` and `App` declare
the same ones. -/
def Verb.signature (ν : Type*) : Verb → Options ν
  | .get | .delete | .options => bodylessSignature ν
  | .post | .put | .patch => bodySignature ν

/-- The keyword arguments written in a decorator call; Python refuses an undeclared name. -/
def Written (ν : Type*) (v : Verb) :=
  { d : Options ν // ∀ k ∈ d.keys, k ∈ (v.signature ν).keys }

/-- The parameters as the body of a decorator sees them. -/
def bindKeywords {ν : Type*} (sig kw : Options ν) : Options ν :=
  sig.mapWithKey fun k dflt => (kw.get? k).getD dflt

/-- A recorded route: the tuple `(method, path, handler, opts)`. -/
structure RouteRecord (η ν : Type*) where
  verb : Verb
  path : String
  handler : η
  opts : Options ν

/-- `APIRouter`, with its list `_routes`. -/
structure APIRouter (η ν : Type*) where
  routes : List (RouteRecord η ν)

/-- A decorator call that writes no keyword. -/
def Written.nothing {ν : Type*} (v : Verb) : Written ν v :=
  ⟨.empty, by intro k hk; cases hk⟩

namespace APIRouter

variable {η ν : Type*}

/-- `APIRouter()`. -/
def new : APIRouter η ν := ⟨[]⟩

/-- `_reg`: record the route without the options bound to `None`. -/
def reg (r : APIRouter η ν) (verb : Verb) (path : String) (handler : η) (opts : Options ν) :
    APIRouter η ν :=
  ⟨r.routes ++ [⟨verb, path, handler, opts.filter fun _ v => !v.isNone⟩]⟩

/-- The decorator of a verb, applied to a handler: it passes every one of its keyword
parameters on to `_reg`. -/
def decorate (r : APIRouter η ν) (verb : Verb) (path : String) (handler : η)
    (written : Written ν verb) : APIRouter η ν :=
  r.reg verb path handler (bindKeywords (verb.signature ν) written.1)

def get (r : APIRouter η ν) (path : String) (handler : η) (written : Written ν .get) :
    APIRouter η ν :=
  r.decorate .get path handler written

def post (r : APIRouter η ν) (path : String) (handler : η) (written : Written ν .post) :
    APIRouter η ν :=
  r.decorate .post path handler written

def put (r : APIRouter η ν) (path : String) (handler : η) (written : Written ν .put) :
    APIRouter η ν :=
  r.decorate .put path handler written

def patch (r : APIRouter η ν) (path : String) (handler : η) (written : Written ν .patch) :
    APIRouter η ν :=
  r.decorate .patch path handler written

def delete (r : APIRouter η ν) (path : String) (handler : η) (written : Written ν .delete) :
    APIRouter η ν :=
  r.decorate .delete path handler written

def options (r : APIRouter η ν) (path : String) (handler : η) (written : Written ν .options) :
    APIRouter η ν :=
  r.decorate .options path handler written

/-- `mount`: the exact prefix, the prefix with a slash, and everything below it. -/
def mount (r : APIRouter η ν) (path : String) (app : η) : APIRouter η ν :=
  let base := rstripSlash path.toList
  ((r.get (String.ofList base) app (.nothing _)).get
    (String.ofList (base ++ ['/'])) app (.nothing _)).get
    (String.ofList (base ++ "/*path".toList)) app (.nothing _)

/-- `APIRouter.include_router`: copy the routes of another router, prefixing their paths. -/
def includeRouter (r router : APIRouter η ν) (pre : String) (defaults : Options ν) :
    APIRouter η ν :=
  ⟨r.routes ++ router.routes.map fun route =>
    { route with path := joinPath pre route.path, opts := defaults.update route.opts }⟩

end APIRouter

/-- A decorator call on the application: the route it registers, with its keyword parameters
as `_route` receives them. -/
structure RouteCall (η ν : Type*) where
  verb : Verb
  path : String
  handler : η
  opts : Options ν

/-- The decorator of a verb on `App`, called with keyword arguments. -/
def App.decorate {η ν : Type*} (verb : Verb) (path : String) (handler : η) (kw : Options ν) :
    RouteCall η ν :=
  ⟨verb, path, handler, bindKeywords (verb.signature ν) kw⟩

/-- `App.include_router`: the decorator calls made for the routes of a router, in order. Names
the decorator does not declare are dropped. (A call that is refused ends the loop, so the
routes registered are a prefix of these.) -/
def App.includeRouter {η ν : Type*} (router : APIRouter η ν) (pre : String)
    (defaults : Options ν) : List (RouteCall η ν) :=
  router.routes.map fun route =>
    let merged := defaults.update route.opts
    let allowed := (route.verb.signature ν).keys
    App.decorate route.verb (joinPath pre route.path) route.handler
      (merged.filter fun k _ => k ∈ allowed)

/-- The calls that build a router: decorators, `mount`, and the inclusion of routers that were
themselves built this way. -/
inductive Script (η ν : Type*)
  | new
  | route (s : Script η ν) (verb : Verb) (path : String) (handler : η) (written : Written ν verb)
  | mount (s : Script η ν) (path : String) (app : η)
  | includeRouter (s child : Script η ν) (pre : String) (defaults : Options ν)

/-- Where a recorded route comes from: what was written on it, and the defaults of the
`include_router` calls around it, innermost first. -/
structure Origin (η ν : Type*) where
  verb : Verb
  handler : η
  written : Options ν
  defaults : List (Options ν)

namespace Origin

variable {η ν : Type*}

/-- The same route seen from outside one more `include_router` call. -/
def within (o : Origin η ν) (defaults : Options ν) : Origin η ν :=
  { o with defaults := o.defaults ++ [defaults] }

/-- The innermost `include_router` default given for an option. -/
def includeDefault (o : Origin η ν) (k : OptionName) : Option (Value ν) :=
  o.defaults.findSome? fun d => d.get? k

/-- The decorator's own default for an option. -/
def decoratorDefault (o : Origin η ν) (k : OptionName) : Value ν :=
  ((o.verb.signature ν).get? k).getD .none

/-- The documented value of an option: what is written on the route, else the innermost
`include_router` default, else the decorator's own default. -/
def intended (o : Origin η ν) (k : OptionName) : Value ν :=
  ((o.written.get? k).or (o.includeDefault k)).getD (o.decoratorDefault k)

/-- When recording keeps the intention for an option. A written `None` and a default of the
decorator other than `None` are where it can be lost: the first is dropped, the second is
recorded as if it had been written. -/
def KeepsIntent (o : Origin η ν) (k : OptionName) : Prop :=
  match o.written.get? k with
  | some .none => (o.includeDefault k).getD (o.decoratorDefault k) = .none
  | some _ => True
  | none => o.decoratorDefault k = .none ∨
      (o.includeDefault k).getD (o.decoratorDefault k) = o.decoratorDefault k

/-- What the record of a route holds for an option before any inclusion. -/
def recorded (o : Origin η ν) (k : OptionName) : Option (Value ν) :=
  (((o.verb.signature ν).get? k).map fun dflt => (o.written.get? k).getD dflt).filter
    fun v => !v.isNone

end Origin

namespace Script

variable {η ν : Type*}

/-- The router the calls build. -/
def router : Script η ν → APIRouter η ν
  | .new => .new
  | .route s verb path handler written => s.router.decorate verb path handler written
  | .mount s path app => s.router.mount path app
  | .includeRouter s child pre defaults => s.router.includeRouter child.router pre defaults

/-- The origins of the routes the calls record, in order. -/
def origins : Script η ν → List (Origin η ν)
  | .new => []
  | .route s verb _ handler written => s.origins ++ [⟨verb, handler, written.1, []⟩]
  | .mount s _ app => s.origins ++ List.replicate 3 ⟨.get, app, .empty, []⟩
  | .includeRouter s child _ defaults => s.origins ++ child.origins.map (·.within defaults)

end Script

end OxyRoute
