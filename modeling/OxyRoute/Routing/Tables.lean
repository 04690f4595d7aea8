import OxyRoute.Routing.Segments

/-!
# Routing tables

The method masks and the per-method routers of `state.rs`, and the lookups in the tables that
were compiled from them.

## Main definitions

- `MethodMask` — one bit per HTTP method
- `MethodRouters`, `CompiledRouters` — the routers of an application
- `matchRouteCompiled`, `matchWsRouteCompiled` — lookup of a route index
- `methodsMatchingPathCompiled` — the `Allow` list of a path
-/

namespace OxyRoute

/-- `MethodMask`: a set of HTTP methods. -/
structure MethodMask where
  bits : UInt8
  deriving DecidableEq, Repr

namespace MethodMask

def get : UInt8 := (1 : UInt8) <<< 0
def head : UInt8 := (1 : UInt8) <<< 1
def post : UInt8 := (1 : UInt8) <<< 2
def put : UInt8 := (1 : UInt8) <<< 3
def patch : UInt8 := (1 : UInt8) <<< 4
def delete : UInt8 := (1 : UInt8) <<< 5
def options : UInt8 := (1 : UInt8) <<< 6

/-- `MethodMask::default`. -/
def empty : MethodMask := ⟨0⟩

/-- `from_method`: `GET` stands for `HEAD` as well. -/
def fromMethod (method : String) : MethodMask :=
  match method with
  | "GET" => ⟨get ||| head⟩
  | "HEAD" => ⟨head⟩
  | "POST" => ⟨post⟩
  | "PUT" => ⟨put⟩
  | "PATCH" => ⟨patch⟩
  | "DELETE" => ⟨delete⟩
  | "OPTIONS" => ⟨options⟩
  | _ => ⟨0⟩

/-- `insert_method`. -/
def insertMethod (mask : MethodMask) (method : String) : MethodMask :=
  ⟨mask.bits ||| (fromMethod method).bits⟩

/-- The methods with their flags, in the order of the `Allow` header. -/
def order : List (String × UInt8) :=
  [("GET", get), ("HEAD", head), ("POST", post), ("PUT", put), ("PATCH", patch),
    ("DELETE", delete), ("OPTIONS", options)]

/-- `to_vec`. -/
def toVec (mask : MethodMask) : List String :=
  (order.filter fun e => mask.bits &&& e.2 ≠ 0).map (·.1)

end MethodMask

/-- The six HTTP routers. -/
inductive RouterKey
  | get | post | put | patch | delete | options
  deriving DecidableEq, Repr

/-- The router of a method, for registration (`map_method_router`) as for lookup
(`router_for_compiled`): `HEAD` shares the one of `GET`. -/
def routerKey (method : String) : Option RouterKey :=
  match method with
  | "GET" | "HEAD" => some .get
  | "POST" => some .post
  | "PUT" => some .put
  | "PATCH" => some .patch
  | "DELETE" => some .delete
  | "OPTIONS" => some .options
  | _ => none

/-- One router of route indices per method. -/
structure MethodRouters (m : Matchit) where
  get : Router m ℕ
  post : Router m ℕ
  put : Router m ℕ
  patch : Router m ℕ
  delete : Router m ℕ
  options : Router m ℕ

namespace MethodRouters

variable {m : Matchit}

def new : MethodRouters m := ⟨.new, .new, .new, .new, .new, .new⟩

/-- The router under a key. -/
def router (rs : MethodRouters m) : RouterKey → Router m ℕ
  | .get => rs.get
  | .post => rs.post
  | .put => rs.put
  | .patch => rs.patch
  | .delete => rs.delete
  | .options => rs.options

/-- Replace the router under a key. -/
def set (rs : MethodRouters m) (key : RouterKey) (r : Router m ℕ) : MethodRouters m :=
  match key with
  | .get => { rs with get := r }
  | .post => { rs with post := r }
  | .put => { rs with put := r }
  | .patch => { rs with patch := r }
  | .delete => { rs with delete := r }
  | .options => { rs with options := r }

@[simp] theorem router_new (key : RouterKey) : (new : MethodRouters m).router key = .new := by
  cases key <;> rfl

theorem router_set (rs : MethodRouters m) (key key' : RouterKey) (r : Router m ℕ) :
    (rs.set key r).router key' = if key' = key then r else rs.router key' := by
  cases key <;> cases key' <;> rfl

end MethodRouters

/-- `CompiledRouters`: the tables requests are matched in. -/
structure CompiledRouters (m : Matchit) extends MethodRouters m where
  websocket : Router m ℕ
  allPaths : Router m MethodMask

variable {m : Matchit}

/-- `router_for_compiled`. -/
def routerForCompiled (compiled : CompiledRouters m) (method : String) : Option (Router m ℕ) :=
  (routerKey method).map compiled.router

/-- `match_ws_route_compiled`. -/
def matchWsRouteCompiled (compiled : CompiledRouters m) (path : String) :
    Option (ℕ × PathParams) :=
  compiled.websocket.atPath path

/-- `match_route_compiled`: `none` for an unsupported method, `some none` for no match. -/
def matchRouteCompiled (compiled : CompiledRouters m) (method path : String) :
    Option (Option (ℕ × PathParams)) :=
  (routerForCompiled compiled method).map fun g => g.atPath path

/-- The methods of the `Allow` header with the router that serves each. -/
def allowOrder : List (String × RouterKey) :=
  [("GET", .get), ("HEAD", .get), ("POST", .post), ("PUT", .put), ("PATCH", .patch),
    ("DELETE", .delete), ("OPTIONS", .options)]

/-- The second half of `methods_matching_path_compiled`: one lookup per router. -/
def methodsByRouter (compiled : CompiledRouters m) (path : String) : List String :=
  (allowOrder.filter fun e => ((compiled.router e.2).atPath path).isSome).map (·.1)

/-- `methods_matching_path_compiled`: the mask of the template found in `all_paths`, or one
lookup per router when it finds none or an empty mask. -/
def methodsMatchingPathCompiled (compiled : CompiledRouters m) (path : String) : List String :=
  match compiled.allPaths.atPath path with
  | some (mask, _) => if mask.toVec ≠ [] then mask.toVec else methodsByRouter compiled path
  | none => methodsByRouter compiled path

end OxyRoute
