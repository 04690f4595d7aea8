import OxyRoute.Lib.Json

/-!
# The OpenAPI document

How `add_route` enters an operation into the OpenAPI document, and the scanner for parameters
in route templates.

## Main definitions

- `templatePieces` — a template as literal characters and parameters
- `wildcardParamNames`, `allPathParamNames` — the parameters of a template
- `openapiAddPath` — add or replace the operation of a method and path
-/

namespace OxyRoute

/-- A literal character of a template, or a parameter with its mark. -/
inductive Piece
  | lit (c : Char)
  | param (mark : Char) (name : List Char)
  deriving DecidableEq, Repr

/-- The characters of a parameter name. -/
def isNameChar (c : Char) : Bool := c.isAlphanum || c == '_'

/-- A name that was read; a mark without a name is dropped. -/
def namePiece (cur : Char × List Char) : List Piece :=
  if cur.2 = [] then [] else [.param cur.1 cur.2]

/-- The scanners' loop: `cur` is the mark and the name being read, if any. -/
def piecesFrom (isMark : Char → Bool) : Option (Char × List Char) → List Char → List Piece
  | none, [] => []
  | some cur, [] => namePiece cur
  | none, c :: s =>
    if isMark c then piecesFrom isMark (some (c, [])) s else .lit c :: piecesFrom isMark none s
  | some cur, c :: s =>
    if isNameChar c then piecesFrom isMark (some (cur.1, cur.2 ++ [c])) s
    else
      namePiece cur ++
        if isMark c then piecesFrom isMark (some (c, [])) s else .lit c :: piecesFrom isMark none s

/-- A template in pieces. -/
def templatePieces (isMark : Char → Bool) (path : String) : List Piece :=
  piecesFrom isMark none path.toList

/-- The parameter names among pieces. -/
def paramNames (pieces : List Piece) : List String :=
  pieces.filterMap fun p => match p with
    | .lit _ => none
    | .param _ name => some (String.ofList name)

/-- `wildcard_param_names`. -/
def wildcardParamNames (path : String) : List String :=
  (paramNames (templatePieces (· == '*') path)).dedup

/-- `all_path_param_names`. -/
def allPathParamNames (path : String) : List String :=
  (paramNames (templatePieces (fun c => c == ':' || c == '*') path)).dedup

/-- The parameter object of a path parameter. -/
def pathParameter (name : String) : Json :=
  .ofMembers [("name", .str name), ("in", .str "path"), ("required", .bool true),
    ("schema", .ofMembers [("type", .str "string")])]

/-- `openapi_path_and_params`. -/
def openapiPathAndParams (path : String) : String × List Json :=
  let pieces := templatePieces (fun c => c == ':' || c == '*') path
  let chars := pieces.flatMap fun p => match p with
    | .lit c => [c]
    | .param _ name => '{' :: name ++ ['}']
  (String.ofList chars, (paramNames pieces).map pathParameter)

/-- `openapi_ensure_bearer_auth`. -/
def openapiEnsureBearerAuth (oa : Json) : Json :=
  match oa with
  | .obj root =>
    .obj (Json.modify "components" (fun components =>
      match components with
      | .obj comp =>
        .obj (Json.modify "securitySchemes" (fun schemes =>
          match schemes with
          | .obj s => .obj (Json.orInsert "bearerAuth" (.ofMembers [("type", .str "http"),
              ("scheme", .str "bearer"), ("bearerFormat", .str "JWT")]) s)
          | other => other) (Json.orInsert "securitySchemes" (.obj []) comp))
      | other => other) (Json.orInsert "components" (.obj []) root))
  | other => other

/-- What `add_route` knows of an operation. -/
structure Operation where
  opId : String
  requestSchema : Option Json
  requireJwt : Bool
  tags : Option (List String)

/-- The operation object. -/
def operationObject (op : Operation) (pathParams : List Json) : Json :=
  let description (text : String) : Json := .ofMembers [("description", .str text)]
  let responses : Json := .ofMembers ([("200", description "OK")] ++
    (if op.requireJwt then [("401", description "Unauthorized")] else []) ++
    (if op.requestSchema.isSome then [("422", description "Validation Error")] else []))
  .ofMembers ([("summary", .str op.opId), ("operationId", .str op.opId)] ++
    (match op.requestSchema with
      | some schema => [("requestBody", .ofMembers [("required", .bool true),
          ("content", .ofMembers [("application/json", .ofMembers [("schema", schema)])])])]
      | none => []) ++
    [("responses", responses)] ++
    (if pathParams ≠ [] then [("parameters", .arr pathParams)] else []) ++
    (if op.requireJwt then [("security", .arr [.ofMembers [("bearerAuth", .arr [])]])] else []) ++
    (match op.tags with
      | some t => if t ≠ [] then [("tags", .arr (t.map Json.str))] else []
      | none => []))

/-- `str::to_lowercase` of a method; characters outside ASCII are left to the parameter. -/
def toLowercase (unicodeLowercase : String → String) (s : String) : String :=
  if s.toList.all fun c => c.toNat < 128 then Text.toAsciiLowercase s else unicodeLowercase s

/-- `openapi_add_path`: the operation replaces an earlier one of the same path and method. -/
def openapiAddPath (unicodeLowercase : String → String) (oa : Json) (method path : String)
    (op : Operation) (extraParameters : Option (List Json)) : Json :=
  let (oaPath, pathParams) := openapiPathAndParams path
  let pathParams := pathParams ++ extraParameters.getD []
  let oa := if op.requireJwt then openapiEnsureBearerAuth oa else oa
  match oa with
  | .obj root =>
    .obj (Json.modify "paths" (fun paths =>
      match paths with
      | .obj ps =>
        .obj (Json.modify oaPath (fun entry =>
          match entry with
          | .obj e => .obj (Json.insert (toLowercase unicodeLowercase method)
              (operationObject op pathParams) e)
          | other => other) (Json.orInsert oaPath (.obj []) ps))
      | other => other) root)
  | other => other

end OxyRoute
