import OxyRoute.Lib.Guards
import OxyRoute.Native.Middleware
import OxyRoute.Native.Registered

/-!
# Guards

The guards a request has to pass before the dependency factories and the handler of its route
are called: their order, what it means to pass each of them, and how each of them rejects.

## Main definitions

- `Guard` — the guards, in order
- `Passed`, `Rejection` — what passing a guard means, and the answers of a guard that fails
- `CallAllowed` — the calls of a log come after the guards they need
- `routeGuards` — the guards of a route as a chain

## Main results

- `Passed.append` — a guard that is passed stays passed
-/

namespace OxyRoute

open Routine

variable {m : Matchit} {Ref W : Type}

/-- The guards, in the order they are checked. -/
inductive Guard
  | middleware
  | rateLimit
  | declaredLength
  | bodyRead
  | bodyLength
  | jwt
  | form
  | dependencies
  | json
  deriving DecidableEq, Repr

/-- The place of a guard. -/
def Guard.rank : Guard → ℕ
  | .middleware => 0
  | .rateLimit => 1
  | .declaredLength => 2
  | .bodyRead => 3
  | .bodyLength => 4
  | .jwt => 5
  | .form => 6
  | .dependencies => 7
  | .json => 8

instance : LT Guard := ⟨fun g g' => g.rank < g'.rank⟩

/-- The token of a request: the bearer value, or the value of the route's cookie where there is
no bearer value, and never the empty one. -/
inductive IsRequestToken (jwtCookie auth cookieRaw : Option String) : String → Prop
  | bearer {token} : extractBearer auth = some token → token ≠ "" →
      IsRequestToken jwtCookie auth cookieRaw token
  | cookie {name raw token} : (∀ t, extractBearer auth = some t → t = "") →
      jwtCookie = some name → cookieRaw = some raw → extractCookieValue raw name = some token →
      token ≠ "" → IsRequestToken jwtCookie auth cookieRaw token

section

variable (rt : Runtime m Ref W) (req : HttpRequest Ref) (snap : FrozenState m Ref)
  (entry : RouteEntry Ref)

/-- The token of a request with these headers. -/
def HasToken (headers : PyVal Ref) (token : String) : Prop :=
  IsRequestToken entry.extra.jwtCookie (headerGetLax rt.toInspection headers "authorization")
    (headerGetLax rt.toInspection headers "cookie") token

/-- The body that was read. -/
def BodyRead (hist : List (RequestEvent Ref)) (body : List UInt8) : Prop :=
  ∃ v, .bodyRead (.ok v) ∈ hist ∧ (requestBody rt.toInspection v).1 = body

/-- All dependencies of a list succeeded, in order, with these values. -/
def Resolved (hist : List (RequestEvent Ref)) (deps : List (DependencyEntry Ref))
    (vals : List (String × PyVal Ref)) : Prop :=
  vals.map Prod.fst = deps.map (·.name) ∧
    (vals.map fun e => .resolved e.1 (.ok e.2)).Sublist hist

/-- The body is the one that was read, or empty for a route that does not read it. -/
def BodyKnown (hist : List (RequestEvent Ref)) (body : List UInt8) : Prop :=
  (entry.shouldReadBody = true → BodyRead rt hist body) ∧
    (entry.shouldReadBody = false → body = [])

/-- The JSON body was decoded, or validated with the model of the route. -/
def Decoded (hist : List (RequestEvent Ref)) (body : List UInt8) : Prop :=
  match entry.bodyModel with
  | none => ∃ v, rt.jsonBytesToPy body = .ok v
  | some _ => ∃ v, .validated (.ok v) ∈ hist

/-- What shows, in the events so far, that a guard let the request through. -/
def Passed : Guard → List (RequestEvent Ref) → Prop
  | .middleware, hist =>
    (snap.requestMiddleware.map fun f => .middleware f (.ok .none)) <+: hist
  | .rateLimit, hist => ∀ rl, entry.extra.rateLimiter = some rl →
    ∃ limit remaining resetSecs,
      .rateLimited (extractRateLimitKey rt.toInspection req rl.keyStrategy)
        (.allowed limit remaining resetSecs) ∈ hist
  | .declaredLength, _ => entry.shouldReadBody = true →
    ∀ len, declaredLength rt.toInspection req = some len → len ≤ rt.maxBodyBytes
  | .bodyRead, hist => entry.shouldReadBody = true → ∃ body, BodyRead rt hist body
  | .bodyLength, hist => entry.shouldReadBody = true →
    ∃ body, BodyRead rt hist body ∧ body.length ≤ rt.maxBodyBytes
  | .jwt, _ => entry.requireJwt = true →
    ∃ headers token dk val claims, req.headers = .ok headers ∧
      HasToken rt entry headers token ∧ entry.extra.jwtDecodingKey = some dk ∧
      entry.extra.jwtValidation = some val ∧ rt.decodeJwt token dk val = .ok claims
  | .form, hist => entry.readFormBody = true → hasBodyMethod req.method = true →
    ∃ body form, BodyRead rt hist body ∧ formOf rt req body = .ok form
  | .dependencies, hist =>
    ((∃ dep ∈ entry.extra.dependencies, dep.wantsRequest = true) →
      ∃ ctx, rt.newRequest req.scope req.method req.path req.queryString = .ok ctx) ∧
    ∃ vals, Resolved hist entry.extra.dependencies vals
  | .json, hist => entry.readJsonBody = true →
    ∃ body, BodyRead rt hist body ∧
      (hasJsonBody entry req.method body = true → Decoded rt entry hist body)

/-- The answer to a form that is not accepted. -/
def formAnswer : FormError Ref → Dispatch m Ref W Unit
  | .python e => failWith rt req snap e
  | .response status text => rejectJson rt req status text

/-- Why the JWT check refuses a request, with the text of its answer. -/
inductive JwtRefusal (headers : PyVal Ref) : String → Prop
  | noKey : entry.extra.jwtDecodingKey = none ∨ entry.extra.jwtValidation = none →
      JwtRefusal headers "Unauthorized"
  | noToken : (∀ token, ¬ HasToken rt entry headers token) → JwtRefusal headers "Unauthorized"
  | refused {token dk val err} : HasToken rt entry headers token →
      entry.extra.jwtDecodingKey = some dk → entry.extra.jwtValidation = some val →
      rt.decodeJwt token dk val = .error err →
      JwtRefusal headers (if err = .expiredSignature then "Expired" else "Unauthorized")

/-- The text of the answer to a body that the model does not take. -/
def validationText (detail : String) : String := "\x7b\"detail\":" ++ detail ++ "\x7d"

/-- How a guard that fails rejects the request, after the events so far. -/
inductive Rejection : Guard → List (RequestEvent Ref) → Dispatch m Ref W Unit → Prop
  | middlewareAnswered {f v hist} : .middleware f (.ok v) ∈ hist → v.isNone = false →
      Rejection .middleware hist (respondOrFail rt req snap v)
  | middlewareRaised {f e hist} : .middleware f (.error e) ∈ hist →
      Rejection .middleware hist (failWith rt req snap e)
  | rateLimitDenied {rl limit resetSecs hist} : entry.extra.rateLimiter = some rl →
      .rateLimited (extractRateLimitKey rt.toInspection req rl.keyStrategy)
        (.denied limit resetSecs) ∈ hist →
      Rejection .rateLimit hist (finish (send429RateLimited rt req limit resetSecs))
  | declaredTooLong {len hist} : entry.shouldReadBody = true →
      declaredLength rt.toInspection req = some len → rt.maxBodyBytes < len →
      Rejection .declaredLength hist (payloadTooLarge rt req)
  | bodyNotRead {e hist} : .bodyRead (.error e) ∈ hist →
      Rejection .bodyRead hist (exit (.raised e))
  | bodyTooLong {body hist} : BodyRead rt hist body → rt.maxBodyBytes < body.length →
      Rejection .bodyLength hist (payloadTooLarge rt req)
  | noHeaders {e hist} : entry.requireJwt = true → req.headers = .error e →
      Rejection .jwt hist (exit (.raised e))
  | unauthorized {headers text hist} : entry.requireJwt = true → req.headers = .ok headers →
      JwtRefusal rt entry headers text → Rejection .jwt hist (rejectPlain rt req 401 text)
  | formNotParsed {body e hist} : BodyRead rt hist body → formOf rt req body = .error e →
      Rejection .form hist (formAnswer rt req snap e)
  | noRequest {dep e hist} : dep ∈ entry.extra.dependencies → dep.wantsRequest = true →
      rt.newRequest req.scope req.method req.path req.queryString = .error e →
      Rejection .dependencies hist (failWith rt req snap e)
  | dependencyFailed {dep e hist} : dep ∈ entry.extra.dependencies →
      .resolved dep.name (.error e) ∈ hist →
      Rejection .dependencies hist (failWith rt req snap e)
  | jsonNotDecoded {body text hist} : BodyRead rt hist body →
      hasJsonBody entry req.method body = true → rt.jsonBytesToPy body = .error text →
      Rejection .json hist (rejectJson rt req 400 (errorJson rt ("json: " ++ text)))
  | jsonNotValidated {err hist} : .validated (.error err) ∈ hist →
      Rejection .json hist (do
        let detail ← orRaise (validationDetail rt err)
        rejectJson rt req 422 (validationText detail))

/-- The names a JSON body is passed under. -/
def jsonTargets : List String :=
  match entry.bodyModel with
  | none => ["json"]
  | some _ =>
    let target := if entry.extra.bodyParamName = "" then "json" else entry.extra.bodyParamName
    target :: if target ≠ "json" && entry.handlerVarkw then ["json"] else []

/-- What is gathered for the handler comes from the request and the events so far. -/
structure Gathered (params : PathParams) (hist : List (RequestEvent Ref))
    (input : HandlerInput Ref) : Prop where
  params : input.params = params
  query : input.query = queryMap rt req entry
  deps : Resolved hist entry.extra.dependencies input.deps
  claims : input.claims.isSome = entry.requireJwt
  body : BodyKnown rt entry hist input.body

/-- The keyword arguments of the handler: everything that was gathered, and the JSON body. -/
def HandlerKwargs (params : PathParams) (hist : List (RequestEvent Ref))
    (kwargs : Dict String (PyVal Ref)) : Prop :=
  ∃ input json, Gathered rt req entry params hist input ∧
    json.map Prod.fst =
      (if hasJsonBody entry req.method input.body then jsonTargets entry else []) ∧
    kwargs = .ofList (allKwargs req entry input json)

/-- A request is served once, and middlewares are called before. The other calls come after the
guards they need: a factory after those before the dependencies, the handler after all of them. -/
def CallAllowed (hist : List (RequestEvent Ref)) : RequestEvent Ref → Prop
  | .middleware _ _ | .serving _ _ => ∀ idx params, .serving idx params ∉ hist
  | .factory name f _ => ∃ idx params entry, .serving idx params ∈ hist ∧
    snap.routes[idx]? = some entry ∧
    (∃ dep ∈ entry.extra.dependencies, dep.name = name ∧ dep.factory = f) ∧
    ∀ g < Guard.dependencies, Passed rt req snap entry g hist
  | .handler f kwargs => ∃ idx params entry, .serving idx params ∈ hist ∧
    snap.routes[idx]? = some entry ∧ f = entry.handler ∧
    HandlerKwargs rt req entry params hist kwargs ∧ ∀ g, Passed rt req snap entry g hist
  | _ => True

variable {rt req snap entry} {hist : List (RequestEvent Ref)}

theorem BodyRead.append {body : List UInt8} (h : BodyRead rt hist body)
    (l : List (RequestEvent Ref)) : BodyRead rt (hist ++ l) body := by
  obtain ⟨v, hv, hb⟩ := h
  exact ⟨v, List.mem_append_left l hv, hb⟩

theorem Resolved.append {deps : List (DependencyEntry Ref)} {vals : List (String × PyVal Ref)}
    (h : Resolved hist deps vals) (l : List (RequestEvent Ref)) :
    Resolved (hist ++ l) deps vals :=
  ⟨h.1, h.2.trans (List.sublist_append_left hist l)⟩

theorem BodyKnown.append {body : List UInt8} (h : BodyKnown rt entry hist body)
    (l : List (RequestEvent Ref)) : BodyKnown rt entry (hist ++ l) body :=
  ⟨fun hread => (h.1 hread).append l, h.2⟩

theorem Gathered.append {params : PathParams} {input : HandlerInput Ref}
    (h : Gathered rt req entry params hist input) (l : List (RequestEvent Ref)) :
    Gathered rt req entry params (hist ++ l) input :=
  ⟨h.params, h.query, h.deps.append l, h.claims, h.body.append l⟩

theorem Decoded.append {body : List UInt8} (h : Decoded rt entry hist body)
    (l : List (RequestEvent Ref)) : Decoded rt entry (hist ++ l) body := by
  unfold Decoded at h ⊢
  split
  · next hm => rwa [hm] at h
  · next hm =>
    rw [hm] at h
    obtain ⟨v, hv⟩ := h
    exact ⟨v, List.mem_append_left l hv⟩

theorem Decoded.prepend {body : List UInt8} (h : Decoded rt entry hist body)
    (l : List (RequestEvent Ref)) : Decoded rt entry (l ++ hist) body := by
  unfold Decoded at h ⊢
  split
  · next hm => rwa [hm] at h
  · next hm =>
    rw [hm] at h
    obtain ⟨v, hv⟩ := h
    exact ⟨v, List.mem_append_right l hv⟩

/-- A guard that is passed stays passed. -/
theorem Passed.append {g : Guard} (h : Passed rt req snap entry g hist)
    (l : List (RequestEvent Ref)) : Passed rt req snap entry g (hist ++ l) := by
  cases g with
  | middleware => exact h.trans (List.prefix_append hist l)
  | rateLimit =>
    intro rl hrl
    obtain ⟨limit, remaining, resetSecs, hmem⟩ := h rl hrl
    exact ⟨limit, remaining, resetSecs, List.mem_append_left l hmem⟩
  | declaredLength => exact h
  | bodyRead =>
    intro hread
    obtain ⟨body, hbody⟩ := h hread
    exact ⟨body, hbody.append l⟩
  | bodyLength =>
    intro hread
    obtain ⟨body, hbody, hlen⟩ := h hread
    exact ⟨body, hbody.append l, hlen⟩
  | jwt => exact h
  | form =>
    intro hform hmethod
    obtain ⟨body, form, hbody, hok⟩ := h hform hmethod
    exact ⟨body, form, hbody.append l, hok⟩
  | dependencies =>
    obtain ⟨hctx, vals, hvals⟩ := h
    exact ⟨hctx, vals, hvals.append l⟩
  | json =>
    intro hjson
    obtain ⟨body, hbody, hdec⟩ := h hjson
    exact ⟨body, hbody.append l, fun hb => (hdec hb).append l⟩

variable (rt req snap entry)

/-- The guards of a route, as a chain that its handler is behind. -/
def routeGuards : GuardChain (World m Ref W) (RequestEvent Ref) (Exit Ref) Guard where
  passed := Passed rt req snap entry
  passed_append l h := h.append l
  rejection := Rejection rt req snap entry
  allowed := CallAllowed rt req snap
  through
    | .handler _ _ => True
    | _ => False

end

end OxyRoute
