import OxyRoute.Native.Guarded

/-!
# Routes with tokens

The keys that registration stores for routes with `require_jwt`, and what a token has to be for the
code of such a route to run. All algorithms of a route belong to the family its key was read as, so
that a token signed with an algorithm of another family is not taken, whatever its header says.

## Main definitions

- `JwtSettings` — the key and the validation that the arguments of `add_route` ask for
- `NamesAlgorithm` — decoding takes the algorithms of the validation only
- `SignedFor` — the request has a token that was signed for the key of the route

## Main results

- `token_law` — the settings of every route, and the tokens that reach its code
-/

namespace OxyRoute

variable {m : Matchit} {Ref W : Type}

-- ════════════════════════════════════════════════════════════════════════
-- Keys
-- ════════════════════════════════════════════════════════════════════════

/-- A key that can be built belongs to the family of all its algorithms. -/
theorem buildDecodingKey_ok {readPem : KeyFamily → String → Option String} {keyMaterial : String}
    {algs : List Algorithm} {dk : DecodingKey}
    (h : buildDecodingKey readPem keyMaterial algs = .ok dk) :
    dk.material = keyMaterial ∧ algs ≠ [] ∧ (∀ alg ∈ algs, keyFamily alg = dk.family) ∧
      (dk.family ≠ .hmac → readPem dk.family keyMaterial = none) := by
  cases algs with
  | nil => cases h
  | cons alg algs =>
    simp only [buildDecodingKey] at h
    split at h
    · cases h
    · next hsame =>
      have hfamily : ∀ a ∈ alg :: algs, keyFamily a = keyFamily alg := fun a ha =>
        Classical.byContradiction fun hne =>
          hsame (List.any_eq_true.mpr ⟨a, ha, decide_eq_true hne⟩)
      split at h
      · next hhmac =>
        cases h
        exact ⟨rfl, List.cons_ne_nil _ _, fun a ha => (hfamily a ha).trans hhmac,
          fun hne => absurd rfl hne⟩
      · split at h
        · cases h
        · next hread =>
          cases h
          exact ⟨rfl, List.cons_ne_nil _ _, hfamily, fun _ => hread⟩

/-- The key and the validation that the arguments ask for. -/
structure JwtSettings (h : Host Ref) (a : AddRouteArgs Ref) (dk : DecodingKey) (val : Validation) :
    Prop where
  secret : a.jwtSecret = some dk.material
  algorithms : routeAlgorithms h a.algorithms = .ok val.algorithms
  nonempty : val.algorithms ≠ []
  family : ∀ alg ∈ val.algorithms, keyFamily alg = dk.family
  readable : dk.family ≠ .hmac → h.readPem dk.family dk.material = none
  validateNbf : val.validateNbf = true
  leeway : val.leeway = a.jwtLeeway.getD 60
  issuer : val.issuer = a.jwtIssuer
  audience : val.audience = a.jwtAudience
  validateAud : val.validateAud = a.jwtAudience.isSome

/-- The settings of a route with tokens. -/
theorem routeJwtState_ok {h : Host Ref} {a : AddRouteArgs Ref} {algs : List Algorithm}
    {jwt : Option (DecodingKey × Validation)} (halgs : routeAlgorithms h a.algorithms = .ok algs)
    (hjwt : routeJwtState h a algs = .ok jwt) :
    (a.requireJwt = false ∧ jwt = none) ∨
      a.requireJwt = true ∧ ∃ dk val, jwt = some (dk, val) ∧ JwtSettings h a dk val := by
  unfold routeJwtState at hjwt
  split at hjwt
  · next hrequire =>
    split at hjwt
    · cases hjwt
    · next k hk =>
      split at hjwt
      · next s hs =>
        cases hjwt
        unfold buildRouteJwtState at hs
        dsimp only at hs
        split at hs
        · obtain ⟨_, ht, _⟩ := Except.of_bind_eq_ok hs
          cases ht
        · obtain ⟨dk, hdk, hs⟩ := Except.of_bind_eq_ok hs
          cases hs
          obtain ⟨hmaterial, hne, hfamily, hread⟩ := buildDecodingKey_ok hdk
          subst hmaterial
          exact .inr ⟨hrequire, dk, _, rfl, hk, halgs, hne, hfamily, hread, rfl, rfl, rfl, rfl, rfl⟩
      · cases hjwt
  · next hrequire =>
    cases hjwt
    exact .inl ⟨Bool.eq_false_iff.mpr hrequire, rfl⟩

/-- The settings that an entry keeps. -/
def TokenSettings (entry : RouteEntry Ref) : Prop :=
  (entry.requireJwt = false ∧ entry.extra.jwtDecodingKey = none ∧
      entry.extra.jwtValidation = none) ∨
    entry.requireJwt = true ∧ ∃ (h : Host Ref) (a : AddRouteArgs Ref) (opId : String)
      (dk : DecodingKey) (val : Validation), prepareRoute h a = .ok (entry, opId) ∧
      entry.extra.jwtDecodingKey = some dk ∧ entry.extra.jwtValidation = some val ∧
      JwtSettings h a dk val

theorem Prepared.tokenSettings {entry : RouteEntry Ref} (h : Prepared entry) :
    TokenSettings entry := by
  obtain ⟨h, a, opId, hprepare⟩ := h
  have hp := hprepare
  unfold prepareRoute at hp
  obtain ⟨isAsync, -, hp⟩ := Except.of_bind_eq_ok hp
  obtain ⟨algs, halgs, hp⟩ := Except.of_bind_eq_ok hp
  dsimp only at hp
  split at hp
  · obtain ⟨_, ht, _⟩ := Except.of_bind_eq_ok hp
    cases ht
  split at hp
  · obtain ⟨_, ht, _⟩ := Except.of_bind_eq_ok hp
    cases ht
  obtain ⟨jwt, hjwt, hp⟩ := Except.of_bind_eq_ok hp
  obtain ⟨dependencies, -, hp⟩ := Except.of_bind_eq_ok hp
  obtain ⟨rateLimiter, -, hp⟩ := Except.of_bind_eq_ok hp
  obtain ⟨name, -, hp⟩ := Except.of_bind_eq_ok hp
  obtain ⟨⟨names, varkw⟩, -, hp⟩ := Except.of_bind_eq_ok hp
  rcases routeJwtState_ok halgs hjwt with ⟨hrequire, rfl⟩ | ⟨hrequire, dk, val, rfl, hsettings⟩
  · cases hp
    exact .inl ⟨hrequire, rfl, rfl⟩
  · refine .inr ?_
    cases hp
    exact ⟨hrequire, h, a, opId, dk, val, hprepare, rfl, rfl, hsettings⟩

-- ════════════════════════════════════════════════════════════════════════
-- Tokens
-- ════════════════════════════════════════════════════════════════════════

/-- `decode` refuses a token whose header names an algorithm that the validation does not list. -/
def NamesAlgorithm (rt : Runtime m Ref W) (headerAlg : String → Option Algorithm) : Prop :=
  ∀ token dk val claims, rt.decodeJwt token dk val = .ok claims →
    ∃ alg ∈ val.algorithms, headerAlg token = some alg

/-- The request has a token that decodes with the key of the route and was signed with an
algorithm of the family of the key. -/
def SignedFor (rt : Runtime m Ref W) (req : HttpRequest Ref) (headerAlg : String → Option Algorithm)
    (entry : RouteEntry Ref) : Prop :=
  ∃ headers token dk val claims alg, req.headers = .ok headers ∧ HasToken rt entry headers token ∧
    entry.extra.jwtDecodingKey = some dk ∧ entry.extra.jwtValidation = some val ∧
    rt.decodeJwt token dk val = .ok claims ∧ headerAlg token = some alg ∧ keyFamily alg = dk.family

/-- An event that is a call of the code of a route. -/
def RequestEvent.CallsRoute : RequestEvent Ref → Prop
  | .factory _ _ _ | .handler _ _ => True
  | _ => False

/-- **Tokens.** For every state an application reaches and every request: a route without
`require_jwt` has no key; the key of a route with it was read from the secret of its registration,
for the family of all its algorithms; and before a factory or a handler of such a route is called,
the request has shown a token that was signed for that key. -/
theorem token_law {o : MaskOrder} (rt : Runtime m Ref W) (req : HttpRequest Ref)
    (w : World m Ref W) {headerAlg : String → Option Algorithm}
    (hreached : (appSystem m Ref o).Reached w.app) (hdecode : NamesAlgorithm rt headerAlg) :
    (∀ entry ∈ w.app.hotSnapshot.routes, TokenSettings entry) ∧
      ∀ pre i post, ((dispatch rt req).run w).log = pre ++ i :: post → i.CallsRoute →
        ∃ idx params entry, .serving idx params ∈ pre ∧
          w.app.hotSnapshot.routes[idx]? = some entry ∧
          (entry.requireJwt = true → SignedFor rt req headerAlg entry) := by
  have hsettings : ∀ entry ∈ w.app.hotSnapshot.routes, TokenSettings entry := fun entry hentry =>
    ((prepared_of_reached hreached).2 entry hentry).tokenSettings
  refine ⟨hsettings, fun pre i post hlog hcalls => ?_⟩
  have hallowed : CallAllowed rt req w.app.hotSnapshot pre i := by
    have hcalls := (guarded_dispatch rt req w hreached).1.calls
    rw [hlog] at hcalls
    exact ((justified_append [] pre _).mp hcalls).2.1
  -- the guard of the token comes before both kinds of calls
  have hpassed : ∃ idx params entry, .serving idx params ∈ pre ∧
      w.app.hotSnapshot.routes[idx]? = some entry ∧
      Passed rt req w.app.hotSnapshot entry .jwt pre := by
    cases i with
    | factory name f kwargs =>
      obtain ⟨idx, params, entry, hserving, hentry, -, hguards⟩ := hallowed
      exact ⟨idx, params, entry, hserving, hentry, hguards .jwt (by decide)⟩
    | handler f kwargs =>
      obtain ⟨idx, params, entry, hserving, hentry, -, -, hguards⟩ := hallowed
      exact ⟨idx, params, entry, hserving, hentry, hguards .jwt⟩
    | _ => exact hcalls.elim
  obtain ⟨idx, params, entry, hserving, hentry, hjwt⟩ := hpassed
  refine ⟨idx, params, entry, hserving, hentry, fun hrequire => ?_⟩
  obtain ⟨headers, token, dk, val, claims, hheaders, htoken, hdk, hval, hclaims⟩ := hjwt hrequire
  obtain ⟨alg, halg, hheader⟩ := hdecode token dk val claims hclaims
  refine ⟨headers, token, dk, val, claims, alg, hheaders, htoken, hdk, hval, hclaims, hheader, ?_⟩
  rcases hsettings entry (List.mem_of_getElem? hentry) with ⟨hfalse, -⟩ |
    ⟨-, h, a, opId, dk', val', -, hdk', hval', hset⟩
  · exact absurd (hfalse.symm.trans hrequire) Bool.false_ne_true
  · cases hdk.symm.trans hdk'
    cases hval.symm.trans hval'
    exact hset.family alg halg

/-- A runtime with one token, signed with `HS256`, that decodes if the validation lists that. -/
def signedRuntime : Runtime segmentMatcher String Unit :=
  { plainRuntime segmentMatcher with
    decodeJwt := fun token _ val =>
      if token = "t" ∧ Algorithm.HS256 ∈ val.algorithms then .ok (.obj []) else .error .other }

/-- A request with the token. -/
def signedRequest : HttpRequest String :=
  { plainRequest "GET" "/private" with
    headers := .ok (.dict [(.text "authorization", .text "Bearer t")]) }

/-- The route of the application. -/
def privateRoute : RouteEntry String := privateApp.hotSnapshot.routes.head (by decide)

/-- The handler of the route is called, and the token was signed for its key. -/
theorem private_token_law :
    TokenSettings privateRoute ∧
      .handler "secret" (.ofList [("claims", .dict [])]) ∈
        ((dispatch signedRuntime signedRequest).run ⟨privateApp, ()⟩).log ∧
      SignedFor signedRuntime signedRequest (fun _ => some .HS256) privateRoute := by
  have hreached : (appSystem segmentMatcher String ⟨id, fun _ => .rfl⟩).Reached privateApp :=
    .step (i := .addRoute plainHost _) (.init ⟨true, rfl⟩) trivial rfl
  have hnames : NamesAlgorithm signedRuntime fun _ => some .HS256 := by
    intro token dk val claims h
    simp only [signedRuntime] at h
    split at h
    · next hlisted => exact ⟨.HS256, hlisted.2, rfl⟩
    · cases h
  obtain ⟨hsettings, hcalls⟩ := token_law signedRuntime signedRequest ⟨privateApp, ()⟩ hreached
    hnames
  have hlog : ((dispatch signedRuntime signedRequest).run ⟨privateApp, ()⟩).log =
      [.serving 0 []] ++ .handler "secret" (.ofList [("claims", .dict [])]) ::
        [.sent (.responseStr 200 [("content-type", "text/plain; charset=utf-8")]
          ⟨"secret", false⟩)] := rfl
  refine ⟨hsettings _ (List.head_mem _), ?_, ?_⟩
  · rw [hlog]
    exact List.mem_append_right _ List.mem_cons_self
  obtain ⟨idx, params, entry, hserving, hentry, hsigned⟩ := hcalls _ _ _ hlog trivial
  cases List.mem_singleton.mp hserving
  cases hentry
  exact hsigned rfl

end OxyRoute
