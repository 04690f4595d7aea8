import OxyRoute.Lib.Transition
import OxyRoute.Native.Registration

/-!
# Registered routes

The states an application goes through, and what holds of every route in them: it was prepared
by `add_route`. A prepared route that is marked for the synchronous short circuit has none of
the options the short circuit leaves out.

## Main definitions

- `appSystem` — the calls that change an application, in any order
- `Prepared`, `PreparedFrom`, `PlainRoute` — routes of `add_route`, routes without options

## Main results

- `prepared_of_reached` — all routes of a reachable state are prepared
- `Prepared.plain` — a route for the short circuit is plain
-/

namespace OxyRoute

variable {m : Matchit} {Ref : Type}

/-- A call that changes an application. The interpreter may answer each call differently. -/
inductive AppCall (Ref : Type)
  | addRoute (h : Host Ref) (a : AddRouteArgs Ref)
  | addWebsocketRoute (h : Host Ref) (path : String) (handler : Ref)
      (allowedOrigins : Option (List String))
  | configure (setting : Setting Ref)
  | freeze
  | ensureCompiled
  /-- `set_openapi_title` and the like, and filling the cache of the document. -/
  | writeDocument (doc : Json × Option String)

/-- The state after a call; none where it panics. -/
def AppState.call (o : MaskOrder) (st : AppState m Ref) : AppCall Ref → Option (AppState m Ref)
  | .addRoute h a => some (OxyRoute.addRoute h st a).1
  | .addWebsocketRoute h path handler origins =>
    some (OxyRoute.addWebsocketRoute h st path handler origins).1
  | .configure setting => some (st.configure setting)
  | .freeze => st.freeze o
  | .ensureCompiled => (st.ensureCompiledSnapshot o).map (·.1)
  | .writeDocument doc => some { st with openapi := doc }

/-- A fresh application and the calls on it. -/
def appSystem (m : Matchit) (Ref : Type) (o : MaskOrder) :
    TransitionSystem (AppState m Ref) (AppCall Ref) where
  init st := ∃ includeOpenapi, st = .new includeOpenapi
  step st c st' := st.call o c = some st'

/-- An entry that `add_route` prepared. -/
def Prepared (entry : RouteEntry Ref) : Prop :=
  ∃ (h : Host Ref) (a : AddRouteArgs Ref) (opId : String), prepareRoute h a = .ok (entry, opId)

/-- All entries of a state and of its snapshot are prepared. -/
def AllPrepared (st : AppState m Ref) : Prop :=
  (∀ e ∈ st.routes, Prepared e) ∧ ∀ e ∈ st.snapshot.routes, Prepared e

theorem AllPrepared.rebuild {st : AppState m Ref} (h : ∀ e ∈ st.routes, Prepared e) :
    AllPrepared st.rebuildSnapshot :=
  ⟨h, h⟩

/-- One call keeps all entries prepared. -/
theorem AllPrepared.call {o : MaskOrder} {st st' : AppState m Ref} {c : AppCall Ref}
    (hst : AllPrepared st) (hc : st.call o c = some st') : AllPrepared st' := by
  have hcompiled {tables : Option (CompiledRouters m)} {f : CompiledRouters m → AppState m Ref}
      (hmap : tables.map f = some st')
      (hf : ∀ c, (f c).routes = st.routes ∧ (f c).snapshot.routes = st.routes) :
      AllPrepared st' := by
    obtain ⟨c, -, rfl⟩ := Option.map_eq_some_iff.mp hmap
    obtain ⟨hr, hs⟩ := hf c
    exact ⟨fun e he => hst.1 e (hr ▸ he), fun e he => hst.1 e (hs ▸ he)⟩
  cases c with
  | addRoute h a =>
    cases hc
    rcases addRoute_cases h st a with ⟨e, hr⟩ | ⟨entry, opId, st', e, hp, hr, hk, hroutes⟩ |
      ⟨entry, opId, doc, key, r, hp, -, -, hr⟩
    · rw [hr]
      exact hst
    · rw [hr]
      refine ⟨fun x hx => ?_, hk.snapshot ▸ hst.2⟩
      rw [hroutes, List.mem_append, List.mem_singleton] at hx
      rcases hx with hx | rfl
      · exact hst.1 x hx
      · exact ⟨h, a, opId, hp⟩
    · rw [hr]
      refine AllPrepared.rebuild fun x hx => ?_
      rcases List.mem_append.mp hx with hx | hx
      · exact hst.1 x hx
      · rw [List.mem_singleton.mp hx]
        exact ⟨h, a, opId, hp⟩
  | addWebsocketRoute h path handler origins =>
    cases hc
    unfold OxyRoute.addWebsocketRoute
    split
    · exact hst
    · split
      · exact hst
      · unfold commitWebsocketRoute
        simp only
        split
        · exact hst
        · exact AllPrepared.rebuild hst.1
  | configure setting =>
    cases hc
    refine AllPrepared.rebuild fun e he => hst.1 e ?_
    cases setting <;> exact he
  | freeze =>
    unfold AppState.call AppState.freeze at hc
    simp only at hc
    split at hc
    · cases hc
      exact AllPrepared.rebuild hst.1
    · exact hcompiled hc fun _ => ⟨rfl, rfl⟩
  | ensureCompiled =>
    unfold AppState.call AppState.ensureCompiledSnapshot at hc
    simp only at hc
    split at hc
    · cases hc
      exact hst
    · rw [Option.map_map] at hc
      exact hcompiled hc fun _ => ⟨rfl, rfl⟩
  | writeDocument doc =>
    cases hc
    exact hst

/-- In every state an application reaches all entries are prepared. -/
theorem prepared_of_reached {o : MaskOrder} {st : AppState m Ref}
    (h : (appSystem m Ref o).Reached st) : AllPrepared st := by
  refine TransitionSystem.Reached.invariant (P := AllPrepared) ?_ ?_ h
  · rintro st ⟨includeOpenapi, rfl⟩
    constructor
    · intro e he
      cases he
    · intro e he
      cases he
  · intro st c st' hst hc
    exact hst.call hc

/-- What an entry keeps of the arguments of `add_route`. -/
structure PreparedFrom (h : Host Ref) (a : AddRouteArgs Ref) (entry : RouteEntry Ref) : Prop where
  pathTemplate : entry.extra.pathTemplate = a.path
  wildcardParams : entry.extra.wildcardParams = wildcardParamNames a.path
  dependencies : routeDependencies h a.dependencies = .ok entry.extra.dependencies
  signature : handlerSignatureKinds h.toIntrospection entry.handler =
    .ok (entry.extra.handlerParamNames, entry.handlerVarkw)
  trivialSync : entry.trivialSync = (!entry.isAsync && !entry.requireJwt &&
    !entry.readJsonBody && !entry.readFormBody && entry.extra.dependencies.isEmpty &&
    paramsCompatible entry.extra.handlerParamNames entry.handlerVarkw a.path &&
    entry.extra.rateLimiter.isNone)

theorem preparedFrom {h : Host Ref} {a : AddRouteArgs Ref} {entry : RouteEntry Ref}
    {opId : String} (hp : prepareRoute h a = .ok (entry, opId)) : PreparedFrom h a entry := by
  unfold prepareRoute at hp
  obtain ⟨isAsync, -, hp⟩ := Except.of_bind_eq_ok hp
  obtain ⟨algs, -, hp⟩ := Except.of_bind_eq_ok hp
  dsimp only at hp
  split at hp
  · obtain ⟨_, ht, _⟩ := Except.of_bind_eq_ok hp
    cases ht
  split at hp
  · obtain ⟨_, ht, _⟩ := Except.of_bind_eq_ok hp
    cases ht
  obtain ⟨jwt, -, hp⟩ := Except.of_bind_eq_ok hp
  obtain ⟨dependencies, hdeps, hp⟩ := Except.of_bind_eq_ok hp
  obtain ⟨rateLimiter, -, hp⟩ := Except.of_bind_eq_ok hp
  obtain ⟨opId, -, hp⟩ := Except.of_bind_eq_ok hp
  obtain ⟨⟨names, varkw⟩, hkinds, hp⟩ := Except.of_bind_eq_ok hp
  cases hp
  exact ⟨rfl, rfl, hdeps, hkinds, rfl⟩

/-- A route that has none of the options the short circuit leaves out. -/
structure PlainRoute (entry : RouteEntry Ref) : Prop where
  isAsync : entry.isAsync = false
  requireJwt : entry.requireJwt = false
  readJsonBody : entry.readJsonBody = false
  readFormBody : entry.readFormBody = false
  dependencies : entry.extra.dependencies = []
  rateLimiter : entry.extra.rateLimiter = none
  handlerVarkw : entry.handlerVarkw = false
  reserved : ∀ name ∈ reservedNames, name ∉ entry.extra.handlerParamNames

theorem paramsCompatible_varkw {names : List String} {varkw : Bool} {path : String}
    (h : paramsCompatible names varkw path = true) :
    varkw = false ∧ ∀ name ∈ reservedNames, name ∉ names := by
  simp only [paramsCompatible, Bool.and_eq_true, Bool.not_eq_true', List.any_eq_false,
    decide_eq_true_eq] at h
  exact ⟨h.1.1.1, fun name hr hn => h.1.1.2 name hn hr⟩

/-- A prepared route that is marked for the short circuit is plain. -/
theorem Prepared.plain {entry : RouteEntry Ref} (h : Prepared entry)
    (htrivial : entry.trivialSync = true) : PlainRoute entry := by
  obtain ⟨h, a, opId, hp⟩ := h
  rw [(preparedFrom hp).trivialSync] at htrivial
  simp only [Bool.and_eq_true, Bool.not_eq_true', List.isEmpty_iff, Option.isNone_iff_eq_none]
    at htrivial
  obtain ⟨⟨⟨⟨⟨⟨hasync, hjwt⟩, hjson⟩, hform⟩, hdeps⟩, hparams⟩, hlimit⟩ := htrivial
  exact ⟨hasync, hjwt, hjson, hform, hdeps, hlimit, (paramsCompatible_varkw hparams).1,
    (paramsCompatible_varkw hparams).2⟩

end OxyRoute
