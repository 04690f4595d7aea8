import OxyRoute.ApiRouter.Defs

/-!
# The option values a mounted route is registered with

Every route recorded on a router is registered on the application with the value that its own
record, the `include_router` defaults around it and the decorator's default decide, in that
order. The record, however, holds the decorator's own default of an unwritten option whenever
that default is not `None`, and holds nothing for an option written as `None`.

The value of an option is the keyword that the decorator of the application is called with. What
`App._route` makes of the keywords of one call afterwards (no JSON body next to a form body, a body
model that is read off the handler) is the same with and without a router and not part of this.

## Main results

- `Script.router_lookup` — the options recorded on a router, by origin
- `includeRouter_option_iff` — when the registered value is the intended one
-/

namespace OxyRoute

variable {η ν : Type*}

/-- What a record holds for each option, in terms of the origin of its route. -/
structure RecordOf (route : RouteRecord η ν) (o : Origin η ν) : Prop where
  verb : route.verb = o.verb
  handler : route.handler = o.handler
  lookup : ∀ k, route.opts.get? k = (o.recorded k).or (o.includeDefault k)

theorem APIRouter.decorate_recordOf (verb : Verb) (path : String) (handler : η)
    (written : Written ν verb) :
    RecordOf (⟨verb, path, handler, (bindKeywords (verb.signature ν) written.1).filter
      fun _ v => !v.isNone⟩ : RouteRecord η ν) ⟨verb, handler, written.1, []⟩ := by
  refine ⟨rfl, rfl, fun k => ?_⟩
  simp only [Dict.get?_filter, bindKeywords, Dict.get?_mapWithKey, Origin.recorded,
    Origin.includeDefault, List.findSome?_nil, Option.or_none]

/-- Including a router keeps what its records hold and adds the new defaults underneath. -/
theorem RecordOf.include {route : RouteRecord η ν} {o : Origin η ν} (h : RecordOf route o)
    (path : String) (defaults : Options ν) :
    RecordOf { route with path := path, opts := defaults.update route.opts }
      (o.within defaults) := by
  refine ⟨h.verb, h.handler, fun k => ?_⟩
  have hd : (o.within defaults).includeDefault k = (o.includeDefault k).or (defaults.get? k) := by
    simp [Origin.includeDefault, Origin.within, List.findSome?_append]
  have hr : (o.within defaults).recorded k = o.recorded k := rfl
  rw [Dict.get?_update, h.lookup k, hd, hr, Option.or_assoc]

/-- The routes of a router correspond one by one to the origins of its script. -/
theorem Script.router_lookup (s : Script η ν) :
    List.Forall₂ RecordOf s.router.routes s.origins := by
  induction s with
  | new => exact .nil
  | route s verb path handler written ih =>
    exact List.rel_append ih (.cons (APIRouter.decorate_recordOf verb path handler written) .nil)
  | mount s path app ih =>
    have hget : ∀ p, RecordOf (⟨.get, p, app, (bindKeywords (Verb.signature ν .get)
        (Written.nothing .get).1).filter fun _ v => !v.isNone⟩ : RouteRecord η ν)
        ⟨.get, app, .empty, []⟩ :=
      fun p => APIRouter.decorate_recordOf .get p app (.nothing .get)
    simpa [Script.router, Script.origins, APIRouter.mount, APIRouter.get, APIRouter.decorate,
      APIRouter.reg] using List.rel_append ih (.cons (hget _) (.cons (hget _) (.cons (hget _) .nil)))
  | includeRouter s child pre defaults ihs ihc =>
    refine List.rel_append ihs ?_
    rw [List.forall₂_map_left_iff, List.forall₂_map_right_iff]
    exact ihc.imp fun {_ _} h => h.include _ defaults

/-- A recorded option overrides the include defaults exactly when the intention is kept. -/
theorem Origin.registered_eq_intended_iff (o : Origin η ν) {k : OptionName}
    (hk : k ∈ (o.verb.signature ν).keys) :
    ((o.recorded k).or (o.includeDefault k)).getD (o.decoratorDefault k) = o.intended k ↔
      o.KeepsIntent k := by
  obtain ⟨dflt, hdflt⟩ := Option.isSome_iff_exists.mp ((Dict.mem_keys_iff _ _).mp hk)
  have hdec : o.decoratorDefault k = dflt := by simp [decoratorDefault, hdflt]
  simp only [Origin.recorded, Origin.intended, Origin.KeepsIntent, hdflt, hdec, Option.map_some]
  cases hw : o.written.get? k with
  | none =>
    -- unwritten: the record holds the decorator's own default, unless it is `None`
    cases dflt <;> simp [Value.isNone, Option.filter_some, eq_comm]
  | some w =>
    cases w <;> simp [Value.isNone, Option.filter_some]

/-- What a mounted route is registered with, option by option. -/
theorem App.decorate_lookup {route : RouteRecord η ν} {o : Origin η ν}
    (h : RecordOf route o) (path : String) (defaults : Options ν) {k : OptionName}
    (hk : k ∈ (o.verb.signature ν).keys) :
    (App.decorate route.verb path route.handler ((defaults.update route.opts).filter
        fun k _ => k ∈ (route.verb.signature ν).keys)).opts.get? k =
      some ((((o.within defaults).recorded k).or
        ((o.within defaults).includeDefault k)).getD (o.decoratorDefault k)) := by
  have hl := (h.include path defaults).lookup k
  obtain ⟨dflt, hdflt⟩ := Option.isSome_iff_exists.mp ((Dict.mem_keys_iff _ _).mp hk)
  have hdec : o.decoratorDefault k = dflt := by simp [Origin.decoratorDefault, hdflt]
  have hall : ∀ x : Option (Value ν),
      x.filter (fun _ => decide (k ∈ (o.verb.signature ν).keys)) = x := by
    intro x
    cases x <;> simp [Option.filter_some, hk]
  simp only at hl
  simp only [App.decorate, bindKeywords, Dict.get?_mapWithKey, Dict.get?_filter, hl, hall,
    h.verb, hdflt, Option.map_some, hdec]

/-- **Route options.** The routes of a mounted router are registered one by one, and each
option its decorator accepts has the intended value (written on the route, else the innermost
`include_router` default, else the decorator's default) exactly when `KeepsIntent` holds: the
option is written with a value other than `None`, or it is unwritten and either its decorator
default is `None` or no include default differs from that default, or it is written as `None`
and `None` is what the defaults give as well. -/
theorem includeRouter_option_iff (s : Script η ν) (pre : String) (defaults : Options ν) :
    List.Forall₂
      (fun (call : RouteCall η ν) (o : Origin η ν) =>
        call.verb = o.verb ∧ call.handler = o.handler ∧
        ∀ k ∈ (o.verb.signature ν).keys,
          (call.opts.get? k = some (o.intended k) ↔ o.KeepsIntent k))
      (App.includeRouter s.router pre defaults) (s.origins.map (·.within defaults)) := by
  unfold App.includeRouter
  rw [List.forall₂_map_left_iff, List.forall₂_map_right_iff]
  refine s.router_lookup.imp fun {route o} h => ⟨h.verb, h.handler, fun k hk => ?_⟩
  rw [App.decorate_lookup h _ defaults hk, Option.some_inj]
  exact (o.within defaults).registered_eq_intended_iff hk

/-- A router with one `GET /account` route that writes no option. -/
def accountScript : Script Unit Unit :=
  .route .new .get "/account" () (.nothing .get)

/-- Mounted with `require_jwt=True`, the unmarked route is registered without the check. -/
theorem accountScript_unprotected :
    let defaults : Options Unit := Dict.ofList [(.requireJwt, .bool true), (.jwtSecret, .obj ())]
    (App.includeRouter accountScript.router "" defaults).map (·.opts.get? .requireJwt) =
        [some (.bool false)] ∧
      (accountScript.origins.map (·.within defaults)).map (·.intended .requireJwt) =
        [.bool true] := by
  decide

end OxyRoute
