import OxyRoute.Native.Answers
import OxyRoute.Native.Registration
import OxyRoute.Routing.Segments

/-!
# Request middlewares

The request middlewares are meant to see every request that is not a preflight before anything
is sent. The asynchronous dispatcher serves the OpenAPI document before it calls them, and that
is the only way around them.

## Main definitions

- `MiddlewareCalls` — the middlewares that are called, and what comes of it
- `MiddlewareLaw` — a run respects them

## Main results

- `middleware_law_iff` — a run does exactly when the request is not for the OpenAPI document
-/

namespace OxyRoute

open Routine

variable {m : Matchit} {Ref W : Type}

/-- What the middlewares make of a request. -/
inductive MiddlewareVerdict (Ref : Type)
  | passed
  | answered (v : PyVal Ref)
  | raised (e : PyErr Ref)

/-- The middlewares are called in order, up to and including the first that returns a value other
than `None` or raises. -/
inductive MiddlewareCalls (rt : Runtime m Ref W) (req : HttpRequest Ref) :
    List Ref → World m Ref W → List (RequestEvent Ref) → MiddlewareVerdict Ref →
      World m Ref W → Prop
  | passed {w} : MiddlewareCalls rt req [] w [] .passed w
  | next {f fs v w w' w'' l verdict} :
      rt.call f [.object req.scope, .object req.protocol] .empty w = (.ok v, w') →
      v.isNone = true → MiddlewareCalls rt req fs w' l verdict w'' →
      MiddlewareCalls rt req (f :: fs) w (.middleware f (.ok v) :: l) verdict w''
  | answered {f fs v w w'} :
      rt.call f [.object req.scope, .object req.protocol] .empty w = (.ok v, w') →
      v.isNone = false →
      MiddlewareCalls rt req (f :: fs) w [.middleware f (.ok v)] (.answered v) w'
  | raised {f fs e w w'} :
      rt.call f [.object req.scope, .object req.protocol] .empty w = (.error e, w') →
      MiddlewareCalls rt req (f :: fs) w [.middleware f (.error e)] (.raised e) w'

section

variable (rt : Runtime m Ref W) (req : HttpRequest Ref) (snap : FrozenState m Ref)

/-- What is left to do with a request after its middlewares: serve it from the OpenAPI document,
from a route, or with 404 or 405. -/
def serveRequest : Dispatch m Ref W Unit :=
  if servesOpenapi req snap then serveOpenapi rt req else routeAndServe rt req snap

/-- What follows the middlewares: the given computation if the request passes them, and else the
answer with the value or the error of the last one called. -/
def afterVerdict (k : Dispatch m Ref W Unit) : MiddlewareVerdict Ref → Dispatch m Ref W Unit
  | .passed => k
  | .answered v => respondOrFail rt req snap v
  | .raised e => failWith rt req snap e

/-- A run from a world that calls the middlewares first, serves the request if they all pass it,
and otherwise does nothing but answer with the value or the error of the last one called. -/
def MiddlewareLaw (w : World m Ref W)
    (r : Ending (World m Ref W) (RequestEvent Ref) (Exit Ref) Unit) : Prop :=
  ∃ calls verdict w', MiddlewareCalls rt req snap.requestMiddleware w calls verdict w' ∧
    r = ((afterVerdict rt req snap (serveRequest rt req snap) verdict).run w').after calls ∧
    (verdict ≠ .passed → ∃ answer, r.log = calls ++ answer ∧ ∀ e ∈ answer, IsAnswer e)

/-- The request is not a preflight that the native CORS configuration answers. -/
def NotPreflight : Prop :=
  req.method = "OPTIONS" → ∀ cors, snap.compiledCors = some cors →
    ∃ headers, req.headers = .ok headers ∧
      headerGetLax rt.toInspection headers "access-control-request-method" = none

variable {rt req snap}

theorem NotPreflight.answerPreflight_eq (h : NotPreflight rt req snap) :
    answerPreflight rt req snap = pure () := by
  have hnone : preflight rt req snap = pure none := by
    unfold preflight
    split
    · next hm =>
      split
      · rfl
      · next cors hc =>
        obtain ⟨headers, hh, hacrm⟩ := h hm cors hc
        rw [hh]
        change (pure headers >>= _ : PyResult m Ref W _) = _
        rw [pure_bind]
        dsimp only
        rw [hacrm]
    · rfl
  rw [answerPreflight, hnone]
  rfl

variable (rt req snap) in
/-- What the loop over the middlewares does with a result. -/
def afterMiddleware (fs : List Ref) : Except (PyErr Ref) (PyVal Ref) → Dispatch m Ref W Unit
  | .error e => failWith rt req snap e
  | .ok v => if v.isNone then runMiddleware rt req snap fs else respondOrFail rt req snap v

/-- The loop over the middlewares calls them as it should. -/
theorem runMiddleware_bind (snap : FrozenState m Ref) (fs : List Ref) (k : Dispatch m Ref W Unit)
    (w : World m Ref W) :
    ∃ calls verdict w', MiddlewareCalls rt req fs w calls verdict w' ∧
      (runMiddleware rt req snap fs >>= fun _ => k).run w =
        ((afterVerdict rt req snap k verdict).run w').after calls := by
  induction fs generalizing w with
  | nil => exact ⟨[], .passed, w, .passed, rfl⟩
  | cons f fs ih =>
    rcases hcall : rt.call f [.object req.scope, .object req.protocol] .empty w with ⟨out, w'⟩
    have hrun : (runMiddleware rt req snap (f :: fs) >>= fun _ => k).run w =
        ((afterMiddleware rt req snap fs out >>= fun _ => k).run w').after [.middleware f out] := by
      rw [runMiddleware, bind_assoc, bind_run_ok (a := out) (l := [])
        (by rw [attempt_run, effect_run, hcall]), bind_assoc, bind_run_ok (log_run _ _)]
      rfl
    rw [hrun]
    cases out with
    | error e =>
      refine ⟨_, .raised e, w', .raised hcall, ?_⟩
      rw [afterMiddleware, failWith_bind]
      rfl
    | ok v =>
      cases hv : v.isNone with
      | true =>
        obtain ⟨calls, verdict, w'', hcalls, hk⟩ := ih w'
        refine ⟨_, verdict, w'', .next hcall hv hcalls, ?_⟩
        simp only [afterMiddleware, hv, if_true, hk, Ending.after_after, List.singleton_append]
      | false =>
        refine ⟨_, .answered v, w', .answered hcall hv, ?_⟩
        simp only [afterMiddleware, hv, Bool.false_eq_true, if_false, respondOrFail_bind]
        rfl

/-- A request that is not for the OpenAPI document goes through the middlewares. -/
theorem runRsgi_middleware (hopen : servesOpenapi req snap = false)
    (hpre : NotPreflight rt req snap) (w : World m Ref W) :
    MiddlewareLaw rt req snap w ((runRsgi rt req snap).run w) := by
  have hrun : runRsgi rt req snap =
      runMiddleware rt req snap snap.requestMiddleware >>= fun _ => routeAndServe rt req snap := by
    rw [runRsgi, hopen, hpre.answerPreflight_eq]
    rfl
  obtain ⟨calls, verdict, w', hcalls, hk⟩ :=
    runMiddleware_bind snap snap.requestMiddleware (routeAndServe rt req snap) w
  refine ⟨calls, verdict, w', hcalls, ?_, fun hv => ?_⟩
  · rw [hrun, hk, serveRequest, hopen]
    rfl
  · rw [hrun, hk]
    refine ⟨_, rfl, ?_⟩
    cases verdict with
    | passed => exact absurd rfl hv
    | answered v => exact respondOrFail_logs rt req snap v w'
    | raised e => exact failWith_logs rt req snap e w'

/-- Serving the OpenAPI document sends it right away. -/
theorem serveOpenapi_log (rt : Runtime m Ref W) (req : HttpRequest Ref) (w : World m Ref W)
    (k : Unit → Dispatch m Ref W Unit) :
    ∃ call, ((serveOpenapi rt req >>= k).run w).log = [.sent call] := by
  have hsent {call : ProtocolCall} (w : World m Ref W) :
      ((finish (respond rt req call) : Dispatch m Ref W Unit).run w).log = [.sent call] := by
    rw [finish_respond_run]
    split <;> rfl
  have htext (w : World m Ref W) : ∃ text w', (openapiText rt).run w = ⟨.ok text, w', []⟩ := by
    unfold openapiText
    rw [effect_run]
    split
    · exact ⟨_, _, rfl⟩
    · exact ⟨_, _, rfl⟩
  obtain ⟨text, w', ht⟩ := htext (rt.setPathTemplate req.protocol "/openapi.json" w)
  rw [serveOpenapi, bind_assoc, bind_run_ok (effect_run _ w), bind_assoc, bind_run_ok ht]
  split
  · exact ⟨_, by rw [sendHeadSimple, finish_bind]; exact hsent w'⟩
  · exact ⟨_, by rw [sendStr, finish_bind]; exact hsent w'⟩

/-- The first event of the law is a call of a middleware, if there is one. -/
theorem MiddlewareLaw.head_middleware {w : World m Ref W}
    {r : Ending (World m Ref W) (RequestEvent Ref) (Exit Ref) Unit}
    (h : MiddlewareLaw rt req snap w r) (hne : snap.requestMiddleware ≠ []) :
    ∃ f out rest, r.log = .middleware f out :: rest := by
  obtain ⟨calls, verdict, w', hcalls, rfl, -⟩ := h
  generalize snap.requestMiddleware = fs at hcalls hne
  cases hcalls with
  | passed => exact absurd rfl hne
  | next _ _ _ => exact ⟨_, _, _, rfl⟩
  | answered _ _ => exact ⟨_, _, _, rfl⟩
  | raised _ => exact ⟨_, _, _, rfl⟩

/-- With middlewares the short circuit leaves every request that is no preflight to `run_rsgi`. -/
theorem dispatch_of_middleware {w : World m Ref W} (hsnap : w.app.hotSnapshot = snap)
    (hne : snap.requestMiddleware ≠ []) (hpre : NotPreflight rt req snap) :
    (dispatch rt req).run w = (runRsgi rt req snap).run (rt.others w) := by
  have hsync : tryRsgiSyncShortCircuit rt req snap = pure () := by
    rw [tryRsgiSyncShortCircuit, hpre.answerPreflight_eq]
    simp only [pure_bind, hne, ne_eq, not_false_eq_true, true_or, if_true]
  subst hsnap
  rw [dispatch, bind_run_ok (get_run w)]
  simp only [hsync, pure_bind]
  rw [bind_run_ok (effect_run _ w)]
  rfl

end

/-- **Middleware.** For every runtime, every state with request middlewares and every request
that is not answered as a CORS preflight: the run calls the middlewares in order before it sends
anything, up to the first that answers or raises, and serves the request only if none does,
exactly when the request is not a GET or HEAD for a served OpenAPI document. -/
theorem middleware_law_iff (rt : Runtime m Ref W) (req : HttpRequest Ref) (w : World m Ref W)
    (hne : w.app.hotSnapshot.requestMiddleware ≠ [])
    (hpre : NotPreflight rt req w.app.hotSnapshot) :
    MiddlewareLaw rt req w.app.hotSnapshot (rt.others w)
        ((dispatch rt req).run w) ↔
      servesOpenapi req w.app.hotSnapshot = false := by
  rw [dispatch_of_middleware rfl hne hpre]
  constructor
  · intro hlaw
    rw [← Bool.not_eq_true]
    intro hopen
    obtain ⟨f, out, rest, hlog⟩ := hlaw.head_middleware hne
    obtain ⟨call, hsent⟩ := serveOpenapi_log rt req (rt.others w) fun _ => do
      answerPreflight rt req w.app.hotSnapshot
      runMiddleware rt req w.app.hotSnapshot w.app.hotSnapshot.requestMiddleware
      routeAndServe rt req w.app.hotSnapshot
    rw [runRsgi, if_pos hopen, hsent] at hlog
    cases hlog
  · intro hopen
    exact runRsgi_middleware hopen hpre _

/-- An application with one request middleware. -/
def guardedApp : World segmentMatcher String Unit :=
  ⟨(AppState.new true).configure (.addMiddleware "guard" true false), ()⟩

/-- A request for a path without a route goes through the middleware. -/
theorem guarded_request_law :
    MiddlewareLaw (plainRuntime _) (plainRequest "GET" "/a") guardedApp.app.hotSnapshot guardedApp
      ((dispatch (plainRuntime _) (plainRequest "GET" "/a")).run guardedApp) :=
  (middleware_law_iff (plainRuntime _) (plainRequest "GET" "/a") guardedApp
    (by decide) (fun h => absurd h (by decide))).mpr (by decide)

/-- A request for the OpenAPI document is answered without a call of the middleware. -/
theorem openapi_skips_middleware :
    guardedApp.app.hotSnapshot.requestMiddleware = ["guard"] ∧
      NotPreflight (plainRuntime _) (plainRequest "GET" "/openapi.json")
        guardedApp.app.hotSnapshot ∧
      ¬ MiddlewareLaw (plainRuntime _) (plainRequest "GET" "/openapi.json")
        guardedApp.app.hotSnapshot guardedApp
        ((dispatch (plainRuntime _) (plainRequest "GET" "/openapi.json")).run guardedApp) := by
  refine ⟨rfl, fun h => absurd h (by decide), fun hlaw => ?_⟩
  obtain ⟨f, out, rest, hlog⟩ := hlaw.head_middleware (by decide)
  have hsent : ((dispatch (plainRuntime segmentMatcher)
      (plainRequest "GET" "/openapi.json")).run guardedApp).log =
        [.sent (.responseStr 200 [("content-type", "application/json; charset=utf-8")]
          ⟨(plainRuntime segmentMatcher).jsonToString AppState.initialOpenapi, false⟩)] := rfl
  rw [hsent] at hlog
  cases hlog

end OxyRoute
