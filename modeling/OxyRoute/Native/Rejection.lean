import OxyRoute.Native.Registration

/-!
# Rejected registrations

A registration that returns an error should leave the application as it was. `add_route` pushes
its entry before it has read all of its arguments, and enters the operation into the document
before it knows that the router takes the template, so this holds only for the calls that are
refused before the write lock.

## Main results

- `addRoute_restores_iff`, `addWebsocketRoute_restores_iff` — when an error changes nothing
-/

namespace OxyRoute

variable {m : Matchit} {Ref : Type}

/-- `add_route` is refused before it takes the write lock. -/
def RefusedEarly (h : Host Ref) (st : AppState m Ref) (a : AddRouteArgs Ref) : Prop :=
  st.frozen = true ∨ ∃ e, prepareRoute h a = .error e

/-- The checks `add_route` makes under the write lock pass. -/
structure CommitChecks (h : Host Ref) (st : AppState m Ref) (a : AddRouteArgs Ref) : Prop where
  bodySchema : ∃ v, (optionalJson h.jsonFromStr "body_schema" a.bodySchemaJson :
    Except (PyErr Ref) (Option Json)) = .ok v
  tags : ∃ v, tagList h a.tags = .ok v
  extraParams : ∃ v, (optionalJson h.jsonArrayFromStr "extra_params" a.extraParamsJson :
    Except (PyErr Ref) (Option (List Json))) = .ok v
  template : ∃ key, routerKey a.method = some key ∧ m.refusal a.path = none ∧
    ∀ t ∈ (st.routers.router key).templates, m.conflicts t a.path = false

/-- `commitRoute` succeeds exactly when its checks pass. -/
theorem commitRoute_isOk_iff (h : Host Ref) (st : AppState m Ref) (a : AddRouteArgs Ref)
    (entry : RouteEntry Ref) (opId : String) :
    (commitRoute h st a entry opId).2 = .ok () ↔ CommitChecks h st a := by
  constructor
  · intro hok
    unfold commitRoute at hok
    simp only at hok
    split at hok
    · cases hok
    · next v hv =>
      split at hok
      · cases hok
      · next w hw =>
        split at hok
        · cases hok
        · next x hx =>
          split at hok
          · cases hok
          · next key hkey =>
            split at hok
            · cases hok
            · next r hr =>
              have hi := Router.insert_eq_ok_iff.mp hr
              exact ⟨⟨v, hv⟩, ⟨w, hw⟩, ⟨x, hx⟩, key, hkey, hi.1, hi.2.1⟩
  · rintro ⟨⟨v, hv⟩, ⟨w, hw⟩, ⟨x, hx⟩, key, hkey, href, hcon⟩
    obtain ⟨r, hr⟩ := (Router.insert_isOk_iff (st.routers.router key) a.path
      st.routes.length).mpr ⟨href, hcon⟩
    simp [commitRoute, hv, hw, hx, hkey, AppState.enterOperation, hr]

/-- **Rejected `add_route`.** An error of `add_route` leaves the state as it was exactly when
the call is refused before the write lock, or the checks under the lock pass and there is no
error. -/
theorem addRoute_restores_iff (h : Host Ref) (st : AppState m Ref) (a : AddRouteArgs Ref) :
    (∀ e, (addRoute h st a).2 = .error e → (addRoute h st a).1 = st) ↔
      RefusedEarly h st a ∨ CommitChecks h st a := by
  unfold addRoute RefusedEarly
  by_cases hf : st.frozen = true
  · simp [hf]
  · rw [if_neg hf]
    cases hp : prepareRoute h a with
    | error e => simp
    | ok p =>
      obtain ⟨entry, opId⟩ := p
      simp only [hf, reduceCtorEq, exists_false, or_false, false_or]
      rw [← commitRoute_isOk_iff h st a entry opId]
      rcases commitRoute_cases h st a entry opId with ⟨st', e, hc, -, hr⟩ | ⟨_, _, _, -, -, hc⟩
      · -- a late failure: the pushed entry makes the state differ
        have hne : st' ≠ st := by
          rintro rfl
          simpa using congrArg List.length hr
        simp [hc, hne]
      · simp [hc]

/-- **Rejected `add_websocket_route`.** Likewise: the entry is pushed before the template is
inserted. -/
theorem addWebsocketRoute_restores_iff (h : Host Ref) (st : AppState m Ref) (path : String)
    (handler : Ref) (allowedOrigins : Option (List String)) :
    (∀ e, (addWebsocketRoute h st path handler allowedOrigins).2 = .error e →
        (addWebsocketRoute h st path handler allowedOrigins).1 = st) ↔
      (st.frozen = true ∨ ∃ e, h.isCoroutineFunction handler = .error e) ∨
        (m.refusal path = none ∧ ∀ t ∈ st.websocket.templates, m.conflicts t path = false) := by
  unfold addWebsocketRoute
  by_cases hf : st.frozen = true
  · simp [hf]
  · rw [if_neg hf]
    cases hp : h.isCoroutineFunction handler with
    | error e => simp
    | ok isAsync =>
      simp only [hf, reduceCtorEq, exists_false, or_false, false_or]
      rw [← Router.insert_isOk_iff st.websocket path st.websocketRoutes.length]
      rcases commitWebsocketRoute_cases st path ⟨handler, isAsync, allowedOrigins⟩ with
        ⟨st', e, hc, hk, hr⟩ | ⟨r, hi, hc⟩
      · have hne : st' ≠ st := by
          rintro rfl
          simpa using congrArg List.length hr
        have hno : ¬ ∃ r, st.websocket.insert path st.websocketRoutes.length = .ok r := by
          rintro ⟨r, hi⟩
          simp [commitWebsocketRoute, hi] at hc
        simp [hc, hne, hno]
      · simp [hc, hi]

/-- **Rejected registrations.** In every state, an error of either call leaves the state as it
was exactly when the call is refused before the write lock or all its later checks pass. -/
theorem rejected_registration_iff (h : Host Ref) (st : AppState m Ref) :
    (∀ a : AddRouteArgs Ref,
      (∀ e, (addRoute h st a).2 = .error e → (addRoute h st a).1 = st) ↔
        RefusedEarly h st a ∨ CommitChecks h st a) ∧
    (∀ path handler allowedOrigins,
      (∀ e, (addWebsocketRoute h st path handler allowedOrigins).2 = .error e →
          (addWebsocketRoute h st path handler allowedOrigins).1 = st) ↔
        (st.frozen = true ∨ ∃ e, h.isCoroutineFunction handler = .error e) ∨
          (m.refusal path = none ∧ ∀ t ∈ st.websocket.templates, m.conflicts t path = false)) :=
  ⟨addRoute_restores_iff h st, addWebsocketRoute_restores_iff h st⟩

/-- A plain `GET` registration. -/
def getRoute (path handler : String) : AddRouteArgs String :=
  { method := "GET", path := path, handler := handler, readJsonBody := false }

/-- A second `GET /a` is an error, but its entry stays and its operation replaces the accepted
one in the document. -/
theorem duplicate_route_changes_state :
    let st := addRoutes plainHost (AppState.new true : AppState segmentMatcher String)
      [getRoute "/a" "first"]
    let out := addRoute plainHost st (getRoute "/a" "second")
    (∃ e, out.2 = .error e) ∧ out.1 ≠ st ∧
      out.1.routes.map (·.handler) = ["first", "second"] ∧
      st.openapi.1.pointer ["paths", "/a", "get", "summary"] = some (.str "first") ∧
      out.1.openapi.1.pointer ["paths", "/a", "get", "summary"] = some (.str "second") := by
  refine ⟨⟨.valueError (segmentMatcher.conflictError "/a"), rfl⟩, ?_, by decide, rfl, rfl⟩
  intro h
  exact absurd (congrArg (fun s => s.routes.length) h) (by decide)

end OxyRoute
