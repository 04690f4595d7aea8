import OxyRoute.Native.Middleware

/-!
# The short circuit and the requests it answers

The short circuit answers preflights, the OpenAPI document, paths without a route and methods
without one as `run_rsgi` does, and does nothing to a request it leaves.

## Main definitions

- `AnswersAs` — a computation that, where it answers without serving a route, does what another does
- `Traceless` — a computation that changes and logs nothing when it ends with a value

## Main results

- `short_circuit_law` — what the short circuit answers, and what it leaves
-/

namespace OxyRoute

open Routine

variable {m : Matchit} {Ref W : Type}

/-- No route is served in the log. -/
def NoRouteServed (l : List (RequestEvent Ref)) : Prop := ∀ idx params, .serving idx params ∉ l

/-- Where the one computation exits without serving a route, the other does the same. -/
def AnswersAs {α β : Type} (c : Dispatch m Ref W α) (d : Dispatch m Ref W β) : Prop :=
  ∀ w e w' l, c.run w = ⟨.error e, w', l⟩ → NoRouteServed l → d.run w = ⟨.error e, w', l⟩

/-- A computation that ends with a value has changed and logged nothing. -/
def Traceless {α : Type} (c : Dispatch m Ref W α) : Prop :=
  ∀ w a w' l, c.run w = ⟨.ok a, w', l⟩ → w' = w ∧ l = []

/-- A computation that never ends with a value. -/
def Finishes {α : Type} (c : Dispatch m Ref W α) : Prop :=
  ∀ w a w' l, c.run w ≠ ⟨.ok a, w', l⟩

section

variable {α β γ : Type} {c : Dispatch m Ref W α}

theorem answersAs_pure (a : α) (d : Dispatch m Ref W β) : AnswersAs (pure a) d := by
  rintro w e w' l ⟨⟩

/-- After a common beginning it is enough that what follows agrees. -/
theorem AnswersAs.bind (c : Dispatch m Ref W γ) {k : γ → Dispatch m Ref W α}
    {k' : γ → Dispatch m Ref W β} (h : ∀ a, AnswersAs (k a) (k' a)) :
    AnswersAs (c >>= k) (c >>= k') := by
  intro w e w' l hrun hl
  rcases hc : c.run w with ⟨r, w₁, l₁⟩
  cases r with
  | error e₁ =>
    rw [bind_run_error hc] at hrun ⊢
    cases hrun
    rfl
  | ok a =>
    rw [bind_run_ok hc] at hrun ⊢
    rcases hk : (k a).run w₁ with ⟨r, w₂, l₂⟩
    rw [hk] at hrun
    cases hrun
    have hsecond : NoRouteServed l₂ := fun idx params hmem =>
      hl idx params (List.mem_append_right l₁ hmem)
    rw [h a w₁ _ _ l₂ hk hsecond]
    rfl

/-- A computation that logs the serving of a route first. -/
theorem answersAs_serving (idx : ℕ) (params : PathParams) (k : Unit → Dispatch m Ref W α)
    (d : Dispatch m Ref W β) : AnswersAs (log (.serving idx params) >>= k) d := by
  intro w e w' l hrun hl
  rw [log_bind_run] at hrun
  have hlog : l = [.serving idx params] ++ ((k ()).run w).log := (congrArg Ending.log hrun).symm
  exact absurd (hlog ▸ List.mem_append_left _ (List.mem_singleton_self _)) (hl idx params)

theorem Finishes.traceless (h : Finishes c) : Traceless c :=
  fun w a w' l hrun => absurd hrun (h w a w' l)

theorem finishes_exit (e : Exit Ref) : Finishes (exit e : Dispatch m Ref W α) := by
  rintro w a w' l ⟨⟩

theorem Finishes.bind {k : α → Dispatch m Ref W β} (h : ∀ a, Finishes (k a)) :
    Finishes (c >>= k) := by
  intro w b w' l hrun
  rcases hc : c.run w with ⟨r, w₁, l₁⟩
  cases r with
  | error e =>
    rw [bind_run_error hc] at hrun
    cases hrun
  | ok a =>
    rw [bind_run_ok hc] at hrun
    rcases hk : (k a).run w₁ with ⟨r, w₂, l₂⟩
    rw [hk] at hrun
    cases hrun
    exact h a _ _ _ _ hk

theorem finishes_finish (c : PyResult m Ref W Unit) : Finishes (finish c : Dispatch m Ref W α) :=
  Finishes.bind fun _ => finishes_exit _

theorem traceless_pure (a : α) : Traceless (pure a : Dispatch m Ref W α) := by
  rintro w a' w' l ⟨⟩
  exact ⟨rfl, rfl⟩

theorem Traceless.bind {k : α → Dispatch m Ref W β} (hc : Traceless c) (hk : ∀ a, Traceless (k a)) :
    Traceless (c >>= k) := by
  intro w b w' l hrun
  rcases hr : c.run w with ⟨r, w₁, l₁⟩
  cases r with
  | error e =>
    rw [bind_run_error hr] at hrun
    cases hrun
  | ok a =>
    obtain ⟨rfl, rfl⟩ := hc w a w₁ l₁ hr
    rw [bind_run_ok hr] at hrun
    exact hk a _ _ _ _ hrun

end

section

variable (rt : Runtime m Ref W) (req : HttpRequest Ref) (snap : FrozenState m Ref)

/-- A request that is no preflight passes, and the answer to a preflight ends the run. -/
theorem answerPreflight_cases : NotPreflight rt req snap ∨
    req.method = "OPTIONS" ∧ Finishes (answerPreflight rt req snap) := by
  unfold NotPreflight answerPreflight preflight
  by_cases hm : req.method = "OPTIONS"
  · rw [if_pos hm]
    rcases snap.compiledCors with _ | cors
    · exact .inl fun _ cors hcors => by cases hcors
    · rcases req.headers with e | headers
      · refine .inr ⟨hm, ?_⟩
        rintro w a w' l ⟨⟩
      · cases hacrm : headerGetLax rt.toInspection headers "access-control-request-method" with
        | none => exact .inl fun _ _ _ => ⟨headers, rfl, hacrm⟩
        | some acrm =>
          refine .inr ⟨hm, ?_⟩
          simp only [Routine.ofExcept, pure_bind, hacrm, orRaise, handle_pure]
          cases cors.handlePreflight acrm _ _ with
          | ok headers => exact finishes_finish _
          | error refusal => exact finishes_finish _
  · exact .inl fun h => absurd h hm

theorem serveOpenapi_finishes : Finishes (serveOpenapi rt req) := by
  refine Finishes.bind fun _ => Finishes.bind fun doc => ?_
  split
  · exact finishes_finish _
  · exact finishes_finish _

theorem matchRoute_traceless (compiled : CompiledRouters m) :
    Traceless (matchRoute rt req compiled) := by
  unfold matchRoute
  split
  · exact (finishes_exit _).traceless
  · unfold noRoute
    dsimp only
    split
    · exact (finishes_finish _).traceless
    · exact (finishes_finish _).traceless
  · exact traceless_pure _

theorem routeEntry_traceless (idx : ℕ) : Traceless (routeEntry snap idx : Dispatch m Ref W _) := by
  unfold routeEntry
  split
  · exact traceless_pure _
  · exact (finishes_exit _).traceless

-- ════════════════════════════════════════════════════════════════════════
-- What the short circuit answers
-- ════════════════════════════════════════════════════════════════════════

/-- Routing answers alike in both dispatchers, if no route is served. -/
theorem routeTrivialSync_answersAs :
    AnswersAs (routeTrivialSync rt req snap) (routeAndServe rt req snap) := by
  refine AnswersAs.bind _ fun compiled => AnswersAs.bind _ fun route => ?_
  dsimp only
  split
  · exact answersAs_pure _ _
  · refine AnswersAs.bind _ fun entry => ?_
    split
    · unfold runTrivialSyncRoute
      rw [bind_assoc]
      exact answersAs_serving route.1 route.2 _ _
    · exact answersAs_pure _ _

theorem tryRsgiSyncShortCircuit_answersAs :
    AnswersAs (tryRsgiSyncShortCircuit rt req snap) (runRsgi rt req snap) := by
  unfold tryRsgiSyncShortCircuit runRsgi
  rcases answerPreflight_cases rt req snap with hpass | ⟨hm, hfinish⟩
  · rw [hpass.answerPreflight_eq]
    simp only [pure_bind]
    split
    · exact answersAs_pure _ _
    · next hmiddleware =>
      obtain ⟨hreq, -⟩ := not_or.mp hmiddleware
      rw [not_not.mp hreq]
      simp only [runMiddleware, pure_bind]
      split
      · exact AnswersAs.bind _ fun _ => routeTrivialSync_answersAs rt req snap
      · exact routeTrivialSync_answersAs rt req snap
  · have hopenapi : servesOpenapi req snap = false := by
      rw [servesOpenapi, hm]
      rfl
    rw [hopenapi]
    intro w e w' l hrun _
    rcases hr : (answerPreflight rt req snap).run w with ⟨r, w₁, l₁⟩
    cases r with
    | ok a => exact absurd hr (hfinish w a w₁ l₁)
    | error e₁ =>
      rw [bind_run_error hr] at hrun
      rw [if_neg Bool.false_ne_true]
      exact (bind_run_error hr _).trans hrun

-- ════════════════════════════════════════════════════════════════════════
-- What it leaves
-- ════════════════════════════════════════════════════════════════════════

/-- The world is as it was, or has the tables that were compiled for the request. -/
def CompiledAtMost (w w' : World m Ref W) : Prop :=
  w' = w ∨ ∃ app c, w.app.ensureCompiledSnapshot rt.maskOrder = some (app, c) ∧
    w' = { w with app := app }

theorem compiledTables_leaves {w w' : World m Ref W} {compiled : CompiledRouters m}
    {l : List (RequestEvent Ref)} (h : (compiledTables rt snap).run w = ⟨.ok compiled, w', l⟩) :
    CompiledAtMost rt w w' ∧ l = [] := by
  unfold compiledTables at h
  split at h
  · cases h
    exact ⟨.inl rfl, rfl⟩
  · rw [effect_run] at h
    rcases hensure : w.app.ensureCompiledSnapshot rt.maskOrder with _ | ⟨app, c⟩
    · rw [hensure] at h
      cases h
    · rw [hensure] at h
      cases h
      exact ⟨.inr ⟨app, compiled, hensure, rfl⟩, rfl⟩

/-- A request that routing leaves to `run_rsgi` has at most had the tables compiled. -/
theorem routeTrivialSync_leaves {w w' : World m Ref W} {l : List (RequestEvent Ref)}
    (h : (routeTrivialSync rt req snap).run w = ⟨.ok (), w', l⟩) :
    CompiledAtMost rt w w' ∧ l = [] := by
  unfold routeTrivialSync at h
  rcases hr : (compiledTables rt snap).run w with ⟨r, w₁, l₁⟩
  cases r with
  | error e =>
    rw [bind_run_error hr] at h
    cases h
  | ok compiled =>
    obtain ⟨hcompiled, rfl⟩ := compiledTables_leaves rt snap hr
    rw [bind_run_ok hr] at h
    suffices htraceless : w' = w₁ ∧ l = [] by
      obtain ⟨rfl, rfl⟩ := htraceless
      exact ⟨hcompiled, rfl⟩
    refine (matchRoute_traceless rt req compiled).bind (fun route => ?_) w₁ () w' l h
    dsimp only
    split
    · exact traceless_pure _
    · refine (routeEntry_traceless snap _).bind fun entry => ?_
      split
      · exact (Finishes.bind fun _ => finishes_exit _).traceless
      · exact traceless_pure _

theorem tryRsgiSyncShortCircuit_leaves {w w' : World m Ref W} {l : List (RequestEvent Ref)}
    (h : (tryRsgiSyncShortCircuit rt req snap).run w = ⟨.ok (), w', l⟩) :
    CompiledAtMost rt w w' ∧ l = [] := by
  unfold tryRsgiSyncShortCircuit at h
  rcases answerPreflight_cases rt req snap with hpass | ⟨-, hfinish⟩
  · rw [hpass.answerPreflight_eq] at h
    simp only [pure_bind] at h
    split at h
    · cases h
      exact ⟨.inl rfl, rfl⟩
    split at h
    · rcases hr : (serveOpenapi rt req).run w with ⟨r, w₁, l₁⟩
      cases r with
      | error e =>
        rw [bind_run_error hr] at h
        cases h
      | ok a => exact absurd hr (serveOpenapi_finishes rt req w a w₁ l₁)
    · exact routeTrivialSync_leaves rt req snap h
  · rcases hr : (answerPreflight rt req snap).run w with ⟨r, w₁, l₁⟩
    cases r with
    | error e =>
      rw [bind_run_error hr] at h
      cases h
    | ok a => exact absurd hr (hfinish w a w₁ l₁)

/-- **The short circuit.** For every runtime, request, snapshot and world: where the short circuit
ends the request without serving a route (a preflight, the OpenAPI document, 404, 405, an error),
`run_rsgi` from the same world would have made the same calls, left the same world and ended the
same way; and where it leaves the request, nothing was called or sent, and at most the tables were
compiled. -/
theorem short_circuit_law (w : World m Ref W) :
    (∀ e w' l, (tryRsgiSyncShortCircuit rt req snap).run w = ⟨.error e, w', l⟩ →
      NoRouteServed l → (runRsgi rt req snap).run w = ⟨.error e, w', l⟩) ∧
    ∀ w' l, (tryRsgiSyncShortCircuit rt req snap).run w = ⟨.ok (), w', l⟩ →
      CompiledAtMost rt w w' ∧ l = [] :=
  ⟨tryRsgiSyncShortCircuit_answersAs rt req snap w,
    fun _ _ => tryRsgiSyncShortCircuit_leaves rt req snap⟩

end

end OxyRoute
