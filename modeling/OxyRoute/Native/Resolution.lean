import OxyRoute.Native.Guarded

/-!
# The dependencies of a request

The calls of factories a request makes, and what they yield: the loop over the dependencies of
its route, from the first one on, in the stored order, each with the values of those before.

## Main definitions

- `dependencyEvents` — the part of a log that is about dependencies
- `loopEvents` — what the loop logs when every dependency succeeds
- `DependencyRun` — what there can be of it in the log of a request

## Main results

- `runDependencies_run` — the loop, by induction on the dependencies
- `dispatch_dependencyRun` — the log of every request
-/

namespace OxyRoute

open Routine

variable {m : Matchit} {Ref W : Type}

/-- A call of a factory, or what a dependency resolved to. -/
def IsDependencyEvent : RequestEvent Ref → Bool
  | .factory _ _ _ | .resolved _ _ => true
  | _ => false

/-- The part of a log that is about dependencies. -/
def dependencyEvents (log : List (RequestEvent Ref)) : List (RequestEvent Ref) :=
  log.filter IsDependencyEvent

/-- A computation that calls no factory. -/
def Quiet {ε α : Type} (c : Routine (World m Ref W) (RequestEvent Ref) ε α) : Prop :=
  Logs (fun i => IsDependencyEvent i = false) c

theorem IsAnswer.notDependency {i : RequestEvent Ref} (h : IsAnswer i) :
    IsDependencyEvent i = false := by
  cases i with
  | exceptionHandler f => rfl
  | sent call => rfl
  | _ => exact h.elim

theorem dependencyEvents_append (l l' : List (RequestEvent Ref)) :
    dependencyEvents (l ++ l') = dependencyEvents l ++ dependencyEvents l' :=
  List.filter_append ..

theorem dependencyEvents_eq_nil {l : List (RequestEvent Ref)}
    (h : ∀ i ∈ l, IsDependencyEvent i = false) : dependencyEvents l = [] := by
  apply List.filter_eq_nil_iff.mpr
  intro i hi
  rw [h i hi]
  exact Bool.false_ne_true

theorem mem_dependencyEvents {l : List (RequestEvent Ref)} {i : RequestEvent Ref} :
    i ∈ dependencyEvents l ↔ i ∈ l ∧ IsDependencyEvent i = true :=
  List.mem_filter

section

variable {ε α β : Type} {c : Routine (World m Ref W) (RequestEvent Ref) ε α}

theorem quiet_of_answers (h : Logs IsAnswer c) : Quiet c :=
  fun w i hi => (h w i hi).notDependency

theorem Quiet.events (h : Quiet c) (w : World m Ref W) : dependencyEvents (c.run w).log = [] :=
  dependencyEvents_eq_nil (h w)

/-- A quiet computation and what comes after it, which may not. -/
theorem Quiet.bind_events (h : Quiet c)
    (k : α → Routine (World m Ref W) (RequestEvent Ref) ε β) (w : World m Ref W) :
    dependencyEvents ((c >>= k).run w).log = [] ∨
      ∃ a w', (c.run w).result = .ok a ∧
        dependencyEvents ((c >>= k).run w).log = dependencyEvents ((k a).run w').log := by
  have hw := h.events w
  rcases hr : c.run w with ⟨r, w', l⟩
  rw [hr] at hw
  cases r with
  | ok a =>
    refine Or.inr ⟨a, w', rfl, ?_⟩
    rw [bind_run_ok hr, Ending.log_after, dependencyEvents_append, hw]
    rfl
  | error e =>
    rw [bind_run_error hr]
    exact Or.inl hw

/-- A computation that only quiet ones come after. -/
theorem events_bind_quiet {k : α → Routine (World m Ref W) (RequestEvent Ref) ε β}
    (h : ∀ a, Quiet (k a)) (w : World m Ref W) :
    dependencyEvents ((c >>= k).run w).log = dependencyEvents (c.run w).log := by
  rcases hr : c.run w with ⟨r, w', l⟩
  cases r with
  | ok a =>
    rw [bind_run_ok hr, Ending.log_after, dependencyEvents_append, (h a).events, List.append_nil]
  | error e => rw [bind_run_error hr]

end

variable {rt : Runtime m Ref W} {req : HttpRequest Ref} {snap : FrozenState m Ref}
  {entry : RouteEntry Ref}

-- ════════════════════════════════════════════════════════════════════════
-- The loop
-- ════════════════════════════════════════════════════════════════════════

/-- A call of a factory that ends with a value, awaited if the factory is asynchronous. -/
def FactoryReturns (rt : Runtime m Ref W) (isAsync : Bool) (f : Ref) (kw : Dict String (PyVal Ref))
    (w : World m Ref W) (out : PyVal Ref) (w' : World m Ref W) : Prop :=
  ∃ r w₁, rt.call f [] kw w = (.ok r, w₁) ∧
    if isAsync then rt.intoFuture r = .ok () ∧ rt.await r w₁ = (.ok out, w')
    else out = r ∧ w' = w₁

/-- What became of the value of a factory: the value itself, or the rows of a query. -/
inductive FactoryValue (rt : Runtime m Ref W) (snap : FrozenState m Ref) (isAsync : Bool) (f : Ref)
    (kw : Dict String (PyVal Ref)) : PyVal Ref → Prop
  | value {w w' out} : FactoryReturns rt isAsync f kw w out w' → rt.dbQuery out = none →
      FactoryValue rt snap isAsync f kw out
  | rows {w w' out query pool v} : FactoryReturns rt isAsync f kw w out w' →
      rt.dbQuery out = some query → snap.dbPool = some pool →
      (rt.executeQuery pool query w').1 = .ok v → FactoryValue rt snap isAsync f kw v

theorem callFactory_run_ok {dep : DependencyEntry Ref} {ctx : Option (PyVal Ref)}
    {prev : List (String × PyVal Ref)} {w w' : World m Ref W} {out : PyVal Ref}
    {l : List (RequestEvent Ref)} (h : (callFactory rt dep ctx prev).run w = ⟨.ok out, w', l⟩) :
    FactoryReturns rt dep.isAsync dep.factory (factoryKwargs dep ctx prev) w out w' := by
  rw [callFactory, bind_run_ok (log_run _ w)] at h
  rcases hcall : rt.call dep.factory [] (factoryKwargs dep ctx prev) w with ⟨r, w₁⟩
  have heffect : (effect (rt.call dep.factory [] (factoryKwargs dep ctx prev)) :
      PyResult m Ref W (PyVal Ref)).run w = ⟨r, w₁, []⟩ := by
    rw [effect_run, hcall]
  cases r with
  | error e =>
    rw [bind_run_error heffect] at h
    have hresult := congrArg Ending.result h
    cases hresult
  | ok r =>
    rw [bind_run_ok heffect] at h
    refine ⟨r, w₁, hcall, ?_⟩
    cases hasync : dep.isAsync with
    | false =>
      rw [hasync] at h
      rw [if_neg Bool.false_ne_true]
      exact ⟨(Except.ok.inj (congrArg Ending.result h)).symm, (congrArg Ending.state h).symm⟩
    | true =>
      rw [hasync] at h
      rw [if_pos rfl]
      cases hfut : rt.intoFuture r with
      | error e =>
        rw [hfut] at h
        have hresult := congrArg Ending.result h
        cases hresult
      | ok u =>
        rw [hfut] at h
        exact ⟨rfl, Prod.ext (congrArg Ending.result h) (congrArg Ending.state h)⟩

theorem factoryValue_of_run {dep : DependencyEntry Ref} {ctx : Option (PyVal Ref)}
    {prev : List (String × PyVal Ref)} {w : World m Ref W} {v : PyVal Ref}
    (h : ((callFactory rt dep ctx prev >>= resolveQuery rt snap).run w).result = .ok v) :
    FactoryValue rt snap dep.isAsync dep.factory (factoryKwargs dep ctx prev) v := by
  rcases hr : (callFactory rt dep ctx prev).run w with ⟨r, w', l⟩
  cases r with
  | error e =>
    rw [bind_run_error hr] at h
    exact absurd h nofun
  | ok out =>
    have hreturns := callFactory_run_ok hr
    rw [bind_run_ok hr, Ending.result_after, resolveQuery] at h
    cases hquery : rt.dbQuery out with
    | none =>
      rw [hquery] at h
      cases h
      exact .value hreturns hquery
    | some query =>
      rw [hquery] at h
      cases hpool : snap.dbPool with
      | none =>
        rw [hpool] at h
        exact absurd h nofun
      | some pool =>
        rw [hpool] at h
        exact .rows hreturns hquery hpool h

/-- What the loop logs, from the values of the dependencies before on: it goes through the list,
to its end or to a dependency that fails. -/
inductive LoopRun (rt : Runtime m Ref W) (snap : FrozenState m Ref) (ctx : Option (PyVal Ref)) :
    List (DependencyEntry Ref) → List (String × PyVal Ref) → List (RequestEvent Ref) →
      Option (List (String × PyVal Ref)) → Prop
  | nil {prev} : LoopRun rt snap ctx [] prev [] (some prev)
  | next {dep deps prev v events out} :
      FactoryValue rt snap dep.isAsync dep.factory (factoryKwargs dep ctx prev) v →
      LoopRun rt snap ctx deps (prev ++ [(dep.name, v)]) events out →
      LoopRun rt snap ctx (dep :: deps) prev
        (.factory dep.name dep.factory (factoryKwargs dep ctx prev) ::
          .resolved dep.name (.ok v) :: events) out
  | failed {dep deps prev e} : LoopRun rt snap ctx (dep :: deps) prev
      [.factory dep.name dep.factory (factoryKwargs dep ctx prev), .resolved dep.name (.error e)]
      none

variable (rt req snap) in
theorem runDependency_run (ctx : Option (PyVal Ref)) (dep : DependencyEntry Ref)
    (prev : List (String × PyVal Ref)) (w : World m Ref W) :
    (∃ v w', (runDependency rt req snap dep ctx prev).run w = ⟨.ok v, w',
        [.factory dep.name dep.factory (factoryKwargs dep ctx prev), .resolved dep.name (.ok v)]⟩ ∧
      FactoryValue rt snap dep.isAsync dep.factory (factoryKwargs dep ctx prev) v) ∨
    ∃ e x w' l, (runDependency rt req snap dep ctx prev).run w = ⟨.error x, w', l⟩ ∧
      dependencyEvents l = [.factory dep.name dep.factory (factoryKwargs dep ctx prev),
        .resolved dep.name (.error e)] := by
  have hlog := callFactory_log rt snap dep ctx prev w
  have hvalue : ∀ v, ((callFactory rt dep ctx prev >>= resolveQuery rt snap).run w).result = .ok v →
      FactoryValue rt snap dep.isAsync dep.factory (factoryKwargs dep ctx prev) v :=
    fun _ => factoryValue_of_run
  rcases hr : (callFactory rt dep ctx prev >>= resolveQuery rt snap).run w with ⟨out, w', l⟩
  rw [hr] at hlog hvalue
  subst hlog
  have hrun : (attempt (callFactory rt dep ctx prev >>= resolveQuery rt snap) :
      Dispatch m Ref W _).run w =
      ⟨.ok out, w', [.factory dep.name dep.factory (factoryKwargs dep ctx prev)]⟩ := by
    rw [attempt_run, hr]
  cases out with
  | ok v =>
    left
    refine ⟨v, w', ?_, hvalue v rfl⟩
    rw [runDependency, bind_run_ok hrun, bind_run_ok (log_run _ w')]
    rfl
  | error e =>
    right
    obtain ⟨x, w₁, l, hfail, -⟩ := failWith_exitsAs (α := PyVal Ref) rt req snap e w'
    have hquiet := (quiet_of_answers (failWith_logs (α := PyVal Ref) rt req snap e)).events w'
    rw [hfail] at hquiet
    refine ⟨e, x, w₁, [.factory dep.name dep.factory (factoryKwargs dep ctx prev)] ++
      ([.resolved dep.name (.error e)] ++ l), ?_, ?_⟩
    · rw [runDependency, bind_run_ok hrun, bind_run_ok (log_run _ w')]
      dsimp only
      rw [hfail]
      rfl
    · rw [dependencyEvents_append, dependencyEvents_append, hquiet]
      rfl

variable (rt req snap) in
/-- The loop, by induction on the dependencies that are left. -/
theorem runDependencies_run (ctx : Option (PyVal Ref)) (deps : List (DependencyEntry Ref))
    (prev : List (String × PyVal Ref)) (w : World m Ref W) :
    LoopRun rt snap ctx deps prev
      (dependencyEvents ((runDependencies rt req snap ctx deps prev).run w).log)
      ((runDependencies rt req snap ctx deps prev).run w).result.toOption := by
  induction deps generalizing prev w with
  | nil => exact .nil
  | cons dep deps ih =>
    rw [runDependencies]
    rcases runDependency_run rt req snap ctx dep prev w with
      ⟨v, w', hr, hv⟩ | ⟨e, x, w', l, hr, hl⟩
    · rw [bind_run_ok hr, Ending.log_after, Ending.result_after, dependencyEvents_append]
      exact .next hv (ih _ w')
    · rw [bind_run_error hr, hl]
      exact .failed

/-- The names of the dependencies whose factories are called, in order. -/
def calledNames (log : List (RequestEvent Ref)) : List String :=
  log.filterMap fun i =>
    match i with
    | .factory n _ _ => some n
    | _ => none

theorem calledNames_dependencyEvents (log : List (RequestEvent Ref)) :
    calledNames (dependencyEvents log) = calledNames log := by
  induction log with
  | nil => rfl
  | cons i log ih =>
    cases i with
    | factory n f kw => exact congrArg (n :: ·) ih
    | _ => exact ih

theorem mem_calledNames {log : List (RequestEvent Ref)} {n : String} :
    n ∈ calledNames log ↔ ∃ f kw, .factory n f kw ∈ log := by
  rw [calledNames, List.mem_filterMap]
  constructor
  · rintro ⟨i, hi, hn⟩
    cases i with
    | factory n' f kw =>
      cases hn
      exact ⟨f, kw, hi⟩
    | _ => cases hn
  · rintro ⟨f, kw, hi⟩
    exact ⟨_, hi, rfl⟩

namespace LoopRun

variable {ctx : Option (PyVal Ref)} {deps : List (DependencyEntry Ref)}
  {prev : List (String × PyVal Ref)} {events : List (RequestEvent Ref)}
  {out : Option (List (String × PyVal Ref))} {n : String}

/-- The factories are called in the order of the list. -/
theorem calledNames_prefix (h : LoopRun rt snap ctx deps prev events out) :
    calledNames events <+: deps.map (·.name) := by
  induction h with
  | nil => exact List.prefix_rfl
  | next _ _ ih => exact List.cons_prefix_cons.mpr ⟨rfl, ih⟩
  | failed => exact List.cons_prefix_cons.mpr ⟨rfl, List.nil_prefix⟩

/-- If no dependency fails, all factories are called. -/
theorem calledNames_eq (h : LoopRun rt snap ctx deps prev events out)
    (hok : ∀ n e, .resolved n (.error e) ∉ events) : calledNames events = deps.map (·.name) := by
  induction h with
  | nil => rfl
  | @next dep _ _ _ _ _ _ _ ih =>
    have hrest := ih fun n e hin =>
      hok n e (List.mem_cons_of_mem _ (List.mem_cons_of_mem _ hin))
    exact congrArg (dep.name :: ·) hrest
  | failed => exact absurd (List.mem_cons_of_mem _ List.mem_cons_self) (hok _ _)

theorem name_mem_of_resolved (h : LoopRun rt snap ctx deps prev events out)
    {r : Except (PyErr Ref) (PyVal Ref)} (hin : .resolved n r ∈ events) :
    n ∈ deps.map (·.name) := by
  induction h with
  | nil => exact absurd hin List.not_mem_nil
  | next _ _ ih =>
    rcases List.mem_cons.mp hin with heq | hin
    · cases heq
    · rcases List.mem_cons.mp hin with heq | hin
      · cases heq
        exact List.mem_cons_self
      · exact List.mem_cons_of_mem _ (ih hin)
  | failed =>
    rcases List.mem_cons.mp hin with heq | hin
    · cases heq
    · cases List.mem_singleton.mp hin
      exact List.mem_cons_self

/-- A dependency resolves once. -/
theorem resolved_unique (h : LoopRun rt snap ctx deps prev events out)
    (hnd : (deps.map (·.name)).Nodup) {r r' : Except (PyErr Ref) (PyVal Ref)}
    (hr : .resolved n r ∈ events) (hr' : .resolved n r' ∈ events) : r = r' := by
  induction h with
  | nil => exact absurd hr List.not_mem_nil
  | next _ hrest ih =>
    rw [List.map_cons, List.nodup_cons] at hnd
    rcases List.mem_cons.mp hr with heq | hr
    · cases heq
    · rcases List.mem_cons.mp hr' with heq | hr'
      · cases heq
      · rcases List.mem_cons.mp hr with heq | hr
        · cases heq
          rcases List.mem_cons.mp hr' with heq | hr'
          · cases heq
            rfl
          · exact absurd (hrest.name_mem_of_resolved hr') hnd.1
        · rcases List.mem_cons.mp hr' with heq | hr'
          · cases heq
            exact absurd (hrest.name_mem_of_resolved hr) hnd.1
          · exact ih hnd.2 hr hr'
  | failed =>
    rcases List.mem_cons.mp hr with heq | hr
    · cases heq
    · rcases List.mem_cons.mp hr' with heq | hr'
      · cases heq
      · cases List.mem_singleton.mp hr
        cases List.mem_singleton.mp hr'
        rfl

/-- A factory is called with the values of the dependencies before it. -/
theorem factory_mem (h : LoopRun rt snap ctx deps prev events out) {f : Ref}
    {kw : Dict String (PyVal Ref)} (hin : .factory n f kw ∈ events) :
    ∃ pre dep post vals, deps = pre ++ dep :: post ∧ dep.name = n ∧ dep.factory = f ∧
      kw = factoryKwargs dep ctx (prev ++ vals) ∧ vals.map Prod.fst = pre.map (·.name) ∧
      ∀ e ∈ vals, .resolved e.1 (.ok e.2) ∈ events := by
  induction h with
  | nil => exact absurd hin List.not_mem_nil
  | @next dep deps prev v _ _ _ _ ih =>
    rcases List.mem_cons.mp hin with heq | hin
    · cases heq
      exact ⟨[], dep, deps, [], rfl, rfl, rfl, by rw [List.append_nil], rfl, by simp⟩
    · rcases List.mem_cons.mp hin with heq | hin
      · cases heq
      · obtain ⟨pre, d, post, vals, rfl, hn, hf, hkw, hnames, hvals⟩ := ih hin
        refine ⟨dep :: pre, d, post, (dep.name, v) :: vals, rfl, hn, hf, ?_, ?_, ?_⟩
        · rw [hkw, List.append_assoc, List.singleton_append]
        · rw [List.map_cons, List.map_cons, hnames]
        · intro e he
          rcases List.mem_cons.mp he with rfl | he
          · exact List.mem_cons_of_mem _ List.mem_cons_self
          · exact List.mem_cons_of_mem _ (List.mem_cons_of_mem _ (hvals e he))
  | @failed dep deps prev _ =>
    rcases List.mem_cons.mp hin with heq | hin
    · cases heq
      exact ⟨[], dep, deps, [], rfl, rfl, rfl, by rw [List.append_nil], rfl, by simp⟩
    · cases List.mem_singleton.mp hin

/-- What a dependency resolved to is what became of the value of its factory. -/
theorem resolved_mem (h : LoopRun rt snap ctx deps prev events out) {v : PyVal Ref}
    (hin : .resolved n (.ok v) ∈ events) :
    ∃ dep ∈ deps, dep.name = n ∧ ∃ kw, .factory n dep.factory kw ∈ events ∧
      FactoryValue rt snap dep.isAsync dep.factory kw v := by
  induction h with
  | nil => exact absurd hin List.not_mem_nil
  | @next dep _ _ _ _ _ hv _ ih =>
    rcases List.mem_cons.mp hin with heq | hin
    · cases heq
    · rcases List.mem_cons.mp hin with heq | hin
      · cases heq
        exact ⟨dep, List.mem_cons_self, rfl, _, List.mem_cons_self, hv⟩
      · obtain ⟨d, hd, hn, kw, hkw, hval⟩ := ih hin
        exact ⟨d, List.mem_cons_of_mem _ hd, hn, kw,
          List.mem_cons_of_mem _ (List.mem_cons_of_mem _ hkw), hval⟩
  | failed =>
    rcases List.mem_cons.mp hin with heq | hin
    · cases heq
    · cases List.mem_singleton.mp hin

/-- A factory that is called fails or returns. -/
theorem exists_resolved (h : LoopRun rt snap ctx deps prev events out) {f : Ref}
    {kw : Dict String (PyVal Ref)} (hin : .factory n f kw ∈ events) :
    ∃ r, .resolved n r ∈ events := by
  induction h with
  | nil => exact absurd hin List.not_mem_nil
  | next _ _ ih =>
    rcases List.mem_cons.mp hin with heq | hin
    · cases heq
      exact ⟨_, List.mem_cons_of_mem _ List.mem_cons_self⟩
    · rcases List.mem_cons.mp hin with heq | hin
      · cases heq
      · obtain ⟨r, hr⟩ := ih hin
        exact ⟨r, List.mem_cons_of_mem _ (List.mem_cons_of_mem _ hr)⟩
  | failed =>
    rcases List.mem_cons.mp hin with heq | hin
    · cases heq
      exact ⟨_, List.mem_cons_of_mem _ List.mem_cons_self⟩
    · cases List.mem_singleton.mp hin

end LoopRun

-- ════════════════════════════════════════════════════════════════════════
-- A request
-- ════════════════════════════════════════════════════════════════════════

theorem quiet_pure {ε α : Type} (a : α) :
    Quiet (pure a : Routine (World m Ref W) (RequestEvent Ref) ε α) :=
  logs_pure a

theorem quiet_effect {ε α : Type} (f : World m Ref W → Except ε α × World m Ref W) :
    Quiet (effect f) :=
  logs_effect f

theorem quiet_log {ε : Type} {i : RequestEvent Ref} (h : IsDependencyEvent i = false) :
    Quiet (Routine.log i : Routine (World m Ref W) (RequestEvent Ref) ε Unit) :=
  logs_log h

/-- A predicate of all events up to the dependencies of a route. -/
structure HoldsBefore (P : RequestEvent Ref → Prop) : Prop where
  answer : ∀ i, IsAnswer i → P i
  middleware : ∀ f r, P (.middleware f r)
  rateLimited : ∀ key decision, P (.rateLimited key decision)
  bodyRead : ∀ r, P (.bodyRead r)

theorem holdsBefore_quiet :
    HoldsBefore fun i : RequestEvent Ref => IsDependencyEvent i = false where
  answer _ h := h.notDependency
  middleware _ _ := rfl
  rateLimited _ _ := rfl
  bodyRead _ := rfl

section

variable {P : RequestEvent Ref → Prop}

theorem HoldsBefore.of_answers {ε α : Type} {c : Routine (World m Ref W) (RequestEvent Ref) ε α}
    (hP : HoldsBefore P) (h : Logs IsAnswer c) : Logs P c :=
  fun w i hi => hP.answer i (h w i hi)

theorem logs_orRaise {α : Type} {c : PyResult m Ref W α} (h : Logs P c) :
    Logs P (OxyRoute.orRaise c) :=
  h.handle fun _ => logs_exit _

theorem checkRateLimit_logs (hP : HoldsBefore P) : Logs P (checkRateLimit rt req entry) := by
  unfold checkRateLimit
  split
  · exact logs_pure _
  · apply Logs.bind (P := P) (logs_effect _)
    intro decision
    apply Logs.bind (P := P) (logs_log (hP.rateLimited _ _))
    intro _
    cases decision with
    | allowed limit remaining resetSecs => exact logs_pure _
    | denied limit resetSecs => exact hP.of_answers (finish_logs (respond_logs rt req _))

theorem readRequestBody_logs (hP : HoldsBefore P) : Logs P (readRequestBody rt req entry) := by
  have hlarge (α : Type) : Logs P (payloadTooLarge rt req : Dispatch m Ref W α) :=
    hP.of_answers (rejectJson_logs rt req _ _)
  unfold readRequestBody
  apply Logs.ite (P := P)
  · apply Logs.bind (P := P)
    · unfold checkDeclaredLength
      split
      · exact Logs.ite (hlarge Unit) (logs_pure _)
      · exact logs_pure _
    · intro _
      unfold readWithinLimit
      apply Logs.bind (P := P) (logs_effect _).attempt
      intro read
      apply Logs.bind (P := P) (logs_log (hP.bodyRead _))
      intro _
      apply Logs.bind (P := P) (logs_orRaise (logs_ofExcept read))
      intro v
      exact Logs.ite (hlarge _) (logs_pure _)
  · exact logs_pure _

theorem checkJwt_logs (hP : HoldsBefore P) : Logs P (checkJwt rt req entry) := by
  unfold checkJwt
  apply Logs.ite (P := P)
  · apply Logs.bind (P := P) (logs_orRaise (logs_ofExcept req.headers))
    intro headers
    split
    · exact logs_pure _
    · exact hP.of_answers (rejectPlain_logs rt req _ _)
  · exact logs_pure _

theorem readForm_logs (hP : HoldsBefore P) {body : List UInt8} :
    Logs P (readForm rt req snap entry body) := by
  unfold readForm
  apply Logs.ite (P := P)
  · split
    · exact logs_pure _
    · exact hP.of_answers (failWith_logs rt req snap _)
    · exact hP.of_answers (rejectJson_logs rt req _ _)
  · exact logs_pure _

theorem requestContext_logs (hP : HoldsBefore P) : Logs P (requestContext rt req snap entry) := by
  unfold requestContext
  apply Logs.ite (P := P)
  · split
    · exact logs_pure _
    · exact hP.of_answers (failWith_logs rt req snap _)
  · exact logs_pure _

theorem runMiddleware_logs (hP : HoldsBefore P) (fs : List Ref) :
    Logs P (runMiddleware rt req snap fs) := by
  induction fs with
  | nil => exact logs_pure _
  | cons f fs ih =>
    unfold runMiddleware
    apply Logs.bind (P := P) (logs_effect _).attempt
    intro out
    apply Logs.bind (P := P) (logs_log (hP.middleware _ _))
    intro _
    split
    · exact hP.of_answers (failWith_logs rt req snap _)
    · exact Logs.ite ih (hP.of_answers (respondOrFail_logs rt req snap _))

theorem Preliminary.logs {α : Type} {c : Dispatch m Ref W α} (h : Preliminary c)
    (hP : HoldsBefore P) : Logs P c := by
  intro w i hi
  have hw := h w
  rcases hr : c.run w with ⟨r, w', l⟩
  rw [hr] at hi
  cases r with
  | ok a =>
    obtain rfl : l = [] := hw.of_ok hr
    exact absurd hi List.not_mem_nil
  | error e => exact hP.answer i (hw.of_error hr i hi)

theorem routeEntry_logs {idx : ℕ} : Logs P (routeEntry snap idx : Dispatch m Ref W _) := by
  unfold routeEntry
  split
  · exact logs_pure _
  · exact logs_exit _

end

/-- The request object of a route: made if a dependency wants it. -/
def ContextFor (rt : Runtime m Ref W) (req : HttpRequest Ref) (entry : RouteEntry Ref)
    (ctx : Option (PyVal Ref)) : Prop :=
  if entry.extra.dependencies.any (·.wantsRequest) then
    ∃ rc, ctx = some rc ∧ rt.newRequest req.scope req.method req.path req.queryString = .ok rc
  else ctx = none

theorem requestContext_yields :
    Yields (ContextFor rt req entry) (requestContext rt req snap entry) := by
  unfold requestContext
  by_cases hany : entry.extra.dependencies.any (·.wantsRequest) = true
  · rw [if_pos hany]
    cases hctx : rt.newRequest req.scope req.method req.path req.queryString with
    | ok ctx =>
      apply yields_pure
      rw [ContextFor, if_pos hany]
      exact ⟨ctx, rfl, hctx⟩
    | error e =>
      intro w a ha
      obtain ⟨x, w₁, l, hfail, -⟩ :=
        failWith_exitsAs (α := Option (PyVal Ref)) rt req snap e w
      rw [hfail] at ha
      cases ha
  · rw [if_neg hany]
    apply yields_pure
    rw [ContextFor, if_neg hany]

theorem decodeJsonBody_quiet {input : HandlerInput Ref} :
    Quiet (decodeJsonBody rt entry input) :=
  decodeJsonBody_logs rt (fun _ => rfl) entry input

theorem invokeHandler_quiet {kwargs : Dict String (PyVal Ref)} :
    Quiet (invokeHandler rt entry kwargs) :=
  (quiet_log rfl).bind fun _ => quiet_effect _

theorem callHandler_quiet {input : HandlerInput Ref} :
    Quiet (callHandler rt req snap entry input) := by
  have hrun : Quiet (runHandler rt req entry input) := by
    unfold runHandler
    apply Logs.ite
    · apply Logs.bind
      · unfold jsonKwargs
        exact Logs.ite decodeJsonBody_quiet (quiet_pure _)
      · intro outcome
        cases outcome with
        | assign kw => exact invokeHandler_quiet.bind fun _ => quiet_pure _
        | validationError text => exact quiet_pure _
        | jsonParseError text => exact quiet_pure _
    · exact invokeHandler_quiet.bind fun _ => quiet_pure _
  have hvalue (res : PyVal Ref) : Quiet (handlerValue rt entry res) := by
    unfold handlerValue
    apply Logs.ite
    · exact (logs_ofExcept _).bind fun _ => quiet_effect _
    · exact quiet_pure _
  unfold callHandler
  apply Logs.bind hrun.attempt
  intro r
  split
  · exact quiet_of_answers (failWith_logs rt req snap _)
  · exact quiet_of_answers (rejectJson_logs rt req _ _)
  · exact quiet_of_answers (rejectJson_logs rt req _ _)
  · apply Logs.bind (hvalue _).attempt
    intro r
    split
    · exact quiet_pure _
    · exact quiet_of_answers (failWith_logs rt req snap _)

/-- The part of a request's log that is about dependencies: nothing, where it did not get to
them, or what the loop over the dependencies of its route logs. -/
def DependencyRun (rt : Runtime m Ref W) (req : HttpRequest Ref) (snap : FrozenState m Ref)
    (entry : RouteEntry Ref) (events : List (RequestEvent Ref)) : Prop :=
  events = [] ∨ ∃ ctx out, ContextFor rt req entry ctx ∧
    LoopRun rt snap ctx entry.extra.dependencies [] events out

theorem serveRoute_dependencyRun {idx : ℕ} {params : PathParams} (w : World m Ref W) :
    DependencyRun rt req snap entry
      (dependencyEvents ((serveRoute rt req snap entry idx params).run w).log) := by
  have hstage {α : Type} {c : Dispatch m Ref W α} (hc : Quiet c) {k : α → Dispatch m Ref W Unit}
      (hk : ∀ a w, (∃ w₀, (c.run w₀).result = .ok a) →
        DependencyRun rt req snap entry (dependencyEvents ((k a).run w).log)) (w : World m Ref W) :
      DependencyRun rt req snap entry (dependencyEvents ((c >>= k).run w).log) := by
    rcases hc.bind_events k w with hnil | ⟨a, w', hr, heq⟩
    · exact Or.inl hnil
    · rw [heq]
      exact hk a w' ⟨w, hr⟩
  unfold serveRoute
  apply hstage (quiet_log rfl)
  intro _ w _
  apply hstage (checkRateLimit_logs holdsBefore_quiet)
  intro _ w _
  apply hstage (quiet_effect _)
  intro _ w _
  apply hstage (readRequestBody_logs holdsBefore_quiet)
  intro body w _
  apply hstage (checkJwt_logs holdsBefore_quiet)
  intro claims w _
  apply hstage (readForm_logs holdsBefore_quiet)
  intro form w _
  apply hstage (requestContext_logs holdsBefore_quiet)
  intro ctx w hctx
  obtain ⟨w₀, hctx⟩ := hctx
  rw [events_bind_quiet]
  · exact Or.inr ⟨ctx, _, requestContext_yields w₀ ctx hctx,
      runDependencies_run rt req snap ctx _ [] w⟩
  · intro deps
    exact callHandler_quiet.bind fun v => quiet_of_answers (respondOrFail_logs rt req snap v)

theorem runTrivialSyncRoute_quiet {idx : ℕ} {params : PathParams} :
    Quiet (runTrivialSyncRoute rt req snap entry idx params) := by
  intro w i hi
  obtain ⟨answers, hanswers, hlog⟩ := runTrivialSyncRoute_log rt req snap entry idx params w
  rw [hlog] at hi
  rcases List.mem_cons.mp hi with rfl | hi
  · rfl
  · rcases List.mem_cons.mp hi with rfl | hi
    · rfl
    · exact (hanswers i hi).notDependency

theorem tryRsgiSyncShortCircuit_quiet : Quiet (tryRsgiSyncShortCircuit rt req snap) := by
  have hroute : Quiet (routeTrivialSync rt req snap) := by
    unfold routeTrivialSync
    apply Logs.bind (compiledTables_preliminary.logs holdsBefore_quiet)
    intro compiled
    apply Logs.bind ((matchRoute_preliminary compiled).logs holdsBefore_quiet)
    intro route
    apply Logs.ite (quiet_pure _)
    refine Logs.bind (P := fun i => IsDependencyEvent i = false) routeEntry_logs ?_
    intro entry
    apply Logs.ite
    · exact runTrivialSyncRoute_quiet.bind fun _ => logs_exit _
    · exact quiet_pure _
  unfold tryRsgiSyncShortCircuit
  apply Logs.bind (answerPreflight_preliminary.logs holdsBefore_quiet)
  intro _
  apply Logs.ite (quiet_pure _)
  apply Logs.ite
  · exact Logs.bind (serveOpenapi_preliminary.logs holdsBefore_quiet) fun _ => hroute
  · exact hroute

/-- A run that calls no factory, or calls those of the route it serves the request from. -/
def ServesDependencies (rt : Runtime m Ref W) (req : HttpRequest Ref) (snap : FrozenState m Ref)
    (r : Ending (World m Ref W) (RequestEvent Ref) (Exit Ref) Unit) : Prop :=
  dependencyEvents r.log = [] ∨ ∃ idx params entry, .serving idx params ∈ r.log ∧
    snap.routes[idx]? = some entry ∧ DependencyRun rt req snap entry (dependencyEvents r.log)

theorem Quiet.bind_serves {α : Type} {c : Dispatch m Ref W α} (hc : Quiet c)
    {k : α → Dispatch m Ref W Unit} (hk : ∀ a w, ServesDependencies rt req snap ((k a).run w))
    (w : World m Ref W) : ServesDependencies rt req snap ((c >>= k).run w) := by
  have hw := hc.events w
  rcases hr : c.run w with ⟨r, w', l⟩
  rw [hr] at hw
  cases r with
  | error e =>
    rw [bind_run_error hr]
    exact Or.inl hw
  | ok a =>
    rw [bind_run_ok hr]
    have hevents : dependencyEvents (((k a).run w').after l).log =
        dependencyEvents ((k a).run w').log := by
      rw [Ending.log_after, dependencyEvents_append, hw, List.nil_append]
    rcases hk a w' with hnil | ⟨idx, params, entry, hserving, hentry, hrun⟩
    · exact Or.inl (hevents.trans hnil)
    · exact Or.inr ⟨idx, params, entry, List.mem_append_right l hserving, hentry, hevents ▸ hrun⟩

theorem runRsgi_serves (w : World m Ref W) :
    ServesDependencies rt req snap ((runRsgi rt req snap).run w) := by
  have hroute : ∀ w, ServesDependencies rt req snap ((routeAndServe rt req snap).run w) := by
    unfold routeAndServe
    apply Quiet.bind_serves (compiledTables_preliminary.logs holdsBefore_quiet)
    intro compiled
    apply Quiet.bind_serves ((matchRoute_preliminary compiled).logs holdsBefore_quiet)
    rintro ⟨idx, params⟩ w
    dsimp only
    unfold routeEntry
    cases hentry : snap.routes[idx]? with
    | none => exact Or.inl rfl
    | some entry =>
      exact Or.inr ⟨idx, params, entry, List.mem_cons_self, hentry, serveRoute_dependencyRun w⟩
  have hrest : ∀ w, ServesDependencies rt req snap ((do
      answerPreflight rt req snap
      runMiddleware rt req snap snap.requestMiddleware
      routeAndServe rt req snap : Dispatch m Ref W Unit).run w) := by
    apply Quiet.bind_serves (answerPreflight_preliminary.logs holdsBefore_quiet)
    intro _
    apply Quiet.bind_serves (runMiddleware_logs holdsBefore_quiet _)
    intro _
    exact hroute
  unfold runRsgi
  split
  · exact Quiet.bind_serves (serveOpenapi_preliminary.logs holdsBefore_quiet) (fun _ => hrest) w
  · exact hrest w

/-- The dependency events of a request come from the loop of the route that serves it. -/
theorem dispatch_dependencyRun {w : World m Ref W} (hprepared : AllPrepared w.app) {idx : ℕ}
    {params : PathParams} (hserving : .serving idx params ∈ ((dispatch rt req).run w).log)
    (hentry : w.app.hotSnapshot.routes[idx]? = some entry) :
    DependencyRun rt req w.app.hotSnapshot entry
      (dependencyEvents ((dispatch rt req).run w).log) := by
  have hserves : ServesDependencies rt req w.app.hotSnapshot ((dispatch rt req).run w) := by
    rw [dispatch, bind_run_ok (get_run w), Ending.after_nil]
    apply Quiet.bind_serves tryRsgiSyncShortCircuit_quiet
    intro _
    apply Quiet.bind_serves (quiet_effect _)
    intro _
    exact runRsgi_serves
  rcases hserves with hnil | ⟨idx', params', entry', hserving', hentry', hrun⟩
  · exact Or.inl hnil
  · obtain ⟨rfl, -⟩ :=
      serving_unique (dispatch_guardedRun rt req w hprepared).calls hserving hserving'
    rw [hentry] at hentry'
    cases hentry'
    exact hrun

end OxyRoute
