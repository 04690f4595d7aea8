import OxyRoute.Native.Publication

/-!
# Freezing while registrations are under way

A registration looks at the frozen flag under the read lock, asks the interpreter about its
arguments, which can let other threads run, and changes the state under the write lock. It does
not look at the flag again there.

## Main definitions

- `RegistrationCall`, `CallPhase` — the calls, and how far they have come
- `Registrations`, `RegistrationEvent` — an application with the calls in flight, and the steps
- `Settles` — what was registered stays as it is, and late calls are refused

## Main results

- `Registrations.runs_alone` — a call without interruption is the native function
- `settles_after_freeze` — after `freeze`, exactly the steps that commit break this
-/

namespace OxyRoute

variable {m : Matchit} {Ref : Type}

-- ════════════════════════════════════════════════════════════════════════
-- Registration in three parts
-- ════════════════════════════════════════════════════════════════════════

/-- A call of `add_route` or `add_websocket_route`. -/
inductive RegistrationCall (Ref : Type)
  | route (a : AddRouteArgs Ref)
  | websocket (path : String) (handler : Ref) (allowedOrigins : Option (List String))

/-- What a call is going to do under the write lock. -/
inductive Commit (Ref : Type)
  | route (a : AddRouteArgs Ref) (entry : RouteEntry Ref) (opId : String)
  | websocket (path : String) (route : WebsocketRoute Ref)

/-- The error of a call that finds the application frozen. -/
def RegistrationCall.frozenError : RegistrationCall Ref → PyErr Ref
  | .route _ => .valueError "app is frozen; no more add_route"
  | .websocket _ _ _ => .valueError "app is frozen; no more add_websocket_route"

/-- What a call does between its check and the write lock. -/
def RegistrationCall.prepare (h : Host Ref) : RegistrationCall Ref → Except (PyErr Ref) (Commit Ref)
  | .route a =>
    match prepareRoute h a with
    | .error e => .error e
    | .ok (entry, opId) => .ok (.route a entry opId)
  | .websocket path handler allowedOrigins =>
    match h.isCoroutineFunction handler with
    | .error e => .error e
    | .ok isAsync => .ok (.websocket path ⟨handler, isAsync, allowedOrigins⟩)

/-- What a call does under the write lock. -/
def Commit.run (h : Host Ref) (st : AppState m Ref) :
    Commit Ref → AppState m Ref × Except (PyErr Ref) Unit
  | .route a entry opId => commitRoute h st a entry opId
  | .websocket path ws => commitWebsocketRoute st path ws

/-- The native function that is called. -/
def RegistrationCall.native (h : Host Ref) (st : AppState m Ref) :
    RegistrationCall Ref → AppState m Ref × Except (PyErr Ref) Unit
  | .route a => addRoute h st a
  | .websocket path handler allowedOrigins => addWebsocketRoute h st path handler allowedOrigins

/-- The native functions are these parts. -/
theorem RegistrationCall.native_eq (h : Host Ref) (st : AppState m Ref)
    (call : RegistrationCall Ref) :
    call.native h st =
      if st.frozen then (st, .error call.frozenError)
      else
        match call.prepare h with
        | .error e => (st, .error e)
        | .ok c => c.run h st := by
  cases call with
  | route a =>
    show addRoute h st a = _
    unfold addRoute
    split
    · rfl
    · cases hp : prepareRoute h a with
      | error e => simp only [RegistrationCall.prepare, hp]
      | ok p => simp only [RegistrationCall.prepare, hp, Commit.run]
  | websocket path handler allowedOrigins =>
    show addWebsocketRoute h st path handler allowedOrigins = _
    unfold addWebsocketRoute
    split
    · rfl
    · cases hp : h.isCoroutineFunction handler with
      | error e => simp only [RegistrationCall.prepare, hp]
      | ok isAsync => simp only [RegistrationCall.prepare, hp, Commit.run]

-- ════════════════════════════════════════════════════════════════════════
-- Interleavings
-- ════════════════════════════════════════════════════════════════════════

/-- How far a call has come. -/
inductive CallPhase (Ref : Type)
  | called
  /-- The application was not frozen when the call looked. -/
  | checked
  | prepared (c : Commit Ref)
  | returned (out : Except (PyErr Ref) Unit)

/-- A call in flight, or one that has returned. -/
structure PendingCall (Ref : Type) where
  call : RegistrationCall Ref
  phase : CallPhase Ref

/-- The application and the calls made so far. -/
structure Registrations (m : Matchit) (Ref : Type) where
  app : AppState m Ref
  calls : List (PendingCall Ref)

/-- The atomic steps: those of a call, `freeze`, and everything else that changes the state. -/
inductive RegistrationEvent (Ref : Type)
  | call (c : RegistrationCall Ref)
  | check (i : ℕ)
  | introspect (i : ℕ)
  | commit (i : ℕ)
  | freeze (o : MaskOrder)
  | configure (setting : Setting Ref)
  | compileTables (o : MaskOrder)
  | setOpenapiTitle (title : String)
  | setOpenapiVersion (version : String)
  | setOpenapiInfo (info : OpenapiInfo)
  | readOpenapi (toString : Json → String)

/-- Record the next phase of a call. -/
def Registrations.setPhase (s : Registrations m Ref) (i : ℕ) (p : PendingCall Ref)
    (phase : CallPhase Ref) : Registrations m Ref :=
  { s with calls := s.calls.set i { p with phase := phase } }

/-- One step; there is none where an event is not enabled, or where compiling aborts the
process. -/
def Registrations.next (h : Host Ref) (s : Registrations m Ref) :
    RegistrationEvent Ref → Option (Registrations m Ref)
  | .call c => some { s with calls := s.calls ++ [⟨c, .called⟩] }
  | .check i =>
    match s.calls[i]? with
    | some ⟨call, .called⟩ =>
      if s.app.frozen then
        some (s.setPhase i ⟨call, .called⟩ (.returned (.error call.frozenError)))
      else some (s.setPhase i ⟨call, .called⟩ .checked)
    | _ => none
  | .introspect i =>
    match s.calls[i]? with
    | some ⟨call, .checked⟩ =>
      match call.prepare h with
      | .error e => some (s.setPhase i ⟨call, .checked⟩ (.returned (.error e)))
      | .ok c => some (s.setPhase i ⟨call, .checked⟩ (.prepared c))
    | _ => none
  | .commit i =>
    match s.calls[i]? with
    | some ⟨call, .prepared c⟩ =>
      let out := c.run h s.app
      some (({ s with app := out.1 } : Registrations m Ref).setPhase i ⟨call, .prepared c⟩
        (.returned out.2))
    | _ => none
  | .freeze o => (s.app.freeze o).map fun app => { s with app := app }
  | .configure setting => some { s with app := s.app.configure setting }
  | .compileTables o => (s.app.ensureCompiledSnapshot o).map fun out => { s with app := out.1 }
  | .setOpenapiTitle title => some { s with app := s.app.setOpenapiTitle title }
  | .setOpenapiVersion version => some { s with app := s.app.setOpenapiVersion version }
  | .setOpenapiInfo info => some { s with app := (s.app.setOpenapiInfo h info).1 }
  | .readOpenapi toString => some { s with app := (s.app.openapiJson toString).2 }

/-- A call that nothing comes between does what the native function does. -/
theorem Registrations.runs_alone (h : Host Ref) {s : Registrations m Ref} {i : ℕ}
    {call : RegistrationCall Ref} (hi : s.calls[i]? = some ⟨call, .called⟩) :
    ∃ n, (([.check i, .introspect i, .commit i] : List (RegistrationEvent Ref)).take n).foldlM
      (Registrations.next h) s = some ⟨(call.native h s.app).1,
        s.calls.set i ⟨call, .returned (call.native h s.app).2⟩⟩ := by
  have hlt := (List.getElem?_eq_some_iff.mp hi).1
  rw [RegistrationCall.native_eq]
  cases hfrozen : s.app.frozen with
  | true =>
    refine ⟨1, ?_⟩
    simp [Registrations.next, Registrations.setPhase, hi, hfrozen]
  | false =>
    let checked := s.setPhase i ⟨call, .called⟩ .checked
    have hcheck : s.next h (.check i) = some checked := by
      simp [Registrations.next, hi, hfrozen, checked]
    have hchecked : checked.calls[i]? = some ⟨call, .checked⟩ := List.getElem?_set_self hlt
    cases hp : call.prepare h with
    | error e =>
      have hreturn : checked.next h (.introspect i) =
          some ⟨s.app, s.calls.set i ⟨call, .returned (.error e)⟩⟩ := by
        simp only [Registrations.next, hchecked, hp]
        simp [Registrations.setPhase, checked]
      refine ⟨2, ?_⟩
      simp [hcheck, hreturn]
    | ok c =>
      let prepared := checked.setPhase i ⟨call, .checked⟩ (.prepared c)
      have hprepare : checked.next h (.introspect i) = some prepared := by
        simp only [Registrations.next, hchecked, hp, prepared]
      have hprepared : prepared.calls[i]? = some ⟨call, .prepared c⟩ :=
        List.getElem?_set_self (by simpa [checked, Registrations.setPhase] using hlt)
      have hcommit : prepared.next h (.commit i) =
          some ⟨(c.run h s.app).1, s.calls.set i ⟨call, .returned (c.run h s.app).2⟩⟩ := by
        simp only [Registrations.next, hprepared]
        simp [Registrations.setPhase, prepared, checked]
      refine ⟨3, ?_⟩
      simp [hcheck, hprepare, hcommit]

/-- The steps that follow a state. -/
def registrationsFrom (h : Host Ref) (s : Registrations m Ref) :
    TransitionSystem (Registrations m Ref) (RegistrationEvent Ref) where
  init s' := s' = s
  step s e s' := s.next h e = some s'

/-- The `paths` of a document. -/
def openapiPaths (doc : Json) : Option Json := Json.pointer ["paths"] doc

/-- Everything a registration enters is as it was. -/
structure SameRegistrations (st st' : AppState m Ref) : Prop where
  routes : st'.routes = st.routes
  websocketRoutes : st'.websocketRoutes = st.websocketRoutes
  routers : st'.routers = st.routers
  websocket : st'.websocket = st.websocket
  pathMethodMasks : st'.pathMethodMasks = st.pathMethodMasks
  paths : openapiPaths st'.openapi.1 = openapiPaths st.openapi.1

/-- What was registered stays as it is, and a call that returns in between without having failed
on its arguments returns the error of a frozen application. -/
structure Settles (h : Host Ref) (s s' : Registrations m Ref) : Prop where
  same : SameRegistrations s.app s'.app
  refused : ∀ (i : ℕ) (p : PendingCall Ref) (c : Commit Ref) (out : Except (PyErr Ref) Unit),
    s'.calls[i]? = some p → p.call.prepare h = .ok c → p.phase = .returned out →
      s.calls[i]? = some p ∨ out = .error p.call.frozenError

/-- No call commits while the application is frozen. -/
def CommitsUnfrozen (s : Registrations m Ref) : RegistrationEvent Ref → Prop
  | .commit _ => s.app.frozen = false
  | _ => True

-- ════════════════════════════════════════════════════════════════════════
-- Registrations
-- ════════════════════════════════════════════════════════════════════════

namespace SameRegistrations

variable {st st' st'' : AppState m Ref}

theorem refl (st : AppState m Ref) : SameRegistrations st st := ⟨rfl, rfl, rfl, rfl, rfl, rfl⟩

theorem trans (h : SameRegistrations st st') (h' : SameRegistrations st' st'') :
    SameRegistrations st st'' where
  routes := h'.routes.trans h.routes
  websocketRoutes := h'.websocketRoutes.trans h.websocketRoutes
  routers := h'.routers.trans h.routers
  websocket := h'.websocket.trans h.websocket
  pathMethodMasks := h'.pathMethodMasks.trans h.pathMethodMasks
  paths := h'.paths.trans h.paths

/-- A change of the document alone that leaves its paths. -/
theorem document {oa : Json × Option String} (h : openapiPaths oa.1 = openapiPaths st.openapi.1) :
    SameRegistrations st { st with openapi := oa } :=
  ⟨rfl, rfl, rfl, rfl, rfl, h⟩

theorem rebuildSnapshot (h : SameRegistrations st st') :
    SameRegistrations st st'.rebuildSnapshot :=
  ⟨h.routes, h.websocketRoutes, h.routers, h.websocket, h.pathMethodMasks, h.paths⟩

theorem storeCompiled (h : SameRegistrations st st') (c : CompiledRouters m) :
    SameRegistrations st (st'.storeCompiled c) :=
  ⟨h.routes, h.websocketRoutes, h.routers, h.websocket, h.pathMethodMasks, h.paths⟩

theorem configure (st : AppState m Ref) (setting : Setting Ref) :
    SameRegistrations st (st.configure setting) := by
  refine rebuildSnapshot ?_
  cases setting <;> exact ⟨rfl, rfl, rfl, rfl, rfl, rfl⟩

theorem freeze {o : MaskOrder} (h : st.freeze o = some st') : SameRegistrations st st' := by
  have hflag : SameRegistrations st { st with frozen := true } := ⟨rfl, rfl, rfl, rfl, rfl, rfl⟩
  unfold AppState.freeze at h
  simp only at h
  split at h
  · cases h
    exact hflag.rebuildSnapshot
  · obtain ⟨c, -, rfl⟩ := Option.map_eq_some_iff.mp h
    exact hflag.storeCompiled c

theorem ensureCompiled {o : MaskOrder} {out : AppState m Ref × CompiledRouters m}
    (h : st.ensureCompiledSnapshot o = some out) : SameRegistrations st out.1 := by
  unfold AppState.ensureCompiledSnapshot at h
  split at h
  · cases h
    exact refl st
  · obtain ⟨c, -, rfl⟩ := Option.map_eq_some_iff.mp h
    exact (refl st).storeCompiled c

end SameRegistrations

/-- Members other than `paths` do not touch the paths. -/
theorem openapiPaths_insert {k : String} (hk : "paths" ≠ k) (v : Json) (root : Json.Members) :
    openapiPaths (.obj (Json.insert k v root)) = openapiPaths (.obj root) := by
  simp only [openapiPaths, Json.pointer]
  rw [Json.get?_insert_of_ne hk]

theorem openapiPaths_insertInfo (k : String) (v : Json) (root : Json.Members) :
    openapiPaths (.obj (insertInfo k v root)) = openapiPaths (.obj root) := by
  unfold insertInfo
  split
  · exact openapiPaths_insert (by decide) _ root
  · rfl

theorem sameRegistrations_setOpenapiTitle (st : AppState m Ref) (title : String) :
    SameRegistrations st (st.setOpenapiTitle title) := by
  unfold AppState.setOpenapiTitle
  split
  · next root hroot =>
    split
    · refine .document ?_
      rw [hroot]
      exact openapiPaths_insertInfo "title" _ root
    · exact .refl st
  · exact .refl st

theorem sameRegistrations_setOpenapiVersion (st : AppState m Ref) (version : String) :
    SameRegistrations st (st.setOpenapiVersion version) := by
  unfold AppState.setOpenapiVersion
  split
  · next root hroot =>
    refine .document ?_
    rw [hroot]
    exact openapiPaths_insert (by decide) _ root
  · exact .refl st

theorem sameRegistrations_setOpenapiInfo (h : Host Ref) (st : AppState m Ref)
    (info : OpenapiInfo) : SameRegistrations st (st.setOpenapiInfo h info).1 := by
  unfold AppState.setOpenapiInfo
  split
  · next root hroot =>
    have hdescribe : openapiPaths (.obj (info.describe root)) = openapiPaths st.openapi.1 := by
      rw [hroot]
      unfold OpenapiInfo.describe
      split
      · exact openapiPaths_insertInfo "description" _ root
      · rfl
    simp only
    split
    · exact .document hdescribe
    · next contact _ =>
      have hcontact : openapiPaths (.obj (contact.elim (info.describe root)
          fun v => insertInfo "contact" v (info.describe root))) = openapiPaths st.openapi.1 := by
        cases contact with
        | none => exact hdescribe
        | some v => exact (openapiPaths_insertInfo "contact" v _).trans hdescribe
      split
      · exact .document hcontact
      · next servers _ =>
        refine .document ?_
        cases servers with
        | none => exact hcontact
        | some v => exact (openapiPaths_insert (by decide) v _).trans hcontact
  · exact .refl st

theorem sameRegistrations_openapiJson (toString : Json → String) (st : AppState m Ref) :
    SameRegistrations st (st.openapiJson toString).2 :=
  .document (congrArg openapiPaths (Cached.read_value toString st.openapi))

/-- A commit pushes an entry, whether it succeeds or not. -/
theorem Commit.not_same (h : Host Ref) (st : AppState m Ref) (c : Commit Ref) :
    ¬ SameRegistrations st (c.run h st).1 := by
  intro hsame
  cases c with
  | route a entry opId =>
    have hroutes : (commitRoute h st a entry opId).1.routes = st.routes ++ [entry] := by
      rcases commitRoute_cases h st a entry opId with ⟨st', e, hc, -, hr⟩ | ⟨oa, key, r, -, -, hc⟩
      · rw [hc]
        exact hr
      · rw [hc]
        rfl
    have hlength := congrArg List.length (hroutes.symm.trans hsame.routes)
    simp at hlength
  | websocket path ws =>
    have hroutes : (commitWebsocketRoute st path ws).1.websocketRoutes =
        st.websocketRoutes ++ [ws] := by
      rcases commitWebsocketRoute_cases st path ws with ⟨st', e, hc, -, hr⟩ | ⟨r, -, hc⟩
      · rw [hc]
        exact hr
      · rw [hc]
        rfl
    have hlength := congrArg List.length (hroutes.symm.trans hsame.websocketRoutes)
    simp at hlength

-- ════════════════════════════════════════════════════════════════════════
-- One step
-- ════════════════════════════════════════════════════════════════════════

namespace Settles

variable {h : Host Ref} {s s' s'' : Registrations m Ref}

/-- A step that touches no call. -/
theorem of_app {app : AppState m Ref} (hsame : SameRegistrations s.app app) :
    Settles h s { s with app := app } :=
  ⟨hsame, fun _ _ _ _ hp _ _ => .inl hp⟩

theorem refl (h : Host Ref) (s : Registrations m Ref) : Settles h s s := of_app (.refl s.app)

theorem trans (hs : Settles h s s') (hs' : Settles h s' s'') : Settles h s s'' where
  same := hs.same.trans hs'.same
  refused i p c out hp hc hout := by
    rcases hs'.refused i p c out hp hc hout with hold | herr
    · exact hs.refused i p c out hold hc hout
    · exact .inr herr

/-- A call that moves on, and returns nothing but the error of a frozen application unless it
fails on its arguments. -/
theorem setPhase {i : ℕ} {p : PendingCall Ref} {phase : CallPhase Ref}
    (hp : ∀ c out, p.call.prepare h = .ok c → phase = .returned out →
      out = .error p.call.frozenError) : Settles h s (s.setPhase i p phase) where
  same := .refl s.app
  refused j q c out hq hc hout := by
    by_cases hij : i = j
    · subst hij
      have hlt : i < s.calls.length := by
        have := (List.getElem?_eq_some_iff.mp hq).1
        simpa [Registrations.setPhase] using this
      have heq : q = { p with phase := phase } := by
        simp only [Registrations.setPhase, List.getElem?_set_self hlt, Option.some.injEq] at hq
        exact hq.symm
      subst heq
      exact .inr (hp c out hc hout)
    · simp only [Registrations.setPhase, List.getElem?_set_ne hij] at hq
      exact .inl hq

end Settles

/-- `freeze` sets the flag. -/
theorem AppState.frozen_freeze {o : MaskOrder} {st st' : AppState m Ref}
    (h : st.freeze o = some st') : st'.frozen = true := by
  unfold AppState.freeze at h
  simp only at h
  split at h
  · cases h
    rfl
  · obtain ⟨c, -, rfl⟩ := Option.map_eq_some_iff.mp h
    rfl

theorem AppState.frozen_ensureCompiled {o : MaskOrder} {st : AppState m Ref}
    {out : AppState m Ref × CompiledRouters m} (h : st.ensureCompiledSnapshot o = some out) :
    out.1.frozen = st.frozen := by
  unfold AppState.ensureCompiledSnapshot at h
  split at h
  · cases h
    rfl
  · obtain ⟨c, -, rfl⟩ := Option.map_eq_some_iff.mp h
    rfl

theorem Commit.frozen_run (h : Host Ref) (st : AppState m Ref) (c : Commit Ref) :
    (c.run h st).1.frozen = st.frozen := by
  cases c with
  | route a entry opId =>
    rcases commitRoute_cases h st a entry opId with ⟨st', e, hc, hk, -⟩ | ⟨oa, key, r, -, -, hc⟩
    · rw [Commit.run, hc]
      exact hk.frozen
    · rw [Commit.run, hc]
      rfl
  | websocket path ws =>
    rcases commitWebsocketRoute_cases st path ws with ⟨st', e, hc, hk, -⟩ | ⟨r, -, hc⟩
    · rw [Commit.run, hc]
      exact hk.frozen
    · rw [Commit.run, hc]
      rfl

/-- The flag stays set. -/
theorem frozen_next {h : Host Ref} {s s' : Registrations m Ref} {e : RegistrationEvent Ref}
    (hf : s.app.frozen = true) (hs : s.next h e = some s') : s'.app.frozen = true := by
  cases e with
  | call c =>
    cases hs
    exact hf
  | check i =>
    simp only [Registrations.next] at hs
    split at hs
    · rw [if_pos hf] at hs
      cases hs
      exact hf
    · cases hs
  | introspect i =>
    simp only [Registrations.next] at hs
    split at hs
    · split at hs
      · cases hs
        exact hf
      · cases hs
        exact hf
    · cases hs
  | commit i =>
    simp only [Registrations.next] at hs
    split at hs
    · next call c _ =>
      cases hs
      exact (c.frozen_run h s.app).trans hf
    · cases hs
  | freeze o =>
    obtain ⟨app, happ, rfl⟩ := Option.map_eq_some_iff.mp hs
    exact AppState.frozen_freeze happ
  | configure setting =>
    cases hs
    cases setting <;> exact hf
  | compileTables o =>
    obtain ⟨out, hout, rfl⟩ := Option.map_eq_some_iff.mp hs
    exact (AppState.frozen_ensureCompiled hout).trans hf
  | setOpenapiTitle title =>
    cases hs
    rw [AppState.setOpenapiTitle_eq]
    exact hf
  | setOpenapiVersion version =>
    cases hs
    rw [AppState.setOpenapiVersion_eq]
    exact hf
  | setOpenapiInfo info =>
    cases hs
    rw [AppState.setOpenapiInfo_eq]
    exact hf
  | readOpenapi toString =>
    cases hs
    exact hf

/-- After `freeze`, a step settles exactly when it is no commit. -/
theorem settles_next_iff {h : Host Ref} {s s' : Registrations m Ref} {e : RegistrationEvent Ref}
    (hf : s.app.frozen = true) (hs : s.next h e = some s') :
    Settles h s s' ↔ CommitsUnfrozen s e := by
  cases e with
  | call c =>
    cases hs
    refine iff_of_true ⟨.refl s.app, fun i p c' out hp _ hout => .inl ?_⟩ trivial
    by_cases hi : i < s.calls.length
    · simpa only [List.getElem?_append_left hi] using hp
    · -- the new call is the only other one, and it has not returned
      rw [List.getElem?_append_right (Nat.le_of_not_lt hi)] at hp
      have hmem := List.mem_of_getElem? hp
      rw [List.mem_singleton.mp hmem] at hout
      cases hout
  | check i =>
    simp only [Registrations.next] at hs
    split at hs
    · rw [if_pos hf] at hs
      cases hs
      refine iff_of_true (.setPhase fun c out _ hout => ?_) trivial
      cases hout
      rfl
    · cases hs
  | introspect i =>
    simp only [Registrations.next] at hs
    split at hs
    · split at hs
      · next e he =>
        cases hs
        refine iff_of_true (.setPhase fun c out hc _ => ?_) trivial
        have hok : Except.error e = Except.ok c := he.symm.trans hc
        cases hok
      · cases hs
        exact iff_of_true (.setPhase fun c out _ hout => by cases hout) trivial
    · cases hs
  | commit i =>
    simp only [Registrations.next] at hs
    split at hs
    · next call c _ =>
      cases hs
      refine iff_of_false (fun hset => c.not_same h s.app hset.same) ?_
      simp [CommitsUnfrozen, hf]
    · cases hs
  | freeze o =>
    obtain ⟨app, happ, rfl⟩ := Option.map_eq_some_iff.mp hs
    exact iff_of_true (.of_app (.freeze happ)) trivial
  | configure setting =>
    cases hs
    exact iff_of_true (.of_app (.configure s.app setting)) trivial
  | compileTables o =>
    obtain ⟨out, hout, rfl⟩ := Option.map_eq_some_iff.mp hs
    exact iff_of_true (.of_app (.ensureCompiled hout)) trivial
  | setOpenapiTitle title =>
    cases hs
    exact iff_of_true (.of_app (sameRegistrations_setOpenapiTitle s.app title)) trivial
  | setOpenapiVersion version =>
    cases hs
    exact iff_of_true (.of_app (sameRegistrations_setOpenapiVersion s.app version)) trivial
  | setOpenapiInfo info =>
    cases hs
    exact iff_of_true (.of_app (sameRegistrations_setOpenapiInfo h s.app info)) trivial
  | readOpenapi toString =>
    cases hs
    exact iff_of_true (.of_app (sameRegistrations_openapiJson toString s.app)) trivial

-- ════════════════════════════════════════════════════════════════════════
-- Runs
-- ════════════════════════════════════════════════════════════════════════

theorem frozen_of_reached {h : Host Ref} {s s' : Registrations m Ref}
    (hf : s.app.frozen = true) (hs : (registrationsFrom h s).Reached s') :
    s'.app.frozen = true := by
  refine TransitionSystem.Reached.invariant (P := fun s => s.app.frozen = true) ?_ ?_ hs
  · rintro s rfl
    exact hf
  · exact fun s e s' hf hst => frozen_next hf hst

/-- **Freezing.** In every run, a step after `freeze` has returned changes something that was
registered, or lets a registration return without the frozen error, exactly when it is the
commit of a registration that had passed its check; and where there is none, all of the run
keeps what was registered. -/
theorem settles_after_freeze (h : Host Ref) {s₀ s : Registrations m Ref} {o : MaskOrder}
    (hf : s₀.next h (.freeze o) = some s) :
    (∀ s' e s'', (registrationsFrom h s).Reached s' → s'.next h e = some s'' →
      (Settles h s' s'' ↔ CommitsUnfrozen s' e)) ∧
    ∀ s', (registrationsFrom h s).ReachedUnder CommitsUnfrozen s' → Settles h s s' := by
  have hfrozen : s.app.frozen = true := by
    obtain ⟨app, happ, rfl⟩ := Option.map_eq_some_iff.mp hf
    exact AppState.frozen_freeze happ
  constructor
  · intro s' e s'' hs' hst
    exact settles_next_iff (frozen_of_reached hfrozen hs') hst
  · intro s' hs'
    refine TransitionSystem.ReachedUnder.strengthen (T := registrationsFrom h s)
      (P := fun s' => Settles h s s') (fun s' => frozen_of_reached hfrozen) ?_ ?_ hs'
    · rintro s' rfl
      exact .refl h s'
    · intro s₁ e s₂ hfrozen₁ hset hguard hst
      exact hset.trans ((settles_next_iff hfrozen₁ hst).mpr hguard)

/-- A fresh application, frozen, with calls in flight. -/
def frozenFresh (calls : List (PendingCall String)) : Registrations segmentMatcher String :=
  let fresh : AppState segmentMatcher String := AppState.new true
  ⟨(fresh.freeze (plainRuntime segmentMatcher).maskOrder).getD fresh, calls⟩

/-- A registration that comes after `freeze` is refused, and settles. -/
theorem late_call_settles :
    ∃ s', (⟨AppState.new true, []⟩ : Registrations segmentMatcher String).next plainHost
        (.freeze ⟨id, fun _ => .rfl⟩) = some (frozenFresh []) ∧
      (registrationsFrom plainHost (frozenFresh [])).ReachedUnder CommitsUnfrozen s' ∧
      Settles plainHost (frozenFresh []) s' ∧ s'.calls.length = 1 := by
  have hf : (⟨AppState.new true, []⟩ : Registrations segmentMatcher String).next plainHost
      (.freeze ⟨id, fun _ => .rfl⟩) = some (frozenFresh []) := rfl
  have h0 : (registrationsFrom plainHost (frozenFresh [])).init (frozenFresh []) := rfl
  have hs : (registrationsFrom plainHost (frozenFresh [])).ReachedUnder CommitsUnfrozen _ :=
    .step (.step (.init h0) (i := .call (.route (getRoute "/a" "f"))) trivial rfl)
      (i := .check 0) trivial rfl
  exact ⟨_, hf, hs, (settles_after_freeze plainHost hf).2 _ hs, rfl⟩

/-- A registration passes its check, `freeze` returns, and the route is registered. -/
theorem commit_after_freeze :
    ∃ s₀ s s' : Registrations segmentMatcher String,
      (registrationsFrom plainHost ⟨AppState.new true, []⟩).Reached s₀ ∧
      s₀.next plainHost (.freeze ⟨id, fun _ => .rfl⟩) = some s ∧
      (registrationsFrom plainHost s).Reached s' ∧ ¬ Settles plainHost s s' ∧
      s.app.routes.length = 0 ∧ s'.app.routes.length = 1 := by
  have h0 : (registrationsFrom plainHost ⟨AppState.new true, []⟩).init
      (⟨AppState.new true, []⟩ : Registrations segmentMatcher String) := rfl
  have hs₀ : (registrationsFrom plainHost ⟨AppState.new true, []⟩).Reached _ :=
    .step (.step (.step (.init h0) (i := .call (.route (getRoute "/a" "f"))) trivial rfl)
      (i := .check 0) trivial rfl) (i := .introspect 0) trivial rfl
  have hprepared : ∃ c, RegistrationCall.prepare plainHost (.route (getRoute "/a" "f")) = .ok c :=
    ⟨_, rfl⟩
  obtain ⟨c, hc⟩ := hprepared
  have h1 : (registrationsFrom plainHost (frozenFresh
      [⟨.route (getRoute "/a" "f"), .prepared c⟩])).init (frozenFresh _) := rfl
  have hs : (registrationsFrom plainHost (frozenFresh
      [⟨.route (getRoute "/a" "f"), .prepared c⟩])).Reached _ :=
    .step (.init h1) (i := .commit 0) trivial rfl
  cases hc
  refine ⟨_, _, _, hs₀, rfl, hs, fun hset => ?_, rfl, rfl⟩
  have hlength := congrArg List.length hset.same.routes
  exact absurd hlength (by decide)

end OxyRoute
