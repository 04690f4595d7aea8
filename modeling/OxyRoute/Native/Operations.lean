import OxyRoute.Native.Document
import OxyRoute.Native.Registered

/-!
# The operations of the document

The OpenAPI document as a table: at each path and method it holds the operation that `add_route`
entered last, whether or not the call was accepted afterwards. The other members of the document
are written by setters, which leave the table alone.

## Main definitions

- `Entered`, `entered` — an operation, and what a call of `add_route` enters
- `serviceSystem` — the calls on an application in any order, with the operations so far
- `Documents` — a document holds the operations

## Main results

- `document_law` — the document of a state that is reached
-/

namespace OxyRoute

variable {m : Matchit} {Ref W : Type}

-- ════════════════════════════════════════════════════════════════════════
-- What is entered
-- ════════════════════════════════════════════════════════════════════════

/-- An operation with the arguments it is entered under. -/
structure Entered where
  method : String
  path : String
  operation : Operation
  extraParams : Option (List Json)

namespace Entered

variable (lower : String → String) (e : Entered)

/-- The path and the method in the document. -/
def address : String × String := ((openapiPathAndParams e.path).1, toLowercase lower e.method)

/-- The operation in the document. -/
def object : Json :=
  operationObject e.operation ((openapiPathAndParams e.path).2 ++ e.extraParams.getD [])

/-- The document with the operation. -/
def enter (doc : Json) : Json :=
  openapiAddPath lower doc e.method e.path e.operation e.extraParams

end Entered

/-- The operation that a call of `add_route` enters, if it comes that far. -/
def entered (h : Host Ref) (st : AppState m Ref) (a : AddRouteArgs Ref) : Option Entered :=
  if st.frozen then none
  else do
    let prepared ← (prepareRoute h a).toOption
    let requestSchema ← (optionalJson h.jsonFromStr "body_schema" a.bodySchemaJson :
      Except (PyErr Ref) (Option Json)).toOption
    let tags ← (tagList h a.tags).toOption
    let extraParams ← (optionalJson h.jsonArrayFromStr "extra_params" a.extraParamsJson :
      Except (PyErr Ref) (Option (List Json))).toOption
    return ⟨a.method, a.path, ⟨prepared.2, requestSchema, a.requireJwt, tags⟩, extraParams⟩

/-- The call enters the operation and drops the cached text, or leaves the document alone. -/
theorem openapi_addRoute (h : Host Ref) (st : AppState m Ref) (a : AddRouteArgs Ref) :
    (addRoute h st a).1.openapi =
      (entered h st a).elim st.openapi
        fun e => (e.enter h.unicodeLowercase st.openapi.1, none) := by
  unfold addRoute entered
  split
  · rfl
  · cases hp : prepareRoute h a with
    | error e => rfl
    | ok prepared =>
      unfold commitRoute
      simp only
      cases (optionalJson h.jsonFromStr "body_schema" a.bodySchemaJson :
          Except (PyErr Ref) (Option Json)) with
      | error e => rfl
      | ok requestSchema =>
        cases tagList h a.tags with
        | error e => rfl
        | ok tags =>
          cases (optionalJson h.jsonArrayFromStr "extra_params" a.extraParamsJson :
              Except (PyErr Ref) (Option (List Json))) with
          | error e => rfl
          | ok extraParams =>
            simp only
            split
            · rfl
            · split
              · rfl
              · rfl

/-- An operation is entered under the arguments of its call. -/
theorem entered_args {h : Host Ref} {st : AppState m Ref} {a : AddRouteArgs Ref} {e : Entered}
    (he : entered h st a = some e) :
    e.method = a.method ∧ e.path = a.path ∧ e.operation.requireJwt = a.requireJwt := by
  unfold entered at he
  split at he
  · cases he
  · obtain ⟨prepared, -, he⟩ := Option.bind_eq_some_iff.mp he
    obtain ⟨requestSchema, -, he⟩ := Option.bind_eq_some_iff.mp he
    obtain ⟨tags, -, he⟩ := Option.bind_eq_some_iff.mp he
    obtain ⟨extraParams, -, he⟩ := Option.bind_eq_some_iff.mp he
    cases he
    exact ⟨rfl, rfl, rfl⟩

/-- A call that is accepted has entered its operation. -/
theorem entered_of_ok {h : Host Ref} {st : AppState m Ref} {a : AddRouteArgs Ref}
    (hok : (addRoute h st a).2 = .ok ()) : ∃ e, entered h st a = some e := by
  unfold addRoute at hok
  unfold entered
  split at hok
  · cases hok
  · next hfrozen =>
    rw [if_neg hfrozen]
    split at hok
    · cases hok
    · next entry opId hp =>
      rw [hp]
      unfold commitRoute at hok
      simp only at hok
      split at hok
      · cases hok
      · next schema hschema =>
        rw [hschema]
        split at hok
        · cases hok
        · next tags htags =>
          rw [htags]
          split at hok
          · cases hok
          · next extra hextra =>
            rw [hextra]
            exact ⟨_, rfl⟩

-- ════════════════════════════════════════════════════════════════════════
-- Documents that hold operations
-- ════════════════════════════════════════════════════════════════════════

/-- The scheme that operations with tokens refer to. -/
def bearerScheme : Json :=
  .ofMembers [("type", .str "http"), ("scheme", .str "bearer"), ("bearerFormat", .str "JWT")]

/-- The members of a document that holds the operations, the last one first. -/
structure DocumentsIn (lower : String → String) (ops : List Entered) (root ps : Json.Members) :
    Prop where
  paths : Json.get? root "paths" = some (.obj ps)
  entries : ∀ p v, Json.get? ps p = some v → ∃ e, v = .obj e
  operations : ∀ p name, Json.pointer [p, name] (.obj ps) =
    (ops.find? fun e => e.address lower = (p, name)).map Entered.object
  bearer : (∀ e ∈ ops, e.operation.requireJwt = false) ∧ Json.get? root "components" = none ∨
    (∃ e ∈ ops, e.operation.requireJwt = true) ∧
      Json.pointer ["components", "securitySchemes", "bearerAuth"] (.obj root) = some bearerScheme

/-- A document that holds the operations. -/
def Documents (lower : String → String) (ops : List Entered) (doc : Json) : Prop :=
  ∃ root ps, doc = .obj root ∧ DocumentsIn lower ops root ps

section

variable {lower : String → String} {ops : List Entered} {root ps : Json.Members}

/-- A fresh document. -/
theorem documents_initial : Documents lower [] AppState.initialOpenapi := by
  refine ⟨_, [], rfl, rfl, ?_, fun p name => rfl, .inl ⟨?_, rfl⟩⟩
  · rintro p v ⟨⟩
  · exact fun e he => absurd he List.not_mem_nil

/-- Another member of the document. -/
theorem DocumentsIn.insert {k : String} (h : DocumentsIn lower ops root ps) (hpaths : k ≠ "paths")
    (hcomponents : k ≠ "components") (v : Json) :
    DocumentsIn lower ops (Json.insert k v root) ps where
  paths := (Json.get?_insert_of_ne hpaths.symm v root).trans h.paths
  entries := h.entries
  operations := h.operations
  bearer := by
    rw [Json.pointer_cons_obj, Json.get?_insert_of_ne hcomponents.symm]
    exact h.bearer

theorem DocumentsIn.insertInfo (h : DocumentsIn lower ops root ps) (key : String) (v : Json) :
    DocumentsIn lower ops (insertInfo key v root) ps := by
  unfold OxyRoute.insertInfo
  split
  · exact h.insert (by decide) (by decide) _
  · exact h

/-- The document with the scheme of tokens. -/
theorem openapiEnsureBearerAuth_obj (h : DocumentsIn lower ops root ps) :
    ∃ root', openapiEnsureBearerAuth (.obj root) = .obj root' ∧
      Json.get? root' "paths" = some (.obj ps) ∧
      Json.pointer ["components", "securitySchemes", "bearerAuth"] (.obj root') =
        some bearerScheme := by
  -- what is there already, or is inserted
  have hthere : ∃ comp schemes, (Json.get? root "components").getD (.obj []) = .obj comp ∧
      (Json.get? comp "securitySchemes").getD (.obj []) = .obj schemes ∧
      (Json.get? schemes "bearerAuth").getD bearerScheme = bearerScheme := by
    rcases h.bearer with ⟨-, hnone⟩ | ⟨-, hscheme⟩
    · refine ⟨[], [], ?_, rfl, rfl⟩
      rw [hnone, Option.getD_none]
    · obtain ⟨_, v, ⟨⟩, hcomp, hscheme⟩ := Json.pointer_cons_eq_some_iff.mp hscheme
      obtain ⟨comp, v, rfl, hschemes, hscheme⟩ := Json.pointer_cons_eq_some_iff.mp hscheme
      obtain ⟨schemes, v, rfl, hscheme, ⟨⟩⟩ := Json.pointer_cons_eq_some_iff.mp hscheme
      refine ⟨comp, schemes, ?_, ?_, ?_⟩
      · rw [hcomp, Option.getD_some]
      · rw [hschemes, Option.getD_some]
      · rw [hscheme, Option.getD_some]
  obtain ⟨comp, schemes, hcomp, hschemes, hscheme⟩ := hthere
  refine ⟨_, rfl, ?_, ?_⟩
  · rw [Json.get?_modify, if_neg (by decide), Json.get?_orInsert, if_neg (by decide)]
    exact h.paths
  · rw [Json.pointer_cons_obj, Json.get?_entry (fun _ => rfl) hcomp, if_pos rfl, Option.bind_some,
      Json.pointer_cons_obj, Json.get?_entry (fun _ => rfl) hschemes, if_pos rfl, Option.bind_some,
      Json.pointer_cons_obj, Json.get?_orInsert, if_pos rfl]
    exact congrArg some hscheme

/-- The document with one operation more. -/
theorem Documents.enter {doc : Json} (h : Documents lower ops doc) (e : Entered) :
    Documents lower (e :: ops) (e.enter lower doc) := by
  obtain ⟨root, ps, rfl, h⟩ := h
  -- the root before the operation is entered
  have hroot : ∃ root', (if e.operation.requireJwt then openapiEnsureBearerAuth (.obj root)
        else .obj root) = .obj root' ∧ Json.get? root' "paths" = some (.obj ps) ∧
      ((∀ e' ∈ e :: ops, e'.operation.requireJwt = false) ∧ Json.get? root' "components" = none ∨
        (∃ e' ∈ e :: ops, e'.operation.requireJwt = true) ∧
          Json.pointer ["components", "securitySchemes", "bearerAuth"] (.obj root') =
            some bearerScheme) := by
    cases hjwt : e.operation.requireJwt with
    | true =>
      obtain ⟨root', hroot', hpaths, hbearer⟩ := openapiEnsureBearerAuth_obj h
      exact ⟨root', hroot', hpaths, .inr ⟨⟨e, List.mem_cons_self, hjwt⟩, hbearer⟩⟩
    | false =>
      refine ⟨root, rfl, h.paths, h.bearer.imp ?_ ?_⟩
      · rintro ⟨hall, hnone⟩
        exact ⟨List.forall_mem_cons.mpr ⟨hjwt, hall⟩, hnone⟩
      · rintro ⟨⟨e', he', hsome⟩, hscheme⟩
        exact ⟨⟨e', List.mem_cons_of_mem e he', hsome⟩, hscheme⟩
  obtain ⟨root', hroot', hpaths, hbearer⟩ := hroot
  -- the object at the path
  obtain ⟨entry, hentry⟩ : ∃ entry,
      (Json.get? ps (openapiPathAndParams e.path).1).getD (.obj []) = .obj entry := by
    cases hget : Json.get? ps (openapiPathAndParams e.path).1 with
    | none => exact ⟨[], rfl⟩
    | some v => exact h.entries _ v hget
  have henter : ∃ root'' ps', e.enter lower (.obj root) = .obj root'' ∧
      (∀ k, Json.get? root'' k = if k = "paths" then some (.obj ps') else Json.get? root' k) ∧
      ∀ p, Json.get? ps' p = if p = (openapiPathAndParams e.path).1 then
        some (.obj (Json.insert (toLowercase lower e.method) e.object entry))
        else Json.get? ps p := by
    unfold Entered.enter openapiAddPath
    simp only [hroot']
    refine ⟨_, ?_, rfl, fun k => ?_, ?_⟩
    rotate_left
    · rw [Json.get?_modify, hpaths, Option.map_some]
    · exact Json.get?_entry (fun _ => rfl) hentry
  obtain ⟨root'', ps', henter, hmembers, hpaths'⟩ := henter
  refine ⟨root'', ps', henter, ?_, ?_, ?_, ?_⟩
  · rw [hmembers, if_pos rfl]
  · intro p v hv
    rw [hpaths'] at hv
    split at hv
    · exact ⟨_, (Option.some.inj hv).symm⟩
    · exact h.entries p v hv
  · intro p name
    have hold := h.operations p name
    rw [Json.pointer_cons_obj] at hold ⊢
    rw [hpaths', List.find?_cons]
    by_cases hp : p = (openapiPathAndParams e.path).1
    · rw [if_pos hp, Option.bind_some, Json.pointer_cons_obj]
      by_cases hname : name = toLowercase lower e.method
      · have haddress : e.address lower = (p, name) := by rw [hp, hname, Entered.address]
        rw [hname, Json.get?_insert_self, ← hname, decide_eq_true haddress]
        rfl
      · have haddress : e.address lower ≠ (p, name) := fun h => hname (Prod.mk.inj h).2.symm
        rw [Json.get?_insert_of_ne hname, decide_eq_false haddress, ← hold]
        subst hp
        cases hget : Json.get? ps (openapiPathAndParams e.path).1 with
        | none =>
          rw [hget] at hentry
          cases hentry
          rfl
        | some v =>
          rw [hget] at hentry
          cases hentry
          rfl
    · have haddress : e.address lower ≠ (p, name) := fun h => hp (Prod.mk.inj h).1.symm
      rw [if_neg hp, decide_eq_false haddress]
      exact hold
  · rw [Json.pointer_cons_obj, hmembers, if_neg (by decide)]
    exact hbearer

end

-- ════════════════════════════════════════════════════════════════════════
-- Runs
-- ════════════════════════════════════════════════════════════════════════

/-- The calls on an application. -/
inductive ServiceCall (Ref : Type)
  | document (e : DocumentEvent Ref)
  | addWebsocketRoute (path : String) (handler : Ref) (allowedOrigins : Option (List String))
  | configure (setting : Setting Ref)
  | freeze
  | ensureCompiled

/-- The state after a call; none where it panics. -/
def ServiceCall.next (h : Host Ref) (rt : Runtime m Ref W) (w : World m Ref W) :
    ServiceCall Ref → Option (World m Ref W)
  | .document e => some (e.next h rt w)
  | .addWebsocketRoute path handler origins =>
    some { w with app := (OxyRoute.addWebsocketRoute h w.app path handler origins).1 }
  | .configure setting => some { w with app := w.app.configure setting }
  | .freeze => (w.app.freeze rt.maskOrder).map fun app => { w with app := app }
  | .ensureCompiled =>
    (w.app.ensureCompiledSnapshot rt.maskOrder).map fun r => { w with app := r.1 }

/-- What a call enters. -/
def ServiceCall.entered (h : Host Ref) (w : World m Ref W) : ServiceCall Ref → Option Entered
  | .document (.addRoute a) => OxyRoute.entered h w.app a
  | _ => none

/-- The calls in any order, on a fresh application, with the operations that were entered. -/
def serviceSystem (h : Host Ref) (rt : Runtime m Ref W) (includeOpenapi : Bool) :
    TransitionSystem (World m Ref W × List Entered) (ServiceCall Ref) where
  init s := s.1.app = AppState.new includeOpenapi ∧ s.2 = []
  step s c s' := c.next h rt s.1 = some s'.1 ∧ s'.2 = (c.entered h s.1).toList ++ s.2

/-- The document holds the operations, and every template of a router belongs to one. -/
structure Documented (lower : String → String) (st : AppState m Ref) (ops : List Entered) :
    Prop where
  document : Documents lower ops st.openapi.1
  routed : ∀ key path, path ∈ (st.routers.router key).templates →
    ∃ e ∈ ops, e.path = path ∧ routerKey e.method = some key

section

variable {h : Host Ref} {rt : Runtime m Ref W} {ops : List Entered} {lower : String → String}

/-- A state with the same document and routers. -/
theorem Documented.of_same {st st' : AppState m Ref} (hst : Documented lower st ops)
    (hdoc : st'.openapi.1 = st.openapi.1) (hrouters : st'.routers = st.routers) :
    Documented lower st' ops := by
  refine ⟨?_, ?_⟩
  · rw [hdoc]
    exact hst.document
  · rw [hrouters]
    exact hst.routed

/-- The setters leave the operations alone. -/
theorem Documented.setOpenapiTitle {st : AppState m Ref} (hst : Documented lower st ops)
    (title : String) : Documented lower (st.setOpenapiTitle title) ops := by
  obtain ⟨root, ps, hroot, hin⟩ := hst.document
  unfold AppState.setOpenapiTitle
  rw [hroot]
  simp only
  split
  · exact ⟨⟨_, ps, rfl, hin.insertInfo _ _⟩, hst.routed⟩
  · exact hst

theorem Documented.setOpenapiVersion {st : AppState m Ref} (hst : Documented lower st ops)
    (version : String) : Documented lower (st.setOpenapiVersion version) ops := by
  obtain ⟨root, ps, hroot, hin⟩ := hst.document
  unfold AppState.setOpenapiVersion
  rw [hroot]
  exact ⟨⟨_, ps, rfl, hin.insert (by decide) (by decide) _⟩, hst.routed⟩

theorem Documented.setOpenapiInfo {st : AppState m Ref} (hst : Documented lower st ops)
    (info : OpenapiInfo) : Documented lower (st.setOpenapiInfo h info).1 ops := by
  obtain ⟨root, ps, hroot, hin⟩ := hst.document
  have hdescribed : DocumentsIn lower ops (info.describe root) ps := by
    unfold OpenapiInfo.describe
    split
    · exact hin.insertInfo _ _
    · exact hin
  unfold AppState.setOpenapiInfo
  rw [hroot]
  simp only
  split
  · exact ⟨⟨_, ps, rfl, hdescribed⟩, hst.routed⟩
  · next contact _ =>
    have hcontact : DocumentsIn lower ops
        (contact.elim (info.describe root) fun v => insertInfo "contact" v (info.describe root))
        ps := by
      cases contact with
      | none => exact hdescribed
      | some v => exact hdescribed.insertInfo _ _
    split
    · exact ⟨⟨_, ps, rfl, hcontact⟩, hst.routed⟩
    · next servers _ =>
      cases servers with
      | none => exact ⟨⟨_, ps, rfl, hcontact⟩, hst.routed⟩
      | some v => exact ⟨⟨_, ps, rfl, hcontact.insert (by decide) (by decide) _⟩, hst.routed⟩

theorem Documented.openapiJson {st : AppState m Ref} (hst : Documented lower st ops)
    (toString : Json → String) : Documented lower (st.openapiJson toString).2 ops :=
  hst.of_same (Cached.read_value toString st.openapi) rfl

theorem Documented.addRoute {st : AppState m Ref} (hst : Documented h.unicodeLowercase st ops)
    (a : AddRouteArgs Ref) :
    Documented h.unicodeLowercase (addRoute h st a).1 ((entered h st a).toList ++ ops) := by
  constructor
  · rw [openapi_addRoute]
    cases entered h st a with
    | none => exact hst.document
    | some e => exact hst.document.enter e
  · have hold : ∀ key path, path ∈ (st.routers.router key).templates →
        ∃ e ∈ (entered h st a).toList ++ ops, e.path = path ∧ routerKey e.method = some key :=
      fun key path hpath => (hst.routed key path hpath).imp fun e he =>
        ⟨List.mem_append_right _ he.1, he.2⟩
    intro key path hpath
    rcases addRoute_cases h st a with ⟨e, hr⟩ | ⟨entry, opId, st', e, hp, hr, hk, hroutes⟩ |
      ⟨entry, opId, doc, key', r, hp, hkey, hi, hr⟩
    · rw [hr] at hpath
      exact hold key path hpath
    · rw [hr, hk.routers] at hpath
      exact hold key path hpath
    · obtain ⟨e, he⟩ := entered_of_ok (congrArg Prod.snd hr)
      obtain ⟨hmethod, htemplate, -⟩ := entered_args he
      rw [hr] at hpath
      simp only [AppState.finishRoute, AppState.rebuildSnapshot, MethodRouters.router_set] at hpath
      split at hpath
      · next hk =>
        subst hk
        rw [Router.templates_insert hi] at hpath
        rcases List.mem_append.mp hpath with hpath | hpath
        · exact hold key path hpath
        · refine ⟨e, ?_, htemplate.trans (List.mem_singleton.mp hpath).symm, hmethod ▸ hkey⟩
          rw [he]
          exact List.mem_cons_self
      · exact hold key path hpath

/-- One call keeps the document in step with the operations. -/
theorem Documented.next {includeOpenapi : Bool} {s s' : World m Ref W × List Entered}
    {c : ServiceCall Ref} (hs : Documented h.unicodeLowercase s.1.app s.2)
    (hstep : (serviceSystem h rt includeOpenapi).step s c s') :
    Documented h.unicodeLowercase s'.1.app s'.2 := by
  obtain ⟨w, ops⟩ := s
  obtain ⟨w', ops'⟩ := s'
  obtain ⟨hnext, hops⟩ := hstep
  dsimp only at hnext hops hs ⊢
  subst hops
  cases c with
  | document e =>
    cases hnext
    cases e with
    | addRoute a => exact hs.addRoute a
    | setOpenapiTitle title => exact hs.setOpenapiTitle title
    | setOpenapiVersion version => exact hs.setOpenapiVersion version
    | setOpenapiInfo info => exact hs.setOpenapiInfo info
    | openapiJson => exact hs.openapiJson rt.jsonToString
    | serve req =>
      simp only [DocumentEvent.next]
      split
      · rw [openapiText_run]
        exact hs.openapiJson rt.jsonToString
      · exact hs
  | addWebsocketRoute path handler origins =>
    cases hnext
    unfold OxyRoute.addWebsocketRoute
    dsimp only
    split
    · exact hs
    · split
      · exact hs
      · unfold commitWebsocketRoute
        dsimp only
        split
        · exact hs.of_same rfl rfl
        · exact hs.of_same rfl rfl
  | configure setting =>
    cases hnext
    refine hs.of_same ?_ ?_
    · cases setting <;> rfl
    · cases setting <;> rfl
  | freeze =>
    obtain ⟨app, happ, rfl⟩ := Option.map_eq_some_iff.mp hnext
    unfold AppState.freeze at happ
    simp only at happ
    split at happ
    · cases happ
      exact hs.of_same rfl rfl
    · obtain ⟨compiled, -, rfl⟩ := Option.map_eq_some_iff.mp happ
      exact hs.of_same rfl rfl
  | ensureCompiled =>
    obtain ⟨⟨app, tables⟩, happ, rfl⟩ := Option.map_eq_some_iff.mp hnext
    unfold AppState.ensureCompiledSnapshot at happ
    split at happ
    · cases happ
      exact hs
    · obtain ⟨compiled, -, heq⟩ := Option.map_eq_some_iff.mp happ
      cases heq
      exact hs.of_same rfl rfl

/-- **The document.** In every state that is reached the document holds at each path and method
the operation that was entered last, and nothing else; it has the scheme of tokens exactly if some
operation that was entered requires one; and every template of a router is documented. -/
theorem document_law (h : Host Ref) (rt : Runtime m Ref W) (includeOpenapi : Bool)
    {w : World m Ref W} {ops : List Entered}
    (hs : (serviceSystem h rt includeOpenapi).Reached (w, ops)) :
    (∀ p name, Json.pointer ["paths", p, name] w.app.openapi.1 =
      (ops.find? fun e => e.address h.unicodeLowercase = (p, name)).map Entered.object) ∧
    (Json.pointer ["components", "securitySchemes", "bearerAuth"] w.app.openapi.1 =
      if ∃ e ∈ ops, e.operation.requireJwt = true then some bearerScheme else none) ∧
    ∀ key path, path ∈ (w.app.routers.router key).templates →
      ∃ name, routerKey name = some key ∧ (Json.pointer ["paths", (openapiPathAndParams path).1,
        toLowercase h.unicodeLowercase name] w.app.openapi.1).isSome := by
  have hdocumented : Documented h.unicodeLowercase w.app ops := by
    refine TransitionSystem.Reached.invariant
      (P := fun s => Documented h.unicodeLowercase s.1.app s.2) ?_ ?_ hs
    · rintro ⟨w, ops⟩ ⟨hw, hops⟩
      dsimp only at hw hops ⊢
      rw [hw, hops]
      refine ⟨documents_initial, fun key path hpath => ?_⟩
      rw [AppState.new, MethodRouters.router_new, Router.templates_new] at hpath
      cases hpath
    · exact fun s c s' hs hstep => hs.next hstep
  obtain ⟨root, ps, hdoc, hin⟩ := hdocumented.document
  have hpaths : ∀ p name, Json.pointer ["paths", p, name] w.app.openapi.1 =
      (ops.find? fun e => e.address h.unicodeLowercase = (p, name)).map Entered.object := by
    intro p name
    rw [hdoc, Json.pointer_cons_obj, hin.paths]
    exact hin.operations p name
  refine ⟨hpaths, ?_, fun key path hpath => ?_⟩
  · rw [hdoc]
    rcases hin.bearer with ⟨hall, hnone⟩ | ⟨hsome, hscheme⟩
    · rw [if_neg, Json.pointer_cons_obj, hnone]
      · rfl
      · rintro ⟨e, he, hjwt⟩
        exact absurd ((hall e he).symm.trans hjwt) Bool.false_ne_true
    · rw [if_pos hsome]
      exact hscheme
  · obtain ⟨e, he, htemplate, hkey⟩ := hdocumented.routed key path hpath
    refine ⟨e.method, hkey, ?_⟩
    rw [hpaths, Option.isSome_map, List.find?_isSome, ← htemplate]
    exact ⟨e, he, decide_eq_true rfl⟩

end

/-- An operation with a token. -/
def guardedCall : AddRouteArgs String :=
  { method := "GET", path := "/users/:id", handler := "user", requireJwt := true,
    jwtSecret := some "secret", readJsonBody := false }

/-- An operation at the same path without one. -/
def openCall : AddRouteArgs String :=
  { method := "GET", path := "/users/:id", handler := "other", readJsonBody := false }

/-- The state after both calls. -/
def documentedTwice : World segmentMatcher String Unit :=
  ⟨(addRoute plainHost (addRoute plainHost (AppState.new true) guardedCall).1 openCall).1, ()⟩

/-- The second call is refused. Its operation is the one in the document, and the scheme of the
first one is still there. -/
theorem refused_operation_documented :
    (addRoute plainHost (addRoute plainHost (AppState.new true : AppState segmentMatcher String)
      guardedCall).1 openCall).2.isOk = false ∧
    Json.pointer ["paths", "/users/{id}", "get"] documentedTwice.app.openapi.1 =
      some (Entered.object ⟨"GET", "/users/:id", ⟨"other", none, false, none⟩, none⟩) ∧
    Json.pointer ["components", "securitySchemes", "bearerAuth"] documentedTwice.app.openapi.1 =
      some bearerScheme := by
  have hguarded : (serviceSystem plainHost (plainRuntime segmentMatcher) true).Reached
      (⟨(addRoute plainHost (AppState.new true) guardedCall).1, ()⟩,
        [⟨"GET", "/users/:id", ⟨"user", none, true, none⟩, none⟩]) :=
    .step (i := .document (.addRoute guardedCall)) (.init (s := (⟨.new true, ()⟩, [])) ⟨rfl, rfl⟩)
      trivial ⟨rfl, rfl⟩
  have hs : (serviceSystem plainHost (plainRuntime segmentMatcher) true).Reached
      (documentedTwice, [⟨"GET", "/users/:id", ⟨"other", none, false, none⟩, none⟩,
        ⟨"GET", "/users/:id", ⟨"user", none, true, none⟩, none⟩]) :=
    .step (i := .document (.addRoute openCall)) hguarded trivial ⟨rfl, rfl⟩
  obtain ⟨hpaths, hscheme, -⟩ := document_law plainHost (plainRuntime segmentMatcher) true hs
  refine ⟨by decide, (hpaths _ _).trans ?_, hscheme.trans (if_pos ⟨_, List.mem_cons_of_mem _
    List.mem_cons_self, rfl⟩)⟩
  rfl

end OxyRoute
