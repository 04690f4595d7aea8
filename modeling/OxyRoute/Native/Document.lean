import OxyRoute.Lib.Cached
import OxyRoute.Lib.Transition
import OxyRoute.Native.Dispatch
import OxyRoute.Native.Registration

/-!
# The document and its cached text

The OpenAPI document is kept next to its serialised text. `add_route` and the setters change the
document and drop the text, `openapi_json` and the dispatcher read it and fill it in. The one
writer with error exits after its first change is `set_openapi_info`, and it drops the text only
at its end.

## Main definitions

- `setOpenapiTitle`, `setOpenapiVersion`, `setOpenapiInfo`, `openapiJson` — the native calls
- `documentSystem` — the calls in any order, on a fresh application
- `InfoUndisturbed` — the condition on the calls of `set_openapi_info`

## Main results

- `openapi_text_current` — in runs under the condition the text is the one of the document
-/

namespace OxyRoute

variable {m : Matchit} {Ref W : Type}

-- ════════════════════════════════════════════════════════════════════════
-- The calls
-- ════════════════════════════════════════════════════════════════════════

/-- Insert a member into the `info` object, if the root has one. -/
def insertInfo (key : String) (v : Json) (root : Json.Members) : Json.Members :=
  match Json.get? root "info" with
  | some (.obj info) => Json.insert "info" (.obj (Json.insert key v info)) root
  | _ => root

/-- `set_openapi_title`. -/
def AppState.setOpenapiTitle (st : AppState m Ref) (title : String) : AppState m Ref :=
  match st.openapi.1 with
  | .obj root =>
    match Json.get? root "info" with
    | some (.obj _) => { st with openapi := (.obj (insertInfo "title" (.str title) root), none) }
    | _ => st
  | _ => st

/-- `set_openapi_version`. -/
def AppState.setOpenapiVersion (st : AppState m Ref) (version : String) : AppState m Ref :=
  match st.openapi.1 with
  | .obj root => { st with openapi := (.obj (Json.insert "openapi" (.str version) root), none) }
  | _ => st

/-- The arguments of `set_openapi_info`. -/
structure OpenapiInfo where
  description : Option String := none
  contactJson : Option String := none
  serversJson : Option String := none

/-- An optional JSON text of `set_openapi_info`. -/
def infoJson (h : Host Ref) (what : String) (raw : Option String) :
    Except (PyErr Ref) (Option Json) :=
  match raw with
  | none => .ok none
  | some raw =>
    match h.jsonFromStr raw with
    | .ok v => .ok (some v)
    | .error e => .error (.valueError ("invalid " ++ what ++ " JSON: " ++ e))

/-- The root with the description, if one is given. -/
def OpenapiInfo.describe (info : OpenapiInfo) (root : Json.Members) : Json.Members :=
  match info.description with
  | some desc => insertInfo "description" (.str desc) root
  | none => root

/-- `set_openapi_info`. An argument that cannot be read ends the call with the changes made for
the arguments before it, and with the cached text in place. -/
def AppState.setOpenapiInfo (h : Host Ref) (st : AppState m Ref) (info : OpenapiInfo) :
    AppState m Ref × Except (PyErr Ref) Unit :=
  match st.openapi.1 with
  | .obj root =>
    let root := info.describe root
    match infoJson h "contact" info.contactJson with
    | .error e => ({ st with openapi := (.obj root, st.openapi.2) }, .error e)
    | .ok contact =>
      let root := contact.elim root fun v => insertInfo "contact" v root
      match infoJson h "servers" info.serversJson with
      | .error e => ({ st with openapi := (.obj root, st.openapi.2) }, .error e)
      | .ok servers =>
        let root := servers.elim root fun v => Json.insert "servers" v root
        ({ st with openapi := (.obj root, none) }, .ok ())
  | _ => (st, .ok ())

/-- `openapi_json`. -/
def AppState.openapiJson (toString : Json → String) (st : AppState m Ref) :
    String × AppState m Ref :=
  ((Cached.read toString st.openapi).1,
    { st with openapi := (Cached.read toString st.openapi).2 })

/-- The dispatcher reads the text as `openapi_json` does. -/
theorem openapiText_run (rt : Runtime m Ref W) (w : World m Ref W) :
    (openapiText rt).run w = ⟨.ok (w.app.openapiJson rt.jsonToString).1,
      { w with app := (w.app.openapiJson rt.jsonToString).2 }, []⟩ := by
  unfold openapiText AppState.openapiJson
  rw [Routine.effect_run]
  cases hc : w.app.openapi.2 with
  | none => rw [Cached.read_of_none hc]
  | some text => rw [Cached.read_of_some hc]

-- ════════════════════════════════════════════════════════════════════════
-- Runs
-- ════════════════════════════════════════════════════════════════════════

/-- The calls that touch the document. `serve` is a `GET` or `HEAD` request the dispatcher
answers with it. -/
inductive DocumentEvent (Ref : Type)
  | addRoute (a : AddRouteArgs Ref)
  | setOpenapiTitle (title : String)
  | setOpenapiVersion (version : String)
  | setOpenapiInfo (info : OpenapiInfo)
  | openapiJson
  | serve (req : HttpRequest Ref)

/-- What a call leaves. -/
def DocumentEvent.next (h : Host Ref) (rt : Runtime m Ref W) (w : World m Ref W) :
    DocumentEvent Ref → World m Ref W
  | .addRoute a => { w with app := (OxyRoute.addRoute h w.app a).1 }
  | .setOpenapiTitle title => { w with app := w.app.setOpenapiTitle title }
  | .setOpenapiVersion version => { w with app := w.app.setOpenapiVersion version }
  | .setOpenapiInfo info => { w with app := (w.app.setOpenapiInfo h info).1 }
  | .openapiJson => { w with app := (w.app.openapiJson rt.jsonToString).2 }
  | .serve req =>
    if servesOpenapi req w.app.hotSnapshot then ((openapiText rt).run w).state else w

/-- The calls in any order, on a fresh application. -/
def documentSystem (h : Host Ref) (rt : Runtime m Ref W) (includeOpenapi : Bool) :
    TransitionSystem (World m Ref W) (DocumentEvent Ref) where
  init w := w.app = AppState.new includeOpenapi
  step w e w' := e.next h rt w = w'

/-- The call reads all its arguments, or it gave nothing to enter before the one it cannot
read. -/
def OpenapiInfo.Clean (h : Host Ref) (info : OpenapiInfo) : Prop :=
  match infoJson h "contact" info.contactJson, infoJson h "servers" info.serversJson with
  | .error _, _ => info.description = none
  | .ok contact, .error _ => info.description = none ∧ contact = none
  | .ok _, .ok _ => True

/-- A call of `set_openapi_info` enters nothing before it fails, or finds no cached text. -/
def InfoUndisturbed (h : Host Ref) (w : World m Ref W) : DocumentEvent Ref → Prop
  | .setOpenapiInfo info => info.Clean h ∨ w.app.openapi.2 = none
  | _ => True

-- ════════════════════════════════════════════════════════════════════════
-- The cached text
-- ════════════════════════════════════════════════════════════════════════

open Cached

section

variable {toString : Json → String} {st : AppState m Ref}

theorem fresh_setOpenapiTitle (hf : Fresh toString st.openapi) (title : String) :
    Fresh toString (st.setOpenapiTitle title).openapi := by
  unfold AppState.setOpenapiTitle
  split
  · split
    · exact fresh_drop toString _
    · exact hf
  · exact hf

theorem fresh_setOpenapiVersion (hf : Fresh toString st.openapi) (version : String) :
    Fresh toString (st.setOpenapiVersion version).openapi := by
  unfold AppState.setOpenapiVersion
  split
  · exact fresh_drop toString _
  · exact hf

/-- `add_route` either has not reached the document yet or has dropped the text. -/
theorem openapi_commitRoute (h : Host Ref) (st : AppState m Ref) (a : AddRouteArgs Ref)
    (entry : RouteEntry Ref) (opId : String) :
    (commitRoute h st a entry opId).1.openapi = st.openapi ∨
      ∃ doc, (commitRoute h st a entry opId).1.openapi = (doc, none) := by
  unfold commitRoute
  simp only
  split
  · exact .inl rfl
  · split
    · exact .inl rfl
    · split
      · exact .inl rfl
      · refine .inr ?_
        split
        · exact ⟨_, rfl⟩
        · split
          · exact ⟨_, rfl⟩
          · exact ⟨_, rfl⟩

theorem fresh_addRoute (h : Host Ref) (hf : Fresh toString st.openapi) (a : AddRouteArgs Ref) :
    Fresh toString (addRoute h st a).1.openapi := by
  unfold addRoute
  split
  · exact hf
  · split
    · exact hf
    · next entry opId _ =>
      rcases openapi_commitRoute h st a entry opId with hkeep | ⟨doc, hdrop⟩
      · rw [hkeep]
        exact hf
      · rw [hdrop]
        exact fresh_drop toString doc

/-- Where `set_openapi_info` does not drop the text, it fails after what it has entered. -/
theorem openapi_setOpenapiInfo (h : Host Ref) (st : AppState m Ref) (info : OpenapiInfo) :
    (st.setOpenapiInfo h info).1.openapi = st.openapi ∨
      ∃ doc, (st.setOpenapiInfo h info).1.openapi = (doc, none) ∨
        ¬ info.Clean h ∧ (st.setOpenapiInfo h info).1.openapi = (doc, st.openapi.2) := by
  unfold AppState.setOpenapiInfo
  split
  · next root hroot =>
    have hsame : (Json.obj root, st.openapi.2) = st.openapi := by rw [← hroot]
    simp only
    unfold OpenapiInfo.Clean
    split
    · next e hcontact =>
      rw [hcontact]
      cases hdesc : info.description with
      | none =>
        refine .inl ?_
        simp only [OpenapiInfo.describe, hdesc]
        exact hsame
      | some desc => exact .inr ⟨_, .inr ⟨by simp, rfl⟩⟩
    · next contact hcontact =>
      rw [hcontact]
      split
      · next e hservers =>
        rw [hservers]
        by_cases hnothing : info.description = none ∧ contact = none
        · refine .inl ?_
          simp only [OpenapiInfo.describe, hnothing.1, hnothing.2, Option.elim_none]
          exact hsame
        · exact .inr ⟨_, .inr ⟨by simpa using hnothing, rfl⟩⟩
      · exact .inr ⟨_, .inl rfl⟩
  · exact .inl rfl

theorem fresh_setOpenapiInfo (h : Host Ref) (hf : Fresh toString st.openapi)
    (info : OpenapiInfo) (hclean : info.Clean h ∨ st.openapi.2 = none) :
    Fresh toString (st.setOpenapiInfo h info).1.openapi := by
  rcases openapi_setOpenapiInfo h st info with hkeep | ⟨doc, hdrop | ⟨hfail, hstale⟩⟩
  · rw [hkeep]
    exact hf
  · rw [hdrop]
    exact fresh_drop toString doc
  · have hnone : st.openapi.2 = none := hclean.resolve_left hfail
    rw [hstale]
    exact (hf.replace_iff doc).mpr (.inl hnone)

end

/-- Every call under the condition keeps the text current. -/
theorem fresh_next {h : Host Ref} {rt : Runtime m Ref W} {w : World m Ref W}
    {e : DocumentEvent Ref} (hf : Fresh rt.jsonToString w.app.openapi)
    (hguard : InfoUndisturbed h w e) : Fresh rt.jsonToString (e.next h rt w).app.openapi := by
  cases e with
  | addRoute a => exact fresh_addRoute h hf a
  | setOpenapiTitle title => exact fresh_setOpenapiTitle hf title
  | setOpenapiVersion version => exact fresh_setOpenapiVersion hf version
  | setOpenapiInfo info => exact fresh_setOpenapiInfo h hf info hguard
  | openapiJson => exact hf.read
  | serve req =>
    simp only [DocumentEvent.next]
    split
    · rw [openapiText_run]
      exact hf.read
    · exact hf

/-- **The cached text.** In every state reached by calls that satisfy `InfoUndisturbed`, a cached
text is the serialisation of the document, and so is what `openapi_json` returns and what the
dispatcher serves. -/
theorem openapi_text_current (h : Host Ref) (rt : Runtime m Ref W) (includeOpenapi : Bool)
    {w : World m Ref W}
    (hs : (documentSystem h rt includeOpenapi).ReachedUnder (InfoUndisturbed h) w) :
    (∀ text, w.app.openapi.2 = some text → text = rt.jsonToString w.app.openapi.1) ∧
      (w.app.openapiJson rt.jsonToString).1 = rt.jsonToString w.app.openapi.1 ∧
      ((openapiText rt).run w).result = .ok (rt.jsonToString w.app.openapi.1) := by
  have hf : Fresh rt.jsonToString w.app.openapi := by
    refine TransitionSystem.ReachedUnder.invariant
      (P := fun w => Fresh rt.jsonToString w.app.openapi) ?_ ?_ hs
    · intro w h0
      rw [show w.app = AppState.new includeOpenapi from h0]
      exact fresh_drop rt.jsonToString _
    · rintro w e w' hf hguard rfl
      exact fresh_next hf hguard
  have hread : (w.app.openapiJson rt.jsonToString).1 = rt.jsonToString w.app.openapi.1 :=
    hf.read_eq
  refine ⟨hf, hread, ?_⟩
  rw [openapiText_run, hread]

/-- A runtime that serialises the document an application starts with, with a description if
one was set. -/
def describedRuntime : Runtime segmentMatcher String Unit :=
  { plainRuntime segmentMatcher with
    jsonToString := fun doc =>
      let description := match Json.pointer ["info", "description"] doc with
        | some (.str text) => "\"description\":\"" ++ text ++ "\","
        | _ => ""
      "\x7b\"info\":\x7b" ++ description ++ "\"title\":\"OxyRoute\",\"version\":\"0.7.0\"\x7d," ++
        "\"openapi\":\"3.1.0\",\"paths\":\x7b\x7d\x7d" }

/-- A description is set after the text was read, and a contact that cannot be read comes on its
own: the text is current. -/
theorem described_text_current :
    ∃ w, (documentSystem plainHost describedRuntime true).ReachedUnder
        (InfoUndisturbed plainHost) w ∧ w.app.openapi.2.isSome ∧
      (∀ text, w.app.openapi.2 = some text → text = describedRuntime.jsonToString w.app.openapi.1) ∧
      (w.app.openapiJson describedRuntime.jsonToString).1 =
        describedRuntime.jsonToString w.app.openapi.1 ∧
      ((openapiText describedRuntime).run w).result =
        .ok (describedRuntime.jsonToString w.app.openapi.1) := by
  have h0 : (documentSystem plainHost describedRuntime true).init ⟨AppState.new true, ()⟩ := rfl
  have hs : (documentSystem plainHost describedRuntime true).ReachedUnder
      (InfoUndisturbed plainHost) _ :=
    .step (.step (.step (.step (.init h0)
      (i := .openapiJson) trivial rfl)
      (i := .setOpenapiInfo { description := some "later" }) (.inl trivial) rfl)
      (i := .serve (plainRequest "HEAD" "/openapi.json")) trivial rfl)
      (i := .setOpenapiInfo { contactJson := some "NaN" }) (.inl rfl) rfl
  exact ⟨_, hs, rfl, openapi_text_current plainHost describedRuntime true hs⟩

/-- A description is entered before the contact that cannot be read: the text that was read
before stays, without the description. -/
theorem failed_info_stale_text :
    ∃ w, (documentSystem plainHost describedRuntime true).Reached w ∧
      ∃ text, w.app.openapi.2 = some text ∧
        text ≠ describedRuntime.jsonToString w.app.openapi.1 := by
  have h0 : (documentSystem plainHost describedRuntime true).init ⟨AppState.new true, ()⟩ := rfl
  have hs : (documentSystem plainHost describedRuntime true).Reached _ :=
    .step (.step (.init h0)
      (i := .openapiJson) trivial rfl)
      (i := .setOpenapiInfo { description := some "later", contactJson := some "NaN" }) trivial rfl
  exact ⟨_, hs, _, rfl, by decide⟩

end OxyRoute
