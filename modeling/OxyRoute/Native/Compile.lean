import OxyRoute.Native.Accepted
import OxyRoute.Native.Rejection

/-!
# Compiling the routing tables

`snapshot_routers` merges the templates of all methods into one router, and panics when that
router refuses one. Each template was checked against the templates of its own method only, so
two methods may have been given templates that cannot live in one router.

## Main definitions

- `CrossCompatible` — no two accepted templates conflict, whatever their methods

## Main results

- `compile_isSome_iff` — when the tables compile
-/

namespace OxyRoute

variable {m : Matchit} {Ref : Type}

/-- No two different accepted templates conflict, whatever methods they were accepted under. -/
def CrossCompatible (m : Matchit) (accepted : List (String × String)) : Prop :=
  ∀ s ∈ accepted.map (·.2), ∀ t ∈ accepted.map (·.2), s ≠ t → m.conflicts s t = false

/-- A dictionary whose keys do not conflict pairwise, as entries in insertion order. -/
theorem Dict.pairwise_entries_iff {α : Type} (d : Dict String α) :
    (d.entries.Pairwise fun a b => m.conflicts a.1 b.1 = false) ↔
      ∀ s ∈ d.keys, ∀ t ∈ d.keys, s ≠ t → m.conflicts s t = false := by
  have hmap : (d.entries.Pairwise fun a b => m.conflicts a.1 b.1 = false) ↔
      d.keys.Pairwise fun s t => m.conflicts s t = false := by
    rw [Dict.keys, List.pairwise_map]
  rw [hmap]
  have hsymm : Std.Symm fun s t : String => m.conflicts s t = false :=
    ⟨fun s t h => by rw [m.conflicts_symm]; exact h⟩
  exact ⟨fun hp s hs t ht hne => hp.forall hs ht hne,
    fun hall => d.nodup.pairwise_of_forall_ne hall⟩

/-- The tables compile exactly when the accepted templates are compatible across methods. -/
theorem RegisteredAs.snapshotRouters_isSome_iff {accepted : List (String × String)}
    {st : AppState m Ref} (hs : RegisteredAs accepted st) (o : MaskOrder) :
    (st.snapshotRouters o).isSome ↔ CrossCompatible m accepted := by
  have hiff := Router.insertAll_isOk_iff (m := m) Router.new
    (o.order st.pathMethodMasks.entries)
  have hsome : (st.snapshotRouters o).isSome ↔ ∃ r,
      (Router.new : Router m MethodMask).insertAll (o.order st.pathMethodMasks.entries) = .ok r := by
    unfold AppState.snapshotRouters
    split
    · next r h => simp [h]
    · next e h => simp [h]
  have href : ∀ e ∈ o.order st.pathMethodMasks.entries, m.refusal e.1 = none := by
    intro e he
    refine hs.refusal_eq_none ((hs.mem_keys_iff e.1).mp ?_)
    exact List.mem_map_of_mem ((o.perm _).mem_iff.mp he)
  rw [hsome, hiff]
  have hperm : (o.order st.pathMethodMasks.entries).Pairwise
        (fun a b => m.conflicts a.1 b.1 = false) ↔
      st.pathMethodMasks.entries.Pairwise fun a b => m.conflicts a.1 b.1 = false :=
    (o.perm _).pairwise_iff fun {a b} hab => by rw [m.conflicts_symm]; exact hab
  change (_ ∧ (o.order st.pathMethodMasks.entries).Pairwise _) ↔ _
  rw [hperm, Dict.pairwise_entries_iff]
  simp only [CrossCompatible, hs.mem_keys_iff]
  exact ⟨fun h => h.2, fun h => ⟨href, h⟩⟩

/-- Registration drops compiled tables, or leaves them as they are. -/
theorem compiled_addRoutes (h : Host Ref) (st : AppState m Ref)
    (calls : List (AddRouteArgs Ref)) (hst : st.compiled = none) :
    (addRoutes h st calls).compiled = none := by
  induction calls generalizing st with
  | nil => exact hst
  | cons a calls ih =>
    refine ih _ ?_
    rcases addRoute_cases h st a with ⟨e, hc⟩ | ⟨_, _, st', e, -, hc, hk, -⟩ |
      ⟨entry, _, oa, key, r, -, -, -, hc⟩
    · rw [hc]; exact hst
    · rw [hc]; exact hk.compiled.trans hst
    · rw [hc]; rfl

/-- **Compilation.** After any sequence of `add_route` calls on a fresh application, the tables
compile (on `freeze` and on the first request alike, in every iteration order of the masks)
exactly when no two different templates accepted under any methods conflict. -/
theorem compile_isSome_iff (h : Host Ref) (o : MaskOrder) (includeOpenapi : Bool)
    (calls : List (AddRouteArgs Ref)) :
    let fresh : AppState m Ref := AppState.new includeOpenapi
    let st := addRoutes h fresh calls
    ((st.snapshotRouters o).isSome ↔ CrossCompatible m (acceptedRoutes h fresh calls)) ∧
    ((st.freeze o).isSome ↔ CrossCompatible m (acceptedRoutes h fresh calls)) ∧
    ((st.ensureCompiledSnapshot o).isSome ↔
      CrossCompatible m (acceptedRoutes h fresh calls)) := by
  intro fresh st
  have hs : RegisteredAs (acceptedRoutes h fresh calls) st :=
    registeredAs_addRoutes h includeOpenapi calls
  have hs' : RegisteredAs (acceptedRoutes h fresh calls) ({ st with frozen := true }) :=
    ⟨hs.supported, hs.templates, hs.masks⟩
  have hnone : st.compiled = none := compiled_addRoutes h fresh calls rfl
  refine ⟨hs.snapshotRouters_isSome_iff o, ?_, ?_⟩
  · rw [← hs'.snapshotRouters_isSome_iff o]
    simp [AppState.freeze, hnone]
  · rw [← hs.snapshotRouters_isSome_iff o]
    simp [AppState.ensureCompiledSnapshot, hnone]

/-- `GET /a/:x` and `POST /a/:y` are both accepted, and then the tables do not compile. -/
theorem renamed_parameter_panics :
    let calls := [getRoute "/a/:x" "f", { getRoute "/a/:y" "g" with method := "POST" }]
    let fresh : AppState segmentMatcher String := AppState.new true
    let o : MaskOrder := ⟨id, fun _ => .rfl⟩
    acceptedRoutes plainHost fresh calls = [("GET", "/a/:x"), ("POST", "/a/:y")] ∧
      ((addRoutes plainHost fresh calls).snapshotRouters o).isNone ∧
      ((addRoutes plainHost fresh calls).freeze o).isNone ∧
      ((addRoutes plainHost fresh calls).ensureCompiledSnapshot o).isNone := by
  decide

end OxyRoute
