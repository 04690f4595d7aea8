import OxyRoute.Native.Compile

/-!
# The Allow list

`methods_matching_path_compiled` reads the methods of a path off the mask of one template: the
one the merged router prefers. Other templates that match the path may have been accepted under
further methods, and a template accepted under `HEAD` alone is served for `GET` as well, which
its mask does not say.

## Main definitions

- `findsRoute` — a method for which a route is found
- `WinnerServesAll` — the preferred template was accepted for all methods the path is served for

## Main results

- `allow_list_iff` — when the list is the list of methods for which a route is found
-/

namespace OxyRoute

variable {m : Matchit} {Ref : Type}

/-- `match_route_compiled` finds a route. -/
def findsRoute (compiled : CompiledRouters m) (method path : String) : Bool :=
  match matchRouteCompiled compiled method path with
  | some (some _) => true
  | _ => false

/-- The method under which a registration serves requests of a method: `GET` for `HEAD`. -/
def servingMethod (method : String) : String := if method = "HEAD" then "GET" else method

/-- The template `w` was accepted for every method that some accepted template serves the path
under; for a path served under `GET` or `HEAD` it was accepted under `GET`. -/
def WinnerServesAll (m : Matchit) (accepted : List (String × String)) (path w : String) : Prop :=
  ∀ e ∈ accepted, (m.captures e.2 path).isSome → (servingMethod e.1, w) ∈ accepted

theorem findsRoute_iff (compiled : CompiledRouters m) (method path : String) :
    findsRoute compiled method path = true ↔
      ∃ key, routerKey method = some key ∧ ((compiled.router key).atPath path).isSome := by
  unfold findsRoute matchRouteCompiled routerForCompiled
  cases hk : routerKey method with
  | none => simp
  | some key =>
    cases hr : (compiled.router key).atPath path <;> simp [hr]

/-- The methods of `allowOrder` are found exactly when their router finds a route. -/
theorem methodsByRouter_eq (compiled : CompiledRouters m) (path : String) :
    methodsByRouter compiled path =
      supportedMethods.filter fun n => findsRoute compiled n path := by
  have hmap : supportedMethods = allowOrder.map (·.1) := rfl
  rw [methodsByRouter, hmap, List.filter_map]
  congr 1
  refine List.filter_congr fun e he => ?_
  rw [Function.comp, Bool.eq_iff_iff, findsRoute_iff]
  have hkey : routerKey e.1 = some e.2 := by
    revert e
    decide
  simp [hkey]

theorem isSome_routerKey_iff (n : String) : (routerKey n).isSome ↔ n ∈ supportedMethods := by
  by_cases h : n ∈ supportedMethods
  · have hall : ∀ n ∈ supportedMethods, (routerKey n).isSome := by decide
    exact iff_of_true (hall n h) h
  · have hnone : routerKey n = none := by
      simp only [supportedMethods, List.mem_cons, List.not_mem_nil, or_false, not_or] at h
      unfold routerKey
      split <;> simp_all
    simp [h, hnone]

/-- Two methods share a router exactly when the same method serves them. -/
theorem routerKey_eq_iff {a b : String} (ha : a ∈ supportedMethods) (hb : b ∈ supportedMethods) :
    routerKey a = routerKey b ↔ servingMethod a = servingMethod b := by
  have hall : ∀ a ∈ supportedMethods, ∀ b ∈ supportedMethods,
      (routerKey a = routerKey b ↔ servingMethod a = servingMethod b) := by decide
  exact hall a ha b hb

theorem servingMethod_mem {n : String} (hn : n ∈ supportedMethods) :
    servingMethod n ∈ supportedMethods := by
  have hall : ∀ n ∈ supportedMethods, servingMethod n ∈ supportedMethods := by decide
  exact hall n hn

theorem servingMethod_idem (n : String) : servingMethod (servingMethod n) = servingMethod n := by
  unfold servingMethod
  split <;> simp_all

/-- A registration stands for the methods its own method serves, for a `GET` registration. -/
theorem standsFor_servingMethod (n : String) : standsFor (servingMethod n) n := by
  unfold servingMethod standsFor
  split <;> simp_all

theorem servingMethod_of_standsFor {method n : String} (h : standsFor method n) :
    servingMethod method = servingMethod n := by
  rcases h with rfl | ⟨rfl, rfl⟩ <;> rfl

theorem eq_of_standsFor_servingMethod {method n : String}
    (h : standsFor method (servingMethod n)) : method = servingMethod n := by
  rcases h with h | ⟨-, h⟩
  · exact h
  · unfold servingMethod at h
    split at h <;> simp_all

/-- The listed methods of a mask, as a selection of the seven methods. -/
theorem MethodMask.toVec_eq_filter (mask : MethodMask) :
    mask.toVec = supportedMethods.filter fun n => n ∈ mask.toVec := by
  have hmap : supportedMethods = MethodMask.order.map (·.1) := rfl
  conv_lhs => rw [MethodMask.toVec]
  rw [hmap, List.filter_map]
  congr 1
  refine List.filter_congr fun e he => ?_
  rw [Function.comp, Bool.eq_iff_iff, decide_eq_true_iff, decide_eq_true_iff,
    MethodMask.mem_toVec_iff]
  constructor
  · exact fun hb => ⟨e.2, he, hb⟩
  · rintro ⟨flag, hmem, hb⟩
    have hinj : ∀ e ∈ MethodMask.order, ∀ e' ∈ MethodMask.order, e.1 = e'.1 → e = e' := by
      decide
    rw [hinj e he (e.1, flag) hmem rfl]
    exact hb

/-- Selections from one list are equal exactly when they select the same members. -/
theorem filter_eq_filter_iff {α : Type} {l : List α} {p q : α → Bool} :
    l.filter p = l.filter q ↔ ∀ a ∈ l, p a = q a := by
  refine ⟨fun h a ha => ?_, List.filter_congr⟩
  have hmem : a ∈ l.filter p ↔ a ∈ l.filter q := by rw [h]
  simp only [List.mem_filter, ha, true_and] at hmem
  exact Bool.eq_iff_iff.mpr hmem

/-- The tables that are compiled from a state. -/
theorem snapshotRouters_eq_some {st : AppState m Ref} {o : MaskOrder} {c : CompiledRouters m}
    (hc : st.snapshotRouters o = some c) :
    c.toMethodRouters = st.routers ∧ c.websocket = st.websocket ∧
      c.allPaths.table.entries = o.order st.pathMethodMasks.entries := by
  unfold AppState.snapshotRouters at hc
  split at hc
  · next r hr =>
    cases hc
    refine ⟨rfl, rfl, ?_⟩
    rw [ExclusiveTable.insertAll_entries (Router.insertAll_eq_ok_iff.mp hr).2]
    rfl
  · cases hc

namespace RegisteredAs

variable {accepted : List (String × String)} {st : AppState m Ref} {o : MaskOrder}
  {c : CompiledRouters m}

theorem method_mem (hs : RegisteredAs accepted st) {e : String × String} (he : e ∈ accepted) :
    e.1 ∈ supportedMethods :=
  (isSome_routerKey_iff e.1).mp (hs.supported e he)

/-- A route is found for a method exactly when a template accepted under the same serving
method matches. -/
theorem findsRoute_iff (hfinds : m.FindsMatching) (hs : RegisteredAs accepted st)
    (hc : st.snapshotRouters o = some c)
    {n : String} (hn : n ∈ supportedMethods) (path : String) :
    findsRoute c n path = true ↔ ∃ e ∈ accepted, (m.captures e.2 path).isSome ∧
      servingMethod e.1 = servingMethod n := by
  obtain ⟨key, hkey⟩ := Option.isSome_iff_exists.mp ((isSome_routerKey_iff n).mpr hn)
  have hfind : findsRoute c n path = true ↔ ((c.router key).atPath path).isSome := by
    rw [OxyRoute.findsRoute_iff, hkey]
    simp
  rw [hfind, Router.atPath_isSome_iff hfinds, (snapshotRouters_eq_some hc).1, hs.templates]
  constructor
  · rintro ⟨t, ht, hcap⟩
    obtain ⟨e, he, rfl⟩ := List.mem_map.mp ht
    obtain ⟨he, hke⟩ := List.mem_filter.mp he
    refine ⟨e, he, hcap, (routerKey_eq_iff (hs.method_mem he) hn).mp ?_⟩
    rw [hkey]
    exact of_decide_eq_true hke
  · rintro ⟨e, he, hcap, hserve⟩
    refine ⟨e.2, List.mem_map_of_mem (List.mem_filter.mpr ⟨he, decide_eq_true ?_⟩), hcap⟩
    rw [(routerKey_eq_iff (hs.method_mem he) hn).mpr hserve, hkey]

/-- The templates of the merged router are the accepted ones. -/
theorem mem_allPaths_iff (hs : RegisteredAs accepted st) (hc : st.snapshotRouters o = some c)
    (t : String) : t ∈ c.allPaths.templates ↔ t ∈ accepted.map (·.2) := by
  rw [← hs.mem_keys_iff, Router.templates, ExclusiveTable.keys, (snapshotRouters_eq_some hc).2.2,
    Dict.keys]
  exact ((o.perm _).map _).mem_iff

/-- The list read off the mask of the preferred template `w`. -/
theorem methodsMatching_of_best (hs : RegisteredAs accepted st)
    (hc : st.snapshotRouters o = some c) {path w : String}
    (hw : m.best c.allPaths.templates path = some w) :
    methodsMatchingPathCompiled c path = (maskOf accepted w).toVec ∧
      (maskOf accepted w).toVec ≠ [] := by
  have hmem : w ∈ accepted.map (·.2) := (hs.mem_allPaths_iff hc w).mp (m.best_mem hw).1
  have hne : (maskOf accepted w).toVec ≠ [] := by
    obtain ⟨e, he, rfl⟩ := List.mem_map.mp hmem
    exact List.ne_nil_of_mem
      ((mem_toVec_maskOf_iff accepted e.2 (hs.method_mem he)).mpr ⟨e, he, rfl, .inl rfl⟩)
  have hentry : (w, maskOf accepted w) ∈ c.allPaths.table.entries := by
    rw [(snapshotRouters_eq_some hc).2.2]
    refine (o.perm _).mem_iff.mpr (Dict.mem_entries_of_get? ?_)
    rw [hs.masks, if_pos hmem]
  obtain ⟨⟨mask, params⟩, hat, hmask⟩ :=
    Option.map_eq_some_iff.mp (Router.atPath_of_best hw hentry)
  obtain rfl : mask = maskOf accepted w := hmask
  refine ⟨?_, hne⟩
  rw [methodsMatchingPathCompiled, hat]
  exact if_pos hne

/-- The list of the preferred template is right exactly when that template serves all. -/
theorem toVec_eq_iff (hfinds : m.FindsMatching) (hs : RegisteredAs accepted st)
    (hc : st.snapshotRouters o = some c) {path w : String} (hw : m.best c.allPaths.templates path = some w) :
    (maskOf accepted w).toVec = supportedMethods.filter (fun n => findsRoute c n path) ↔
      WinnerServesAll m accepted path w := by
  rw [MethodMask.toVec_eq_filter, filter_eq_filter_iff]
  constructor
  · intro hall e he hcap
    have hn := servingMethod_mem (hs.method_mem he)
    have hfind : findsRoute c (servingMethod e.1) path = true :=
      (hs.findsRoute_iff hfinds hc hn path).mpr ⟨e, he, hcap, (servingMethod_idem e.1).symm⟩
    rw [← hall _ hn, decide_eq_true_iff, mem_toVec_maskOf_iff accepted w hn] at hfind
    obtain ⟨⟨method, t⟩, he', rfl, hstands⟩ := hfind
    rwa [← eq_of_standsFor_servingMethod hstands]
  · intro hserves n hn
    rw [Bool.eq_iff_iff, decide_eq_true_iff, mem_toVec_maskOf_iff accepted w hn,
      hs.findsRoute_iff hfinds hc hn path]
    constructor
    · rintro ⟨e, he, rfl, hstands⟩
      exact ⟨e, he, (m.best_mem hw).2, servingMethod_of_standsFor hstands⟩
    · rintro ⟨e, he, hcap, hserve⟩
      exact ⟨(servingMethod e.1, w), hserves e he hcap, rfl,
        hserve ▸ standsFor_servingMethod n⟩

end RegisteredAs

/-- Without a preferred template the list is made of one lookup per router. -/
theorem methodsMatching_of_none {c : CompiledRouters m} {path : String}
    (hw : m.best c.allPaths.templates path = none) :
    methodsMatchingPathCompiled c path =
      supportedMethods.filter (fun n => findsRoute c n path) := by
  have hat : c.allPaths.atPath path = none := by simp [Router.atPath, hw]
  rw [methodsMatchingPathCompiled, hat, methodsByRouter_eq]

theorem findsRoute_eq_false {c : CompiledRouters m} {n path : String}
    (hn : n ∉ supportedMethods) : findsRoute c n path = false := by
  rw [← Bool.not_eq_true, findsRoute_iff]
  rintro ⟨key, hkey, -⟩
  exact hn ((isSome_routerKey_iff n).mp (by simp [hkey]))

/-- **The Allow list.** For tables compiled after any sequence of `add_route` calls on a fresh
application, and a matcher whose lookups succeed when some template matches, the list for a path
is the methods for which a route is found, in the fixed order, and is empty exactly when there is
none, if and only if the template the merged router prefers for the path was accepted for every
method the path is served under. -/
theorem allow_list_iff (hfinds : m.FindsMatching) (h : Host Ref) (o : MaskOrder)
    (includeOpenapi : Bool) (calls : List (AddRouteArgs Ref)) (c : CompiledRouters m)
    (hc : (addRoutes h (AppState.new includeOpenapi : AppState m Ref) calls).snapshotRouters o =
      some c) (path : String) :
    (methodsMatchingPathCompiled c path = supportedMethods.filter (fun n => findsRoute c n path) ∧
      (methodsMatchingPathCompiled c path = [] ↔ ∀ n, findsRoute c n path = false)) ↔
    ∀ w, m.best c.allPaths.templates path = some w → WinnerServesAll m
      (acceptedRoutes h (AppState.new includeOpenapi : AppState m Ref) calls) path w := by
  have hs := registeredAs_addRoutes (m := m) h includeOpenapi calls
  have hempty : supportedMethods.filter (fun n => findsRoute c n path) = [] ↔
      ∀ n, findsRoute c n path = false := by
    rw [List.filter_eq_nil_iff]
    refine ⟨fun hall n => ?_, fun hall n _ => by simp [hall n]⟩
    by_cases hn : n ∈ supportedMethods
    · simpa using hall n hn
    · exact findsRoute_eq_false hn
  cases hw : m.best c.allPaths.templates path with
  | none =>
    rw [methodsMatching_of_none hw]
    exact iff_of_true ⟨rfl, hempty⟩ (by simp)
  | some w =>
    obtain ⟨hlist, hne⟩ := hs.methodsMatching_of_best hc hw
    obtain ⟨e, he, rfl⟩ := List.mem_map.mp ((hs.mem_allPaths_iff hc w).mp (m.best_mem hw).1)
    -- the winner itself is a template a route is found for, so the list may not be empty
    have hfind : ¬ ∀ n, findsRoute c n path = false := fun hall => by
      have := (hs.findsRoute_iff hfinds hc (hs.method_mem he) path).mpr
        ⟨e, he, (m.best_mem hw).2, rfl⟩
      simp [hall] at this
    rw [hlist, hs.toVec_eq_iff hfinds hc hw]
    simp [hne, hfind]

/-- With `GET /users/me` and `POST /users/:id`, a `POST` to `/users/me` finds its route, but the
list for that path does not have it. -/
theorem static_template_hides_post :
    let calls := [getRoute "/users/me" "me", { getRoute "/users/:id" "edit" with method := "POST" }]
    let st : AppState segmentMatcher String := addRoutes plainHost (AppState.new true) calls
    ((st.snapshotRouters ⟨id, fun _ => .rfl⟩).map fun c =>
        (methodsMatchingPathCompiled c "/users/me", findsRoute c "POST" "/users/me")) =
      some (["GET", "HEAD"], true) := by
  decide

/-- The static and the parameter template both match `/users/me`, each under `GET` and `POST`:
the list is complete, though it is read off the static one alone. -/
theorem overlapping_routes_allow_list :
    let post (path handler : String) := { getRoute path handler with method := "POST" }
    let calls := [getRoute "/users/:id" "show", post "/users/:id" "edit",
      getRoute "/users/me" "me", post "/users/me" "editMe"]
    let st : AppState segmentMatcher String := addRoutes plainHost (AppState.new true) calls
    ∃ c, st.snapshotRouters ⟨id, fun _ => .rfl⟩ = some c ∧
      methodsMatchingPathCompiled c "/users/me" =
        supportedMethods.filter (fun n => findsRoute c n "/users/me") ∧
      (methodsMatchingPathCompiled c "/users/me" = [] ↔
        ∀ n, findsRoute c n "/users/me" = false) := by
  intro post calls st
  have hbest : (st.snapshotRouters ⟨id, fun _ => .rfl⟩).map (fun c =>
      segmentMatcher.best c.allPaths.templates "/users/me") = some (some "/users/me") := by decide
  obtain ⟨c, hc, hbest⟩ := Option.map_eq_some_iff.mp hbest
  refine ⟨c, hc, (allow_list_iff segmentMatcher_findsMatching plainHost ⟨id, fun _ => .rfl⟩ true
    calls c hc "/users/me").mpr fun w hw => ?_⟩
  obtain rfl : "/users/me" = w := Option.some.inj (hbest.symm.trans hw)
  unfold WinnerServesAll
  decide

end OxyRoute
