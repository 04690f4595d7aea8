import OxyRoute.Native.Registration

/-!
# Accepted routes

What a sequence of `add_route` calls leaves in the routers and in the method masks, in terms of
the calls that were accepted. The tables are a function of the accepted methods and templates:
the routers hold the templates of their methods, and the mask of a template is the union of the
masks of the methods it was accepted under.

## Main definitions

- `maskOf` — the mask of a template, from the accepted routes
- `RegisteredAs` — the tables hold the accepted routes

## Main results

- `RegisteredAs.addRoutes` — the tables after a sequence of calls
- `mem_toVec_maskOf_iff` — the methods in the mask of a template
-/

namespace OxyRoute

variable {m : Matchit} {Ref : Type}

/-- The methods of the accepted routes of a template, merged. -/
def maskOf (accepted : List (String × String)) (t : String) : MethodMask :=
  (accepted.filter fun e => e.2 = t).foldl (fun mask e => mask.insertMethod e.1) .empty

theorem maskOf_append (accepted : List (String × String)) (method path t : String) :
    maskOf (accepted ++ [(method, path)]) t =
      if path = t then (maskOf accepted t).insertMethod method else maskOf accepted t := by
  by_cases h : path = t <;> simp [maskOf, List.filter_append, h]

theorem maskOf_eq_empty {accepted : List (String × String)} {t : String}
    (h : t ∉ accepted.map (·.2)) : maskOf accepted t = .empty := by
  have hnil : accepted.filter (fun e => e.2 = t) = [] := by
    refine List.filter_eq_nil_iff.mpr fun e he het => h ?_
    exact of_decide_eq_true het ▸ List.mem_map_of_mem he
  rw [maskOf, hnil]
  rfl

/-- A flag is set in a union of masks when it is set in one of them. -/
theorem MethodMask.or_and_ne_zero_iff (a b flag : UInt8) :
    (a ||| b) &&& flag ≠ 0 ↔ a &&& flag ≠ 0 ∨ b &&& flag ≠ 0 := by
  have h : (a ||| b) &&& flag = (a &&& flag) ||| (b &&& flag) := by
    simp [← UInt8.toBitVec_inj, BitVec.and_or_distrib_right]
  rw [h, Ne, UInt8.or_eq_zero_iff]
  exact Decidable.not_and_iff_not_or_not

theorem maskOf_flag_iff (accepted : List (String × String)) (t : String) (flag : UInt8) :
    (maskOf accepted t).bits &&& flag ≠ 0 ↔
      ∃ e ∈ accepted, e.2 = t ∧ (MethodMask.fromMethod e.1).bits &&& flag ≠ 0 := by
  induction accepted using List.reverseRecOn with
  | nil => simp [maskOf, MethodMask.empty]
  | append_singleton accepted e ih =>
    obtain ⟨method, path⟩ := e
    rw [maskOf_append]
    by_cases h : path = t
    · simp only [h, if_true, MethodMask.insertMethod]
      rw [MethodMask.or_and_ne_zero_iff, ih]
      simp [or_and_right, exists_or]
    · rw [if_neg h, ih]
      simp [or_and_right, exists_or, h]

/-- The seven methods, in the order of the `Allow` header. -/
def supportedMethods : List String :=
  ["GET", "HEAD", "POST", "PUT", "PATCH", "DELETE", "OPTIONS"]

/-- The methods a registration stands for: `GET` stands for `HEAD` too. -/
def standsFor (method n : String) : Prop := method = n ∨ (method = "GET" ∧ n = "HEAD")

instance (method n : String) : Decidable (standsFor method n) :=
  inferInstanceAs (Decidable (_ ∨ _))

theorem mem_toVec_fromMethod_iff {n : String} (hn : n ∈ supportedMethods) (method : String) :
    n ∈ (MethodMask.fromMethod method).toVec ↔ standsFor method n := by
  by_cases hm : method ∈ supportedMethods
  · revert n method
    decide
  · have h0 : MethodMask.fromMethod method = ⟨0⟩ := by
      simp only [supportedMethods, List.mem_cons, List.not_mem_nil, or_false, not_or] at hm
      unfold MethodMask.fromMethod
      split <;> simp_all
    have hne : ¬ standsFor method n := by
      rintro (rfl | ⟨rfl, -⟩)
      · exact hm hn
      · exact hm (by decide)
    rw [h0]
    exact iff_of_false (by simp [MethodMask.toVec]) hne

/-- `to_vec` lists the names of the flags that are set. -/
theorem MethodMask.mem_toVec_iff (mask : MethodMask) (n : String) :
    n ∈ mask.toVec ↔ ∃ flag, (n, flag) ∈ MethodMask.order ∧ mask.bits &&& flag ≠ 0 := by
  simp [MethodMask.toVec]

/-- The methods listed for the mask of a template are those it was accepted under. -/
theorem mem_toVec_maskOf_iff (accepted : List (String × String)) (t : String) {n : String}
    (hn : n ∈ supportedMethods) :
    n ∈ (maskOf accepted t).toVec ↔ ∃ e ∈ accepted, e.2 = t ∧ standsFor e.1 n := by
  constructor
  · intro h
    obtain ⟨flag, hflag, hbit⟩ := (MethodMask.mem_toVec_iff _ _).mp h
    obtain ⟨e, he, ht, hb⟩ := (maskOf_flag_iff accepted t flag).mp hbit
    refine ⟨e, he, ht, (mem_toVec_fromMethod_iff hn e.1).mp ?_⟩
    exact (MethodMask.mem_toVec_iff _ _).mpr ⟨flag, hflag, hb⟩
  · rintro ⟨e, he, ht, hs⟩
    obtain ⟨flag, hflag, hb⟩ :=
      (MethodMask.mem_toVec_iff _ _).mp ((mem_toVec_fromMethod_iff hn e.1).mpr hs)
    exact (MethodMask.mem_toVec_iff _ _).mpr
      ⟨flag, hflag, (maskOf_flag_iff accepted t flag).mpr ⟨e, he, ht, hb⟩⟩

/-- The routers and masks hold exactly the accepted routes. -/
structure RegisteredAs (accepted : List (String × String)) (st : AppState m Ref) : Prop where
  supported : ∀ e ∈ accepted, (routerKey e.1).isSome
  templates : ∀ key, (st.routers.router key).templates =
    (accepted.filter fun e => routerKey e.1 = some key).map (·.2)
  masks : ∀ t, st.pathMethodMasks.get? t =
    if t ∈ accepted.map (·.2) then some (maskOf accepted t) else none

theorem RegisteredAs.new (includeOpenapi : Bool) :
    RegisteredAs [] (AppState.new includeOpenapi : AppState m Ref) :=
  ⟨by simp, fun key => by simp [AppState.new], fun _ => rfl⟩

theorem RegisteredAs.keep {accepted : List (String × String)} {st st' : AppState m Ref}
    (h : RegisteredAs accepted st) (hk : KeepsTables st st') : RegisteredAs accepted st' :=
  ⟨h.supported, fun key => by rw [hk.routers]; exact h.templates key,
    fun t => by rw [hk.pathMethodMasks]; exact h.masks t⟩

/-- An accepted call appends its method and template. -/
theorem RegisteredAs.finishRoute {accepted : List (String × String)} {st : AppState m Ref}
    (h : RegisteredAs accepted st) {a : AddRouteArgs Ref} {key : RouterKey} {r : Router m ℕ}
    {idx : ℕ} (hkey : routerKey a.method = some key)
    (hr : (st.routers.router key).insert a.path idx = .ok r) :
    RegisteredAs (accepted ++ [(a.method, a.path)]) (st.finishRoute key r a) := by
  refine ⟨?_, fun key' => ?_, fun t => ?_⟩
  · intro e he
    rcases List.mem_append.mp he with he | he
    · exact h.supported e he
    · simp [List.mem_singleton.mp he, hkey]
  · simp only [AppState.finishRoute, AppState.rebuildSnapshot, MethodRouters.router_set]
    by_cases hk : key' = key
    · subst hk
      simp [Router.templates_insert hr, h.templates, List.filter_append, hkey]
    · simp [hk, h.templates, List.filter_append, hkey, Ne.symm hk]
  · simp only [AppState.finishRoute, AppState.rebuildSnapshot, Dict.get?_set, maskOf_append,
      h.masks]
    by_cases ht : t = a.path
    · subst ht
      by_cases hmem : a.path ∈ accepted.map (·.2)
      · simp [hmem]
      · simp [hmem, maskOf_eq_empty hmem]
    · have hmem : t ∈ (accepted ++ [(a.method, a.path)]).map (·.2) ↔ t ∈ accepted.map (·.2) := by
        simp [ht]
      simp only [ht, if_false, Ne.symm ht, hmem]

theorem RegisteredAs.addRoute {accepted : List (String × String)} {st : AppState m Ref}
    (hs : RegisteredAs accepted st) (h : Host Ref) (a : AddRouteArgs Ref) :
    RegisteredAs (accepted ++ acceptedRoutes h st [a]) (addRoute h st a).1 := by
  rcases addRoute_cases h st a with ⟨e, hc⟩ | ⟨_, _, st', e, -, hc, hk, -⟩ |
    ⟨entry, _, oa, key, r, -, hkey, hr, hc⟩
  · simpa [acceptedRoutes, hc] using hs
  · simpa [acceptedRoutes, hc] using hs.keep hk
  · have hs' : RegisteredAs accepted (st.withRoute entry oa) :=
      ⟨hs.supported, hs.templates, hs.masks⟩
    simpa [acceptedRoutes, hc] using hs'.finishRoute hkey hr

theorem acceptedRoutes_cons (h : Host Ref) (st : AppState m Ref) (a : AddRouteArgs Ref)
    (calls : List (AddRouteArgs Ref)) :
    acceptedRoutes h st (a :: calls) =
      acceptedRoutes h st [a] ++ acceptedRoutes h (OxyRoute.addRoute h st a).1 calls := by
  simp only [acceptedRoutes]
  split <;> simp_all

/-- The tables after a sequence of calls hold the routes accepted before and during it. -/
theorem RegisteredAs.addRoutes {accepted : List (String × String)} {st : AppState m Ref}
    (hs : RegisteredAs accepted st) (h : Host Ref) (calls : List (AddRouteArgs Ref)) :
    RegisteredAs (accepted ++ acceptedRoutes h st calls) (addRoutes h st calls) := by
  induction calls generalizing accepted st with
  | nil => simpa [acceptedRoutes, OxyRoute.addRoutes] using hs
  | cons a calls ih =>
    rw [acceptedRoutes_cons, ← List.append_assoc]
    exact ih (hs.addRoute h a)

/-- The tables of an application that was built by a sequence of calls. -/
theorem registeredAs_addRoutes (h : Host Ref) (includeOpenapi : Bool)
    (calls : List (AddRouteArgs Ref)) :
    RegisteredAs (acceptedRoutes h (AppState.new includeOpenapi : AppState m Ref) calls)
      (OxyRoute.addRoutes h (AppState.new includeOpenapi : AppState m Ref) calls) := by
  simpa using (RegisteredAs.new includeOpenapi).addRoutes h calls

/-- Every template with a mask was taken by one of the routers. -/
theorem RegisteredAs.refusal_eq_none {accepted : List (String × String)} {st : AppState m Ref}
    (hs : RegisteredAs accepted st) {t : String} (ht : t ∈ accepted.map (·.2)) :
    m.refusal t = none := by
  obtain ⟨e, he, rfl⟩ := List.mem_map.mp ht
  obtain ⟨key, hkey⟩ := Option.isSome_iff_exists.mp (hs.supported e he)
  refine (st.routers.router key).accepted e.2 ?_
  change e.2 ∈ (st.routers.router key).templates
  rw [hs.templates]
  exact List.mem_map_of_mem (List.mem_filter.mpr ⟨he, by simpa using hkey⟩)

/-- The keys of the mask table are the accepted templates. -/
theorem RegisteredAs.mem_keys_iff {accepted : List (String × String)} {st : AppState m Ref}
    (hs : RegisteredAs accepted st) (t : String) :
    t ∈ st.pathMethodMasks.keys ↔ t ∈ accepted.map (·.2) := by
  rw [Dict.mem_keys_iff, hs.masks]
  by_cases h : t ∈ accepted.map (·.2) <;> simp [h]

end OxyRoute
