import OxyRoute.ApiRouter.Defs

/-!
# Nested routers

Joining a prefix and a path puts what is left of the prefix before what is made of the path, so
joining is associative. A router that is included in another one and with it in the application is
registered as if it had been included in the application at once, with the prefixes joined and the
outer defaults under the inner ones.

## Main definitions

- `prefixPart`, `pathPart` — what joining makes of a prefix and of a path
- `Script.registered` — the registrations of a tree of routers, without the routers in between

## Main results

- `joinPathChars_eq` — a joined path is the two parts, one after the other
- `nested_include_router` — nested routers are registered as if they were not nested
-/

namespace OxyRoute

variable {η ν : Type*}

/-- What joining makes of a path. -/
def pathPart (path : List Char) : List Char :=
  if pyStrip path = [] then ['/'] else ensureLeadingSlash (pyStrip path)

/-- What joining makes of a prefix. -/
def prefixPart (pre : List Char) : List Char :=
  if pyStrip pre = [] then [] else rstripSlash (ensureLeadingSlash (pyStrip pre))

/-- A path that starts with a slash and does not end with white space. -/
structure IsPath (s : List Char) : Prop where
  head : s.head? = some '/'
  stripped : pyStrip s = s

theorem joinPathChars_eq (pre path : List Char) :
    joinPathChars pre path = prefixPart pre ++ pathPart path := by
  have hroot (p q : List Char) : (if q = ['/'] then p ++ ['/'] else p ++ q) = p ++ q := by
    split
    · next h => rw [h]
    · rfl
  simp only [joinPathChars, hroot]
  rw [prefixPart, pathPart]
  by_cases hpre : pyStrip pre = []
  · rw [if_pos hpre, if_pos hpre, List.nil_append]
  · rw [if_neg hpre, if_neg hpre]

theorem ensureLeadingSlash_head (s : List Char) : (ensureLeadingSlash s).head? = some '/' := by
  rw [ensureLeadingSlash]
  split
  · assumption
  · rfl

theorem ensureLeadingSlash_of_head {s : List Char} (h : s.head? = some '/') :
    ensureLeadingSlash s = s :=
  if_pos h

/-- Text that starts with a slash is stripped at its end only. -/
theorem pyStrip_of_head {s : List Char} (h : s.head? = some '/') :
    pyStrip s = s.rdropWhile pyIsSpace := by
  cases s with
  | nil => rfl
  | cons c s =>
    obtain rfl := Option.some.inj h
    rw [pyStrip, List.dropWhile_cons_of_neg (by decide)]

theorem pathPart_head (path : List Char) : (pathPart path).head? = some '/' := by
  rw [pathPart]
  split
  · rfl
  · exact ensureLeadingSlash_head _

theorem rdropWhile_append_of_ne {p : Char → Bool} {s t : List Char} (ht : t.rdropWhile p = t)
    (hne : t ≠ []) : (s ++ t).rdropWhile p = s ++ t := by
  rw [List.rdropWhile_eq_self_iff] at ht ⊢
  intro hst
  rw [List.getLast_append_of_ne_nil _ hne]
  exact ht hne

theorem pathPart_rdropWhile (path : List Char) :
    (pathPart path).rdropWhile pyIsSpace = pathPart path := by
  have hstrip : (pyStrip path).rdropWhile pyIsSpace = pyStrip path :=
    List.rdropWhile_idempotent _ _
  rw [pathPart]
  split
  · rfl
  · next hne =>
    rw [ensureLeadingSlash]
    split
    · exact hstrip
    · exact rdropWhile_append_of_ne (s := ['/']) hstrip hne

theorem pathPart_ne_nil (path : List Char) : pathPart path ≠ [] := by
  intro h
  have hhead := pathPart_head path
  rw [h] at hhead
  cases hhead

theorem prefixPart_head (pre : List Char) :
    prefixPart pre = [] ∨ (prefixPart pre).head? = some '/' := by
  rw [prefixPart]
  split
  · exact .inl rfl
  · have hhead := ensureLeadingSlash_head (pyStrip pre)
    obtain ⟨t, ht⟩ := List.rdropWhile_prefix (fun c => decide (c = '/'))
      (ensureLeadingSlash (pyStrip pre))
    rw [rstripSlash]
    rw [← ht] at hhead
    cases hrest : (ensureLeadingSlash (pyStrip pre)).rdropWhile fun c => decide (c = '/') with
    | nil => exact .inl rfl
    | cons c rest =>
      rw [hrest] at hhead
      exact .inr hhead

theorem rdropWhile_append_of_eq {p : Char → Bool} {s : List Char} (hs : s.rdropWhile p = s)
    (t : List Char) : (s ++ t).rdropWhile p = s ++ t.rdropWhile p := by
  induction t using List.reverseRecOn with
  | nil =>
    rw [List.append_nil, hs]
    exact (List.append_nil s).symm
  | append_singleton t c ih =>
    rw [← List.append_assoc]
    by_cases hc : p c = true
    · rw [List.rdropWhile_concat_pos p _ c hc, List.rdropWhile_concat_pos p t c hc, ih]
    · rw [List.rdropWhile_concat_neg p _ c hc, List.rdropWhile_concat_neg p t c hc,
        List.append_assoc]

theorem rstripSlash_prefixPart (pre : List Char) : rstripSlash (prefixPart pre) = prefixPart pre := by
  rw [prefixPart]
  split
  · rfl
  · exact List.rdropWhile_idempotent _ _

theorem rstripSlash_pathPart (path : List Char) : rstripSlash (pathPart path) = prefixPart path := by
  rw [pathPart, prefixPart]
  split
  · rfl
  · rfl

/-- A joined path starts with a slash, and there is no white space to strip. -/
theorem isPath_joinPathChars (pre path : List Char) : IsPath (joinPathChars pre path) := by
  have hhead : (joinPathChars pre path).head? = some '/' := by
    rw [joinPathChars_eq, List.head?_append]
    rcases prefixPart_head pre with h | h
    · rw [h]
      exact pathPart_head path
    · rw [h]
      rfl
  refine ⟨hhead, ?_⟩
  rw [pyStrip_of_head hhead, joinPathChars_eq]
  exact rdropWhile_append_of_ne (pathPart_rdropWhile path) (pathPart_ne_nil path)

theorem IsPath.ne_nil {s : List Char} (h : IsPath s) : s ≠ [] := by
  rintro rfl
  cases h.head

theorem IsPath.pathPart_eq {s : List Char} (h : IsPath s) : pathPart s = s := by
  rw [pathPart, h.stripped, if_neg h.ne_nil, ensureLeadingSlash_of_head h.head]

theorem IsPath.prefixPart_eq {s : List Char} (h : IsPath s) : prefixPart s = rstripSlash s := by
  rw [← rstripSlash_pathPart, h.pathPart_eq]

/-- What joining makes of a joined prefix. -/
theorem prefixPart_joinPathChars (pre path : List Char) :
    prefixPart (joinPathChars pre path) = prefixPart pre ++ prefixPart path := by
  rw [(isPath_joinPathChars pre path).prefixPart_eq, joinPathChars_eq, rstripSlash,
    rdropWhile_append_of_eq (rstripSlash_prefixPart pre)]
  exact congrArg _ (rstripSlash_pathPart path)

theorem joinPathChars_assoc (p₁ p₂ r : List Char) :
    joinPathChars p₁ (joinPathChars p₂ r) = joinPathChars (joinPathChars p₁ p₂) r := by
  rw [joinPathChars_eq p₁, (isPath_joinPathChars p₂ r).pathPart_eq, joinPathChars_eq p₂,
    joinPathChars_eq (joinPathChars p₁ p₂), prefixPart_joinPathChars, List.append_assoc]

theorem joinPath_assoc (p₁ p₂ r : String) :
    joinPath p₁ (joinPath p₂ r) = joinPath (joinPath p₁ p₂) r := by
  simp only [joinPath, String.toList_ofList, joinPathChars_assoc]

theorem joinPath_head (pre path : String) : (joinPath pre path).toList.head? = some '/' := by
  rw [joinPath, String.toList_ofList]
  exact (isPath_joinPathChars _ _).head

/-- Bound keywords are decided by what the given ones hold. -/
theorem bindKeywords_congr (sig : Options ν) {kw kw' : Options ν}
    (h : ∀ k, kw.get? k = kw'.get? k) : bindKeywords sig kw = bindKeywords sig kw' := by
  rw [bindKeywords, bindKeywords]
  congr 1
  funext k dflt
  rw [h]

/-- The decorator call for a route that is included with a prefix and defaults. -/
def App.registered (pre : String) (defaults : Options ν) (route : RouteRecord η ν) :
    RouteCall η ν :=
  App.decorate route.verb (joinPath pre route.path) route.handler
    ((defaults.update route.opts).filter fun k _ => k ∈ (route.verb.signature ν).keys)

theorem App.includeRouter_eq (router : APIRouter η ν) (pre : String) (defaults : Options ν) :
    App.includeRouter router pre defaults = router.routes.map (App.registered pre defaults) := rfl

/-- A route that is included twice is registered as if it had been included once. -/
theorem App.registered_nested (p₁ p₂ : String) (d₁ d₂ : Options ν) (route : RouteRecord η ν) :
    App.registered p₁ d₁
        { route with path := joinPath p₂ route.path, opts := d₂.update route.opts } =
      App.registered (joinPath p₁ p₂) (d₁.update d₂) route := by
  rw [App.registered, App.registered, App.decorate, App.decorate, joinPath_assoc]
  congr 1
  apply bindKeywords_congr
  intro k
  simp only [Dict.get?_filter, Dict.get?_update, Option.or_assoc]

theorem App.includeRouter_nested (parent child : APIRouter η ν) (p₁ p₂ : String)
    (d₁ d₂ : Options ν) :
    App.includeRouter (parent.includeRouter child p₂ d₂) p₁ d₁ =
      App.includeRouter parent p₁ d₁ ++
        App.includeRouter child (joinPath p₁ p₂) (d₁.update d₂) := by
  rw [App.includeRouter_eq, App.includeRouter_eq, App.includeRouter_eq, APIRouter.includeRouter,
    List.map_append, List.map_map]
  have hchild : child.routes.map (App.registered p₁ d₁ ∘ fun route =>
      { route with path := joinPath p₂ route.path, opts := d₂.update route.opts }) =
        child.routes.map (App.registered (joinPath p₁ p₂) (d₁.update d₂)) := by
    apply List.map_congr_left
    intro route _
    rw [Function.comp_apply, App.registered_nested]
  rw [hchild]

/-- The registrations of a tree of routers that is included with a prefix and defaults, as if every
route was included in the application directly. -/
def Script.registered : Script η ν → String → Options ν → List (RouteCall η ν)
  | .new, _, _ => []
  | .route s verb path handler written, pre, defaults =>
    s.registered pre defaults ++
      App.includeRouter (APIRouter.new.decorate verb path handler written) pre defaults
  | .mount s path app, pre, defaults =>
    s.registered pre defaults ++ App.includeRouter (APIRouter.new.mount path app) pre defaults
  | .includeRouter s child pre' defaults', pre, defaults =>
    s.registered pre defaults ++ child.registered (joinPath pre pre') (defaults.update defaults')

theorem APIRouter.mount_routes (r : APIRouter η ν) (path : String) (app : η) :
    (r.mount path app).routes = r.routes ++ (APIRouter.new.mount path app).routes := by
  simp [mount, get, decorate, reg, new]

/-- A tree of routers is registered as if its routes were included directly. -/
theorem Script.includeRouter_eq_registered (s : Script η ν) (pre : String)
    (defaults : Options ν) : App.includeRouter s.router pre defaults = s.registered pre defaults := by
  induction s generalizing pre defaults with
  | new => rfl
  | route s verb path handler written ih =>
    rw [Script.registered, ← ih]
    exact List.map_append
  | mount s path app ih =>
    rw [Script.registered, ← ih, App.includeRouter_eq, App.includeRouter_eq,
      App.includeRouter_eq, ← List.map_append, ← APIRouter.mount_routes]
    rfl
  | includeRouter s child pre' defaults' ihs ihc =>
    rw [Script.registered, ← ihs, ← ihc]
    exact App.includeRouter_nested s.router child.router pre pre' defaults defaults'

/-- **Nested routers.** Joining paths is associative and every joined path starts with a slash.
For all routers, including a child in its parent with one prefix and defaults and the parent in
the application with others registers the routes of the parent and then those of the child, with
the prefixes joined and the outer defaults under the inner ones; so every tree of routers is
registered as if each of its routes was included in the application directly. -/
theorem nested_include_router :
    (∀ p₁ p₂ r, joinPath p₁ (joinPath p₂ r) = joinPath (joinPath p₁ p₂) r) ∧
      (∀ pre path, (joinPath pre path).toList.head? = some '/') ∧
      (∀ (parent child : APIRouter η ν) (p₁ p₂ : String) (d₁ d₂ : Options ν),
        App.includeRouter (parent.includeRouter child p₂ d₂) p₁ d₁ =
          App.includeRouter parent p₁ d₁ ++
            App.includeRouter child (joinPath p₁ p₂) (d₁.update d₂)) ∧
      ∀ (s : Script η ν) (pre : String) (defaults : Options ν),
        App.includeRouter s.router pre defaults = s.registered pre defaults :=
  ⟨joinPath_assoc, joinPath_head, App.includeRouter_nested, Script.includeRouter_eq_registered⟩

end OxyRoute
