import OxyRoute.Routing.Matchit

/-!
# A matcher for templates of whole segments

A computable matcher that behaves as `matchit` 0.7 does on templates whose parameters fill whole
segments. It shows that the assumptions made of the matcher can be met, and it is what concrete
inputs are evaluated with.

## Main definitions

- `Segment` — static, parameter and catch-all segments
- `segmentMatcher` — the matcher

## Main results

- `segmentMatcher_findsMatching` — it finds a template that matches
-/

namespace OxyRoute

/-- One segment of a template. -/
inductive Segment
  | static (text : List Char)
  | param (name : List Char)
  | catchAll (name : List Char)
  deriving DecidableEq

namespace Segment

/-- `:name` and `*name` capture, everything else is literal. -/
def ofChars : List Char → Segment
  | ':' :: name => .param name
  | '*' :: name => .catchAll name
  | text => .static text

/-- The segments of a template. -/
def ofTemplate (t : String) : List Segment := (t.toList.splitOn '/').map ofChars

/-- Static segments are preferred over parameters, parameters over catch-alls. -/
def rank : Segment → Nat
  | .static _ => 0
  | .param _ => 1
  | .catchAll _ => 2

/-- The refusals of `insert` that do not depend on the router. -/
def refusal : List Segment → Option String
  | [] => none
  | .static _ :: s => refusal s
  | .param [] :: _ | .catchAll [] :: _ => some "parameters must be registered with a name"
  | .param _ :: s => refusal s
  | .catchAll _ :: s =>
    if s = [] then none
    else some "catch-all parameters are only allowed at the end of a route"

/-- Two templates that agree up to a position conflict when that position would hold captures of
two kinds or of two names, also when they differ further on, or when they agree to the end. -/
def conflicts : List Segment → List Segment → Bool
  | [], [] => true
  | .static a :: s, .static b :: t => a = b && conflicts s t
  | .param a :: s, .param b :: t => a ≠ b || conflicts s t
  | .param _ :: _, .catchAll _ :: _ => true
  | .catchAll _ :: _, .param _ :: _ => true
  | .catchAll _ :: _, .catchAll _ :: _ => true
  | _, _ => false

/-- The parameters captured from the segments of a path. -/
def captures : List Segment → List (List Char) → Option PathParams
  | [], [] => some []
  | .static a :: s, b :: p => if a = b then captures s p else none
  | .param n :: s, b :: p =>
    if b = [] then none
    else (captures s p).map ((String.ofList n, String.ofList b) :: ·)
  | [.catchAll n], p =>
    let rest := List.intercalate ['/'] p
    if rest = [] then none else some [(String.ofList n, String.ofList rest)]
  | _, _ => none

/-- The name of a segment that captures. -/
def name : Segment → Option String
  | .static _ => none
  | .param n => some (String.ofList n)
  | .catchAll n => some (String.ofList n)

/-- Lexicographic comparison of the ranks. -/
def preferred : List Segment → List Segment → Bool
  | a :: s, b :: t => a.rank < b.rank || (a.rank = b.rank && preferred s t)
  | [], _ => true
  | _ :: _, [] => false

theorem conflicts_symm (s t : List Segment) : conflicts s t = conflicts t s := by
  induction s generalizing t with
  | nil => rcases t with _ | ⟨b, t⟩ <;> [rfl; cases b <;> rfl]
  | cons a s ih =>
    rcases t with _ | ⟨b, t⟩
    · cases a <;> rfl
    · cases a <;> cases b <;> simp [conflicts, ih, eq_comm]

theorem conflicts_self (s : List Segment) : conflicts s s = true := by
  induction s with
  | nil => rfl
  | cons a s ih => cases a <;> simp [conflicts, ih]

/-- Values are captured under the names of the segments, in order. -/
theorem captures_names {s : List Segment} {p : List (List Char)} {params : PathParams}
    (h : captures s p = some params) : params.map Prod.fst = s.filterMap name := by
  induction s, p using captures.induct generalizing params with
  | case1 =>
    cases h
    rfl
  | case2 s b p ih =>
    rw [captures, if_pos rfl] at h
    exact ih h
  | case3 a s b p hne =>
    rw [captures, if_neg hne] at h
    cases h
  | case4 n s p =>
    rw [captures, if_pos rfl] at h
    cases h
  | case5 n s b p hne ih =>
    rw [captures, if_neg hne] at h
    obtain ⟨rest, hrest, rfl⟩ := Option.map_eq_some_iff.mp h
    exact congrArg (String.ofList n :: ·) (ih hrest)
  | case6 n p rest =>
    rw [captures, if_pos (by assumption)] at h
    cases h
  | case7 n p rest =>
    rw [captures, if_neg (by assumption)] at h
    cases h
    rfl
  | case8 s p hnil hstatic hparam hcatchAll =>
    rw [captures] at h
    · cases h
    all_goals assumption

/-- The preferred one of the templates with a given property. -/
def bestOf (p : String → Bool) : List String → Option String
  | [] => none
  | t :: ts =>
    if p t then
      match bestOf p ts with
      | some u => if preferred (ofTemplate t) (ofTemplate u) then some t else some u
      | none => some t
    else bestOf p ts

theorem bestOf_mem {p : String → Bool} {ts : List String} {t : String}
    (h : bestOf p ts = some t) : t ∈ ts ∧ p t = true := by
  induction ts generalizing t with
  | nil => cases h
  | cons u ts ih =>
    simp only [bestOf] at h
    split at h
    · next hu =>
      split at h
      · next v hv =>
        split at h
        · cases h
          exact ⟨List.mem_cons_self, hu⟩
        · cases h
          exact ⟨List.mem_cons_of_mem _ (ih hv).1, (ih hv).2⟩
      · cases h
        exact ⟨List.mem_cons_self, hu⟩
    · exact ⟨List.mem_cons_of_mem _ (ih h).1, (ih h).2⟩

theorem bestOf_isSome {p : String → Bool} {ts : List String} {t : String} (ht : t ∈ ts)
    (hp : p t = true) : (bestOf p ts).isSome := by
  induction ts with
  | nil => cases ht
  | cons u ts ih =>
    simp only [bestOf]
    rcases List.mem_cons.mp ht with rfl | ht
    · rw [if_pos hp]
      split
      · split <;> rfl
      · rfl
    · have := ih ht
      split
      · split
        · split <;> rfl
        · rfl
      · exact this

end Segment

/-- The matcher for templates of whole segments. -/
def segmentMatcher : Matchit where
  refusal t := Segment.refusal (Segment.ofTemplate t)
  conflicts s t := Segment.conflicts (Segment.ofTemplate s) (Segment.ofTemplate t)
  conflictError t :=
    "insertion failed due to conflict with previously registered route: " ++ t
  captures t path := Segment.captures (Segment.ofTemplate t) (path.toList.splitOn '/')
  best ts path := Segment.bestOf
    (fun t => (Segment.captures (Segment.ofTemplate t) (path.toList.splitOn '/')).isSome) ts
  conflicts_symm _ _ := Segment.conflicts_symm _ _
  conflicts_self _ := Segment.conflicts_self _
  best_mem h := Segment.bestOf_mem h

theorem segmentMatcher_findsMatching : segmentMatcher.FindsMatching :=
  fun _ _ _ ht hc => Segment.bestOf_isSome ht hc

/-- Two captures at one position under different names conflict, whatever follows them. -/
example : segmentMatcher.conflicts "/a/:x/b" "/a/:y/c" = true ∧
    segmentMatcher.conflicts "/a/:x/b" "/a/:x/c" = false := by decide

/-- A static template is preferred, and captures nothing. -/
example : segmentMatcher.best ["/users/:id", "/users/me", "/*rest"] "/users/me" =
    some "/users/me" := by decide

end OxyRoute
