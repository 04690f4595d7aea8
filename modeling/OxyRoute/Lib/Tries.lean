import OxyRoute.Lib.Routine

/-!
# Trying candidates in turn

Candidates are tried one after the other, up to the first that has a result. Every try is logged
and may change the state.

## Main definitions

- `Declined` — candidates that are tried in turn without a result
- `Tried` — the candidates that are tried, and the result
- `Routine.tryEach` — the loop

## Main results

- `Tried.isPrefix` — candidates are tried in order, from the first on
- `Routine.tryEach_run` — the loop tries them
-/

variable {σ ι ε α β : Type}

/-- Candidates that are tried in turn without a result lead from one state to another. -/
inductive Declined (trial : α → σ → Option β × σ) : List α → σ → σ → Prop
  | nil (s : σ) : Declined trial [] s s
  | cons {a : α} {as : List α} {s s' s'' : σ} : trial a s = (none, s') →
      Declined trial as s' s'' → Declined trial (a :: as) s s''

/-- From a state, some of the candidates are tried, all of them declining or the last one having a
result. -/
inductive Tried (trial : α → σ → Option β × σ) (as : List α) (s : σ) :
    List α → Option β → σ → Prop
  | declined {s' : σ} : Declined trial as s s' → Tried trial as s as none s'
  | taken {pre post : List α} {a : α} {b : β} {s' s'' : σ} : as = pre ++ a :: post →
      Declined trial pre s s' → trial a s' = (some b, s'') →
      Tried trial as s (pre ++ [a]) (some b) s''

variable {trial : α → σ → Option β × σ} {as called : List α} {s s' : σ} {r : Option β}

/-- Candidates are tried in order, from the first on. -/
theorem Tried.isPrefix (h : Tried trial as s called r s') : called <+: as := by
  cases h with
  | declined => exact List.prefix_rfl
  | @taken pre post a _ _ _ has =>
    rw [has]
    exact ⟨post, by rw [List.append_assoc, List.singleton_append]⟩

/-- The first candidate is tried in any case. -/
theorem Tried.exists_cons {a : α} (h : Tried trial (a :: as) s called r s') :
    ∃ rest, called = a :: rest := by
  cases h with
  | declined => exact ⟨as, rfl⟩
  | @taken pre post b _ _ _ has =>
    cases pre with
    | nil => exact ⟨[], by rw [List.nil_append, (List.cons.inj has).1]⟩
    | cons a' pre => exact ⟨pre ++ [b], by rw [List.cons_append, (List.cons.inj has).1]⟩

/-- A first candidate that declines is followed by the others. -/
theorem Tried.cons {a : α} {s₀ : σ} (ha : trial a s₀ = (none, s))
    (h : Tried trial as s called r s') : Tried trial (a :: as) s₀ (a :: called) r s' := by
  cases h with
  | declined hdeclined => exact .declined (.cons ha hdeclined)
  | taken has hdeclined htaken =>
    rw [has, ← List.cons_append, ← List.cons_append]
    exact .taken rfl (.cons ha hdeclined) htaken

namespace Routine

/-- Try candidates in turn, and end with the first result. -/
def tryEach (event : α → ι) (trial : α → σ → Option β × σ) : List α → Routine σ ι ε (Option β)
  | [] => pure none
  | a :: as => do
    Routine.log (event a)
    let r ← Routine.effect fun s => (.ok (trial a s).1, (trial a s).2)
    if r.isSome then return r else tryEach event trial as

variable {event : α → ι}

/-- What comes after the loop, from its first candidate on. -/
theorem tryEach_cons_bind_run {γ : Type} {a : α} (h : trial a s = (r, s')) (as : List α)
    (k : Option β → Routine σ ι ε γ) :
    (tryEach event trial (a :: as) >>= k).run s =
      ((if r.isSome then k r else tryEach event trial as >>= k).run s').after [event a] := by
  have heffect : (effect fun s => (.ok (trial a s).1, (trial a s).2) :
      Routine σ ι ε (Option β)).run s = ⟨.ok r, s', []⟩ := by
    rw [effect_run, h]
  rw [tryEach, bind_assoc, log_bind_run, bind_assoc, bind_run_ok heffect, Ending.after_nil]
  cases r with
  | some b => rfl
  | none => rfl

theorem tryEach_cons_run {a : α} (h : trial a s = (r, s')) (as : List α) :
    (tryEach event trial (a :: as) : Routine σ ι ε (Option β)).run s =
      ((if r.isSome then pure r else tryEach event trial as :
        Routine σ ι ε (Option β)).run s').after [event a] := by
  have hbind : (tryEach event trial (a :: as) >>= pure : Routine σ ι ε (Option β)).run s = _ :=
    tryEach_cons_bind_run h as pure
  rwa [bind_pure, bind_pure] at hbind

variable (event trial) in
/-- The loop tries the candidates; by induction on them. -/
theorem tryEach_run (as : List α) (s : σ) :
    ∃ called r s', Tried trial as s called r s' ∧
      (tryEach event trial as : Routine σ ι ε (Option β)).run s =
        ⟨.ok r, s', called.map event⟩ := by
  induction as generalizing s with
  | nil => exact ⟨[], none, s, .declined (.nil s), rfl⟩
  | cons a as ih =>
    rcases ha : trial a s with ⟨r, s'⟩
    cases r with
    | some b => exact ⟨[a], some b, s', .taken (List.nil_append _).symm (.nil s) ha,
        tryEach_cons_run ha as⟩
    | none =>
      obtain ⟨called, r, s'', htried, hrun⟩ := ih s'
      exact ⟨a :: called, r, s'', htried.cons ha,
        (tryEach_cons_run ha as).trans (congrArg (Ending.after [event a]) hrun)⟩

end Routine
