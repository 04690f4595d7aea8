import Mathlib.Order.Basic

/-!
# Transition systems

Labelled transition systems, the states reached by runs whose steps all satisfy a guard, and the
induction rules for them. The unguarded runs are those under the guard that is always true.

## Main definitions

- `TransitionSystem` — initial states and labelled steps
- `TransitionSystem.ReachedUnder` — states reached by steps that satisfy a guard

## Main results

- `ReachedUnder.invariant` — what holds initially and is preserved by guarded steps
- `ReachedUnder.strengthen` — the same, relative to an invariant of all runs
-/

/-- Initial states and labelled steps. -/
structure TransitionSystem (σ ι : Type*) where
  init : σ → Prop
  step : σ → ι → σ → Prop

namespace TransitionSystem

variable {σ ι : Type*} {T : TransitionSystem σ ι}

/-- The states reached by runs whose steps satisfy the guard in the state they leave. -/
inductive ReachedUnder (T : TransitionSystem σ ι) (guard : σ → ι → Prop) : σ → Prop
  | init {s : σ} : T.init s → ReachedUnder T guard s
  | step {s s' : σ} {i : ι} :
      ReachedUnder T guard s → guard s i → T.step s i s' → ReachedUnder T guard s'

/-- The states of all runs. -/
def Reached (T : TransitionSystem σ ι) : σ → Prop := ReachedUnder T fun _ _ => True

/-- A weaker guard reaches more states. -/
theorem ReachedUnder.mono {guard guard' : σ → ι → Prop} (h : ∀ s i, guard s i → guard' s i)
    {s : σ} (hs : T.ReachedUnder guard s) : T.ReachedUnder guard' s := by
  induction hs with
  | init h0 => exact .init h0
  | step _ hg hst ih => exact .step ih (h _ _ hg) hst

theorem ReachedUnder.reached {guard : σ → ι → Prop} {s : σ} (hs : T.ReachedUnder guard s) :
    T.Reached s :=
  hs.mono fun _ _ _ => trivial

/-- A predicate that holds initially and is preserved by the guarded steps holds in every state
they reach. -/
theorem ReachedUnder.invariant {guard : σ → ι → Prop} {P : σ → Prop}
    (h0 : ∀ s, T.init s → P s)
    (hstep : ∀ s i s', P s → guard s i → T.step s i s' → P s')
    {s : σ} (hs : T.ReachedUnder guard s) : P s := by
  induction hs with
  | init h => exact h0 _ h
  | step _ hg hst ih => exact hstep _ _ _ ih hg hst

/-- The same for all runs. -/
theorem Reached.invariant {P : σ → Prop} (h0 : ∀ s, T.init s → P s)
    (hstep : ∀ s i s', P s → T.step s i s' → P s') {s : σ} (hs : T.Reached s) : P s :=
  ReachedUnder.invariant h0 (fun s i s' hp _ hst => hstep s i s' hp hst) hs

/-- A sequence of steps given by a function, from a state of a run. -/
theorem Reached.foldlM {next : σ → ι → Option σ}
    (hnext : ∀ s i s', next s i = some s' → T.step s i s') {s s' : σ} {is : List ι}
    (hs : T.Reached s) (h : is.foldlM next s = some s') : T.Reached s' := by
  induction is generalizing s with
  | nil =>
    cases h
    exact hs
  | cons i is ih =>
    rw [List.foldlM_cons] at h
    obtain ⟨t, ht, h⟩ := Option.bind_eq_some_iff.mp h
    exact ih (.step hs trivial (hnext s i t ht)) h

/-- A predicate of guarded runs may use an invariant of all runs. -/
theorem ReachedUnder.strengthen {guard : σ → ι → Prop} {I P : σ → Prop}
    (hI : ∀ s, T.Reached s → I s) (h0 : ∀ s, T.init s → P s)
    (hstep : ∀ s i s', I s → P s → guard s i → T.step s i s' → P s')
    {s : σ} (hs : T.ReachedUnder guard s) : P s := by
  induction hs with
  | init h => exact h0 _ h
  | step hr hg hst ih => exact hstep _ _ _ (hI _ hr.reached) ih hg hst

end TransitionSystem
