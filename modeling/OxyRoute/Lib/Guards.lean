import Mathlib.Order.Defs.PartialOrder
import OxyRoute.Lib.Routine

/-!
# Chains of guards

A computation checks guards in an order before it does what they protect. A guard that fails
ends it with an answer of its own. The rules below show of such a computation that protected
events come only after the guards they need, and that a run which never gets through ends in the
answer of the first guard that failed.

## Main definitions

- `GuardChain` — guards, what it means to pass them, and how they reject
- `GuardChain.Refused` — a run ended in the rejection of the first guard that failed
- `GuardChain.Guarded` — the pre- and postconditions of a part of the computation

## Main results

- `GuardChain.Guarded.bind`, `GuardChain.guarded_reject` — the rules
-/

variable {σ ι ε G α β : Type}

/-- Guards. What is passed shows in the events so far, and stays so. -/
structure GuardChain (σ ι ε G : Type) where
  passed : G → List ι → Prop
  passed_append {g : G} {hist : List ι} (l : List ι) : passed g hist → passed g (hist ++ l)
  /-- How the guard may reject, after the events so far. -/
  rejection : G → List ι → Routine σ ι ε Unit → Prop
  /-- An event is allowed after the events so far. -/
  allowed : List ι → ι → Prop
  /-- The event shows that all guards let the run through. -/
  through : ι → Prop

namespace GuardChain

variable [LT G] (C : GuardChain σ ι ε G)

/-- After the events, all guards before the given one are passed. -/
def UpTo (g : G) (hist : List ι) : Prop := ∀ g' < g, C.passed g' hist

/-- After the history, a run logged `l` and exited, and the end of it is the rejection of a
guard: all guards before it were passed. -/
def Refused (hist l : List ι) (s' : σ) (e : ε) : Prop :=
  ∃ g pre rest c s, l = pre ++ rest ∧ C.UpTo g (hist ++ pre) ∧ C.rejection g (hist ++ pre) c ∧
    c.run s = ⟨.error e, s', rest⟩

/-- A part of the computation, after the history: what it logs is allowed, it ends with a value
that satisfies `P`, or exits, and then the run was refused if it did not get through. -/
def Guarded (hist : List ι) (c : Routine σ ι ε α) (s : σ) (P : α → List ι → Prop) : Prop :=
  c.Ensures s (fun a _ l => Justified C.allowed hist l ∧ P a (hist ++ l))
    fun e s' l => Justified C.allowed hist l ∧
      ((∀ i ∈ hist ++ l, ¬ C.through i) → C.Refused hist l s' e)

variable {C} {g : G} {hist l : List ι} {s : σ} {c : Routine σ ι ε α} {P : α → List ι → Prop}

theorem UpTo.append (h : C.UpTo g hist) (l : List ι) : C.UpTo g (hist ++ l) :=
  fun g' hg => C.passed_append l (h g' hg)

/-- A longer run that ends in a rejection. -/
theorem Refused.prepend {l' : List ι} {s' : σ} {e : ε} (h : C.Refused (hist ++ l) l' s' e) :
    C.Refused hist (l ++ l') s' e := by
  obtain ⟨g, pre, rest, c, s, rfl, hup, hrej, hrun⟩ := h
  rw [List.append_assoc] at hup hrej
  exact ⟨g, l ++ pre, rest, c, s, (List.append_assoc _ _ _).symm, hup, hrej, hrun⟩

theorem guarded_pure {a : α} (h : P a hist) : C.Guarded hist (pure a) s P :=
  ⟨trivial, (List.append_nil hist).symm ▸ h⟩

theorem Guarded.mono {P' : α → List ι → Prop} (h : C.Guarded hist c s P)
    (hP : ∀ a l, P a (hist ++ l) → P' a (hist ++ l)) : C.Guarded hist c s P' :=
  Routine.Ensures.mono h (fun a _ l ⟨hl, ha⟩ => ⟨hl, hP a l ha⟩) fun _ _ _ he => he

/-- What is guarded after a longer history, seen from the shorter one. -/
theorem Guarded.prepend {Q : α → List ι → Prop} (hl : Justified C.allowed hist l)
    (h : C.Guarded (hist ++ l) c s Q) :
    c.Ensures s (fun a _ l' => Justified C.allowed hist (l ++ l') ∧ Q a (hist ++ (l ++ l')))
      fun e s' l' => Justified C.allowed hist (l ++ l') ∧
        ((∀ i ∈ hist ++ (l ++ l'), ¬ C.through i) → C.Refused hist (l ++ l') s' e) := by
  refine Routine.Ensures.mono h (fun a t l' ⟨hl', ha⟩ => ⟨?_, ?_⟩)
    fun e t l' ⟨hl', he⟩ => ⟨?_, fun hq => ?_⟩
  · exact (justified_append hist l l').mpr ⟨hl, hl'⟩
  · rwa [← List.append_assoc]
  · exact (justified_append hist l l').mpr ⟨hl, hl'⟩
  · exact (he (by rwa [List.append_assoc])).prepend

/-- One part after the other: the second starts with a longer history. -/
theorem Guarded.bind {k : α → Routine σ ι ε β} {Q : β → List ι → Prop} (hc : C.Guarded hist c s P)
    (hk : ∀ a s' l, P a (hist ++ l) → C.Guarded (hist ++ l) (k a) s' Q) :
    C.Guarded hist (c >>= k) s Q :=
  Routine.Ensures.bind hc fun a s' l ⟨hl, ha⟩ => (hk a s' l ha).prepend hl

/-- What comes after a part whose run is known. -/
theorem guarded_bind_run {k : α → Routine σ ι ε β} {Q : β → List ι → Prop} {a : α} {s' : σ}
    (hc : c.run s = ⟨.ok a, s', l⟩) (hl : Justified C.allowed hist l)
    (hk : C.Guarded (hist ++ l) (k a) s' Q) : C.Guarded hist (c >>= k) s Q := by
  unfold Guarded
  rw [Routine.ensures_bind, Routine.Ensures, hc]
  exact hk.prepend hl

/-- A guard that rejects, with events that are always allowed. -/
theorem guarded_reject {d : Routine σ ι ε Unit} {s₁ : σ}
    (hexit : ∃ e s' l, c.run s = ⟨.error e, s', l⟩ ∧ d.run s₁ = ⟨.error e, s', l⟩)
    (hlogs : c.Logs fun i => ∀ hist, C.allowed hist i) (hup : C.UpTo g hist)
    (hrej : C.rejection g hist d) : C.Guarded hist c s P := by
  obtain ⟨e, s', l, hc, hd⟩ := hexit
  have hl : Justified C.allowed hist l := by
    refine justified_of_forall fun i hi => ?_
    have := hlogs s i
    rw [hc] at this
    exact this hi
  unfold Guarded Routine.Ensures
  rw [hc]
  refine ⟨hl, fun _ => ⟨g, [], l, d, s₁, rfl, ?_, ?_, hd⟩⟩
  · rwa [List.append_nil]
  · rwa [List.append_nil]

/-- What comes after a run got through, with events that are always allowed. -/
theorem guarded_of_through {i : ι} (hi : i ∈ hist) (hthrough : C.through i)
    (hlogs : c.Logs fun i => ∀ hist, C.allowed hist i) :
    C.Guarded hist c s fun _ hist' => ∃ i ∈ hist', C.through i := by
  have hl : Justified C.allowed hist (c.run s).log :=
    justified_of_forall (hlogs s)
  unfold Guarded Routine.Ensures
  split
  · exact ⟨hl, i, List.mem_append_left _ hi, hthrough⟩
  · exact ⟨hl, fun hq => absurd hthrough (hq i (List.mem_append_left _ hi))⟩

end GuardChain
