import OxyRoute.Lib.Routine

/-!
# Where a computation stops

A computation goes through a quiet part and then ends: with a value, by a plain exit, or at a
stop, a last computation that never returns. Two computations whose quiet parts have the same
effect, whatever they log, and that come to the same stop, each in its own version, are alike; for
one computation this says where it can stop.

## Main definitions

- `Routine.Ending.recast` — the ending of a computation that never returns, at any type
- `Routine.SameEffect` — two computations with the same results and states
- `Routine.Stops` — quiet events, plain exits, and a family of stops in two versions
- `Routine.Stops.Alike` — two computations that are alike

## Main results

- `Routine.Stops.Alike.bind`, `Routine.Stops.alike_of_logs`, `Routine.Stops.alike_stop` — the rules
-/

variable {σ ι ε ε' τ α β : Type}

namespace Routine

/-- The ending of a computation that never returns. -/
def Ending.recast (r : Ending σ ι ε Empty) : Ending σ ι ε α :=
  match r with
  | ⟨.ok a, _, _⟩ => a.elim
  | ⟨.error e, s, l⟩ => ⟨.error e, s, l⟩

theorem exists_exit (c : Routine σ ι ε Empty) (s : σ) :
    ∃ e s' l, c.run s = ⟨.error e, s', l⟩ := by
  rcases h : c.run s with ⟨r, s', l⟩
  cases r with
  | ok a => exact a.elim
  | error e => exact ⟨e, s', l, rfl⟩

@[simp] theorem Ending.log_recast (r : Ending σ ι ε Empty) :
    (r.recast : Ending σ ι ε α).log = r.log := by
  rcases r with ⟨r, s, l⟩
  cases r with
  | ok a => exact a.elim
  | error e => rfl

/-- A computation that never returns does the same at every type. -/
theorem run_eq_recast {c : Routine σ ι ε α} {d : Routine σ ι ε Empty} {s : σ}
    (h : ∃ e s' l, c.run s = ⟨.error e, s', l⟩ ∧ d.run s = ⟨.error e, s', l⟩) :
    c.run s = (d.run s).recast := by
  obtain ⟨e, s', l, hc, hd⟩ := h
  rw [hc, hd]
  rfl

/-- From every state, both end with the same result in the same state. -/
def SameEffect (c c' : Routine σ ι ε α) : Prop :=
  ∀ s, (c'.run s).result = (c.run s).result ∧ (c'.run s).state = (c.run s).state

theorem sameEffect_refl (c : Routine σ ι ε α) : SameEffect c c := fun _ => ⟨rfl, rfl⟩

theorem SameEffect.attempt {c c' : Routine σ ι ε' α} (h : SameEffect c c') :
    SameEffect (attempt c : Routine σ ι ε (Except ε' α)) (attempt c') := by
  intro s
  rw [attempt_run, attempt_run, (h s).1, (h s).2]
  exact ⟨rfl, rfl⟩

/-- The effect of what comes after a computation does not depend on what that one logs. -/
theorem SameEffect.bind {c c' : Routine σ ι ε α} (h : SameEffect c c')
    (k : α → Routine σ ι ε β) : SameEffect (c >>= k) (c' >>= k) := by
  intro s
  obtain ⟨hresult, hstate⟩ := h s
  rcases hc : c.run s with ⟨r, s', l⟩
  rcases hc' : c'.run s with ⟨r', s'', l'⟩
  rw [hc, hc'] at hresult hstate
  obtain rfl : r' = r := hresult
  obtain rfl : s'' = s' := hstate
  cases r' with
  | ok a =>
    rw [bind_run_ok hc, bind_run_ok hc']
    exact ⟨rfl, rfl⟩
  | error e =>
    rw [bind_run_error hc, bind_run_error hc']
    exact ⟨rfl, rfl⟩

/-- What the quiet part may log, how it may exit, and the stops, in two versions. -/
structure Stops (σ ι ε τ : Type) where
  quiet : ι → Prop
  plain : ε → Prop
  possible : τ → Prop
  left : τ → Routine σ ι ε Empty
  right : τ → Routine σ ι ε Empty

namespace Stops

variable {S : Stops σ ι ε τ}

/-- Two quiet logs. -/
def QuietLogs (S : Stops σ ι ε τ) (l l' : List ι) : Prop :=
  (∀ i ∈ l, S.quiet i) ∧ ∀ i ∈ l', S.quiet i

/-- From every state, both end quietly and alike, or come to the same stop in the same state after
quiet parts. -/
def Alike (S : Stops σ ι ε τ) (c c' : Routine σ ι ε α) : Prop :=
  ∀ s,
    (∃ r s' l l', S.QuietLogs l l' ∧ (∀ e, r = .error e → S.plain e) ∧
      c.run s = ⟨r, s', l⟩ ∧ c'.run s = ⟨r, s', l'⟩) ∨
    ∃ t s' l l', S.QuietLogs l l' ∧ S.possible t ∧
      c.run s = ((S.left t).run s').recast.after l ∧
      c'.run s = ((S.right t).run s').recast.after l'

theorem quietLogs_nil : S.QuietLogs [] [] :=
  ⟨fun _ h => absurd h List.not_mem_nil, fun _ h => absurd h List.not_mem_nil⟩

theorem QuietLogs.append {l₁ l₁' l₂ l₂' : List ι} (h₁ : S.QuietLogs l₁ l₁')
    (h₂ : S.QuietLogs l₂ l₂') : S.QuietLogs (l₁ ++ l₂) (l₁' ++ l₂') :=
  ⟨fun i hi => (List.mem_append.mp hi).elim (h₁.1 i) (h₂.1 i),
    fun i hi => (List.mem_append.mp hi).elim (h₁.2 i) (h₂.2 i)⟩

theorem alike_pure (a : α) : S.Alike (pure a) (pure a) := fun s =>
  .inl ⟨.ok a, s, [], [], quietLogs_nil, by simp, rfl, rfl⟩

theorem alike_exit {e : ε} (he : S.plain e) :
    S.Alike (exit e : Routine σ ι ε α) (exit e) := fun s =>
  .inl ⟨.error e, s, [], [], quietLogs_nil, by rintro e' ⟨⟩; exact he, rfl, rfl⟩

/-- A stop, in both versions. -/
theorem alike_stop {t : τ} (ht : S.possible t) {c c' : Routine σ ι ε α}
    (hc : ∀ s, c.run s = ((S.left t).run s).recast)
    (hc' : ∀ s, c'.run s = ((S.right t).run s).recast) : S.Alike c c' := fun s =>
  .inr ⟨t, s, [], [], quietLogs_nil, ht, hc s, hc' s⟩

/-- Two quiet computations with the same effect. -/
theorem alike_of_sameEffect {c c' : Routine σ ι ε α} (hc : Logs S.quiet c) (hc' : Logs S.quiet c')
    (hsame : SameEffect c c') (hexit : ∀ s e, (c.run s).result = .error e → S.plain e) :
    S.Alike c c' := by
  intro s
  obtain ⟨hresult, hstate⟩ := hsame s
  refine .inl ⟨(c.run s).result, (c.run s).state, (c.run s).log, (c'.run s).log, ⟨hc s, hc' s⟩,
    hexit s, rfl, ?_⟩
  rw [← hresult, ← hstate]

/-- One quiet computation. -/
theorem alike_of_logs {c : Routine σ ι ε α} (hc : Logs S.quiet c)
    (hexit : ∀ s e, (c.run s).result = .error e → S.plain e) : S.Alike c c :=
  alike_of_sameEffect hc hc (sameEffect_refl c) hexit

/-- Two quiet computations with the same effect that always end with a value. -/
theorem alike_attempts {c c' : Routine σ ι ε' α} (hc : Logs S.quiet c) (hc' : Logs S.quiet c')
    (hsame : SameEffect c c') :
    S.Alike (attempt c : Routine σ ι ε (Except ε' α)) (attempt c') :=
  alike_of_sameEffect hc.attempt hc'.attempt hsame.attempt fun s e h => by cases h

/-- One quiet computation that always ends with a value. -/
theorem alike_attempt {c : Routine σ ι ε' α} (hc : Logs S.quiet c) :
    S.Alike (attempt c : Routine σ ι ε (Except ε' α)) (attempt c) :=
  alike_attempts hc hc (sameEffect_refl c)

theorem alike_effect {f : σ → Except ε α × σ} (hf : ∀ s e, (f s).1 = .error e → S.plain e) :
    S.Alike (effect f : Routine σ ι ε α) (effect f) :=
  alike_of_logs (logs_effect f) hf

theorem alike_log {i : ι} (hi : S.quiet i) : S.Alike (log i : Routine σ ι ε Unit) (log i) :=
  alike_of_logs (logs_log hi) fun s e h => by cases h

/-- Quiet parts go in front of what comes after them. -/
theorem alike_after {c c' : Routine σ ι ε α} {s s₀ : σ} {l l' : List ι} (hl : S.QuietLogs l l')
    {d d' : Routine σ ι ε α} (hd : S.Alike d d') (hc : c.run s₀ = (d.run s).after l)
    (hc' : c'.run s₀ = (d'.run s).after l') :
    (∃ r s' l l', S.QuietLogs l l' ∧ (∀ e, r = .error e → S.plain e) ∧
      c.run s₀ = ⟨r, s', l⟩ ∧ c'.run s₀ = ⟨r, s', l'⟩) ∨
    ∃ t s' l l', S.QuietLogs l l' ∧ S.possible t ∧
      c.run s₀ = ((S.left t).run s').recast.after l ∧
      c'.run s₀ = ((S.right t).run s').recast.after l' := by
  rcases hd s with ⟨r, s', l₁, l₁', hl₁, hr, hds, hds'⟩ | ⟨t, s', l₁, l₁', hl₁, ht, hds, hds'⟩
  · refine .inl ⟨r, s', l ++ l₁, l' ++ l₁', hl.append hl₁, hr, ?_, ?_⟩
    · rw [hc, hds]
      rfl
    · rw [hc', hds']
      rfl
  · refine .inr ⟨t, s', l ++ l₁, l' ++ l₁', hl.append hl₁, ht, ?_, ?_⟩
    · rw [hc, hds, Ending.after_after]
    · rw [hc', hds', Ending.after_after]

/-- What comes after a value, which it may rely on; a stop ends all of it. -/
theorem Alike.bind_yields {c c' : Routine σ ι ε α} {k k' : α → Routine σ ι ε β} {R : α → Prop}
    (hc : S.Alike c c') (hy : Yields R c) (hk : ∀ a, R a → S.Alike (k a) (k' a)) :
    S.Alike (c >>= k) (c' >>= k') := by
  intro s
  rcases hc s with ⟨r, s', l, l', hl, hr, hcs, hcs'⟩ | ⟨t, s', l, l', hl, ht, hcs, hcs'⟩
  · cases r with
    | ok a =>
      have ha : R a := hy s a (by rw [hcs])
      exact alike_after hl (hk a ha) (bind_run_ok hcs k) (bind_run_ok hcs' k')
    | error e => exact .inl ⟨.error e, s', l, l', hl, fun e' h => hr e' (by cases h; rfl),
        bind_run_error hcs k, bind_run_error hcs' k'⟩
  · obtain ⟨e, s₁, l₁, hleft⟩ := exists_exit (S.left t) s'
    obtain ⟨e', s₁', l₁', hright⟩ := exists_exit (S.right t) s'
    refine .inr ⟨t, s', l, l', hl, ht, ?_, ?_⟩
    · rw [hleft] at hcs ⊢
      exact bind_run_error hcs k
    · rw [hright] at hcs' ⊢
      exact bind_run_error hcs' k'

theorem Alike.bind {c c' : Routine σ ι ε α} {k k' : α → Routine σ ι ε β} (hc : S.Alike c c')
    (hk : ∀ a, S.Alike (k a) (k' a)) : S.Alike (c >>= k) (c' >>= k') :=
  hc.bind_yields (R := fun _ => True) (fun _ _ _ => trivial) fun a _ => hk a

/-- Two computations that are alike by themselves, chosen by a test. -/
theorem Alike.ite {p : Prop} [Decidable p] {c c' d d' : Routine σ ι ε α} (hc : S.Alike c c')
    (hd : S.Alike d d') : S.Alike (if p then c else d) (if p then c' else d') := by
  split
  · exact hc
  · exact hd

end Stops

end Routine
