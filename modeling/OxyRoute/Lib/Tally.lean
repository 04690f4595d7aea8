import OxyRoute.Lib.Routine

/-!
# Counting what a computation does

A counter on the states says how often something has been done, such as a message sent. A
computation ends with a value and what it has added to the counter, or by an exit: a full exit
has added one, any other exit has added nothing.

## Main definitions

- `Routine.Keeps` — a part of the state stays as it is
- `Routine.Spends` — what is added to the counter

## Main results

- `Routine.Spends.bind` — one computation after the other
- `Routine.spends_attempt`, `Routine.spends_handle_exit` — errors that are taken, or passed on
-/

variable {σ ι ε ε' κ α β : Type}

namespace Routine

/-- The computation does not change this part of the state. -/
def Keeps (part : σ → κ) (c : Routine σ ι ε α) : Prop := ∀ s, part (c.run s).state = part s

/-- A value comes with what has been added to the counter, as `R` says. A full exit has added
one, another exit nothing. -/
def Spends (count : σ → ℕ) (full : ε → Prop) (R : α → ℕ → Prop) (c : Routine σ ι ε α) : Prop :=
  ∀ s, Ensures c s (fun a s' _ => ∃ n, count s' = count s + n ∧ R a n)
    fun e s' _ => (full e → count s' = count s + 1) ∧ (¬ full e → count s' = count s)

section

variable {part : σ → κ} {c : Routine σ ι ε α}

theorem keeps_pure (a : α) : Keeps part (pure a : Routine σ ι ε α) := fun _ => rfl

theorem keeps_exit (e : ε) : Keeps part (exit e : Routine σ ι ε α) := fun _ => rfl

theorem keeps_log (i : ι) : Keeps part (log i : Routine σ ι ε Unit) := fun _ => rfl

theorem keeps_effect {f : σ → Except ε α × σ} (h : ∀ s, part (f s).2 = part s) :
    Keeps part (effect f : Routine σ ι ε α) := h

theorem keeps_ofExcept (r : Except ε α) : Keeps part (ofExcept r : Routine σ ι ε α) := by
  cases r with
  | ok a => exact keeps_pure a
  | error e => exact keeps_exit e

theorem Keeps.bind {k : α → Routine σ ι ε β} (hc : Keeps part c) (hk : ∀ a, Keeps part (k a)) :
    Keeps part (c >>= k) := by
  intro s
  have hcs := hc s
  rcases h : c.run s with ⟨r, s', l⟩
  rw [h] at hcs
  cases r with
  | ok a =>
    rw [bind_run_ok h, Ending.state_after, hk a s']
    exact hcs
  | error e =>
    rw [bind_run_error h]
    exact hcs

theorem Keeps.attempt (hc : Keeps part c) : Keeps part (attempt c : Routine σ ι ε' (Except ε α)) :=
  fun s => hc s

theorem Keeps.map {f : α → β} (hc : Keeps part c) : Keeps part (f <$> c) :=
  hc.bind fun a => keeps_pure (f a)

theorem Keeps.ite {p : Prop} [Decidable p] {d : Routine σ ι ε α} (hc : Keeps part c)
    (hd : Keeps part d) : Keeps part (if p then c else d) := by
  split
  · exact hc
  · exact hd

/-- What depends on the part stays as well. -/
theorem Keeps.comp {κ' : Type} (hc : Keeps part c) (f : κ → κ') :
    Keeps (fun s => f (part s)) c := fun s => congrArg f (hc s)

end

section

variable {count : σ → ℕ} {full : ε → Prop} {c : Routine σ ι ε α} {R : α → ℕ → Prop}

theorem spends_pure {a : α} (h : R a 0) : Spends count full R (pure a : Routine σ ι ε α) :=
  fun _ => ensures_pure.mpr ⟨0, rfl, h⟩

theorem spends_exit {e : ε} (h : ¬ full e) : Spends count full R (exit e : Routine σ ι ε α) :=
  fun _ => ensures_exit.mpr ⟨fun he => absurd he h, fun _ => rfl⟩

/-- A computation that keeps the counter, and what is known of its value. -/
theorem Keeps.spends_yields {P : α → Prop} (hc : Keeps count c) (hy : Yields P c)
    (hexit : ∀ s e, (c.run s).result = .error e → ¬ full e) :
    Spends count full (fun a n => n = 0 ∧ P a) c := by
  intro s
  have hcs := hc s
  have hys := hy s
  have hes := hexit s
  unfold Ensures
  split
  · next a ha => exact ⟨0, hcs, rfl, hys a ha⟩
  · next e he => exact ⟨fun hfull => absurd hfull (hes e he), fun _ => hcs⟩

theorem Keeps.spends (hc : Keeps count c) (hexit : ∀ s e, (c.run s).result = .error e → ¬ full e) :
    Spends count full (fun _ n => n = 0) c := by
  intro s
  refine (hc.spends_yields (fun _ _ _ => trivial) hexit s).mono ?_ fun _ _ _ h => h
  rintro a s' l ⟨n, hn, rfl, -⟩
  exact ⟨0, hn, rfl⟩

/-- Without full exits. -/
theorem Keeps.spends_zero (hc : Keeps count c) :
    Spends count (fun _ => False) (fun _ n => n = 0) c := hc.spends fun _ _ _ => id

/-- Without full exits, and what is known of the value. -/
theorem Keeps.spends_zero_yields {P : α → Prop} (hc : Keeps count c) (hy : Yields P c) :
    Spends count (fun _ => False) (fun a n => n = 0 ∧ P a) c := hc.spends_yields hy fun _ _ _ => id

theorem Spends.mono {R' : α → ℕ → Prop} (hc : Spends count full R c)
    (h : ∀ a n, R a n → R' a n) : Spends count full R' c := by
  intro s
  refine (hc s).mono ?_ fun _ _ _ he => he
  rintro a s' l ⟨n, hn, hr⟩
  exact ⟨n, hn, h a n hr⟩

theorem Spends.ite {p : Prop} [Decidable p] {d : Routine σ ι ε α} (hc : Spends count full R c)
    (hd : Spends count full R d) : Spends count full R (if p then c else d) := by
  split
  · exact hc
  · exact hd

/-- Nothing has been added yet, or what comes next is a value, or a full exit after one. -/
theorem Spends.bind {k : α → Routine σ ι ε β} {R' : β → ℕ → Prop} (hc : Spends count full R c)
    (hk : ∀ a n, R a n → n = 0 ∧ Spends count full R' (k a) ∨
      (∃ b, k a = pure b ∧ R' b n) ∨ n = 1 ∧ ∃ e, k a = exit e ∧ full e) :
    Spends count full R' (c >>= k) := by
  intro s
  refine (hc s).bind ?_
  rintro a s' l ⟨n, hn, hr⟩
  rcases hk a n hr with ⟨rfl, hka⟩ | ⟨b, hb, hr'⟩ | ⟨rfl, e, he, hfull⟩
  · have hspends := hka s'
    rw [hn] at hspends
    exact hspends
  · rw [hb]
    exact ensures_pure.mpr ⟨n, hn, hr'⟩
  · rw [he]
    exact ensures_exit.mpr ⟨fun _ => hn, fun h => absurd hfull h⟩

/-- What comes next only changes the value. -/
theorem Spends.bind_pure {f : α → β} {R' : β → ℕ → Prop} (hc : Spends count full R c)
    (h : ∀ a n, R a n → R' (f a) n) : Spends count full R' (c >>= fun a => pure (f a)) :=
  hc.bind fun a n hr => .inr (.inl ⟨f a, rfl, h a n hr⟩)

/-- What comes next is done only if nothing has been added. -/
theorem Spends.bind_unless {c : Routine σ ι ε Bool} {k : Bool → Routine σ ι ε β} {R' : β → ℕ → Prop}
    (hc : Spends count full (fun added n => n = added.toNat) c) {b : β} (htrue : k true = pure b)
    (hb : R' b 1) (hfalse : Spends count full R' (k false)) : Spends count full R' (c >>= k) := by
  refine hc.bind fun added n hn => ?_
  cases added with
  | true => exact .inr (.inl ⟨b, htrue, hn ▸ hb⟩)
  | false => exact .inl ⟨hn, hfalse⟩

/-- What comes next is a full exit. -/
theorem Spends.bind_exit {e : ε} {R' : β → ℕ → Prop} (hc : Spends count full (fun _ n => n = 1) c)
    (he : full e) : Spends count full R' (c >>= fun _ => exit e) :=
  hc.bind fun _ _ hn => .inr (.inr ⟨hn, e, rfl, he⟩)

/-- Nothing has been added yet, and what comes next may rely on the value. -/
theorem Spends.bind_zero_of {P : α → Prop} {k : α → Routine σ ι ε β} {R' : β → ℕ → Prop}
    (hc : Spends count full (fun a n => n = 0 ∧ P a) c)
    (hk : ∀ a, P a → Spends count full R' (k a)) : Spends count full R' (c >>= k) :=
  hc.bind fun a _ hn => .inl ⟨hn.1, hk a hn.2⟩

/-- Nothing has been added yet. -/
theorem Spends.bind_zero {k : α → Routine σ ι ε β} {R' : β → ℕ → Prop}
    (hc : Spends count full (fun _ n => n = 0) c) (hk : ∀ a, Spends count full R' (k a)) :
    Spends count full R' (c >>= k) :=
  hc.bind fun a _ hn => .inl ⟨hn, hk a⟩

/-- An error has added nothing, and is taken. -/
theorem spends_attempt {c : Routine σ ι ε' α} (hc : Spends count (fun _ => False) R c) :
    Spends count full (fun r n => (∃ a, r = .ok a ∧ R a n) ∨ ∃ e, r = .error e ∧ n = 0)
      (attempt c : Routine σ ι ε (Except ε' α)) := by
  intro s
  refine ensures_attempt.mpr ((hc s).mono ?_ ?_)
  · rintro a s' l ⟨n, hn, hr⟩
    exact ⟨n, hn, .inl ⟨a, rfl, hr⟩⟩
  · rintro e s' l ⟨-, he⟩
    exact ⟨0, he id, .inr ⟨e, rfl, rfl⟩⟩

/-- An error has added nothing, and is passed on. -/
theorem spends_handle_exit {c : Routine σ ι ε' α} {f : ε' → ε}
    (hc : Spends count (fun _ => False) R c) (hf : ∀ e, ¬ full (f e)) :
    Spends count full R (handle c fun e => exit (f e)) := by
  intro s
  refine ensures_handle.mpr ((hc s).mono (fun _ _ _ h => h) ?_)
  rintro e s' l ⟨-, he⟩
  exact ensures_exit.mpr ⟨fun h => absurd h (hf e), fun _ => he id⟩

end

end Routine
