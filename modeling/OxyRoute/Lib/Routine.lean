import Mathlib.Data.List.Basic

/-!
# Computations with a log

A computation works on a state, logs events, and ends with a value or by an exit. Exits are how
early returns and errors leave it. The rules below reason about a computation from a given
state: what holds when it ends with a value, and what holds when it ends by an exit.

## Main definitions

- `Routine` — the computations, a monad
- `Routine.exit`, `Routine.log`, `Routine.effect`, `Routine.handle`, `Routine.attempt` — the basic ones
- `Routine.ExitsAs` — two computations that exit alike
- `Routine.Ensures` — pre- and postconditions
- `Routine.Logs`, `Routine.Yields` — what a computation can log, and what it can end with
- `Justified` — every event of a log is justified by the events before it

## Main results

- `Routine.ensures_bind`, `Routine.ensures_handle`, `Routine.Ensures.mono` — the rules
- `justified_append`, `justified_iff`
-/

variable {σ ι ε ε' α β : Type}

/-- The end of a computation: its value or exit, the state it leaves, and what it logged. -/
@[ext]
structure Routine.Ending (σ ι ε α : Type) where
  result : Except ε α
  state : σ
  log : List ι

/-- A computation. -/
@[ext]
structure Routine (σ ι ε α : Type) where
  run : σ → Routine.Ending σ ι ε α

namespace Routine

/-- The ending of a computation that came after the given log. -/
def Ending.after (l : List ι) (r : Ending σ ι ε α) : Ending σ ι ε α :=
  ⟨r.result, r.state, l ++ r.log⟩

/-- Run a computation; at an exit, go on with another one. -/
def handle (c : Routine σ ι ε α) (h : ε → Routine σ ι ε' α) : Routine σ ι ε' α where
  run s :=
    match c.run s with
    | ⟨.ok a, s', l⟩ => ⟨.ok a, s', l⟩
    | ⟨.error e, s', l⟩ => ((h e).run s').after l

/-- Run a computation and go on with its value. -/
def andThen (c : Routine σ ι ε α) (k : α → Routine σ ι ε β) : Routine σ ι ε β where
  run s :=
    match c.run s with
    | ⟨.ok a, s', l⟩ => ((k a).run s').after l
    | ⟨.error e, s', l⟩ => ⟨.error e, s', l⟩

instance : Monad (Routine σ ι ε) where
  pure a := ⟨fun s => ⟨.ok a, s, []⟩⟩
  bind := andThen

/-- Leave the computation. -/
def exit (e : ε) : Routine σ ι ε α := ⟨fun s => ⟨.error e, s, []⟩⟩

/-- Log an event. -/
def log (i : ι) : Routine σ ι ε Unit := ⟨fun s => ⟨.ok (), s, [i]⟩⟩

/-- Look at the state. -/
def get : Routine σ ι ε σ := ⟨fun s => ⟨.ok s, s, []⟩⟩

/-- Change the state and end with a value or by an exit. -/
def effect (f : σ → Except ε α × σ) : Routine σ ι ε α := ⟨fun s => ⟨(f s).1, (f s).2, []⟩⟩

/-- A value or an exit. -/
def ofExcept : Except ε α → Routine σ ι ε α
  | .ok a => pure a
  | .error e => exit e

/-- Run a computation and end with its value or its exit. -/
def attempt (c : Routine σ ι ε α) : Routine σ ι ε' (Except ε α) where
  run s := ⟨.ok (c.run s).result, (c.run s).state, (c.run s).log⟩

-- ════════════════════════════════════════════════════════════════════════
-- Running
-- ════════════════════════════════════════════════════════════════════════

theorem pure_run (a : α) (s : σ) : (pure a : Routine σ ι ε α).run s = ⟨.ok a, s, []⟩ := rfl

theorem exit_run (e : ε) (s : σ) : (exit e : Routine σ ι ε α).run s = ⟨.error e, s, []⟩ := rfl

theorem log_run (i : ι) (s : σ) : (log i : Routine σ ι ε Unit).run s = ⟨.ok (), s, [i]⟩ := rfl

theorem get_run (s : σ) : (get : Routine σ ι ε σ).run s = ⟨.ok s, s, []⟩ := rfl

theorem effect_run (f : σ → Except ε α × σ) (s : σ) :
    (effect f : Routine σ ι ε α).run s = ⟨(f s).1, (f s).2, []⟩ := rfl

theorem attempt_run (c : Routine σ ι ε α) (s : σ) :
    (attempt c : Routine σ ι ε' (Except ε α)).run s =
      ⟨.ok (c.run s).result, (c.run s).state, (c.run s).log⟩ := rfl

theorem bind_run (c : Routine σ ι ε α) (k : α → Routine σ ι ε β) (s : σ) :
    (c >>= k).run s = (andThen c k).run s := rfl

/-- A computation that ends with a value is followed by what comes next. -/
theorem bind_run_ok {c : Routine σ ι ε α} {s s' : σ} {a : α} {l : List ι}
    (h : c.run s = ⟨.ok a, s', l⟩) (k : α → Routine σ ι ε β) :
    (c >>= k).run s = ((k a).run s').after l := by
  simp only [bind_run, andThen, h]

theorem log_bind_run (i : ι) (k : Unit → Routine σ ι ε β) (s : σ) :
    (log i >>= k).run s = ((k ()).run s).after [i] := rfl

/-- A computation that ends by an exit ends all of it. -/
theorem bind_run_error {c : Routine σ ι ε α} {s s' : σ} {e : ε} {l : List ι}
    (h : c.run s = ⟨.error e, s', l⟩) (k : α → Routine σ ι ε β) :
    (c >>= k).run s = ⟨.error e, s', l⟩ := by
  simp only [bind_run, andThen, h]

theorem handle_run_ok {c : Routine σ ι ε α} {s s' : σ} {a : α} {l : List ι}
    (hc : c.run s = ⟨.ok a, s', l⟩) (h : ε → Routine σ ι ε' α) :
    (handle c h).run s = ⟨.ok a, s', l⟩ := by
  simp only [handle, hc]

theorem handle_run_error {c : Routine σ ι ε α} {s s' : σ} {e : ε} {l : List ι}
    (hc : c.run s = ⟨.error e, s', l⟩) (h : ε → Routine σ ι ε' α) :
    (handle c h).run s = ((h e).run s').after l := by
  simp only [handle, hc]

@[simp] theorem Ending.after_nil (r : Ending σ ι ε α) : r.after [] = r := rfl

@[simp] theorem Ending.after_after (l l' : List ι) (r : Ending σ ι ε α) :
    (r.after l').after l = r.after (l ++ l') := by
  simp [Ending.after, List.append_assoc]

@[simp] theorem Ending.result_after (l : List ι) (r : Ending σ ι ε α) :
    (r.after l).result = r.result := rfl

@[simp] theorem Ending.state_after (l : List ι) (r : Ending σ ι ε α) :
    (r.after l).state = r.state := rfl

@[simp] theorem Ending.log_after (l : List ι) (r : Ending σ ι ε α) :
    (r.after l).log = l ++ r.log := rfl

theorem andThen_pure (c : Routine σ ι ε α) : andThen c pure = c := by
  refine Routine.ext (funext fun s => ?_)
  rcases h : c.run s with ⟨r, s', l⟩
  cases r with
  | ok a => simp only [andThen, h, pure_run, Ending.after, List.append_nil]
  | error e => simp only [andThen, h]

theorem pure_andThen (a : α) (k : α → Routine σ ι ε β) : andThen (pure a) k = k a := rfl

theorem andThen_assoc {γ : Type} (c : Routine σ ι ε α) (k : α → Routine σ ι ε β)
    (k' : β → Routine σ ι ε γ) :
    andThen (andThen c k) k' = andThen c fun a => andThen (k a) k' := by
  refine Routine.ext (funext fun s => ?_)
  rcases h : c.run s with ⟨r, s', l⟩
  cases r with
  | error e => simp only [andThen, h]
  | ok a =>
    rcases hk : (k a).run s' with ⟨r, s'', l'⟩
    cases r with
    | error e => simp only [andThen, h, hk, Ending.after]
    | ok b => simp only [andThen, h, hk, Ending.after, List.append_assoc]

instance : LawfulMonad (Routine σ ι ε) :=
  .mk' _ andThen_pure pure_andThen andThen_assoc

@[simp] theorem exit_bind (e : ε) (k : α → Routine σ ι ε β) : (exit e >>= k) = exit e := rfl

@[simp] theorem handle_pure (a : α) (h : ε → Routine σ ι ε' α) :
    handle (pure a : Routine σ ι ε α) h = pure a := rfl

@[simp] theorem attempt_pure (a : α) :
    (attempt (pure a : Routine σ ι ε α) : Routine σ ι ε' (Except ε α)) = pure (.ok a) := rfl

/-- An attempt of two computations, one after the other. -/
theorem attempt_bind (c : Routine σ ι ε α) (k : α → Routine σ ι ε β) :
    (attempt (c >>= k) : Routine σ ι ε' (Except ε β)) =
      attempt c >>= fun r =>
        match r with
        | .ok a => attempt (k a)
        | .error e => pure (.error e) := by
  refine Routine.ext (funext fun s => ?_)
  rcases h : c.run s with ⟨r, s', l⟩
  have hattempt : (attempt c : Routine σ ι ε' (Except ε α)).run s = ⟨.ok r, s', l⟩ := by
    rw [attempt_run, h]
  rw [bind_run_ok hattempt, attempt_run]
  cases r with
  | ok a =>
    rw [bind_run_ok h]
    rfl
  | error e =>
    rw [bind_run_error h, pure_run, Ending.after, List.append_nil]

/-- A computation that always exits, as another one does. -/
def ExitsAs (c : Routine σ ι ε α) (d : Routine σ ι ε β) : Prop :=
  ∀ s, ∃ e s' l, c.run s = ⟨.error e, s', l⟩ ∧ d.run s = ⟨.error e, s', l⟩

theorem exitsAs_exit (e : ε) : ExitsAs (exit e : Routine σ ι ε α) (exit e : Routine σ ι ε β) :=
  fun s => ⟨e, s, [], rfl, rfl⟩

/-- Exits after a common beginning. -/
theorem exitsAs_bind_exit {γ : Type} (c : Routine σ ι ε γ) (e : ε) :
    ExitsAs (c >>= fun _ => (exit e : Routine σ ι ε α)) (c >>= fun _ => (exit e : Routine σ ι ε β)) := by
  intro s
  rcases h : c.run s with ⟨r, s', l⟩
  cases r with
  | ok a => exact ⟨e, s', l ++ [], bind_run_ok h _, bind_run_ok h _⟩
  | error e' => exact ⟨e', s', l, bind_run_error h _, bind_run_error h _⟩

-- ════════════════════════════════════════════════════════════════════════
-- Pre- and postconditions
-- ════════════════════════════════════════════════════════════════════════

/-- From the state, the computation ends with a value that satisfies `Q` or by an exit that
satisfies `E`, each with the state it leaves and its log. -/
def Ensures (c : Routine σ ι ε α) (s : σ) (Q : α → σ → List ι → Prop) (E : ε → σ → List ι → Prop) :
    Prop :=
  match (c.run s).result with
  | .ok a => Q a (c.run s).state (c.run s).log
  | .error e => E e (c.run s).state (c.run s).log

variable {Q Q' : α → σ → List ι → Prop} {E E' : ε → σ → List ι → Prop} {s : σ}

theorem Ensures.of_ok {c : Routine σ ι ε α} {a : α} {s' : σ} {l : List ι}
    (h : Ensures c s Q E) (hc : c.run s = ⟨.ok a, s', l⟩) : Q a s' l := by
  rwa [Ensures, hc] at h

theorem Ensures.of_error {c : Routine σ ι ε α} {e : ε} {s' : σ} {l : List ι}
    (h : Ensures c s Q E) (hc : c.run s = ⟨.error e, s', l⟩) : E e s' l := by
  rwa [Ensures, hc] at h

theorem ensures_pure {a : α} : Ensures (pure a : Routine σ ι ε α) s Q E ↔ Q a s [] := Iff.rfl

theorem ensures_exit {e : ε} : Ensures (exit e : Routine σ ι ε α) s Q E ↔ E e s [] := Iff.rfl

theorem ensures_effect {f : σ → Except ε α × σ} :
    Ensures (effect f : Routine σ ι ε α) s Q E ↔
      match f s with
      | (.ok a, s') => Q a s' []
      | (.error e, s') => E e s' [] := by
  rw [Ensures, effect_run]
  rcases f s with ⟨r, s'⟩
  cases r <;> rfl

/-- The rule of consequence. -/
theorem Ensures.mono {c : Routine σ ι ε α} (h : Ensures c s Q E)
    (hQ : ∀ a s' l, Q a s' l → Q' a s' l) (hE : ∀ e s' l, E e s' l → E' e s' l) :
    Ensures c s Q' E' := by
  unfold Ensures at h ⊢
  split
  · next hr => rw [hr] at h; exact hQ _ _ _ h
  · next hr => rw [hr] at h; exact hE _ _ _ h

/-- What comes next starts in the state that is left, and its log comes after. -/
theorem ensures_bind {c : Routine σ ι ε α} {k : α → Routine σ ι ε β} {Q : β → σ → List ι → Prop} :
    Ensures (c >>= k) s Q E ↔
      Ensures c s
        (fun a s' l => Ensures (k a) s' (fun b t l' => Q b t (l ++ l')) fun e t l' => E e t (l ++ l'))
        E := by
  rcases h : c.run s with ⟨r, s', l⟩
  cases r with
  | ok a => simp only [Ensures, bind_run_ok h, h, Ending.after]
  | error e => simp only [Ensures, bind_run_error h, h]

/-- The handler starts where the exit left. -/
theorem ensures_handle {c : Routine σ ι ε α} {h : ε → Routine σ ι ε' α} {E : ε' → σ → List ι → Prop} :
    Ensures (handle c h) s Q E ↔
      Ensures c s Q
        fun e s' l => Ensures (h e) s' (fun b t l' => Q b t (l ++ l')) fun e t l' => E e t (l ++ l') := by
  rcases hc : c.run s with ⟨r, s', l⟩
  cases r with
  | ok a => simp only [Ensures, handle_run_ok hc, hc]
  | error e => simp only [Ensures, handle_run_error hc, hc, Ending.after]

/-- An attempt ends with a value in any case. -/
theorem ensures_attempt {c : Routine σ ι ε α} {Q : Except ε α → σ → List ι → Prop}
    {E : ε' → σ → List ι → Prop} :
    Ensures (attempt c : Routine σ ι ε' (Except ε α)) s Q E ↔
      Ensures c s (fun a => Q (.ok a)) fun e => Q (.error e) := by
  simp only [Ensures, attempt_run]
  split <;> next h => rw [h]

/-- A computation followed by another, each with its own rule. -/
theorem Ensures.bind {c : Routine σ ι ε α} {k : α → Routine σ ι ε β} {P : α → σ → List ι → Prop}
    {Q : β → σ → List ι → Prop} (hc : Ensures c s P E)
    (hk : ∀ a s' l, P a s' l →
      Ensures (k a) s' (fun b t l' => Q b t (l ++ l')) fun e t l' => E e t (l ++ l')) :
    Ensures (c >>= k) s Q E :=
  ensures_bind.mpr (hc.mono hk fun _ _ _ h => h)

-- ════════════════════════════════════════════════════════════════════════
-- What is logged
-- ════════════════════════════════════════════════════════════════════════

/-- Every event a computation logs, from whatever state, satisfies `P`. -/
def Logs (P : ι → Prop) (c : Routine σ ι ε α) : Prop := ∀ s, ∀ i ∈ (c.run s).log, P i

variable {P : ι → Prop} {c : Routine σ ι ε α}

theorem logs_pure (a : α) : Logs P (pure a : Routine σ ι ε α) := by
  intro s i hi
  cases hi

theorem logs_exit (e : ε) : Logs P (exit e : Routine σ ι ε α) := by
  intro s i hi
  cases hi

theorem logs_effect (f : σ → Except ε α × σ) : Logs P (effect f : Routine σ ι ε α) := by
  intro s i hi
  cases hi

theorem logs_ofExcept (r : Except ε α) : Logs P (ofExcept r : Routine σ ι ε α) := by
  cases r with
  | ok a => exact logs_pure a
  | error e => exact logs_exit e

theorem logs_log {i : ι} (h : P i) : Logs P (log i : Routine σ ι ε Unit) := by
  intro s j hj
  rwa [List.mem_singleton.mp hj]

/-- A computation that logs nothing. -/
theorem Logs.log_eq_nil (hc : Logs (fun _ => False) c) (s : σ) : (c.run s).log = [] :=
  List.eq_nil_iff_forall_not_mem.mpr (hc s)

/-- What comes next logs nothing. -/
theorem log_bind_of_silent {k : α → Routine σ ι ε β} (hk : ∀ a, Logs (fun _ => False) (k a)) (s : σ) :
    ((c >>= k).run s).log = (c.run s).log := by
  rcases h : c.run s with ⟨r, s', l⟩
  cases r with
  | ok a => rw [bind_run_ok h, Ending.log_after, (hk a).log_eq_nil, List.append_nil]
  | error e => rw [bind_run_error h]

/-- One event, and then none. -/
theorem log_bind_log {i : ι} {k : Unit → Routine σ ι ε β} (hk : Logs (fun _ => False) (k ()))
    (s : σ) : ((Routine.log i >>= k).run s).log = [i] := by
  rw [bind_run_ok (log_run i s), Ending.log_after, hk.log_eq_nil]
  rfl

theorem exists_log_bind_log {i : ι} {k : Unit → Routine σ ι ε β} (hk : Logs P (k ())) (s : σ) :
    ∃ l, (∀ j ∈ l, P j) ∧ ((Routine.log i >>= k).run s).log = i :: l :=
  ⟨((k ()).run s).log, hk s, rfl⟩

theorem Logs.bind {k : α → Routine σ ι ε β} (hc : Logs P c) (hk : ∀ a, Logs P (k a)) :
    Logs P (c >>= k) := by
  intro s i hi
  have hcs := hc s
  rcases h : c.run s with ⟨r, s', l⟩
  rw [h] at hcs
  cases r with
  | error e => rw [bind_run_error h] at hi; exact hcs i hi
  | ok a =>
    rw [bind_run_ok h, Ending.log_after, List.mem_append] at hi
    exact hi.elim (hcs i) (hk a s' i)

theorem Logs.handle {h : ε → Routine σ ι ε' α} (hc : Logs P c) (hh : ∀ e, Logs P (h e)) :
    Logs P (handle c h) := by
  intro s i hi
  have hcs := hc s
  rcases hr : c.run s with ⟨r, s', l⟩
  rw [hr] at hcs
  cases r with
  | ok a => rw [handle_run_ok hr] at hi; exact hcs i hi
  | error e =>
    rw [handle_run_error hr, Ending.log_after, List.mem_append] at hi
    exact hi.elim (hcs i) (hh e s' i)

theorem Logs.attempt (hc : Logs P c) : Logs P (attempt c : Routine σ ι ε' (Except ε α)) :=
  fun s => hc s

theorem Logs.map {f : α → β} (hc : Logs P c) : Logs P (f <$> c) :=
  hc.bind fun a => logs_pure (f a)

theorem Logs.ite {p : Prop} [Decidable p] {d : Routine σ ι ε α} (hc : Logs P c) (hd : Logs P d) :
    Logs P (if p then c else d) := by
  split
  · exact hc
  · exact hd

/-- An event that a first part does not log comes after it has returned. -/
theorem Logs.mem_bind {k : α → Routine σ ι ε β} (hc : Logs P c) {i : ι} (hi : ¬ P i) {s : σ}
    (h : i ∈ ((c >>= k).run s).log) :
    ∃ a s' l, c.run s = ⟨.ok a, s', l⟩ ∧ i ∈ ((k a).run s').log := by
  have hs := hc s
  rcases hr : c.run s with ⟨r, s', l⟩
  rw [hr] at hs
  cases r with
  | error e =>
    rw [bind_run_error hr] at h
    exact absurd (hs i h) hi
  | ok a =>
    rw [bind_run_ok hr, Ending.log_after] at h
    rcases List.mem_append.mp h with h | h
    · exact absurd (hs i h) hi
    · exact ⟨a, s', l, rfl, h⟩

/-- What a first part logs comes first in the log. -/
theorem prefix_log_bind (c : Routine σ ι ε α) (k : α → Routine σ ι ε β) (s : σ) :
    (c.run s).log <+: ((c >>= k).run s).log := by
  rcases hr : c.run s with ⟨r, s', l⟩
  cases r with
  | error e =>
    have hlog : ((c >>= k).run s).log = l := by rw [bind_run_error hr]
    exact ⟨[], (List.append_nil l).trans hlog.symm⟩
  | ok a =>
    rw [bind_run_ok hr, Ending.log_after]
    exact List.prefix_append l _

/-- An event that no second part logs comes from the first. -/
theorem mem_of_bind {k : α → Routine σ ι ε β} (hk : ∀ a, Logs P (k a)) {i : ι} (hi : ¬ P i) {s : σ}
    (h : i ∈ ((c >>= k).run s).log) : i ∈ (c.run s).log := by
  rcases hr : c.run s with ⟨r, s', l⟩
  cases r with
  | error e => rwa [bind_run_error hr] at h
  | ok a =>
    rw [bind_run_ok hr, Ending.log_after] at h
    exact (List.mem_append.mp h).resolve_right fun hmem => hi (hk a s' i hmem)

-- ════════════════════════════════════════════════════════════════════════
-- What is returned
-- ════════════════════════════════════════════════════════════════════════

/-- Every value a computation ends with, from whatever state, satisfies `R`. -/
def Yields (R : α → Prop) (c : Routine σ ι ε α) : Prop :=
  ∀ s a, (c.run s).result = .ok a → R a

variable {R : α → Prop}

theorem yields_pure {a : α} (h : R a) : Yields R (pure a : Routine σ ι ε α) := by
  rintro s a' ⟨⟩
  exact h

theorem yields_exit (e : ε) : Yields R (exit e : Routine σ ι ε α) := by
  rintro s a ⟨⟩

theorem yields_effect {f : σ → Except ε α × σ} (h : ∀ s a, (f s).1 = .ok a → R a) :
    Yields R (effect f : Routine σ ι ε α) := h

theorem yields_ofExcept {r : Except ε α} (h : ∀ a, r = .ok a → R a) :
    Yields R (ofExcept r : Routine σ ι ε α) := by
  cases r with
  | ok a => exact yields_pure (h a rfl)
  | error e => exact yields_exit e

theorem Yields.bind {R : β → Prop} {R' : α → Prop} {k : α → Routine σ ι ε β} (hc : Yields R' c)
    (hk : ∀ a, R' a → Yields R (k a)) : Yields R (c >>= k) := by
  intro s b hb
  rcases h : c.run s with ⟨r, s', l⟩
  cases r with
  | ok a =>
    rw [bind_run_ok h] at hb
    exact hk a (hc s a (by rw [h])) s' b hb
  | error e =>
    rw [bind_run_error h] at hb
    cases hb

/-- What comes next may rely on the value. -/
theorem Logs.bind_yields {k : α → Routine σ ι ε β} (hc : Logs P c) (hy : Yields R c)
    (hk : ∀ a, R a → Logs P (k a)) : Logs P (c >>= k) := by
  intro s i hi
  have hcs := hc s
  rcases h : c.run s with ⟨r, s', l⟩
  rw [h] at hcs
  cases r with
  | error e =>
    rw [bind_run_error h] at hi
    exact hcs i hi
  | ok a =>
    have ha : R a := hy s a (by rw [h])
    rw [bind_run_ok h, Ending.log_after, List.mem_append] at hi
    exact hi.elim (hcs i) (hk a ha s' i)

end Routine

-- ════════════════════════════════════════════════════════════════════════
-- Logs
-- ════════════════════════════════════════════════════════════════════════

/-- Every event of a log is justified by the events before it: the history and the part of the
log that precedes it. -/
def Justified (P : List ι → ι → Prop) : List ι → List ι → Prop
  | _, [] => True
  | hist, i :: l => P hist i ∧ Justified P (hist ++ [i]) l

variable {P : List ι → ι → Prop}

theorem justified_append (hist l l' : List ι) :
    Justified P hist (l ++ l') ↔ Justified P hist l ∧ Justified P (hist ++ l) l' := by
  induction l generalizing hist with
  | nil => simp [Justified]
  | cons i l ih => simp [Justified, ih, and_assoc]

/-- Events that are always justified. -/
theorem justified_of_forall {hist l : List ι} (h : ∀ i ∈ l, ∀ hist, P hist i) :
    Justified P hist l := by
  induction l generalizing hist with
  | nil => trivial
  | cons i l ih =>
    exact ⟨h i List.mem_cons_self hist, ih fun j hj => h j (List.mem_cons_of_mem i hj)⟩

theorem justified_iff (hist l : List ι) :
    Justified P hist l ↔ ∀ pre i post, l = pre ++ i :: post → P (hist ++ pre) i := by
  constructor
  · rintro h pre i post rfl
    exact ((justified_append hist pre _).mp h).2.1
  · intro h
    induction l generalizing hist with
    | nil => trivial
    | cons i l ih =>
      refine ⟨by simpa using h [] i l rfl, ih (hist ++ [i]) ?_⟩
      rintro pre j post rfl
      simpa using h (i :: pre) j post rfl
