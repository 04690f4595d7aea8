import Mathlib.Logic.Relation
import OxyRoute.Lib.Transition

/-!
# Lock order

Threads that acquire and release locks, the wait-for relation between them, and the rule that
threads which take locks in the order of a rank never wait in a cycle. Code takes locks in
scopes; it may also run an interpreter that a global lock guards, and interpreted code may give
that lock up for a while and call back into code.

## Main definitions

- `LockAct`, `LockThread`, `lockSystem` — threads and their steps
- `Requests`, `WaitsFor` — who waits for whom
- `Ordered` — a list of actions that takes locks in the order of a rank
- `LockedCode`, `LockedCode.Runs` — code and the actions of its runs
- `LockedCode.Safe` — a check of the code that makes all its runs ordered

## Main results

- `no_cycle_of_ordered`, `LockedCode.Runs.ordered`
-/

variable {Lock : Type} [DecidableEq Lock]

-- ════════════════════════════════════════════════════════════════════════
-- Threads
-- ════════════════════════════════════════════════════════════════════════

/-- One lock action; a shared acquisition is a read lock. -/
inductive LockAct (Lock : Type)
  | acquire (l : Lock) (shared : Bool)
  | release (l : Lock)
  deriving DecidableEq

/-- The locks a thread holds, the last taken first, and the actions it has left. -/
structure LockThread (Lock : Type) where
  held : List (Lock × Bool)
  todo : List (LockAct Lock)
  deriving DecidableEq

/-- Give back the last acquisition of a lock. -/
def giveBack (l : Lock) : List (Lock × Bool) → List (Lock × Bool)
  | [] => []
  | e :: held => if e.1 = l then held else e :: giveBack l held

theorem giveBack_cons (l : Lock) (shared : Bool) (held : List (Lock × Bool)) :
    giveBack l ((l, shared) :: held) = held := by
  simp [giveBack]

/-- A lock can be taken beside the acquisitions in `held`. -/
def Grantable (l : Lock) (shared : Bool) (held : List (Lock × Bool)) : Prop :=
  ∀ e ∈ held, e.1 = l → shared = true ∧ e.2 = true

instance (l : Lock) (shared : Bool) (held : List (Lock × Bool)) :
    Decidable (Grantable l shared held) :=
  inferInstanceAs (Decidable (∀ e ∈ held, e.1 = l → shared = true ∧ e.2 = true))

/-- A new thread starts a job, or a thread does its next action. -/
inductive LockEvent (Lock : Type)
  | spawn (job : List (LockAct Lock))
  | act (i : ℕ)

/-- The next action of a thread, with all acquisitions of all threads. -/
def LockThread.next (t : LockThread Lock) (all : List (Lock × Bool)) :
    Option (LockThread Lock) :=
  match t.todo with
  | [] => none
  | .acquire l shared :: rest =>
    if Grantable l shared all then some ⟨(l, shared) :: t.held, rest⟩ else none
  | .release l :: rest => some ⟨giveBack l t.held, rest⟩

/-- One step of the threads. -/
def lockNext (s : List (LockThread Lock)) : LockEvent Lock → Option (List (LockThread Lock))
  | .spawn job => some (s ++ [⟨[], job⟩])
  | .act i => s[i]?.bind fun t => (t.next (s.flatMap (·.held))).map (s.set i)

/-- Threads that start the given jobs, any number of them. -/
def lockSystem (jobs : List (LockAct Lock) → Prop) :
    TransitionSystem (List (LockThread Lock)) (LockEvent Lock) where
  init s := s = []
  step s e s' := lockNext s e = some s' ∧ ∀ job, e = .spawn job → jobs job

/-- The next action of a thread is to acquire the lock. -/
def Requests (t : LockThread Lock) (l : Lock) : Prop :=
  ∃ shared rest, t.todo = .acquire l shared :: rest

/-- A thread requests a lock that another one (or itself) holds in some mode. -/
def WaitsFor (s : List (LockThread Lock)) (i j : ℕ) : Prop :=
  ∃ t u l, s[i]? = some t ∧ s[j]? = some u ∧ Requests t l ∧ l ∈ u.held.map (·.1)

-- ════════════════════════════════════════════════════════════════════════
-- Ranks
-- ════════════════════════════════════════════════════════════════════════

variable (rank : Lock → ℕ)

/-- Every acquisition is of a lock of higher rank than those held at that point. -/
def Ordered : List (Lock × Bool) → List (LockAct Lock) → Prop
  | _, [] => True
  | held, .acquire l shared :: rest =>
    (∀ e ∈ held, rank e.1 < rank l) ∧ Ordered ((l, shared) :: held) rest
  | held, .release l :: rest => Ordered (giveBack l held) rest

theorem Ordered.requests {t : LockThread Lock} {l : Lock} (h : Ordered rank t.held t.todo)
    (hr : Requests t l) : ∀ e ∈ t.held, rank e.1 < rank l := by
  obtain ⟨shared, rest, htodo⟩ := hr
  rw [htodo] at h
  exact h.1

theorem Ordered.next {t t' : LockThread Lock} {all : List (Lock × Bool)}
    (h : Ordered rank t.held t.todo) (hn : t.next all = some t') :
    Ordered rank t'.held t'.todo := by
  unfold LockThread.next at hn
  split at hn
  · cases hn
  · next l shared rest htodo =>
    split at hn
    · cases hn
      rw [htodo] at h
      exact h.2
    · cases hn
  · next l rest htodo =>
    cases hn
    rw [htodo] at h
    exact h

/-- Threads whose jobs are ordered stay ordered. -/
theorem ordered_of_reached {jobs : List (LockAct Lock) → Prop}
    {guard : List (LockThread Lock) → LockEvent Lock → Prop}
    (hjobs : ∀ s job, guard s (.spawn job) → jobs job → Ordered rank [] job)
    {s : List (LockThread Lock)} (hs : (lockSystem jobs).ReachedUnder guard s) :
    ∀ t ∈ s, Ordered rank t.held t.todo := by
  refine TransitionSystem.ReachedUnder.invariant (P := fun s => ∀ t ∈ s,
    Ordered rank t.held t.todo) ?_ ?_ hs
  · rintro s rfl
    simp
  · intro s e s' hp hg hst
    obtain ⟨hn, hj⟩ := hst
    cases e with
    | spawn job =>
      cases hn
      intro t ht
      rcases List.mem_append.mp ht with ht | ht
      · exact hp t ht
      · rw [List.mem_singleton.mp ht]
        exact hjobs s job hg (hj job rfl)
    | act i =>
      obtain ⟨t, ht, hn⟩ := Option.bind_eq_some_iff.mp hn
      obtain ⟨t', ht', rfl⟩ := Option.map_eq_some_iff.mp hn
      intro u hu
      rcases List.mem_or_eq_of_mem_set hu with hu | rfl
      · exact hp u hu
      · exact (hp t (List.mem_of_getElem? ht)).next rank ht'

/-- Along a chain of waiting threads the requested locks go up in rank. -/
theorem rank_lt_of_waits {s : List (LockThread Lock)}
    (h : ∀ t ∈ s, Ordered rank t.held t.todo) {i j : ℕ}
    (hw : Relation.TransGen (WaitsFor s) i j) :
    ∃ t l, s[i]? = some t ∧ Requests t l ∧
      ∀ u l', s[j]? = some u → Requests u l' → rank l < rank l' := by
  have edge : ∀ {i j : ℕ}, WaitsFor s i j → ∃ t l, s[i]? = some t ∧ Requests t l ∧
      ∀ u l', s[j]? = some u → Requests u l' → rank l < rank l' := by
    rintro i j ⟨t, u, l, ht, hu, hr, hl⟩
    refine ⟨t, l, ht, hr, fun u' l' hu' hr' => ?_⟩
    obtain rfl : u = u' := Option.some.inj (hu.symm.trans hu')
    obtain ⟨e, he, rfl⟩ := List.mem_map.mp hl
    exact (h u (List.mem_of_getElem? hu)).requests rank hr' e he
  induction hw with
  | single hij => exact edge hij
  | tail _ hjk ih =>
    obtain ⟨t, l, ht, hr, hlt⟩ := ih
    obtain ⟨u, l', hu, hr', hlt'⟩ := edge hjk
    exact ⟨t, l, ht, hr, fun v l'' hv hr'' =>
      Nat.lt_trans (hlt u l' hu hr') (hlt' v l'' hv hr'')⟩

/-- Ordered threads never wait in a cycle. -/
theorem no_cycle_of_ordered {s : List (LockThread Lock)}
    (h : ∀ t ∈ s, Ordered rank t.held t.todo) (i : ℕ) :
    ¬ Relation.TransGen (WaitsFor s) i i := by
  intro hw
  obtain ⟨t, l, ht, hr, hlt⟩ := rank_lt_of_waits rank h hw
  exact Nat.lt_irrefl _ (hlt t l ht hr)

-- ════════════════════════════════════════════════════════════════════════
-- Code
-- ════════════════════════════════════════════════════════════════════════

/-- Code, as far as locks go. `withInterp` runs its body with the interpreter lock, which is
taken unless the code holds it; `callout` runs interpreted code. -/
inductive LockedCode (Lock : Type)
  | skip
  | seq (c d : LockedCode Lock)
  | either (c d : LockedCode Lock)
  | repeated (c : LockedCode Lock)
  | locked (l : Lock) (shared : Bool) (body : LockedCode Lock)
  | withInterp (body : LockedCode Lock)
  | callout

namespace LockedCode

/-- Parts that run one after the other. -/
def block : List (LockedCode Lock) → LockedCode Lock
  | [] => .skip
  | c :: cs => .seq c (block cs)

/-- Parts that run one after the other, with a return after any of them. -/
def steps : List (LockedCode Lock) → LockedCode Lock
  | [] => .skip
  | c :: cs => .seq c (.either .skip (steps cs))

/-- A part that may be left out. -/
def maybe (c : LockedCode Lock) : LockedCode Lock := .either .skip c

/-- A part that runs a number of times. -/
def times (n : ℕ) (c : LockedCode Lock) : LockedCode Lock := block (List.replicate n c)

/-- The actions of the runs of code, with or without the interpreter lock at its start.
Interpreted code may give the interpreter lock up and take it back, and may call code. -/
inductive Runs (interp : Lock) (callable : LockedCode Lock → Prop) :
    Bool → LockedCode Lock → List (LockAct Lock) → Prop
  | skip {b} : Runs interp callable b .skip []
  | seq {b c d t u} : Runs interp callable b c t → Runs interp callable b d u →
      Runs interp callable b (.seq c d) (t ++ u)
  | left {b c d t} : Runs interp callable b c t → Runs interp callable b (.either c d) t
  | right {b c d t} : Runs interp callable b d t → Runs interp callable b (.either c d) t
  | stop {b c} : Runs interp callable b (.repeated c) []
  | again {b c t u} : Runs interp callable b c t → Runs interp callable b (.repeated c) u →
      Runs interp callable b (.repeated c) (t ++ u)
  | locked {b l shared c t} : Runs interp callable b c t →
      Runs interp callable b (.locked l shared c) (.acquire l shared :: t ++ [.release l])
  | held {c t} : Runs interp callable true c t → Runs interp callable true (.withInterp c) t
  | take {c t} : Runs interp callable true c t →
      Runs interp callable false (.withInterp c)
        (.acquire interp false :: t ++ [.release interp])
  | return : Runs interp callable true .callout []
  | switch {t} : Runs interp callable true .callout t →
      Runs interp callable true .callout (.release interp :: .acquire interp false :: t)
  | call {c t u} : callable c → Runs interp callable true c t →
      Runs interp callable true .callout u → Runs interp callable true .callout (t ++ u)

omit [DecidableEq Lock] in
/-- More callable code has more runs. -/
theorem Runs.mono {interp : Lock} {callable callable' : LockedCode Lock → Prop}
    (hle : ∀ c, callable c → callable' c) {b : Bool} {c : LockedCode Lock}
    {t : List (LockAct Lock)} (h : Runs interp callable b c t) :
    Runs interp callable' b c t := by
  induction h with
  | skip => exact .skip
  | seq _ _ ihc ihd => exact .seq ihc ihd
  | left _ ih => exact .left ih
  | right _ ih => exact .right ih
  | stop => exact .stop
  | again _ _ ihc ihr => exact .again ihc ihr
  | locked _ ih => exact .locked ih
  | held _ ih => exact .held ih
  | take _ ih => exact .take ih
  | «return» => exact .return
  | switch _ ih => exact .switch ih
  | call hc _ _ ihc ihu => exact .call (hle _ hc) ihc ihu

/-- Locks are taken in the order of the rank, and interpreted code runs with no lock held but
the interpreter's. -/
def Safe (interp : Lock) : List (Lock × Bool) → Bool → LockedCode Lock → Prop
  | _, _, .skip => True
  | held, b, .seq c d => Safe interp held b c ∧ Safe interp held b d
  | held, b, .either c d => Safe interp held b c ∧ Safe interp held b d
  | held, b, .repeated c => Safe interp held b c
  | held, b, .locked l shared c =>
    (∀ e ∈ held, rank e.1 < rank l) ∧ Safe interp ((l, shared) :: held) b c
  | held, true, .withInterp c => Safe interp held true c
  | held, false, .withInterp c =>
    (∀ e ∈ held, rank e.1 < rank interp) ∧ Safe interp ((interp, false) :: held) true c
  | held, b, .callout => b = true ∧ held = [(interp, false)]

instance decidableSafe (interp : Lock) :
    (held : List (Lock × Bool)) → (b : Bool) → (c : LockedCode Lock) →
      Decidable (Safe rank interp held b c)
  | _, _, .skip => .isTrue trivial
  | held, b, .seq c d =>
    @instDecidableAnd _ _ (decidableSafe interp held b c) (decidableSafe interp held b d)
  | held, b, .either c d =>
    @instDecidableAnd _ _ (decidableSafe interp held b c) (decidableSafe interp held b d)
  | held, b, .repeated c => decidableSafe interp held b c
  | held, b, .locked l shared c =>
    @instDecidableAnd _ _ inferInstance (decidableSafe interp ((l, shared) :: held) b c)
  | held, true, .withInterp c => decidableSafe interp held true c
  | held, false, .withInterp c =>
    @instDecidableAnd _ _ inferInstance (decidableSafe interp ((interp, false) :: held) true c)
  | held, b, .callout => inferInstanceAs (Decidable (b = true ∧ held = [(interp, false)]))

/-- The runs of safe code are ordered, whatever ordered actions come after them. -/
theorem Runs.ordered {interp : Lock} {callable : LockedCode Lock → Prop}
    (hcall : ∀ c, callable c → Safe rank interp [(interp, false)] true c)
    {b : Bool} {c : LockedCode Lock} {t : List (LockAct Lock)}
    (h : Runs interp callable b c t) {held : List (Lock × Bool)}
    (hsafe : Safe rank interp held b c) {rest : List (LockAct Lock)}
    (hrest : Ordered rank held rest) : Ordered rank held (t ++ rest) := by
  induction h generalizing held rest with
  | skip => exact hrest
  | seq _ _ ihc ihd =>
    rw [List.append_assoc]
    exact ihc hsafe.1 (ihd hsafe.2 hrest)
  | left _ ih => exact ih hsafe.1 hrest
  | right _ ih => exact ih hsafe.2 hrest
  | stop => exact hrest
  | again _ _ ihc ihr =>
    rw [List.append_assoc]
    exact ihc hsafe (ihr hsafe hrest)
  | @locked b l shared c t _ ih =>
    rw [List.append_assoc]
    refine ⟨hsafe.1, ih hsafe.2 ?_⟩
    change Ordered rank (giveBack l ((l, shared) :: held)) rest
    rwa [giveBack_cons]
  | held _ ih => exact ih hsafe hrest
  | @take c t _ ih =>
    rw [List.append_assoc]
    refine ⟨hsafe.1, ih hsafe.2 ?_⟩
    change Ordered rank (giveBack interp ((interp, false) :: held)) rest
    rwa [giveBack_cons]
  | «return» => exact hrest
  | switch _ ih =>
    obtain ⟨-, rfl⟩ := hsafe
    -- the interpreter lock is the only one held, so it is taken back with none held
    simp only [List.cons_append, Ordered, giveBack_cons]
    refine ⟨by simp, ?_⟩
    exact ih ⟨rfl, rfl⟩ hrest
  | call hc _ _ ihc ihu =>
    obtain ⟨-, rfl⟩ := hsafe
    rw [List.append_assoc]
    exact ihc (hcall _ hc) (ihu ⟨rfl, rfl⟩ hrest)

end LockedCode
