import OxyRoute.Lib.Transition
import Mathlib.Data.List.Basic
import Mathlib.Data.List.Nodup
import Mathlib.Data.List.Sublists

/-!
# A fair lock

A lock for the tasks of one event loop. A task that finds the lock held, or somebody in the queue,
joins the queue and sleeps on a future. Releasing the lock wakes the first of the queue, which
holds the lock only when it runs again. A sleeping task may be cancelled at any moment, also
between its waking and its running; it then passes the waking on to the next.

## Main definitions

- `FairLock` — the holder and the queue, with `acquire`, `release`, `cancel` and `resume`
- `FairLock.Orderly` — who may be awake, and who must be
- `LockRun`, `fairLockSystem` — a lock with the tasks that came to it and those it was given to

## Main results

- `FairLock.Orderly.exists_resume` — a free lock with a queue is taken
- `fair_of_reached` — the lock is given in the order in which tasks came
-/

variable {ι : Type*}

/-- The future of a task in the queue. -/
inductive Sleep
  | pending
  /-- It has a result; the task may have been cancelled since. -/
  | woken (mustCancel : Bool)
  | cancelled
  deriving DecidableEq, Repr

namespace Sleep

/-- The future has a result or was cancelled, so that its task will run. -/
def isDone : Sleep → Bool
  | .pending => false
  | _ => true

/-- Its task will find itself cancelled. -/
def isDoomed : Sleep → Bool
  | .pending => false
  | .woken mustCancel => mustCancel
  | .cancelled => true

/-- The task is cancelled. -/
def cancel : Sleep → Sleep
  | .pending => .cancelled
  | .woken _ => .woken true
  | .cancelled => .cancelled

/-- The future gets a result, unless it is done. -/
def wake : Sleep → Sleep
  | .pending => .woken false
  | s => s

@[simp]
theorem isDoomed_wake (s : Sleep) : s.wake.isDoomed = s.isDoomed := by cases s <;> rfl

@[simp]
theorem isDone_wake (s : Sleep) : s.wake.isDone = true := by cases s <;> rfl

@[simp]
theorem isDoomed_cancel (s : Sleep) : s.cancel.isDoomed = true := by cases s <;> rfl

end Sleep

/-- A lock. -/
structure FairLock (ι : Type*) where
  holder : Option ι
  waiters : List (ι × Sleep)
  deriving DecidableEq, Repr

namespace FairLock

/-- A free lock that nobody waits for. -/
def new : FairLock ι := ⟨none, []⟩

/-- A task comes: it holds the lock at once, or it joins the queue. -/
def acquire (l : FairLock ι) (i : ι) : FairLock ι :=
  if l.holder.isNone ∧ ∀ w ∈ l.waiters, w.2 = .cancelled then { l with holder := some i }
  else { l with waiters := l.waiters ++ [(i, .pending)] }

/-- The first of the queue is woken. -/
def wakeUpFirst (l : FairLock ι) : FairLock ι :=
  { l with waiters := l.waiters.modifyHead fun w => (w.1, w.2.wake) }

/-- The holder gives the lock back. -/
def release (l : FairLock ι) : FairLock ι := { l with holder := none }.wakeUpFirst

variable [DecidableEq ι]

/-- A task in the queue is cancelled. -/
def cancel (l : FairLock ι) (i : ι) : FairLock ι :=
  { l with waiters := l.waiters.map fun w => if w.1 = i then (i, w.2.cancel) else w }

/-- A task leaves the queue. -/
def leave (l : FairLock ι) (i : ι) : FairLock ι :=
  { l with waiters := l.waiters.filter fun w => w.1 ≠ i }

/-- A task whose future is done runs again: it takes the lock, or, if it was cancelled, makes sure
that the next one runs where nobody holds the lock. -/
def resume (l : FairLock ι) (i : ι) : Option (FairLock ι) :=
  match l.waiters.lookup i with
  | none => none
  | some s =>
    if s.isDone then
      if s.isDoomed then
        some (if l.holder.isNone then (l.leave i).wakeUpFirst else l.leave i)
      else some { l.leave i with holder := some i }
    else none

end FairLock

-- ════════════════════════════════════════════════════════════════════════
-- The order of the queue
-- ════════════════════════════════════════════════════════════════════════

/-- None of these tasks was woken. -/
def NoneWoken (ws : List (ι × Sleep)) : Prop := ∀ w ∈ ws, ∀ c, w.2 ≠ .woken c

namespace FairLock

/-- The tasks in the queue. -/
def queued (l : FairLock ι) : List ι := l.waiters.map Prod.fst

/-- The tasks in the queue that were not cancelled. -/
def live (l : FairLock ι) : List ι := (l.waiters.filter fun w => !w.2.isDoomed).map Prod.fst

/-- Only the first of the queue may be awake, and only while nobody holds the lock; then it is. -/
structure Orderly (l : FairLock ι) : Prop where
  nodup : l.queued.Nodup
  holder : ∀ i, l.holder = some i → i ∉ l.queued
  tail : NoneWoken l.waiters.tail
  held : l.holder ≠ none → NoneWoken l.waiters
  free : l.holder = none → ∀ w, l.waiters.head? = some w → w.2.isDone = true

end FairLock

section

variable {ws : List (ι × Sleep)} {l : FairLock ι} {i : ι}

theorem NoneWoken.mono {ws' : List (ι × Sleep)} (h : NoneWoken ws) (hsub : ws' ⊆ ws) :
    NoneWoken ws' :=
  fun w hw => h w (hsub hw)

/-- What is left of a list has its tail in the tail. -/
theorem tail_filter_subset (p : ι × Sleep → Bool) (ws : List (ι × Sleep)) :
    (ws.filter p).tail ⊆ ws.tail := by
  cases ws with
  | nil => exact List.Subset.refl _
  | cons w ws =>
    by_cases hw : p w = true
    · rw [List.filter_cons_of_pos hw]
      exact List.filter_subset_self ws
    · rw [List.filter_cons_of_neg hw]
      exact fun v hv => List.filter_subset_self ws (List.mem_of_mem_tail hv)

theorem noneWoken_map_cancel [DecidableEq ι] (h : NoneWoken ws) :
    NoneWoken (ws.map fun w => if w.1 = i then (i, w.2.cancel) else w) := by
  intro w hw c
  obtain ⟨v, hv, rfl⟩ := List.mem_map.mp hw
  split
  · cases hs : v.2 with
    | woken c' => exact absurd hs (h v hv c')
    | pending => exact Sleep.noConfusion
    | cancelled => exact Sleep.noConfusion
  · exact h v hv c

/-- The first of the queue leaves. -/
theorem filter_ne_cons_self [DecidableEq ι] (h : i ∉ ws.map Prod.fst) (s : Sleep) :
    (((i, s) :: ws).filter fun w => w.1 ≠ i) = ws := by
  rw [List.filter_cons_of_neg (p := fun w : ι × Sleep => w.1 ≠ i)
    fun hne => of_decide_eq_true hne rfl, List.filter_eq_self]
  intro w hw
  have hne : w.1 ≠ i := by
    rintro rfl
    exact h (List.mem_map_of_mem hw)
  exact decide_eq_true hne

namespace FairLock

@[simp]
theorem queued_wakeUpFirst (l : FairLock ι) : l.wakeUpFirst.queued = l.queued := by
  unfold queued wakeUpFirst
  cases l.waiters <;> rfl

@[simp]
theorem live_wakeUpFirst (l : FairLock ι) : l.wakeUpFirst.live = l.live := by
  unfold live wakeUpFirst
  cases l.waiters with
  | nil => rfl
  | cons w ws =>
    simp only [List.modifyHead_cons, List.filter_cons, Sleep.isDoomed_wake]
    split <;> rfl

theorem holder_wakeUpFirst (l : FairLock ι) : l.wakeUpFirst.holder = l.holder := rfl

theorem orderly_new : (new : FairLock ι).Orderly where
  nodup := List.nodup_nil
  holder i h := by cases h
  tail w hw := by cases hw
  held h := absurd rfl h
  free _ w hw := by cases hw

/-- Waking the first of the queue of a free lock. -/
theorem orderly_wakeUpFirst (hnodup : l.queued.Nodup) (hholder : l.holder = none)
    (htail : NoneWoken l.waiters.tail) : l.wakeUpFirst.Orderly where
  nodup := by rwa [queued_wakeUpFirst]
  holder i h := by
    rw [holder_wakeUpFirst, hholder] at h
    cases h
  tail := by
    unfold wakeUpFirst
    cases hws : l.waiters with
    | nil => exact fun w hw => absurd hw List.not_mem_nil
    | cons w ws =>
      rw [hws] at htail
      exact htail
  held h := absurd hholder h
  free _ w hw := by
    unfold wakeUpFirst at hw
    cases hws : l.waiters with
    | nil =>
      rw [hws] at hw
      cases hw
    | cons v ws =>
      rw [hws] at hw
      obtain rfl := Option.some.inj hw
      exact Sleep.isDone_wake _

theorem Orderly.release (h : l.Orderly) : l.release.Orderly :=
  orderly_wakeUpFirst h.nodup rfl h.tail

theorem queued_join (l : FairLock ι) (i : ι) :
    ({ l with waiters := l.waiters ++ [(i, .pending)] } : FairLock ι).queued = l.queued ++ [i] :=
  List.map_append

/-- A task that comes holds a free lock that nobody waits for; else it is the last of the queue. -/
theorem acquire_cases (l : FairLock ι) (i : ι) :
    l.holder = none ∧ (∀ w ∈ l.waiters, w.2 = .cancelled) ∧
      l.acquire i = { l with holder := some i } ∨
    (l.holder = none → l.waiters ≠ []) ∧
      l.acquire i = { l with waiters := l.waiters ++ [(i, .pending)] } := by
  unfold acquire
  split
  · next h => exact .inl ⟨Option.isNone_iff_eq_none.mp h.1, h.2, rfl⟩
  · next h =>
    refine .inr ⟨fun hnone hnil => h ⟨Option.isNone_iff_eq_none.mpr hnone, ?_⟩, rfl⟩
    rw [hnil]
    exact fun w hw => absurd hw List.not_mem_nil

theorem Orderly.acquire (h : l.Orderly) (hholder : l.holder ≠ some i) (hi : i ∉ l.queued) :
    (l.acquire i).Orderly := by
  rcases acquire_cases l i with ⟨hnone, hall, heq⟩ | ⟨hsome, heq⟩
  · have hwoken : NoneWoken l.waiters := by
      intro w hw c hc
      rw [hall w hw] at hc
      cases hc
    rw [heq]
    refine ⟨h.nodup, ?_, h.tail, fun _ => hwoken, fun hh => by cases hh⟩
    intro j hj
    obtain rfl := Option.some.inj hj
    exact hi
  · have hpending : NoneWoken [(i, Sleep.pending)] := by
      intro w hw c
      rw [List.mem_singleton.mp hw]
      exact Sleep.noConfusion
    rw [heq]
    refine ⟨?_, ?_, ?_, ?_, ?_⟩
    · rw [queued_join]
      exact List.Nodup.append h.nodup (List.nodup_singleton i)
        (List.disjoint_singleton.mpr hi)
    · intro j hj hmem
      rw [queued_join] at hmem
      rcases List.mem_append.mp hmem with hmem | hmem
      · exact h.holder j hj hmem
      · obtain rfl := List.mem_singleton.mp hmem
        exact hholder hj
    · intro w hw
      have hsub : w ∈ l.waiters.tail ++ [(i, Sleep.pending)] := by
        cases hws : l.waiters with
        | nil =>
          rw [hws] at hw
          exact absurd hw List.not_mem_nil
        | cons v ws =>
          rw [hws] at hw
          exact hw
      rcases List.mem_append.mp hsub with hw | hw
      · exact h.tail w hw
      · exact hpending w hw
    · intro hheld w hw
      rcases List.mem_append.mp hw with hw | hw
      · exact h.held hheld w hw
      · exact hpending w hw
    · intro hnone w hw
      cases hws : l.waiters with
      | nil => exact absurd hws (hsome hnone)
      | cons v ws =>
        rw [hws] at hw
        exact h.free hnone w (by rw [hws]; exact hw)

theorem live_join (l : FairLock ι) (i : ι) :
    ({ l with waiters := l.waiters ++ [(i, .pending)] } : FairLock ι).live = l.live ++ [i] := by
  unfold live
  rw [List.filter_append, List.map_append]
  rfl

theorem live_eq_nil (h : ∀ w ∈ l.waiters, w.2 = .cancelled) : l.live = [] := by
  unfold live
  rw [List.map_eq_nil_iff, List.filter_eq_nil_iff]
  intro w hw
  rw [h w hw]
  exact Bool.false_ne_true

theorem live_release (l : FairLock ι) : l.release.live = l.live := live_wakeUpFirst _

variable [DecidableEq ι]

@[simp]
theorem queued_cancel (l : FairLock ι) (i : ι) : (l.cancel i).queued = l.queued := by
  unfold queued cancel
  rw [List.map_map]
  refine List.map_congr_left fun w _ => ?_
  show (if w.1 = i then (i, w.2.cancel) else w).1 = w.1
  split
  · next h => exact h.symm
  · rfl

theorem Orderly.cancel (h : l.Orderly) (i : ι) : (l.cancel i).Orderly where
  nodup := by rw [queued_cancel]; exact h.nodup
  holder j hj := by rw [queued_cancel]; exact h.holder j hj
  tail := by
    have htail : (l.cancel i).waiters.tail =
        l.waiters.tail.map fun w => if w.1 = i then (i, w.2.cancel) else w := List.map_tail.symm
    rw [htail]
    exact noneWoken_map_cancel h.tail
  held hheld := noneWoken_map_cancel (h.held hheld)
  free hnone w hw := by
    unfold FairLock.cancel at hw
    rw [List.head?_map] at hw
    obtain ⟨v, hv, rfl⟩ := Option.map_eq_some_iff.mp hw
    have hdone := h.free hnone v hv
    split
    · cases hs : v.2 with
      | pending => rw [hs] at hdone; cases hdone
      | woken _ => rfl
      | cancelled => rfl
    · exact hdone

theorem queued_leave (l : FairLock ι) (i : ι) :
    (l.leave i).queued = l.queued.filter fun j => j ≠ i := by
  unfold queued leave
  rw [List.filter_map]
  rfl

theorem nodup_leave (h : l.queued.Nodup) (i : ι) : (l.leave i).queued.Nodup := by
  rw [queued_leave]
  exact h.filter _

/-- A task that leaves a lock that is held. -/
theorem Orderly.leave (h : l.Orderly) (hheld : l.holder ≠ none) (i : ι) : (l.leave i).Orderly where
  nodup := nodup_leave h.nodup i
  holder j hj hmem := by
    rw [queued_leave] at hmem
    exact h.holder j hj (List.mem_of_mem_filter hmem)
  tail := h.tail.mono (tail_filter_subset _ _)
  held _ := (h.held hheld).mono (List.filter_subset_self _)
  free hnone := absurd hnone hheld

/-- What running again means: the first of the queue takes a free lock, or a cancelled task leaves
the queue. -/
theorem Orderly.resume_cases {l' : FairLock ι} (h : l.Orderly) (hl' : l.resume i = some l') :
    (∃ ws, l.holder = none ∧ l.waiters = (i, .woken false) :: ws ∧ l' = ⟨some i, ws⟩) ∨
    (∃ s, (i, s) ∈ l.waiters ∧ s.isDoomed = true) ∧
      l' = if l.holder.isNone then (l.leave i).wakeUpFirst else l.leave i := by
  unfold FairLock.resume at hl'
  split at hl'
  · cases hl'
  next s hs =>
  obtain ⟨before, after, hws, -⟩ := List.lookup_eq_some_iff.mp hs
  have hmem : (i, s) ∈ l.waiters := hws ▸ List.mem_append_right _ List.mem_cons_self
  split at hl'
  · next hdone =>
    split at hl'
    · next hdoomed => exact .inr ⟨⟨s, hmem, hdoomed⟩, (Option.some.inj hl').symm⟩
    · next hfine =>
      obtain rfl : s = .woken false := by
        cases s with
        | pending => cases hdone
        | cancelled => exact absurd rfl hfine
        | woken c => exact congrArg Sleep.woken (Bool.eq_false_iff.mpr hfine)
      have hnone : l.holder = none := by
        by_contra hheld
        exact h.held hheld _ hmem false rfl
      -- Nobody behind the first of the queue was woken.
      cases before with
      | cons w before =>
        rw [hws] at hmem
        have htail : NoneWoken (before ++ (i, Sleep.woken false) :: after) := by
          have := h.tail
          rwa [hws] at this
        exact absurd rfl (htail _ (List.mem_append_right _ List.mem_cons_self) false)
      | nil =>
        refine .inl ⟨after, hnone, hws, (Option.some.inj hl').symm.trans
          (congrArg (FairLock.mk (some i)) ?_)⟩
        have hnodup : (i :: after.map Prod.fst).Nodup := by
          have := h.nodup
          unfold queued at this
          rwa [hws] at this
        unfold FairLock.leave
        rw [hws]
        exact filter_ne_cons_self (List.nodup_cons.mp hnodup).1 _
  · cases hl'

theorem Orderly.resume {l' : FairLock ι} (h : l.Orderly) (hl' : l.resume i = some l') :
    l'.Orderly := by
  rcases h.resume_cases hl' with ⟨ws, -, hws, rfl⟩ | ⟨-, rfl⟩
  · have hnodup : (i :: ws.map Prod.fst).Nodup := by
      have := h.nodup
      unfold queued at this
      rwa [hws] at this
    have htail : NoneWoken ws := by
      have := h.tail
      rwa [hws] at this
    refine ⟨(List.nodup_cons.mp hnodup).2, ?_, htail.mono (List.tail_sublist ws).subset,
      fun _ => htail, fun hnone => by cases hnone⟩
    intro j hj
    obtain rfl := Option.some.inj hj
    exact (List.nodup_cons.mp hnodup).1
  · split
    · next hnone =>
      exact orderly_wakeUpFirst (nodup_leave h.nodup i) (Option.isNone_iff_eq_none.mp hnone)
        (h.tail.mono (tail_filter_subset _ _))
    · next hheld => exact h.leave (fun hnone => hheld (Option.isNone_iff_eq_none.mpr hnone)) i

/-- A task that runs again leaves the queue. -/
theorem Orderly.queued_resume {l' : FairLock ι} (h : l.Orderly) (hl' : l.resume i = some l') :
    i ∈ l.queued ∧ l'.queued = l.queued.filter fun j => j ≠ i := by
  rcases h.resume_cases hl' with ⟨ws, -, hws, rfl⟩ | ⟨⟨s, hs, -⟩, rfl⟩
  · have hnodup : (i :: ws.map Prod.fst).Nodup := by
      have := h.nodup
      unfold queued at this
      rwa [hws] at this
    refine ⟨List.mem_map.mpr ⟨(i, .woken false), hws ▸ List.mem_cons_self, rfl⟩, ?_⟩
    rw [← queued_leave]
    unfold queued FairLock.leave
    rw [hws, filter_ne_cons_self (List.nodup_cons.mp hnodup).1]
  · refine ⟨List.mem_map.mpr ⟨(i, s), hs, rfl⟩, ?_⟩
    rw [← queued_leave]
    split
    · exact queued_wakeUpFirst _
    · rfl

/-- While nobody holds the lock, the first of the queue runs again. -/
theorem Orderly.exists_resume (h : l.Orderly) (hnone : l.holder = none) (hne : l.waiters ≠ []) :
    ∃ i, (l.resume i).isSome := by
  cases hws : l.waiters with
  | nil => exact absurd hws hne
  | cons w ws =>
    have hdone : w.2.isDone = true := h.free hnone w (by rw [hws]; rfl)
    refine ⟨w.1, ?_⟩
    unfold FairLock.resume
    rw [hws, List.lookup_cons_self]
    simp only [hdone, if_true]
    split <;> rfl

theorem live_leave_sublist (l : FairLock ι) (i : ι) : (l.leave i).live.Sublist l.live :=
  (List.filter_sublist.filter _).map _

theorem live_cancel_sublist (l : FairLock ι) (i : ι) : (l.cancel i).live.Sublist l.live := by
  unfold live cancel
  generalize l.waiters = ws
  induction ws with
  | nil => exact .slnil
  | cons w ws ih =>
    rw [List.map_cons]
    by_cases hw : w.1 = i
    · rw [if_pos hw, List.filter_cons_of_neg (by simp)]
      exact ih.trans ((List.sublist_cons_self w ws).filter _ |>.map _)
    · rw [if_neg hw, List.filter_cons, List.filter_cons]
      split
      · exact ih.cons_cons w.1
      · exact ih

/-- Running again gives the lock to the first of those that are not cancelled, or to nobody. -/
theorem Orderly.live_resume {l' : FairLock ι} (h : l.Orderly) (hl' : l.resume i = some l') :
    l.holder = none ∧ l'.holder = some i ∧ l.live = i :: l'.live ∨
    l'.holder = l.holder ∧ l'.live.Sublist l.live := by
  rcases h.resume_cases hl' with ⟨ws, hnone, hws, rfl⟩ | ⟨-, rfl⟩
  · refine .inl ⟨hnone, rfl, ?_⟩
    unfold live
    rw [hws]
    rfl
  · refine .inr ?_
    split
    · exact ⟨rfl, (live_wakeUpFirst _).symm ▸ live_leave_sublist l i⟩
    · exact ⟨rfl, live_leave_sublist l i⟩

end FairLock

end

-- ════════════════════════════════════════════════════════════════════════
-- Runs
-- ════════════════════════════════════════════════════════════════════════

/-- A lock, the tasks that came to it and those it was given to, in order. -/
structure LockRun (ι : Type*) where
  lock : FairLock ι
  came : List ι
  given : List ι
  deriving DecidableEq, Repr

/-- What happens to a lock. -/
inductive TurnEvent (ι : Type*)
  | acquire (i : ι)
  | release
  | cancel (i : ι)
  | resume (i : ι)

namespace LockRun

variable [DecidableEq ι]

/-- The state after `lock` has changed for the task `i`, which may hold it now. -/
def give (r : LockRun ι) (lock : FairLock ι) (i : ι) : LockRun ι :=
  { r with lock := lock, given := if lock.holder = some i then r.given ++ [i] else r.given }

/-- A task comes. -/
def come (r : LockRun ι) (i : ι) : LockRun ι :=
  { r with came := r.came ++ [i] }.give (r.lock.acquire i) i

/-- The lock is given back. -/
def back (r : LockRun ι) : LockRun ι := { r with lock := r.lock.release }

/-- One step; each task comes once, and only a lock that is held is released. -/
def next (r : LockRun ι) : TurnEvent ι → Option (LockRun ι)
  | .acquire i => if i ∈ r.came then none else some (r.come i)
  | .release => if r.lock.holder = none then none else some r.back
  | .cancel i => some { r with lock := r.lock.cancel i }
  | .resume i => (r.lock.resume i).map fun lock => r.give lock i

/-- A lock that is fair so far. -/
structure Fair (r : LockRun ι) : Prop where
  orderly : r.lock.Orderly
  nodup : r.came.Nodup
  sublist : (r.given ++ r.lock.live).Sublist r.came
  queued : ∀ i ∈ r.lock.queued, i ∈ r.came
  holder : ∀ i, r.lock.holder = some i → i ∈ r.given

end LockRun

/-- A lock from its creation. -/
def fairLockSystem (ι : Type*) [DecidableEq ι] : TransitionSystem (LockRun ι) (TurnEvent ι) where
  init r := r = ⟨.new, [], []⟩
  step r e r' := r.next e = some r'

section

variable {r r' : LockRun ι} {e : TurnEvent ι} {i : ι}

namespace LockRun

theorem Fair.mem_came (h : r.Fair) (hi : r.lock.holder = some i) : i ∈ r.came :=
  h.sublist.subset (List.mem_append_left _ (h.holder i hi))

theorem Fair.back (h : r.Fair) : r.back.Fair where
  orderly := h.orderly.release
  nodup := h.nodup
  sublist := by
    show (r.given ++ r.lock.release.live).Sublist r.came
    rw [FairLock.live_release]
    exact h.sublist
  queued i hi := h.queued i ((FairLock.queued_wakeUpFirst _) ▸ hi)
  holder i hi := by cases hi

variable [DecidableEq ι]

theorem Fair.come (h : r.Fair) (hi : i ∉ r.came) : (r.come i).Fair := by
  have hholder : r.lock.holder ≠ some i := fun hh => hi (h.mem_came hh)
  have hqueued : i ∉ r.lock.queued := fun hq => hi (h.queued i hq)
  have horderly := h.orderly.acquire hholder hqueued
  have hnodup : (r.came ++ [i]).Nodup :=
    h.nodup.append (List.nodup_singleton i) (List.disjoint_singleton.mpr hi)
  unfold LockRun.come
  rcases FairLock.acquire_cases r.lock i with ⟨-, hall, heq⟩ | ⟨-, heq⟩ <;> rw [heq] at horderly ⊢
  · -- Nobody that is not cancelled waits, and the task holds the lock.
    have hgiven : r.given.Sublist r.came := (List.sublist_append_left _ _).trans h.sublist
    have hlive : FairLock.live ⟨some i, r.lock.waiters⟩ = [] := FairLock.live_eq_nil hall
    refine ⟨horderly, hnodup, ?_, fun j hj => List.mem_append_left _ (h.queued j hj), ?_⟩
    · show ((if some i = some i then r.given ++ [i] else r.given) ++
        FairLock.live ⟨some i, r.lock.waiters⟩).Sublist (r.came ++ [i])
      rw [if_pos rfl, hlive, List.append_nil]
      exact hgiven.append (List.Sublist.refl [i])
    · intro j hj
      show j ∈ if some i = some i then r.given ++ [i] else r.given
      rw [if_pos rfl]
      exact List.mem_append_right _ (List.mem_singleton.mpr (Option.some.inj hj).symm)
  · refine ⟨horderly, hnodup, ?_, ?_, ?_⟩
    · show ((if r.lock.holder = some i then r.given ++ [i] else r.given) ++
        FairLock.live ⟨r.lock.holder, r.lock.waiters ++ [(i, .pending)]⟩).Sublist (r.came ++ [i])
      rw [if_neg hholder, FairLock.live_join, ← List.append_assoc]
      exact h.sublist.append (List.Sublist.refl [i])
    · intro j hj
      rw [show (LockRun.give _ _ i).lock.queued = r.lock.queued ++ [i] from
        FairLock.queued_join r.lock i] at hj
      exact List.mem_append.mpr ((List.mem_append.mp hj).imp_left (h.queued j))
    · intro j hj
      show j ∈ if r.lock.holder = some i then r.given ++ [i] else r.given
      rw [if_neg hholder]
      exact h.holder j hj

theorem Fair.cancel (h : r.Fair) (i : ι) : { r with lock := r.lock.cancel i }.Fair where
  orderly := h.orderly.cancel i
  nodup := h.nodup
  sublist := ((List.Sublist.refl _).append (FairLock.live_cancel_sublist r.lock i)).trans h.sublist
  queued j hj := h.queued j ((FairLock.queued_cancel r.lock i) ▸ hj)
  holder := h.holder

theorem Fair.resume {lock : FairLock ι} (h : r.Fair) (hlock : r.lock.resume i = some lock) :
    (r.give lock i).Fair := by
  obtain ⟨hmem, hqueued⟩ := h.orderly.queued_resume hlock
  have hsub : ∀ j ∈ lock.queued, j ∈ r.came := fun j hj =>
    h.queued j (List.mem_of_mem_filter (hqueued ▸ hj))
  have hne : r.lock.holder ≠ some i := fun hi => h.orderly.holder i hi hmem
  rcases h.orderly.live_resume hlock with ⟨-, hholder, hlive⟩ | ⟨hholder, hlive⟩
  · refine ⟨h.orderly.resume hlock, h.nodup, ?_, hsub, ?_⟩
    · show ((if lock.holder = some i then r.given ++ [i] else r.given) ++ lock.live).Sublist r.came
      rw [if_pos hholder, List.append_assoc, List.singleton_append, ← hlive]
      exact h.sublist
    · intro j hj
      show j ∈ if lock.holder = some i then r.given ++ [i] else r.given
      rw [if_pos hholder]
      exact List.mem_append_right _
        (List.mem_singleton.mpr (Option.some.inj (hholder.symm.trans hj)).symm)
  · have hgiven : (if lock.holder = some i then r.given ++ [i] else r.given) = r.given :=
      if_neg (hholder ▸ hne)
    refine ⟨h.orderly.resume hlock, h.nodup, ?_, hsub, ?_⟩
    · show ((if lock.holder = some i then r.given ++ [i] else r.given) ++ lock.live).Sublist r.came
      rw [hgiven]
      exact ((List.Sublist.refl _).append hlive).trans h.sublist
    · intro j hj
      show j ∈ if lock.holder = some i then r.given ++ [i] else r.given
      rw [hgiven]
      exact h.holder j (hholder ▸ hj)

/-- A task that comes is given a lock that is free, or joins the queue. -/
theorem Fair.come_cases (h : r.Fair) (hi : i ∉ r.came) :
    r.lock.holder = none ∧ (r.come i).lock.holder = some i ∧ (r.come i).given = r.given ++ [i] ∧
      (r.come i).lock.queued = r.lock.queued ∨
    (r.come i).lock.holder = r.lock.holder ∧ r.lock.holder ≠ some i ∧ (r.come i).given = r.given ∧
      (r.come i).lock.queued = r.lock.queued ++ [i] := by
  have hholder : r.lock.holder ≠ some i := fun hh => hi (h.mem_came hh)
  unfold LockRun.come
  rcases FairLock.acquire_cases r.lock i with ⟨hnone, -, heq⟩ | ⟨-, heq⟩ <;> rw [heq]
  · exact .inl ⟨hnone, rfl, if_pos rfl, rfl⟩
  · exact .inr ⟨rfl, hholder, if_neg hholder, FairLock.queued_join r.lock i⟩

/-- A task that runs again is given a lock that is free, or was cancelled. -/
theorem Fair.resume_cases {lock : FairLock ι} (h : r.Fair) (hlock : r.lock.resume i = some lock) :
    (r.lock.holder = none ∧ lock.holder = some i ∧ (r.give lock i).given = r.given ++ [i] ∨
      lock.holder = r.lock.holder ∧ r.lock.holder ≠ some i ∧ (r.give lock i).given = r.given) ∧
    lock.queued = r.lock.queued.filter fun j => j ≠ i := by
  obtain ⟨hmem, hqueued⟩ := h.orderly.queued_resume hlock
  have hne : r.lock.holder ≠ some i := fun hi => h.orderly.holder i hi hmem
  refine ⟨?_, hqueued⟩
  rcases h.orderly.live_resume hlock with ⟨hnone, hholder, -⟩ | ⟨hholder, -⟩
  · exact .inl ⟨hnone, hholder, if_pos hholder⟩
  · exact .inr ⟨hholder, hne, if_neg (hholder ▸ hne)⟩

/-- Every step keeps a lock fair. -/
theorem Fair.next (h : r.Fair) (hnext : r.next e = some r') : r'.Fair := by
  cases e with
  | acquire i =>
    rw [LockRun.next] at hnext
    split at hnext
    · cases hnext
    · next hi => exact Option.some.inj hnext ▸ h.come hi
  | release =>
    rw [LockRun.next] at hnext
    split at hnext
    · cases hnext
    · exact Option.some.inj hnext ▸ h.back
  | cancel i => exact Option.some.inj hnext ▸ h.cancel i
  | resume i =>
    obtain ⟨lock, hlock, rfl⟩ := Option.map_eq_some_iff.mp hnext
    exact h.resume hlock

end LockRun

/-- In every run the lock is given in the order in which tasks came, to each at most once, and the
first of the queue of a free lock is awake. -/
theorem fair_of_reached [DecidableEq ι] (hr : (fairLockSystem ι).Reached r) : r.Fair := by
  refine hr.invariant ?_ fun r e r' h hnext => h.next hnext
  rintro r rfl
  exact ⟨FairLock.orderly_new, List.nodup_nil, .slnil, fun i hi => absurd hi List.not_mem_nil,
    fun i hi => by cases hi⟩

end
