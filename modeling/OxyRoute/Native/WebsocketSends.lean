import OxyRoute.Lib.FairLock
import OxyRoute.Native.Websocket

/-!
# Concurrent sends

The sends of one WebSocket, each a coroutine of its own. They share the write lock of the
`WebSocket` and are interleaved at every `await`: on the lock, and on the transport. A coroutine
may be cancelled wherever it waits, and the transport may raise.

## Main definitions

- `Outgoing.frame` — what a send passes to the transport
- `Sending`, `sendSystem` — the sends of a WebSocket and their steps
- `wireOf` — frames written one after the other

## Main results

- `sends_law` — frames do not overlap, and go out in the order in which they came to the lock
- `sends_end` — every send comes to its end
-/

namespace OxyRoute

variable {τ Ref : Type}

/-- A call of `send_text`, `send_bytes` or `send_json`. -/
inductive Outgoing (Ref : Type)
  | text (data : String)
  | bytes (data : PyVal Ref)
  | json (data : PyVal Ref)

/-- What the transport is called with, by `send_str` or by `send_bytes`. -/
inductive OutFrame (Ref : Type)
  | str (s : String)
  | bytes (data : PyVal Ref)

/-- The frame of a send. `dumped` is what `json.dumps` makes of the data. -/
def Outgoing.frame (dumped : Except (PyErr Ref) String) :
    Outgoing Ref → Except (PyErr Ref) (OutFrame Ref)
  | .text data => .ok (.str data)
  | .bytes data => .ok (.bytes data)
  | .json _ => dumped.map .str

/-- How far a coroutine has come. -/
inductive SendStage (Ref : Type)
  | created
  | queued (frame : OutFrame Ref)
  | writing (frame : OutFrame Ref)
  | sent (frame : OutFrame Ref)
  /-- It raised, or it was cancelled. -/
  | failed

/-- A send, with the transport there was when it was called. -/
structure SendTask (τ Ref : Type) where
  transport : τ
  outgoing : Outgoing Ref
  stage : SendStage Ref

/-- A frame that is passed to a transport. -/
structure Write (τ Ref : Type) where
  task : ℕ
  transport : τ
  frame : OutFrame Ref

/-- What is seen on the transports: a call, and its end. -/
inductive WireWrite (τ Ref : Type)
  | begins (w : Write τ Ref)
  | ends (task : ℕ) (ok : Bool)

/-- A WebSocket and the sends it was called for. -/
structure Sending (τ Ref : Type) where
  transport : Option τ
  tasks : List (SendTask τ Ref)
  lock : LockRun ℕ
  wire : List (WireWrite τ Ref)

/-- What happens to the sends of a WebSocket. -/
inductive SendEvent (τ Ref : Type)
  | accept (transport : τ)
  | call (outgoing : Outgoing Ref)
  | start (i : ℕ) (dumped : Except (PyErr Ref) String)
  | resume (i : ℕ)
  | cancel (i : ℕ)
  | ends (i : ℕ) (ok : Bool)

namespace Sending

/-- A call of a `send_*` method; the coroutine does not run yet. -/
def send (s : Sending τ Ref) (outgoing : Outgoing Ref) : Sending τ Ref × Except (PyErr Ref) ℕ :=
  match s.transport with
  | none => (s, .error WebSocket.notAccepted)
  | some t => ({ s with tasks := s.tasks ++ [⟨t, outgoing, .created⟩] }, .ok s.tasks.length)

/-- A coroutine goes on to another stage. -/
def move (s : Sending τ Ref) (i : ℕ) (stage : SendStage Ref) (lock : LockRun ℕ)
    (writes : List (WireWrite τ Ref)) : Sending τ Ref :=
  { s with
    tasks := s.tasks.modify i fun task => { task with stage := stage }
    lock := lock
    wire := s.wire ++ writes }

/-- The transport is called if the lock is held now. -/
def enter (s : Sending τ Ref) (i : ℕ) (transport : τ) (frame : OutFrame Ref) (lock : LockRun ℕ)
    (otherwise : SendStage Ref) : Sending τ Ref :=
  if lock.lock.holder = some i then
    s.move i (.writing frame) lock [.begins ⟨i, transport, frame⟩]
  else s.move i otherwise lock []

/-- One step; there is none where an event is not enabled. -/
def next (s : Sending τ Ref) : SendEvent τ Ref → Option (Sending τ Ref)
  | .accept transport => some { s with transport := some transport }
  | .call outgoing => some (s.send outgoing).1
  | .start i dumped =>
    match s.tasks[i]? with
    | some ⟨transport, outgoing, .created⟩ =>
      match outgoing.frame dumped with
      | .error _ => some (s.move i .failed s.lock [])
      | .ok frame => some (s.enter i transport frame (s.lock.come i) (.queued frame))
    | _ => none
  | .resume i =>
    match s.tasks[i]? with
    | some ⟨transport, _, .queued frame⟩ =>
      (s.lock.lock.resume i).map fun lock =>
        s.enter i transport frame (s.lock.give lock i) .failed
    | _ => none
  | .cancel i =>
    match s.tasks[i]? with
    | some ⟨_, _, .created⟩ => some (s.move i .failed s.lock [])
    | some ⟨_, _, .queued frame⟩ =>
      some (s.move i (.queued frame) { s.lock with lock := s.lock.lock.cancel i } [])
    | _ => some s
  | .ends i ok =>
    match s.tasks[i]? with
    | some ⟨_, _, .writing frame⟩ =>
      some (s.move i (if ok then .sent frame else .failed) s.lock.back [.ends i ok])
    | _ => none

end Sending

/-- The sends of a WebSocket from its creation. -/
def sendSystem (τ Ref : Type) : TransitionSystem (Sending τ Ref) (SendEvent τ Ref) where
  init s := s = ⟨none, [], ⟨.new, [], []⟩, []⟩
  step s e s' := s.next e = some s'

-- ════════════════════════════════════════════════════════════════════════
-- Frames one after the other
-- ════════════════════════════════════════════════════════════════════════

/-- Calls of a transport one after the other, and one that has not ended. -/
def wireOf (done : List (Write τ Ref × Bool)) (current : Option (Write τ Ref)) :
    List (WireWrite τ Ref) :=
  (done.flatMap fun w => [.begins w.1, .ends w.1.task w.2]) ++ current.toList.map .begins

/-- The sends whose frames were passed to a transport. -/
def writers (done : List (Write τ Ref × Bool)) (current : Option (Write τ Ref)) : List ℕ :=
  done.map (·.1.task) ++ current.toList.map (·.task)

/-- What a send has done, by its stage. -/
structure SendTask.Accords (lock : LockRun ℕ) (done : List (Write τ Ref × Bool))
    (current : Option (Write τ Ref)) (i : ℕ) (task : SendTask τ Ref) : Prop where
  created : task.stage = .created → i ∉ lock.came
  waiting : ∀ frame, task.stage = .queued frame →
    i ∉ writers done current ∧ ∃ dumped, task.outgoing.frame dumped = .ok frame
  queued : i ∈ lock.lock.queued ↔ ∃ frame, task.stage = .queued frame
  writing : ∀ frame, current = some ⟨i, task.transport, frame⟩ ↔ task.stage = .writing frame
  sent : ∀ frame, (⟨i, task.transport, frame⟩, true) ∈ done ↔ task.stage = .sent frame

/-- The send that a frame belongs to. -/
def Sending.Owns (s : Sending τ Ref) (w : Write τ Ref) : Prop :=
  ∃ task, s.tasks[w.task]? = some task ∧ task.transport = w.transport ∧
    ∃ dumped, task.outgoing.frame dumped = .ok w.frame

/-- The sends of a WebSocket, whose finished frames are `done` and whose open one is `current`. -/
structure OneAtATime (s : Sending τ Ref) (done : List (Write τ Ref × Bool))
    (current : Option (Write τ Ref)) : Prop where
  lock : (fairLockSystem ℕ).Reached s.lock
  wire : s.wire = wireOf done current
  given : s.lock.given = writers done current
  holder : s.lock.lock.holder = current.map (·.task)
  came : ∀ i ∈ s.lock.came, i < s.tasks.length
  tasks : ∀ i (task : SendTask τ Ref), s.tasks[i]? = some task →
    task.Accords s.lock done current i
  owns : ∀ w, w ∈ done.map Prod.fst ∨ current = some w → s.Owns w

section

variable {s s' : Sending τ Ref} {done done' : List (Write τ Ref × Bool)}
  {current current' : Option (Write τ Ref)} {lock : LockRun ℕ} {task : SendTask τ Ref} {i : ℕ}

theorem writers_done (w : Write τ Ref) (ok : Bool) :
    writers (done ++ [(w, ok)]) none = writers done (some w) := by
  unfold writers
  rw [List.map_append]
  exact List.append_nil _

theorem wireOf_some (w : Write τ Ref) : wireOf done (some w) = wireOf done none ++ [.begins w] := by
  unfold wireOf
  exact congrArg (· ++ _) (List.append_nil _).symm

theorem wireOf_done (w : Write τ Ref) (ok : Bool) :
    wireOf (done ++ [(w, ok)]) none = wireOf done (some w) ++ [.ends w.task ok] := by
  unfold wireOf
  rw [List.flatMap_append, List.append_assoc, List.append_assoc]
  rfl

namespace OneAtATime

variable (h : OneAtATime s done current)

include h

theorem fair : s.lock.Fair := fair_of_reached h.lock

theorem mem_came_of_queued (hi : i ∈ s.lock.lock.queued) : i ∈ s.lock.came := h.fair.queued i hi

/-- A send that wrote or writes came to the lock. -/
theorem mem_came_of_writers (hi : i ∈ writers done current) : i ∈ s.lock.came :=
  h.fair.sublist.subset (List.mem_append_left _ (h.given ▸ hi))

/-- A send that has come to the lock exists. -/
theorem exists_task (hi : i ∈ s.lock.came) : ∃ task, s.tasks[i]? = some task :=
  ⟨_, List.getElem?_eq_getElem (h.came i hi)⟩

/-- Each send writes at most once. -/
theorem nodup_writers : (writers done current).Nodup := by
  have hsub : (writers done current).Sublist s.lock.came :=
    h.given ▸ (List.sublist_append_left _ _).trans h.fair.sublist
  exact hsub.nodup h.fair.nodup

end OneAtATime

/-- A send goes on, and nothing changes for the others. -/
theorem OneAtATime.move {stage : SendStage Ref} {writes : List (WireWrite τ Ref)}
    (h : OneAtATime s done current) (hi : s.tasks[i]? = some task)
    (hlock : (fairLockSystem ℕ).Reached lock)
    (hwire : wireOf done current ++ writes = wireOf done' current')
    (hgiven : lock.given = writers done' current')
    (hholder : lock.lock.holder = current'.map (·.task))
    (hcame : ∀ j ∈ lock.came, j ∈ s.lock.came ∨ j = i)
    (hmore : ∀ j ∈ lock.given, j ∈ s.lock.given ∨ j = i)
    (hqueued : ∀ j, j ≠ i → (j ∈ lock.lock.queued ↔ j ∈ s.lock.lock.queued))
    (hcurrent : ∀ w : Write τ Ref, w.task ≠ i → (current' = some w ↔ current = some w))
    (hdone : ∀ w : Write τ Ref × Bool, w.1.task ≠ i → (w ∈ done' ↔ w ∈ done))
    (hself : ({ task with stage := stage } : SendTask τ Ref).Accords lock done' current' i)
    (howns : ∀ w, w ∈ done'.map Prod.fst ∨ current' = some w → w.task = i →
      task.transport = w.transport ∧ ∃ dumped, task.outgoing.frame dumped = .ok w.frame) :
    OneAtATime (s.move i stage lock writes) done' current' where
  lock := hlock
  wire := by
    rw [← hwire, ← h.wire]
    rfl
  given := hgiven
  holder := hholder
  came j hj := by
    show j < (s.tasks.modify i _).length
    rw [List.length_modify]
    rcases hcame j hj with hj | rfl
    · exact h.came j hj
    · exact (List.getElem?_eq_some_iff.mp hi).1
  tasks j task' hj := by
    have hj' : (s.tasks.modify i fun task => { task with stage := stage })[j]? = some task' := hj
    by_cases hne : j = i
    · subst hne
      rw [List.getElem?_modify_eq, hi] at hj'
      exact Option.some.inj hj' ▸ hself
    · rw [List.getElem?_modify_ne _ _ (Ne.symm hne)] at hj'
      have hold := h.tasks j task' hj'
      refine ⟨?_, ?_, ?_, ?_, ?_⟩
      · intro hcreated hmem
        exact (hcame j hmem).elim (hold.created hcreated) hne
      · intro frame hframe
        obtain ⟨hwriters, hdumped⟩ := hold.waiting frame hframe
        refine ⟨fun hmem => ?_, hdumped⟩
        rcases hmore j (hgiven ▸ hmem) with hmem | hmem
        · exact hwriters (h.given ▸ hmem)
        · exact hne hmem
      · exact (hqueued j hne).trans hold.queued
      · exact fun frame => (hcurrent _ hne).trans (hold.writing frame)
      · exact fun frame => (hdone _ hne).trans (hold.sent frame)
  owns w hw := by
    by_cases hne : w.task = i
    · obtain ⟨htransport, hdumped⟩ := howns w hw hne
      refine ⟨{ task with stage := stage }, ?_, htransport, hdumped⟩
      show (s.tasks.modify i _)[w.task]? = _
      rw [hne, List.getElem?_modify_eq, hi]
      rfl
    · have hold : w ∈ done.map Prod.fst ∨ current = some w := by
        refine hw.imp (fun hmem => ?_) (hcurrent w hne).mp
        obtain ⟨v, hv, rfl⟩ := List.mem_map.mp hmem
        exact List.mem_map_of_mem ((hdone v hne).mp hv)
      obtain ⟨task', htask', hrest⟩ := h.owns w hold
      refine ⟨task', ?_, hrest⟩
      show (s.tasks.modify i _)[w.task]? = _
      rw [List.getElem?_modify_ne _ _ (Ne.symm hne)]
      exact htask'

/-- A send that has written nothing waits, or comes to its end. -/
theorem OneAtATime.stays {stage : SendStage Ref} (h : OneAtATime s done current)
    (hi : s.tasks[i]? = some task) (hlock : (fairLockSystem ℕ).Reached lock)
    (hholder : lock.lock.holder = s.lock.lock.holder) (hgiven : lock.given = s.lock.given)
    (hcame : ∀ j ∈ lock.came, j ∈ s.lock.came ∨ j = i)
    (hqueued : ∀ j, j ≠ i → (j ∈ lock.lock.queued ↔ j ∈ s.lock.lock.queued))
    (hwriters : i ∉ writers done current)
    (hstage : stage = .failed ∧ i ∉ lock.lock.queued ∨
      ∃ frame, stage = .queued frame ∧ i ∈ lock.lock.queued ∧
        ∃ dumped, task.outgoing.frame dumped = .ok frame) :
    OneAtATime (s.move i stage lock []) done current := by
  have hdone : ∀ w : Write τ Ref × Bool, w ∈ done → w.1.task ≠ i := by
    rintro w hw rfl
    exact hwriters (List.mem_append_left _ (List.mem_map_of_mem hw))
  have hcurrent : ∀ w : Write τ Ref, current = some w → w.task ≠ i := by
    rintro w rfl rfl
    exact hwriters (List.mem_append_right _ (List.mem_singleton_self _))
  refine h.move hi hlock (List.append_nil _) (hgiven.trans h.given) (hholder.trans h.holder) hcame
    (fun j hj => .inl (hgiven ▸ hj)) hqueued (fun _ _ => Iff.rfl) (fun _ _ => Iff.rfl) ?_ ?_
  · have hnow : ∀ frame, current ≠ some ⟨i, task.transport, frame⟩ := fun frame hw =>
      hcurrent _ hw rfl
    have hpast : ∀ frame, ((⟨i, task.transport, frame⟩ : Write τ Ref), true) ∉ done :=
      fun frame hw => hdone _ hw rfl
    rcases hstage with ⟨rfl, hnot⟩ | ⟨frame, rfl, hmem, hdumped⟩
    · exact ⟨nofun, nofun,
        ⟨fun hmem => absurd hmem hnot, nofun⟩,
        fun f => ⟨fun hw => absurd hw (hnow f), nofun⟩,
        fun f => ⟨fun hw => absurd hw (hpast f), nofun⟩⟩
    · exact ⟨nofun, fun f hs => SendStage.queued.inj hs ▸ ⟨hwriters, hdumped⟩,
        ⟨fun _ => ⟨frame, rfl⟩, fun _ => hmem⟩,
        fun f => ⟨fun hw => absurd hw (hnow f), nofun⟩,
        fun f => ⟨fun hw => absurd hw (hpast f), nofun⟩⟩
  · intro w hw hwi
    rcases hw with hw | hw
    · obtain ⟨v, hv, rfl⟩ := List.mem_map.mp hw
      exact absurd hwi (hdone v hv)
    · exact absurd hwi (hcurrent w hw)

/-- A send is given the lock and calls the transport. -/
theorem OneAtATime.begins {frame : OutFrame Ref} (h : OneAtATime s done current)
    (hi : s.tasks[i]? = some task) (hdumped : ∃ dumped, task.outgoing.frame dumped = .ok frame)
    (hlock : (fairLockSystem ℕ).Reached lock) (hnone : s.lock.lock.holder = none)
    (hholder : lock.lock.holder = some i) (hgiven : lock.given = s.lock.given ++ [i])
    (hcame : ∀ j ∈ lock.came, j ∈ s.lock.came ∨ j = i)
    (hqueued : ∀ j, j ≠ i → (j ∈ lock.lock.queued ↔ j ∈ s.lock.lock.queued))
    (hwriters : i ∉ writers done current) :
    OneAtATime (s.move i (.writing frame) lock [.begins ⟨i, task.transport, frame⟩]) done
      (some ⟨i, task.transport, frame⟩) := by
  obtain rfl : current = none := Option.map_eq_none_iff.mp (h.holder.symm.trans hnone)
  have hdone : ∀ w : Write τ Ref × Bool, w ∈ done → w.1.task ≠ i := by
    rintro w hw rfl
    exact hwriters (List.mem_append_left _ (List.mem_map_of_mem hw))
  refine h.move hi hlock (wireOf_some _).symm ?_ hholder hcame ?_ hqueued ?_ (fun _ _ => Iff.rfl)
    ?_ ?_
  · rw [hgiven, h.given]
    exact congrArg (· ++ [i]) (List.append_nil _)
  · intro j hj
    rw [hgiven] at hj
    exact (List.mem_append.mp hj).imp_right List.mem_singleton.mp
  · intro w hne
    exact ⟨fun hw => absurd (Option.some.inj hw ▸ rfl) hne, nofun⟩
  · have hnot : i ∉ lock.lock.queued := (fair_of_reached hlock).orderly.holder i hholder
    refine ⟨nofun, nofun,
      ⟨fun hmem => absurd hmem hnot, nofun⟩, fun f => ?_,
      fun f => ⟨fun hw => absurd rfl (hdone _ hw), nofun⟩⟩
    constructor
    · intro hw
      cases hw
      rfl
    · intro hs
      cases hs
      rfl
  · intro w hw hwi
    rcases hw with hw | hw
    · obtain ⟨v, hv, rfl⟩ := List.mem_map.mp hw
      exact absurd hwi (hdone v hv)
    · cases hw
      exact ⟨rfl, hdumped⟩

/-- A call of the transport comes to its end, and the lock is given back. -/
theorem OneAtATime.finishes {frame : OutFrame Ref} {ok : Bool} (h : OneAtATime s done current)
    (hi : s.tasks[i]? = some task) (hstage : task.stage = .writing frame) :
    OneAtATime (s.move i (if ok then .sent frame else .failed) s.lock.back [.ends i ok])
      (done ++ [(⟨i, task.transport, frame⟩, ok)]) none := by
  obtain rfl : current = some ⟨i, task.transport, frame⟩ :=
    ((h.tasks i task hi).writing frame).mpr hstage
  have hheld : s.lock.lock.holder = some i := h.holder
  have hlock : (fairLockSystem ℕ).Reached s.lock.back :=
    .step (i := .release) h.lock trivial (if_neg (hheld ▸ Option.some_ne_none i))
  have hback : s.lock.back.lock.queued = s.lock.lock.queued := FairLock.queued_wakeUpFirst _
  have hnot : i ∉ s.lock.lock.queued := h.fair.orderly.holder i hheld
  have hwriters : i ∉ done.map (·.1.task) := by
    intro hmem
    exact List.disjoint_of_nodup_append h.nodup_writers hmem (List.mem_singleton_self _)
  have hdone : ∀ w : Write τ Ref × Bool, w ∈ done → w.1.task ≠ i := by
    rintro w hw rfl
    exact hwriters (List.mem_map_of_mem hw)
  refine h.move hi hlock (wireOf_done _ ok).symm (h.given.trans (writers_done _ ok).symm) rfl
    (fun j hj => .inl hj) (fun j hj => .inl hj) (fun j _ => by rw [hback]) ?_ ?_ ?_ ?_
  · intro w hne
    exact ⟨nofun, fun hw => absurd (Option.some.inj hw ▸ rfl) hne⟩
  · intro w hne
    refine ⟨fun hw => ?_, List.mem_append_left _⟩
    rcases List.mem_append.mp hw with hw | hw
    · exact hw
    · exact absurd (List.mem_singleton.mp hw ▸ rfl) hne
  · have hmem : ∀ f, ((⟨i, task.transport, f⟩ : Write τ Ref), true) ∈
        done ++ [(⟨i, task.transport, frame⟩, ok)] ↔ ok = true ∧ f = frame := by
      intro f
      rw [List.mem_append, List.mem_singleton]
      constructor
      · rintro (hw | hw)
        · exact absurd rfl (hdone _ hw)
        · cases hw
          exact ⟨rfl, rfl⟩
      · rintro ⟨rfl, rfl⟩
        exact .inr rfl
    rw [← hback] at hnot
    cases ok with
    | true =>
      refine ⟨nofun, nofun,
        ⟨fun hq => absurd hq hnot, nofun⟩,
        fun f => ⟨nofun, nofun⟩, fun f => (hmem f).trans ?_⟩
      constructor
      · rintro ⟨-, rfl⟩
        rfl
      · intro hs
        cases hs
        exact ⟨rfl, rfl⟩
    | false =>
      exact ⟨nofun, nofun,
        ⟨fun hq => absurd hq hnot, nofun⟩,
        fun f => ⟨nofun, nofun⟩,
        fun f => ⟨fun hw => absurd ((hmem f).mp hw).1 Bool.false_ne_true, nofun⟩⟩
  · intro w hw hwi
    rcases hw with hw | hw
    · rw [List.map_append] at hw
      rcases List.mem_append.mp hw with hw | hw
      · obtain ⟨v, hv, rfl⟩ := List.mem_map.mp hw
        exact absurd hwi (hdone v hv)
      · rw [List.mem_singleton.mp hw]
        obtain ⟨task', htask', htransport, hdumped⟩ := h.owns _ (.inr rfl)
        cases hi.symm.trans htask'
        exact ⟨htransport, hdumped⟩
    · cases hw

/-- A send that was called for has done nothing yet. -/
theorem OneAtATime.call (h : OneAtATime s done current) (outgoing : Outgoing Ref) :
    OneAtATime (s.send outgoing).1 done current := by
  unfold Sending.send
  split
  · exact h
  next t _ =>
  have hold : ∀ j ∈ s.lock.came, (s.tasks ++ [⟨t, outgoing, .created⟩])[j]? = s.tasks[j]? :=
    fun j hj => List.getElem?_append_left (h.came j hj)
  refine ⟨h.lock, h.wire, h.given, h.holder, ?_, ?_, ?_⟩
  · intro j hj
    exact (h.came j hj).trans_le (List.length_append ▸ Nat.le_add_right _ _)
  · intro j task' hj
    by_cases hlt : j < s.tasks.length
    · exact h.tasks j task' ((List.getElem?_append_left hlt).symm.trans hj)
    · have hcame : j ∉ s.lock.came := fun hmem => hlt (h.came j hmem)
      have hqueued : j ∉ s.lock.lock.queued := fun hmem => hcame (h.mem_came_of_queued hmem)
      have hwriters : j ∉ writers done current := fun hmem => hcame (h.mem_came_of_writers hmem)
      have hstage : task'.stage = .created := by
        rw [List.getElem?_append_right (Nat.le_of_not_lt hlt)] at hj
        obtain ⟨_, heq⟩ := List.getElem?_eq_some_iff.mp hj
        rw [List.getElem_singleton] at heq
        exact heq ▸ rfl
      refine ⟨fun _ => hcame, ?_, ?_, ?_, ?_⟩ <;> rw [hstage]
      · nofun
      · exact ⟨fun hmem => absurd hmem hqueued, nofun⟩
      · refine fun f => ⟨fun hw => absurd ?_ hwriters, nofun⟩
        rw [hw]
        exact List.mem_append_right _ (List.mem_singleton_self _)
      · exact fun f => ⟨fun hw => absurd (List.mem_append_left _ (List.mem_map_of_mem hw)) hwriters,
          nofun⟩
  · intro w hw
    obtain ⟨task', htask', hrest⟩ := h.owns w hw
    refine ⟨task', ?_, hrest⟩
    show (s.tasks ++ [⟨t, outgoing, .created⟩])[w.task]? = some task'
    rw [List.getElem?_append_left (List.getElem?_eq_some_iff.mp htask').1]
    exact htask'

/-- A created send that will not run. -/
theorem OneAtATime.gives_up (h : OneAtATime s done current) (hi : s.tasks[i]? = some task)
    (hstage : task.stage = .created) :
    OneAtATime (s.move i .failed s.lock []) done current := by
  have hcame := (h.tasks i task hi).created hstage
  exact h.stays hi h.lock rfl rfl (fun j hj => .inl hj) (fun j _ => Iff.rfl)
    (fun hmem => hcame (h.mem_came_of_writers hmem))
    (.inl ⟨rfl, fun hmem => hcame (h.mem_came_of_queued hmem)⟩)

/-- A created send comes to the lock. -/
theorem OneAtATime.comes {dumped : Except (PyErr Ref) String} {frame : OutFrame Ref}
    (h : OneAtATime s done current) (hi : s.tasks[i]? = some task) (hstage : task.stage = .created)
    (hframe : task.outgoing.frame dumped = .ok frame) :
    ∃ current', OneAtATime (s.enter i task.transport frame (s.lock.come i) (.queued frame)) done
      current' := by
  have hcame := (h.tasks i task hi).created hstage
  have hwriters : i ∉ writers done current := fun hmem => hcame (h.mem_came_of_writers hmem)
  have hlock : (fairLockSystem ℕ).Reached (s.lock.come i) :=
    .step (i := .acquire i) h.lock trivial (if_neg hcame)
  have hmore : ∀ j ∈ (s.lock.come i).came, j ∈ s.lock.came ∨ j = i := fun j hj =>
    (List.mem_append.mp hj).imp_right List.mem_singleton.mp
  unfold Sending.enter
  rcases h.fair.come_cases hcame with ⟨hnone, hholder, hgiven, hqueued⟩ |
    ⟨hholder, hne, hgiven, hqueued⟩
  · rw [if_pos hholder]
    exact ⟨_, h.begins hi ⟨dumped, hframe⟩ hlock hnone hholder hgiven hmore
      (fun j _ => by rw [hqueued]) hwriters⟩
  · rw [if_neg (hholder ▸ hne)]
    refine ⟨_, h.stays hi hlock hholder hgiven hmore (fun j hj => ?_) hwriters
      (.inr ⟨frame, rfl, ?_, dumped, hframe⟩)⟩ <;> rw [hqueued, List.mem_append, List.mem_singleton]
    · exact or_iff_left hj
    · exact .inr rfl

/-- A send that waited runs again. -/
theorem OneAtATime.resumes {frame : OutFrame Ref} {l : FairLock ℕ} (h : OneAtATime s done current)
    (hi : s.tasks[i]? = some task) (hstage : task.stage = .queued frame)
    (hl : s.lock.lock.resume i = some l) :
    ∃ current', OneAtATime (s.enter i task.transport frame (s.lock.give l i) .failed) done
      current' := by
  obtain ⟨hwriters, hdumped⟩ := (h.tasks i task hi).waiting frame hstage
  have hlock : (fairLockSystem ℕ).Reached (s.lock.give l i) :=
    .step (i := .resume i) h.lock trivial (congrArg (Option.map _) hl)
  obtain ⟨hcases, hqueued⟩ := h.fair.resume_cases hl
  have hothers : ∀ j, j ≠ i → (j ∈ l.queued ↔ j ∈ s.lock.lock.queued) := by
    intro j hj
    rw [hqueued, List.mem_filter]
    exact and_iff_left (decide_eq_true hj)
  have hself : i ∉ l.queued := by
    rw [hqueued, List.mem_filter]
    exact fun hmem => of_decide_eq_true hmem.2 rfl
  unfold Sending.enter
  rcases hcases with ⟨hnone, hholder, hgiven⟩ | ⟨hholder, hne, hgiven⟩
  · rw [if_pos (show (s.lock.give l i).lock.holder = some i from hholder)]
    exact ⟨_, h.begins hi hdumped hlock hnone hholder hgiven (fun j hj => .inl hj) hothers hwriters⟩
  · rw [if_neg (show ¬ (s.lock.give l i).lock.holder = some i from hholder ▸ hne)]
    exact ⟨_, h.stays hi hlock hholder hgiven (fun j hj => .inl hj) hothers hwriters
      (.inl ⟨rfl, hself⟩)⟩

/-- A send that waits is cancelled. -/
theorem OneAtATime.cancels {frame : OutFrame Ref} (h : OneAtATime s done current)
    (hi : s.tasks[i]? = some task) (hstage : task.stage = .queued frame) :
    OneAtATime (s.move i (.queued frame) { s.lock with lock := s.lock.lock.cancel i } []) done
      current := by
  obtain ⟨hwriters, hdumped⟩ := (h.tasks i task hi).waiting frame hstage
  have hlock : (fairLockSystem ℕ).Reached { s.lock with lock := s.lock.lock.cancel i } :=
    .step (i := .cancel i) h.lock trivial rfl
  have hqueued := FairLock.queued_cancel s.lock.lock i
  refine h.stays hi hlock rfl rfl (fun j hj => .inl hj) (fun j _ => by rw [hqueued]) hwriters
    (.inr ⟨frame, rfl, ?_, hdumped⟩)
  rw [hqueued]
  exact (h.tasks i task hi).queued.mpr ⟨frame, hstage⟩

/-- Every step keeps the frames apart. -/
theorem OneAtATime.next {e : SendEvent τ Ref} (h : OneAtATime s done current)
    (hnext : s.next e = some s') : ∃ done' current', OneAtATime s' done' current' := by
  cases e with
  | accept t =>
    cases hnext
    exact ⟨done, current, h.lock, h.wire, h.given, h.holder, h.came, h.tasks, h.owns⟩
  | call outgoing =>
    cases hnext
    exact ⟨done, current, h.call outgoing⟩
  | start i dumped =>
    rw [Sending.next] at hnext
    split at hnext
    · next hi =>
      split at hnext <;> cases hnext
      · exact ⟨done, current, h.gives_up hi rfl⟩
      · next hframe => exact ⟨done, h.comes hi rfl hframe⟩
    · cases hnext
  | resume i =>
    rw [Sending.next] at hnext
    split at hnext
    · next hi =>
      obtain ⟨l, hl, rfl⟩ := Option.map_eq_some_iff.mp hnext
      exact ⟨done, h.resumes hi rfl hl⟩
    · cases hnext
  | cancel i =>
    rw [Sending.next] at hnext
    split at hnext <;> cases hnext
    · next hi => exact ⟨done, current, h.gives_up hi rfl⟩
    · next hi => exact ⟨done, current, h.cancels hi rfl⟩
    · exact ⟨done, current, h⟩
  | ends i ok =>
    rw [Sending.next] at hnext
    split at hnext
    · next hi =>
      cases hnext
      exact ⟨_, none, h.finishes hi rfl⟩
    · cases hnext

theorem oneAtATime_of_reached (hs : (sendSystem τ Ref).Reached s) :
    ∃ done current, OneAtATime s done current := by
  refine hs.invariant (P := fun s => ∃ done current, OneAtATime s done current) ?_ ?_
  · rintro s rfl
    refine ⟨[], none, .init rfl, rfl, rfl, rfl, fun i hi => absurd hi List.not_mem_nil, ?_, ?_⟩
    · intro i task hi
      cases hi
    · intro w hw
      rcases hw with hw | hw <;> cases hw
  · rintro s e s' ⟨done, current, h⟩ hnext
    exact h.next hnext

/-- However the sends of a WebSocket are interleaved, cancelled and failed by the transport, the
transport sees frames one after the other: each call has ended before the next begins. They are
written in the order in which the sends came to the lock, each at most once, to the transport that
its send was called with; and those of the sends that returned are the ones that ended well. -/
theorem sends_law (hs : (sendSystem τ Ref).Reached s) :
    ∃ (done : List (Write τ Ref × Bool)) (current : Option (Write τ Ref)),
      s.wire = wireOf done current ∧
      (writers done current).Sublist s.lock.came ∧ (writers done current).Nodup ∧
      (∀ w, w ∈ done.map Prod.fst ∨ current = some w → s.Owns w) ∧
      ∀ i (task : SendTask τ Ref), s.tasks[i]? = some task →
        (task.stage = .created ∨ (∃ frame, task.stage = .queued frame) →
          i ∉ writers done current) ∧
        ∀ frame,
          (current = some ⟨i, task.transport, frame⟩ ↔ task.stage = .writing frame) ∧
          ((⟨i, task.transport, frame⟩, true) ∈ done ↔ task.stage = .sent frame) := by
  obtain ⟨done, current, h⟩ := oneAtATime_of_reached hs
  refine ⟨done, current, h.wire, h.given ▸ (List.sublist_append_left _ _).trans h.fair.sublist,
    h.nodup_writers, h.owns, fun i task hi => ⟨?_, fun frame => ?_⟩⟩
  · rintro (hcreated | ⟨frame, hqueued⟩)
    · exact fun hmem => (h.tasks i task hi).created hcreated (h.mem_came_of_writers hmem)
    · exact ((h.tasks i task hi).waiting frame hqueued).1
  · exact ⟨(h.tasks i task hi).writing frame, (h.tasks i task hi).sent frame⟩

/-- Three sends, of which the first has just returned. The second, first of the queue, was cancelled
and has not run again. -/
def passedOver : Sending Unit String where
  transport := some ()
  tasks := [⟨(), .text "a", .sent (.str "a")⟩, ⟨(), .text "b", .queued (.str "b")⟩,
    ⟨(), .json .none, .queued (.str "null")⟩]
  lock := ⟨⟨none, [(1, .cancelled), (2, .pending)]⟩, [0, 1, 2], [0]⟩
  wire := [.begins ⟨0, (), .str "a"⟩, .ends 0 true]

theorem passedOver_reached : (sendSystem Unit String).Reached passedOver := by
  have hrun : ([.accept (), .call (.text "a"), .call (.text "b"), .call (.json .none),
      .start 0 (.ok ""), .start 1 (.ok ""), .start 2 (.ok "null"), .cancel 1, .ends 0 true] :
      List (SendEvent Unit String)).foldlM Sending.next ⟨none, [], ⟨.new, [], []⟩, []⟩ =
        some passedOver := rfl
  exact TransitionSystem.Reached.foldlM (fun _ _ _ h => h) (.init rfl) hrun

theorem passedOver_in_order : ∃ (done : List (Write Unit String × Bool))
    (current : Option (Write Unit String)),
    passedOver.wire = wireOf done current ∧ (writers done current).Sublist [0, 1, 2] := by
  obtain ⟨done, current, hwire, hsub, -⟩ := sends_law passedOver_reached
  exact ⟨done, current, hwire, hsub⟩

end

-- ════════════════════════════════════════════════════════════════════════
-- Every send comes to its end
-- ════════════════════════════════════════════════════════════════════════

/-- How many steps a coroutine may still take. -/
def SendStage.ahead : SendStage Ref → ℕ
  | .created => 3
  | .queued _ => 2
  | .writing _ => 1
  | .sent _ => 0
  | .failed => 0

theorem SendStage.ahead_le (stage : SendStage Ref) : stage.ahead ≤ 3 := by
  cases stage <;> simp [SendStage.ahead]

/-- How many steps the coroutines may still take. -/
def Sending.ahead (s : Sending τ Ref) : ℕ := (s.tasks.map fun task => task.stage.ahead).sum

/-- How many steps a coroutine may still take; that of a send that is still to be called, all. -/
def Sending.aheadOf (s : Sending τ Ref) (i : ℕ) : ℕ :=
  match s.tasks[i]? with
  | some task => task.stage.ahead
  | none => 3

/-- The send whose coroutine takes the step: it starts, runs again, or returns from the
transport. -/
def SendEvent.send? : SendEvent τ Ref → Option ℕ
  | .start i _ => some i
  | .resume i => some i
  | .ends i _ => some i
  | _ => none

/-- The steps of the coroutines. -/
def SendEvent.isOwn (e : SendEvent τ Ref) : Bool := e.send?.isSome

/-- Changing one summand. -/
theorem sum_map_modify {α : Type} (g : α → ℕ) (f : α → α) {l : List α} {i : ℕ} {a : α}
    (h : l[i]? = some a) : ((l.modify i f).map g).sum + g a = (l.map g).sum + g (f a) := by
  induction l generalizing i with
  | nil => cases h
  | cons b l ih =>
    cases i with
    | zero =>
      obtain rfl := Option.some.inj h
      simp only [List.modify_zero_cons, List.map_cons, List.sum_cons]
      omega
    | succ i =>
      have ihi := ih (i := i) h
      simp only [List.modify_succ_cons, List.map_cons, List.sum_cons]
      omega

section

variable {s s' : Sending τ Ref} {i : ℕ} {task : SendTask τ Ref}

theorem Sending.ahead_move (hi : s.tasks[i]? = some task) (stage : SendStage Ref)
    (lock : LockRun ℕ) (writes : List (WireWrite τ Ref)) :
    (s.move i stage lock writes).ahead + task.stage.ahead = s.ahead + stage.ahead :=
  sum_map_modify _ _ hi

theorem Sending.aheadOf_move (hi : s.tasks[i]? = some task) (stage : SendStage Ref)
    (lock : LockRun ℕ) (writes : List (WireWrite τ Ref)) (j : ℕ) :
    (s.move i stage lock writes).aheadOf j = if j = i then stage.ahead else s.aheadOf j := by
  have htasks : (s.move i stage lock writes).tasks =
      s.tasks.modify i fun task => { task with stage := stage } := rfl
  unfold Sending.aheadOf
  rw [htasks]
  by_cases hj : j = i
  · subst hj
    rw [if_pos rfl, List.getElem?_modify_eq, hi]
    rfl
  · rw [if_neg hj, List.getElem?_modify_ne _ _ (Ne.symm hj)]

/-- A step of a coroutine takes it to a stage with fewer steps ahead. -/
theorem Sending.own_moves {e : SendEvent τ Ref} (he : e.send? = some i)
    (hnext : s.next e = some s') :
    ∃ (task : SendTask τ Ref) (stage : SendStage Ref) (lock : LockRun ℕ)
      (writes : List (WireWrite τ Ref)), s.tasks[i]? = some task ∧
        stage.ahead < task.stage.ahead ∧ s' = s.move i stage lock writes := by
  have henter : ∀ {task : SendTask τ Ref} {t : τ} {frame : OutFrame Ref} {lock : LockRun ℕ}
      {otherwise : SendStage Ref}, s.tasks[i]? = some task → 1 < task.stage.ahead →
      otherwise.ahead < task.stage.ahead → ∃ (task : SendTask τ Ref) (stage : SendStage Ref)
        (lock' : LockRun ℕ) (writes : List (WireWrite τ Ref)), s.tasks[i]? = some task ∧
          stage.ahead < task.stage.ahead ∧
            s.enter i t frame lock otherwise = s.move i stage lock' writes := by
    intro task t frame lock otherwise hi hone hlt
    unfold Sending.enter
    split
    · exact ⟨task, .writing frame, _, _, hi, hone, rfl⟩
    · exact ⟨task, otherwise, _, _, hi, hlt, rfl⟩
  cases e with
  | start i' dumped =>
    obtain rfl := Option.some.inj he
    rw [Sending.next] at hnext
    split at hnext
    · next hi =>
      split at hnext <;> cases hnext
      · exact ⟨_, .failed, _, _, hi, (by decide : 0 < 3), rfl⟩
      · exact henter hi (by decide : 1 < 3) (by decide : 2 < 3)
    · cases hnext
  | resume i' =>
    obtain rfl := Option.some.inj he
    rw [Sending.next] at hnext
    split at hnext
    · next hi =>
      obtain ⟨l, -, rfl⟩ := Option.map_eq_some_iff.mp hnext
      exact henter hi (by decide : 1 < 2) (by decide : 0 < 2)
    · cases hnext
  | ends i' ok =>
    obtain rfl := Option.some.inj he
    rw [Sending.next] at hnext
    split at hnext
    · next hi =>
      cases hnext
      refine ⟨_, _, _, _, hi, ?_, rfl⟩
      cases ok <;> exact (by decide : 0 < 1)
    · cases hnext
  | accept t => cases he
  | call outgoing => cases he
  | cancel i' => cases he

/-- The other steps give no coroutine more steps than it had. -/
theorem Sending.aheadOf_le_of_other {e : SendEvent τ Ref} (he : e.send? = none)
    (hnext : s.next e = some s') (j : ℕ) : s'.aheadOf j ≤ s.aheadOf j := by
  have hmove : ∀ {i : ℕ} {task : SendTask τ Ref} {stage : SendStage Ref} {lock : LockRun ℕ},
      s.tasks[i]? = some task → stage.ahead ≤ task.stage.ahead →
      (s.move i stage lock []).aheadOf j ≤ s.aheadOf j := by
    intro i task stage lock hi hle
    rw [Sending.aheadOf_move hi]
    split
    · next hj =>
      subst hj
      rw [Sending.aheadOf, hi]
      exact hle
    · exact le_rfl
  cases e with
  | start i dumped => cases he
  | resume i => cases he
  | ends i ok => cases he
  | accept t =>
    cases hnext
    exact le_rfl
  | call outgoing =>
    cases hnext
    unfold Sending.send
    split
    · exact le_rfl
    · -- a send that is called now has its three steps ahead, as it had before
      next t _ =>
      show Sending.aheadOf { s with tasks := s.tasks ++ [⟨t, outgoing, .created⟩] } j ≤ _
      unfold Sending.aheadOf
      dsimp only
      rcases lt_or_ge j s.tasks.length with hj | hj
      · rw [List.getElem?_append_left hj]
      · rw [List.getElem?_eq_none hj]
        split
        · exact SendStage.ahead_le _
        · exact le_rfl
  | cancel i =>
    rw [Sending.next] at hnext
    split at hnext <;> cases hnext
    · next hi => exact hmove hi (Nat.zero_le _)
    · next hi => exact hmove hi le_rfl
    · exact le_rfl

/-- A step of a coroutine is one of the steps it had ahead. -/
theorem Sending.aheadOf_next {e : SendEvent τ Ref} (hnext : s.next e = some s') (j : ℕ) :
    (if e.send? = some j then 1 else 0) + s'.aheadOf j ≤ s.aheadOf j := by
  cases he : e.send? with
  | none =>
    rw [if_neg (Option.some_ne_none j).symm, Nat.zero_add]
    exact Sending.aheadOf_le_of_other he hnext j
  | some i =>
    obtain ⟨task, stage, lock, writes, hi, hlt, rfl⟩ := Sending.own_moves he hnext
    rw [Sending.aheadOf_move hi]
    by_cases hj : j = i
    · subst hj
      rw [if_pos rfl, if_pos rfl, Sending.aheadOf, hi]
      dsimp only
      omega
    · rw [if_neg fun h => hj (Option.some.inj h).symm, if_neg hj, Nat.zero_add]

/-- In a run, whatever it consists of, a coroutine takes no more steps than it had ahead. -/
theorem Sending.countP_le_aheadOf {es : List (SendEvent τ Ref)}
    (h : es.foldlM Sending.next s = some s') (j : ℕ) :
    (es.countP fun e => e.send? = some j) + s'.aheadOf j ≤ s.aheadOf j := by
  induction es generalizing s with
  | nil =>
    obtain rfl := Option.some.inj h
    exact (Nat.zero_add _).le
  | cons e es ih =>
    rw [List.foldlM_cons] at h
    obtain ⟨t, ht, h⟩ := Option.bind_eq_some_iff.mp h
    have hstep := Sending.aheadOf_next ht j
    have hrest := ih h
    rw [List.countP_cons]
    simp only [decide_eq_true_eq]
    omega

theorem Sending.aheadOf_le (s : Sending τ Ref) (j : ℕ) : s.aheadOf j ≤ 3 := by
  unfold Sending.aheadOf
  split
  · exact SendStage.ahead_le _
  · exact le_rfl

/-- A run of own steps is no longer than the steps the coroutines had ahead. -/
theorem Sending.length_le_ahead {es : List (SendEvent τ Ref)} (hes : ∀ e ∈ es, e.isOwn = true)
    (h : es.foldlM Sending.next s = some s') : es.length ≤ s.ahead := by
  induction es generalizing s with
  | nil => exact Nat.zero_le _
  | cons e es ih =>
    rw [List.foldlM_cons] at h
    obtain ⟨t, ht, h⟩ := Option.bind_eq_some_iff.mp h
    obtain ⟨i, he⟩ := Option.isSome_iff_exists.mp (hes e List.mem_cons_self)
    obtain ⟨task, stage, lock, writes, hi, hlt, rfl⟩ := Sending.own_moves he ht
    have hsum := Sending.ahead_move hi stage lock writes
    have hle := ih (fun e he => hes e (List.mem_cons_of_mem _ he)) h
    rw [List.length_cons]
    omega

theorem Sending.ahead_le (s : Sending τ Ref) : s.ahead ≤ 3 * s.tasks.length := by
  have hle : ∀ n ∈ s.tasks.map fun task => task.stage.ahead, n ≤ 3 := by
    intro n hn
    obtain ⟨task, -, rfl⟩ := List.mem_map.mp hn
    exact task.stage.ahead_le
  refine (List.sum_le_card_nsmul _ 3 hle).trans_eq ?_
  rw [List.length_map]
  exact Nat.mul_comm _ _

/-- A task that waits for the lock runs again, or the one that holds the lock may return. -/
theorem OneAtATime.exists_own {done : List (Write τ Ref × Bool)} {current : Option (Write τ Ref)}
    (h : OneAtATime s done current) (hi : s.tasks[i]? = some task) (hahead : 0 < task.stage.ahead) :
    ∃ e : SendEvent τ Ref, e.isOwn = true ∧ (s.next e).isSome := by
  have hends : ∀ {j : ℕ} {task : SendTask τ Ref} {frame : OutFrame Ref}, s.tasks[j]? = some task →
      task.stage = .writing frame → (s.next (.ends j true)).isSome := by
    rintro j ⟨t, o, stage⟩ frame hj rfl
    rw [Sending.next, hj]
    rfl
  obtain ⟨t, o, stage⟩ := task
  cases stage with
  | created =>
    refine ⟨.start i (.ok ""), rfl, ?_⟩
    rw [Sending.next, hi]
    cases o <;> rfl
  | writing frame => exact ⟨.ends i true, rfl, hends hi rfl⟩
  | sent frame => cases hahead
  | failed => cases hahead
  | queued frame =>
    have hqueued : i ∈ s.lock.lock.queued := (h.tasks i _ hi).queued.mpr ⟨frame, rfl⟩
    have hne : s.lock.lock.waiters ≠ [] := by
      intro hnil
      unfold FairLock.queued at hqueued
      rw [hnil] at hqueued
      cases hqueued
    cases hholder : s.lock.lock.holder with
    | none =>
      obtain ⟨j, hj⟩ := h.fair.orderly.exists_resume hholder hne
      obtain ⟨l, hl⟩ := Option.isSome_iff_exists.mp hj
      have hmem := (h.fair.orderly.queued_resume hl).1
      obtain ⟨⟨t', o', stage⟩, hj⟩ := h.exists_task (h.mem_came_of_queued hmem)
      obtain ⟨frame', rfl⟩ := (h.tasks j _ hj).queued.mp hmem
      refine ⟨.resume j, rfl, ?_⟩
      rw [Sending.next, hj]
      simp only [hl, Option.map_some, Option.isSome_some]
    | some j =>
      obtain ⟨w, hw, rfl⟩ := Option.map_eq_some_iff.mp (h.holder.symm.trans hholder)
      obtain ⟨task', hj, htransport, -⟩ := h.owns w (.inr hw)
      have hstage : task'.stage = .writing w.frame :=
        ((h.tasks _ task' hj).writing w.frame).mp (by rw [htransport]; exact hw)
      exact ⟨.ends w.task true, rfl, hends hj hstage⟩

/-- As long as a send has not come to its end, some send may go on, whoever was cancelled before.
In any run, with cancellations and new sends in between, each send takes no more than three steps;
so the sends there are come to their end within three steps each if none is called meanwhile. -/
theorem sends_end (hs : (sendSystem τ Ref).Reached s) :
    (∀ task ∈ s.tasks, 0 < task.stage.ahead →
      ∃ e : SendEvent τ Ref, e.isOwn = true ∧ (s.next e).isSome) ∧
    (∀ (es : List (SendEvent τ Ref)) (s' : Sending τ Ref), es.foldlM Sending.next s = some s' →
      ∀ i, (es.countP fun e => e.send? = some i) ≤ 3) ∧
    ∀ (es : List (SendEvent τ Ref)) (s' : Sending τ Ref), (∀ e ∈ es, e.isOwn = true) →
      es.foldlM Sending.next s = some s' → es.length ≤ 3 * s.tasks.length := by
  obtain ⟨done, current, h⟩ := oneAtATime_of_reached hs
  refine ⟨fun task hmem hahead => ?_, fun es s' hrun i => ?_, fun es s' hes hrun => ?_⟩
  · obtain ⟨i, hi⟩ := List.mem_iff_getElem?.mp hmem
    exact h.exists_own hi hahead
  · have hcount := Sending.countP_le_aheadOf hrun i
    have hle := s.aheadOf_le i
    omega
  · exact (Sending.length_le_ahead hes hrun).trans s.ahead_le

theorem passedOver_goes_on :
    ∃ e : SendEvent Unit String, e.isOwn = true ∧ (passedOver.next e).isSome :=
  (sends_end passedOver_reached).1 _ (List.mem_of_getElem? (i := 2) rfl)
    (by decide : 0 < 2)

end

end OxyRoute
