import OxyRoute.Native.Concurrency
import OxyRoute.Native.Websocket

/-!
# The active WebSockets of an application

All connections together. An admitted connection takes a number from `next_ws_id` and enters its
protocol in `active_websockets`; its guard takes it out again. `shutdown_websockets` holds the
lock of the table while it drains it, one protocol after the other, and the handlers go on in the
meantime.

## Main definitions

- `Socket`, `Sockets` — a connection with its number, and all of them with the table
- `Shutdown` — a call of `shutdown_websockets`: what it found and what it has closed
- `socketsSystem` — the connections, their guards and the shutdowns in any order

## Main results

- `socket_reached` — what a connection does among others it does alone
- `active_websockets_law` — the table has the connections in progress that no shutdown reached
- `shutdowns_law` — a shutdown closes what it found, and nothing is closed by two of them
-/

namespace OxyRoute

variable {m : Matchit} {Ref : Type}

/-- What decides how a connection is admitted. -/
structure Handshake (m : Matchit) (Ref : Type) where
  compiled : CompiledRouters m
  snap : FrozenState m Ref
  path : String
  origin : Option String

/-- The admission of a handshake. -/
def Handshake.admission (hs : Handshake m Ref) : WsAdmission Ref :=
  admitWebsocket hs.compiled hs.snap hs.path hs.origin

def WsAdmission.isAdmitted : WsAdmission Ref → Bool
  | .admitted _ _ => true
  | _ => false

/-- A connection before anything was done with it. -/
def Connection.new : Connection := ⟨.arrived, none, false, false, false, []⟩

/-- A connection of an application; `wsId` is its `ws_id`, once it has taken one. -/
structure Socket (m : Matchit) (Ref : Type) where
  handshake : Handshake m Ref
  wsId : Option ℕ
  connection : Connection

/-- A call of `shutdown_websockets`: the connections it found, and those it has closed. -/
structure Shutdown where
  code : ℤ
  found : List ℕ
  closed : List ℕ
  deriving DecidableEq, Repr

/-- The connections in the order of their arrival, and `active_websockets` with the connection
whose protocol is under a number. `running` is the shutdown that holds the lock of the table. -/
structure Sockets (m : Matchit) (Ref : Type) where
  sockets : List (Socket m Ref)
  nextWsId : ℕ
  active : Dict ℕ ℕ
  running : Option Shutdown
  finished : List Shutdown

/-- A fresh application. -/
def Sockets.new : Sockets m Ref := ⟨[], 0, .empty, none, []⟩

/-- The steps. Those of `own` are the ones of `Connection.next` that do not touch the table. -/
inductive SocketsEvent (m : Matchit) (Ref : Type)
  | arrive (handshake : Handshake m Ref)
  | turnAway (i : ℕ)
  | takeId (i : ℕ)
  | register (i : ℕ)
  | own (i : ℕ) (e : WsEvent Ref)
  | dropGuard (i : ℕ)
  | shutdown (code : ℤ)
  | closeNext (wsId : ℕ)
  | shutdownEnds

/-- The steps of a connection that do not touch `active_websockets`. -/
def WsEvent.isOwn : WsEvent Ref → Bool
  | .route | .dropGuard | .shutdown _ => false
  | _ => true

namespace Sockets

/-- Connection `i` takes a step. -/
def advance (buffer : Ref → Option (List UInt8)) (s : Sockets m Ref) (i : ℕ) (e : WsEvent Ref) :
    Option (Sockets m Ref) :=
  s.sockets[i]?.bind fun so =>
    (so.connection.next so.handshake.admission buffer e).map fun c =>
      { s with sockets := s.sockets.set i { so with connection := c } }

/-- One step; there is none where an event is not enabled. -/
def next (buffer : Ref → Option (List UInt8)) (s : Sockets m Ref) :
    SocketsEvent m Ref → Option (Sockets m Ref)
  | .arrive handshake => some { s with sockets := s.sockets ++ [⟨handshake, none, .new⟩] }
  | .turnAway i =>
    match s.sockets[i]? with
    | some so => if so.handshake.admission.isAdmitted then none else s.advance buffer i .route
    | none => none
  | .takeId i =>
    match s.sockets[i]? with
    | some so =>
      if so.connection.stage = .arrived ∧ so.handshake.admission.isAdmitted ∧ so.wsId = none then
        some { s with
          sockets := s.sockets.set i { so with wsId := some s.nextWsId }
          nextWsId := fetchAddOne s.nextWsId }
      else none
    | none => none
  | .register i =>
    match s.sockets[i]?.bind (·.wsId), s.running with
    | some wsId, none => (s.advance buffer i .route).map fun s =>
        { s with active := s.active.set wsId i }
    | _, _ => none
  | .own i e => if e.isOwn then s.advance buffer i e else none
  | .dropGuard i =>
    match s.sockets[i]?.bind (·.wsId), s.running with
    | some wsId, none => (s.advance buffer i .dropGuard).map fun s =>
        { s with active := s.active.filter fun k _ => k ≠ wsId }
    | _, _ => none
  | .shutdown code =>
    match s.running with
    | none => some { s with running := some ⟨code, s.active.entries.map (·.2), []⟩ }
    | some _ => none
  | .closeNext wsId =>
    match s.active.get? wsId, s.running with
    | some i, some sd => (s.advance buffer i (.shutdown sd.code)).map fun s =>
        { s with
          active := s.active.filter fun k _ => k ≠ wsId
          running := some { sd with closed := sd.closed ++ [i] } }
    | _, _ => none
  | .shutdownEnds =>
    match s.running with
    | some sd =>
      if s.active.entries = [] then
        some { s with running := none, finished := s.finished ++ [sd] }
      else none
    | none => none

end Sockets

/-- The connections of an application, from its start on. -/
def socketsSystem (m : Matchit) (buffer : Ref → Option (List UInt8)) :
    TransitionSystem (Sockets m Ref) (SocketsEvent m Ref) where
  init s := s = .new
  step s e s' := s.next buffer e = some s'

-- ════════════════════════════════════════════════════════════════════════
-- One connection
-- ════════════════════════════════════════════════════════════════════════

/-- The handler of the connection may still run, or its guard is still to be dropped. -/
def WsStage.inProgress : WsStage → Bool
  | .arrived | .ended => false
  | _ => true

namespace Connection

/-- A connection is registered as long as it is in progress and no shutdown reached it. -/
structure Lifecycle (c : Connection) : Prop where
  registered_iff : c.registered = true ↔ c.stage.inProgress = true ∧ c.shutDown = false
  arrived : c.stage = .arrived → c.shutDown = false

section

variable {admission : WsAdmission Ref} {buffer : Ref → Option (List UInt8)} {c c' : Connection}
  {e : WsEvent Ref}

/-- A step of its own leaves the registration of a connection as it is. -/
theorem next_own (he : e.isOwn = true) (h : c.next admission buffer e = some c') :
    c'.registered = c.registered ∧ c'.shutDown = c.shutDown ∧
      (c'.stage = c.stage ∨ c.stage.inProgress = true ∧ c'.stage.inProgress = true) := by
  cases e with
  | route | dropGuard | shutdown => cases he
  | create ok =>
    simp only [next, Option.ite_none_right_eq_some] at h
    obtain ⟨hstage, h⟩ := h
    cases h
    cases ok with
    | true => exact ⟨rfl, rfl, .inr ⟨by rw [hstage]; rfl, rfl⟩⟩
    | false => exact ⟨rfl, rfl, .inr ⟨by rw [hstage]; rfl, rfl⟩⟩
  | accept | send | receive =>
    obtain ⟨ws, -, rfl⟩ := Option.map_eq_some_iff.mp h
    exact ⟨rfl, rfl, .inl rfl⟩
  | close code =>
    obtain ⟨ws, -, rfl⟩ := Option.map_eq_some_iff.mp h
    unfold close
    split
    · exact ⟨rfl, rfl, .inl rfl⟩
    · exact ⟨rfl, rfl, .inl rfl⟩
  | handlerEnds out =>
    simp only [next, Option.ite_none_right_eq_some] at h
    obtain ⟨hstage, h⟩ := h
    cases h
    refine ⟨rfl, rfl, .inr ⟨by rw [hstage]; rfl, ?_⟩⟩
    dsimp only
    split
    · rfl
    · rfl
  | errorClose =>
    simp only [next, Option.ite_none_right_eq_some] at h
    obtain ⟨hstage, h⟩ := h
    cases h
    exact ⟨rfl, rfl, .inr ⟨by rw [hstage]; rfl, rfl⟩⟩
  | cancel =>
    simp only [next, Option.ite_none_right_eq_some] at h
    obtain ⟨hstage, h⟩ := h
    cases h
    refine ⟨rfl, rfl, .inr ⟨?_, rfl⟩⟩
    rcases hstage with hstage | hstage
    · rw [hstage]
      rfl
    · rw [hstage]
      rfl

/-- Routing registers an admitted connection and ends another one. -/
theorem next_route (h : c.next admission buffer .route = some c') :
    c.stage = .arrived ∧ c'.shutDown = c.shutDown ∧
      (admission.isAdmitted = true → c'.stage = .registered ∧ c'.registered = true) ∧
      (admission.isAdmitted = false → c'.stage = .ended ∧ c'.registered = c.registered) := by
  simp only [next, Option.ite_none_right_eq_some] at h
  obtain ⟨hstage, h⟩ := h
  cases h
  cases admission with
  | admitted route params =>
    exact ⟨hstage, rfl, fun _ => ⟨rfl, rfl⟩, fun h => absurd h.symm Bool.false_ne_true⟩
  | noRoute | forbidden | indexError =>
    exact ⟨hstage, rfl, fun h => absurd h Bool.false_ne_true, fun _ => ⟨rfl, rfl⟩⟩

theorem next_dropGuard (h : c.next admission buffer .dropGuard = some c') :
    c'.stage = .ended ∧ c'.registered = false ∧ c'.shutDown = c.shutDown := by
  simp only [next, Option.ite_none_right_eq_some] at h
  obtain ⟨-, h⟩ := h
  cases h
  exact ⟨rfl, rfl, rfl⟩

/-- A shutdown takes a registered connection out and closes its protocol. -/
theorem next_shutdown {code : ℤ} (h : c.next admission buffer (.shutdown code) = some c')
    (hreg : c.registered = true) : c' =
      { c with registered := false, shutDown := true }.closeProtocol code := by
  cases h
  rw [if_pos hreg]

theorem lifecycle_new : new.Lifecycle := ⟨by decide, fun _ => rfl⟩

/-- Every step keeps to the life of a connection. -/
theorem Lifecycle.next (hc : c.Lifecycle) (h : c.next admission buffer e = some c') :
    c'.Lifecycle := by
  by_cases hown : e.isOwn = true
  · obtain ⟨hreg, hshut, hstage⟩ := next_own hown h
    rcases hstage with hstage | ⟨hbefore, hafter⟩
    · exact ⟨by rw [hreg, hshut, hstage]; exact hc.registered_iff,
        by rw [hshut, hstage]; exact hc.arrived⟩
    · refine ⟨?_, fun harr => ?_⟩
      · rw [hreg, hshut, hc.registered_iff, hbefore, hafter]
      · rw [harr] at hafter
        cases hafter
  · cases e with
    | route =>
      obtain ⟨harr, hshut, hadmitted, hrefused⟩ := next_route h
      have hshut : c'.shutDown = false := hshut.trans (hc.arrived harr)
      cases hadm : admission.isAdmitted with
      | true =>
        obtain ⟨hstage, hreg⟩ := hadmitted hadm
        exact ⟨iff_of_true hreg ⟨by rw [hstage]; rfl, hshut⟩, fun _ => hshut⟩
      | false =>
        obtain ⟨hstage, hreg⟩ := hrefused hadm
        refine ⟨iff_of_false ?_ ?_, fun _ => hshut⟩
        · rw [hreg, hc.registered_iff, harr]
          rintro ⟨hprogress, -⟩
          cases hprogress
        · rw [hstage]
          rintro ⟨hprogress, -⟩
          cases hprogress
    | dropGuard =>
      obtain ⟨hstage, hreg, -⟩ := next_dropGuard h
      refine ⟨iff_of_false (by rw [hreg]; decide) ?_, fun harr => ?_⟩
      · rw [hstage]
        rintro ⟨hprogress, -⟩
        cases hprogress
      · rw [hstage] at harr
        cases harr
    | shutdown code =>
      by_cases hreg : c.registered = true
      · obtain rfl := next_shutdown h hreg
        refine ⟨iff_of_false (by simp [closeProtocol]) (by simp [closeProtocol]), fun harr => ?_⟩
        obtain ⟨hprogress, -⟩ := hc.registered_iff.mp hreg
        rw [show c.stage = .arrived from harr] at hprogress
        cases hprogress
      · cases h
        rw [if_neg hreg]
        exact hc
    | _ => exact absurd rfl hown

/-- What was seen on the protocol stays seen. -/
theorem trace_prefix_next (h : c.next admission buffer e = some c') : c.trace <+: c'.trace := by
  rcases next_trace h with ⟨ht, -⟩ | ⟨ht, -⟩ | ⟨code, ht, -⟩
  · rw [ht]
  · rw [ht]
    exact List.prefix_append _ _
  · rw [ht]
    exact List.prefix_append _ _

end

end Connection

-- ════════════════════════════════════════════════════════════════════════
-- What a step does
-- ════════════════════════════════════════════════════════════════════════

section

variable {buffer : Ref → Option (List UInt8)} {s s' : Sockets m Ref} {so : Socket m Ref}
  {c : Connection} {i : ℕ}

/-- The connection in another state. -/
def Socket.withConnection (so : Socket m Ref) (c : Connection) : Socket m Ref :=
  { so with connection := c }

/-- The sockets with another one at a place. -/
def Sockets.put (s : Sockets m Ref) (i : ℕ) (so : Socket m Ref) : Sockets m Ref :=
  { s with sockets := s.sockets.set i so }

/-- Connection `i` comes to the state `c` by the step `e`. -/
structure Sockets.Advances (buffer : Ref → Option (List UInt8)) (s : Sockets m Ref) (i : ℕ)
    (e : WsEvent Ref) (so : Socket m Ref) (c : Connection) : Prop where
  found : s.sockets[i]? = some so
  step : so.connection.next so.handshake.admission buffer e = some c

theorem Sockets.advance_eq_some {e : WsEvent Ref} (h : s.advance buffer i e = some s') :
    ∃ so c, s.Advances buffer i e so c ∧ s' = s.put i (so.withConnection c) := by
  obtain ⟨so, hfound, h⟩ := Option.bind_eq_some_iff.mp h
  obtain ⟨c, hstep, rfl⟩ := Option.map_eq_some_iff.mp h
  exact ⟨so, c, ⟨hfound, hstep⟩, rfl⟩

/-- What a step does to the connections, their numbers and the table. -/
inductive Sockets.Moves (buffer : Ref → Option (List UInt8)) (s : Sockets m Ref) :
    Sockets m Ref → Prop
  | arrived (handshake : Handshake m Ref) :
      Moves buffer s { s with sockets := s.sockets ++ [⟨handshake, none, .new⟩] }
  | tookId {i : ℕ} {so : Socket m Ref} : s.sockets[i]? = some so →
      so.handshake.admission.isAdmitted = true → so.wsId = none →
      Moves buffer s
        { s.put i { so with wsId := some s.nextWsId } with nextWsId := fetchAddOne s.nextWsId }
  | stepped {i : ℕ} {e : WsEvent Ref} {so : Socket m Ref} {c : Connection} :
      s.Advances buffer i e so c → c.registered = so.connection.registered →
      c.shutDown = so.connection.shutDown → Moves buffer s (s.put i (so.withConnection c))
  | registered {i wsId : ℕ} {so : Socket m Ref} {c : Connection} :
      s.Advances buffer i .route so c → so.wsId = some wsId → s.running = none →
      Moves buffer s { s.put i (so.withConnection c) with active := s.active.set wsId i }
  | dropped {i wsId : ℕ} {so : Socket m Ref} {c : Connection} :
      s.Advances buffer i .dropGuard so c → so.wsId = some wsId → s.running = none →
      Moves buffer s
        { s.put i (so.withConnection c) with active := s.active.filter fun k _ => k ≠ wsId }
  | began (code : ℤ) : s.running = none →
      Moves buffer s { s with running := some ⟨code, s.active.entries.map (·.2), []⟩ }
  | closed {i wsId : ℕ} {so : Socket m Ref} {c : Connection} {sd : Shutdown} :
      s.Advances buffer i (.shutdown sd.code) so c → s.active.get? wsId = some i →
      s.running = some sd →
      Moves buffer s
        { s.put i (so.withConnection c) with
          active := s.active.filter fun k _ => k ≠ wsId
          running := some { sd with closed := sd.closed ++ [i] } }
  | finished {sd : Shutdown} : s.running = some sd → s.active.entries = [] →
      Moves buffer s { s with running := none, finished := s.finished ++ [sd] }

theorem Sockets.next_moves {e : SocketsEvent m Ref} (h : s.next buffer e = some s') :
    s.Moves buffer s' := by
  cases e with
  | arrive handshake =>
    cases h
    exact .arrived handshake
  | turnAway i =>
    simp only [next] at h
    split at h
    · next so hfound =>
      split at h
      · cases h
      · next hadm =>
        obtain ⟨so', c, hadv, rfl⟩ := advance_eq_some h
        obtain rfl : so = so' := Option.some.inj (hfound.symm.trans hadv.found)
        obtain ⟨-, hshut, -, hrefused⟩ := Connection.next_route hadv.step
        exact .stepped hadv (hrefused (Bool.eq_false_iff.mpr hadm)).2 hshut
    · cases h
  | takeId i =>
    simp only [next] at h
    split at h
    · next so hfound =>
      simp only [Option.ite_none_right_eq_some] at h
      obtain ⟨⟨-, hadm, hid⟩, h⟩ := h
      cases h
      exact .tookId hfound hadm hid
    · cases h
  | register i =>
    simp only [next] at h
    split at h
    · next wsId hid hrunning =>
      obtain ⟨t, ht, rfl⟩ := Option.map_eq_some_iff.mp h
      obtain ⟨so, c, hadv, rfl⟩ := advance_eq_some ht
      rw [hadv.found] at hid
      exact .registered hadv hid hrunning
    · cases h
  | own i e =>
    simp only [next, Option.ite_none_right_eq_some] at h
    obtain ⟨hown, h⟩ := h
    obtain ⟨so, c, hadv, rfl⟩ := advance_eq_some h
    obtain ⟨hreg, hshut, -⟩ := Connection.next_own hown hadv.step
    exact .stepped hadv hreg hshut
  | dropGuard i =>
    simp only [next] at h
    split at h
    · next wsId hid hrunning =>
      obtain ⟨t, ht, rfl⟩ := Option.map_eq_some_iff.mp h
      obtain ⟨so, c, hadv, rfl⟩ := advance_eq_some ht
      rw [hadv.found] at hid
      exact .dropped hadv hid hrunning
    · cases h
  | shutdown code =>
    simp only [next] at h
    split at h
    · next hrunning =>
      cases h
      exact .began code hrunning
    · cases h
  | closeNext wsId =>
    simp only [next] at h
    split at h
    · next i sd hactive hrunning =>
      obtain ⟨t, ht, rfl⟩ := Option.map_eq_some_iff.mp h
      obtain ⟨so, c, hadv, rfl⟩ := advance_eq_some ht
      exact .closed hadv hactive hrunning
    · cases h
  | shutdownEnds =>
    simp only [next] at h
    split at h
    · next sd hrunning =>
      simp only [Option.ite_none_right_eq_some] at h
      obtain ⟨hempty, h⟩ := h
      cases h
      exact .finished hrunning hempty
    · cases h

/-- A socket on its own: its connection runs as it would alone, only an admitted connection takes
a number, and only with a number it is registered. -/
structure Socket.Sound (buffer : Ref → Option (List UInt8)) (so : Socket m Ref) : Prop where
  reached : (connectionSystem so.handshake.compiled so.handshake.snap buffer so.handshake.path
    so.handshake.origin).Reached so.connection
  lifecycle : so.connection.Lifecycle
  admitted : so.wsId.isSome → so.handshake.admission.isAdmitted = true
  numbered : so.connection.registered = true → so.wsId.isSome

theorem Socket.Sound.new (handshake : Handshake m Ref) :
    Socket.Sound buffer ⟨handshake, none, .new⟩ :=
  ⟨.init rfl, Connection.lifecycle_new, nofun, nofun⟩

theorem Socket.Sound.advance {e : WsEvent Ref} (hso : so.Sound buffer)
    (hadv : s.Advances buffer i e so c)
    (hnumbered : c.registered = true → so.wsId.isSome) : (so.withConnection c).Sound buffer :=
  ⟨.step hso.reached trivial hadv.step, hso.lifecycle.next hadv.step, hso.admitted, hnumbered⟩

theorem Socket.Sound.takeId (hso : so.Sound buffer) (wsId : ℕ)
    (hadm : so.handshake.admission.isAdmitted = true) :
    Socket.Sound buffer { so with wsId := some wsId } :=
  ⟨hso.reached, hso.lifecycle, fun _ => hadm, fun _ => rfl⟩

/-- A step keeps every socket sound. -/
theorem Sockets.sound_moves (hs : ∀ so ∈ s.sockets, so.Sound buffer) (h : s.Moves buffer s') :
    ∀ so ∈ s'.sockets, so.Sound buffer := by
  have hput {i : ℕ} {so' : Socket m Ref} (hso' : so'.Sound buffer) :
      ∀ so ∈ (s.put i so').sockets, so.Sound buffer := by
    intro so hso
    rcases List.mem_or_eq_of_mem_set hso with hso | rfl
    · exact hs so hso
    · exact hso'
  have hold {i : ℕ} {so : Socket m Ref} (hfound : s.sockets[i]? = some so) : so.Sound buffer :=
    hs so (List.mem_of_getElem? hfound)
  cases h with
  | arrived handshake =>
    intro so hso
    rcases List.mem_append.mp hso with hso | hso
    · exact hs so hso
    · rw [List.mem_singleton.mp hso]
      exact .new handshake
  | tookId hfound hadm hid => exact hput ((hold hfound).takeId _ hadm)
  | stepped hadv hreg hshut =>
    have hso := hold hadv.found
    exact hput (hso.advance hadv fun h => hso.numbered (hreg ▸ h))
  | registered hadv hid hrunning =>
    exact hput ((hold hadv.found).advance hadv fun _ => by rw [hid]; rfl)
  | dropped hadv hid hrunning =>
    exact hput ((hold hadv.found).advance hadv fun _ => by rw [hid]; rfl)
  | began code hrunning => exact hs
  | closed hadv hactive hrunning =>
    have hso := hold hadv.found
    refine hput (hso.advance hadv fun h => hso.numbered ?_)
    by_contra hreg
    have hstep := hadv.step
    cases hstep
    rw [if_neg hreg] at h
    exact hreg h
  | finished hrunning hempty => exact hs

-- ════════════════════════════════════════════════════════════════════════
-- Numbers
-- ════════════════════════════════════════════════════════════════════════

/-- The numbers that were taken. -/
def Sockets.taken (s : Sockets m Ref) : List ℕ := s.sockets.filterMap (·.wsId)

/-- The numbers are distinct, and the next one is new as long as the counter has not wrapped. -/
structure Sockets.Numbered (s : Sockets m Ref) : Prop where
  nodup : s.taken.Nodup
  below : ∀ n ∈ s.taken, n < s.taken.length
  nextWsId : s.nextWsId = s.taken.length % usizeSize

/-- A list with another element at a place. -/
theorem exists_split_of_getElem? {α : Type} {l : List α} {a : α} (h : l[i]? = some a) (b : α) :
    ∃ l₁ l₂, l = l₁ ++ a :: l₂ ∧ l.set i b = l₁ ++ b :: l₂ := by
  obtain ⟨hlt, rfl⟩ := List.getElem?_eq_some_iff.mp h
  refine ⟨l.take i, l.drop (i + 1), ?_, List.set_eq_take_append_cons_drop.trans (if_pos hlt)⟩
  rw [← List.drop_eq_getElem_cons, List.take_append_drop]

/-- A socket with its number kept keeps the numbers. -/
theorem Sockets.taken_put {so' : Socket m Ref} (hfound : s.sockets[i]? = some so)
    (hid : so'.wsId = so.wsId) : (s.put i so').taken = s.taken := by
  obtain ⟨l₁, l₂, hl, hset⟩ := exists_split_of_getElem? hfound so'
  unfold taken put
  rw [hset, hl, List.filterMap_append, List.filterMap_append, List.filterMap_cons,
    List.filterMap_cons, hid]

theorem Sockets.taken_takeId {n : ℕ} (hfound : s.sockets[i]? = some so) (hid : so.wsId = none) :
    (s.put i { so with wsId := some n }).taken.Perm (n :: s.taken) ∧
      s.taken.length < s.sockets.length := by
  obtain ⟨l₁, l₂, hl, hset⟩ := exists_split_of_getElem? hfound { so with wsId := some n }
  have htaken : s.taken = l₁.filterMap (·.wsId) ++ l₂.filterMap (·.wsId) := by
    rw [taken, hl, List.filterMap_append, List.filterMap_cons, hid]
  constructor
  · rw [htaken, taken, put, hset, List.filterMap_append]
    exact List.perm_middle
  · have h₁ := List.length_filterMap_le (fun so : Socket m Ref => so.wsId) l₁
    have h₂ := List.length_filterMap_le (fun so : Socket m Ref => so.wsId) l₂
    rw [htaken, hl, List.length_append, List.length_append, List.length_cons]
    omega

/-- Two sockets with one number are the same. -/
theorem Sockets.Numbered.index_unique (hs : s.Numbered) {i j n : ℕ} {so so' : Socket m Ref}
    (hi : s.sockets[i]? = some so) (hj : s.sockets[j]? = some so') (hn : so.wsId = some n)
    (hn' : so'.wsId = some n) : i = j := by
  have hpairs := List.pairwise_iff_getElem.mp (List.pairwise_filterMap.mp hs.nodup)
  obtain ⟨hilt, rfl⟩ := List.getElem?_eq_some_iff.mp hi
  obtain ⟨hjlt, rfl⟩ := List.getElem?_eq_some_iff.mp hj
  rcases Nat.lt_trichotomy i j with hlt | heq | hlt
  · exact absurd rfl (hpairs i j hilt hjlt hlt n hn n hn')
  · exact heq
  · exact absurd rfl (hpairs j i hjlt hilt hlt n hn' n hn)

theorem Sockets.numbered_moves (hs : s.Numbered) (hlen : s.sockets.length ≤ usizeSize)
    (h : s.Moves buffer s') : s'.Numbered := by
  have hsame {t : Sockets m Ref} (ht : t.taken = s.taken) (hnext : t.nextWsId = s.nextWsId) :
      t.Numbered :=
    ⟨ht ▸ hs.nodup, ht ▸ hs.below, by rw [ht, hnext]; exact hs.nextWsId⟩
  cases h with
  | arrived handshake =>
    refine hsame ?_ rfl
    unfold taken
    rw [List.filterMap_append]
    exact List.append_nil _
  | tookId hfound hadm hid =>
    obtain ⟨hperm, hlt⟩ := taken_takeId hfound hid (n := s.nextWsId)
    -- the counter has not wrapped: fewer numbers than connections were taken
    have hnext : s.nextWsId = s.taken.length := by
      rw [hs.nextWsId, Nat.mod_eq_of_lt (Nat.lt_of_lt_of_le hlt hlen)]
    have hlength := hperm.length_eq
    rw [List.length_cons] at hlength
    refine ⟨(hperm.nodup_iff).mpr (List.nodup_cons.mpr ⟨fun hmem => ?_, hs.nodup⟩), ?_, ?_⟩
    · exact absurd (hs.below _ hmem) (by omega)
    · intro n hn
      rcases List.mem_cons.mp (hperm.mem_iff.mp hn) with rfl | hn
      · exact hlength ▸ (by omega)
      · exact hlength ▸ Nat.lt_succ_of_lt (hs.below n hn)
    · exact (congrArg fetchAddOne hnext).trans (congrArg (· % usizeSize) hlength.symm)
  | stepped hadv => exact hsame (taken_put hadv.found rfl) rfl
  | registered hadv => exact hsame (taken_put hadv.found rfl) rfl
  | dropped hadv => exact hsame (taken_put hadv.found rfl) rfl
  | began code hrunning => exact hsame rfl rfl
  | closed hadv => exact hsame (taken_put hadv.found rfl) rfl
  | finished hrunning hempty => exact hsame rfl rfl

-- ════════════════════════════════════════════════════════════════════════
-- The table
-- ════════════════════════════════════════════════════════════════════════

/-- The connection `i` is registered under the number `wsId`. -/
def Sockets.Registered (s : Sockets m Ref) (wsId i : ℕ) : Prop :=
  ∃ so, s.sockets[i]? = some so ∧ so.wsId = some wsId ∧ so.connection.registered = true

/-- `active_websockets` has the registered connections under their numbers. -/
def Sockets.Tabled (s : Sockets m Ref) : Prop :=
  ∀ wsId i, s.active.get? wsId = some i ↔ s.Registered wsId i

theorem Sockets.getElem?_put {so' : Socket m Ref} (hfound : s.sockets[i]? = some so) (j : ℕ) :
    (s.put i so').sockets[j]? = if j = i then some so' else s.sockets[j]? := by
  obtain ⟨hlt, -⟩ := List.getElem?_eq_some_iff.mp hfound
  unfold put
  rw [List.getElem?_set]
  by_cases hji : j = i
  · rw [if_pos hji, if_pos hji.symm, if_pos hlt]
  · rw [if_neg hji, if_neg (Ne.symm hji)]

/-- Another state of a connection changes its own registration only. -/
theorem Sockets.registered_put_iff {so' : Socket m Ref} (hfound : s.sockets[i]? = some so)
    (wsId j : ℕ) : (s.put i so').Registered wsId j ↔
      if j = i then so'.wsId = some wsId ∧ so'.connection.registered = true
      else s.Registered wsId j := by
  unfold Registered
  simp only [getElem?_put hfound]
  by_cases hji : j = i
  · simp [if_pos hji]
  · simp only [if_neg hji]

theorem Sockets.registered_self_iff (hfound : s.sockets[i]? = some so) (wsId : ℕ) :
    s.Registered wsId i ↔ so.wsId = some wsId ∧ so.connection.registered = true := by
  unfold Registered
  rw [hfound]
  simp

/-- The table keeps to the registrations. -/
theorem Sockets.tabled_moves (hsound : ∀ so ∈ s.sockets, so.Sound buffer) (hnum : s.Numbered)
    (hs : s.Tabled) (h : s.Moves buffer s') : s'.Tabled := by
  have hold {i : ℕ} {so : Socket m Ref} (hfound : s.sockets[i]? = some so) : so.Sound buffer :=
    hsound so (List.mem_of_getElem? hfound)
  -- a socket that stays as registered as it was
  have hkeep {i : ℕ} {so so' : Socket m Ref} (hfound : s.sockets[i]? = some so)
      (hsame : ∀ wsId, so'.wsId = some wsId ∧ so'.connection.registered = true ↔
        so.wsId = some wsId ∧ so.connection.registered = true) (wsId j : ℕ) :
      s.active.get? wsId = some j ↔ (s.put i so').Registered wsId j := by
    rw [hs wsId j, registered_put_iff hfound]
    by_cases hji : j = i
    · rw [if_pos hji, hsame, hji]
      exact registered_self_iff hfound wsId
    · rw [if_neg hji]
  -- a registered number belongs to one socket
  have hother {i j wsId : ℕ} {so : Socket m Ref} (hfound : s.sockets[i]? = some so)
      (hid : so.wsId = some wsId) (hj : s.Registered wsId j) : j = i := by
    obtain ⟨so', hfound', hid', -⟩ := hj
    exact hnum.index_unique hfound' hfound hid' hid
  -- a socket that is taken out
  have hremove {i wsId : ℕ} {so so' : Socket m Ref} (hfound : s.sockets[i]? = some so)
      (hid : so.wsId = some wsId) (hreg : so'.connection.registered = false) (n j : ℕ) :
      (s.active.filter fun k _ => k ≠ wsId).get? n = some j ↔ (s.put i so').Registered n j := by
    rw [registered_put_iff hfound, Dict.get?_filter, Option.filter_eq_some_iff, hs n j,
      decide_eq_true_iff]
    by_cases hji : j = i
    · rw [if_pos hji, hreg, hji, registered_self_iff hfound, hid]
      simp only [Option.some.injEq, Bool.false_eq_true, and_false, iff_false]
      rintro ⟨⟨hn, -⟩, hne⟩
      exact hne hn.symm
    · rw [if_neg hji]
      exact ⟨fun h => h.1, fun h => ⟨h, fun hn => hji (hother hfound hid (hn ▸ h))⟩⟩
  cases h with
  | arrived handshake =>
    intro wsId i
    rw [hs wsId i]
    constructor
    · rintro ⟨so, hfound, h⟩
      obtain ⟨hlt, -⟩ := List.getElem?_eq_some_iff.mp hfound
      exact ⟨so, (List.getElem?_append_left hlt).trans hfound, h⟩
    · rintro ⟨so, hfound, hid, hreg⟩
      by_cases hlt : i < s.sockets.length
      · exact ⟨so, (List.getElem?_append_left hlt).symm.trans hfound, hid, hreg⟩
      · rw [List.getElem?_append_right (by omega)] at hfound
        rw [List.mem_singleton.mp (List.mem_of_getElem? hfound)] at hid
        cases hid
  | @tookId i so hfound hadm hid =>
    have hunreg : so.connection.registered = false := by
      by_contra hreg
      have hnumbered := (hold hfound).numbered (Bool.eq_true_of_not_eq_false hreg)
      rw [hid] at hnumbered
      cases hnumbered
    exact hkeep hfound fun wsId => by simp [hunreg]
  | stepped hadv hreg hshut =>
    refine hkeep hadv.found fun wsId => and_congr_right fun _ => ?_
    exact iff_of_eq (congrArg (· = true) hreg)
  | @registered i wsId so c hadv hid hrunning =>
    have hadm := (hold hadv.found).admitted (by rw [hid]; rfl)
    have hreg : c.registered = true := ((Connection.next_route hadv.step).2.2.1 hadm).2
    intro n j
    show (s.active.set wsId i).get? n = some j ↔ (s.put i (so.withConnection c)).Registered n j
    rw [registered_put_iff hadv.found, Dict.get?_set]
    by_cases hn : n = wsId
    · rw [if_pos hn, Option.some.injEq]
      by_cases hji : j = i
      · rw [if_pos hji, hn]
        exact iff_of_true hji.symm ⟨hid, hreg⟩
      · rw [if_neg hji, hn]
        exact iff_of_false (Ne.symm hji) fun h => hji (hother hadv.found hid h)
    · rw [if_neg hn, hs n j]
      by_cases hji : j = i
      · have hne : so.wsId ≠ some n := by
          rw [hid]
          exact fun h => hn (Option.some.inj h).symm
        rw [if_pos hji, hji, registered_self_iff hadv.found]
        exact iff_of_false (fun h => hne h.1) fun h => hne h.1
      · rw [if_neg hji]
  | dropped hadv hid hrunning =>
    exact hremove hadv.found hid (Connection.next_dropGuard hadv.step).2.1
  | began code hrunning => exact hs
  | @closed i wsId so c sd hadv hactive hrunning =>
    obtain ⟨hid, hreg⟩ := (registered_self_iff hadv.found wsId).mp ((hs wsId i).mp hactive)
    refine hremove hadv.found hid ?_
    rw [Connection.next_shutdown hadv.step hreg]
    rfl
  | finished hrunning hempty => exact hs

-- ════════════════════════════════════════════════════════════════════════
-- Shutdowns
-- ════════════════════════════════════════════════════════════════════════

/-- The shutdowns so far. -/
def Sockets.shutdowns (s : Sockets m Ref) : List Shutdown := s.finished ++ s.running.toList

/-- The protocol of the connection was closed with this code by a shutdown. -/
def Sockets.ShutDown (s : Sockets m Ref) (code : ℤ) (i : ℕ) : Prop :=
  ∃ so, s.sockets[i]? = some so ∧ so.connection.shutDown = true ∧
    .protocolClose code ∈ so.connection.trace

/-- A finished shutdown has closed what it found, the running one will have when the table is
empty, and none closes what another one has closed. -/
structure Sockets.Closes (s : Sockets m Ref) : Prop where
  finished : ∀ sd ∈ s.finished, sd.closed.Perm sd.found
  running : ∀ sd, s.running = some sd →
    (sd.closed ++ s.active.entries.map (·.2)).Perm sd.found
  once : (s.shutdowns.flatMap Shutdown.closed).Nodup
  closed : ∀ sd ∈ s.shutdowns, ∀ i ∈ sd.closed, s.ShutDown sd.code i

/-- A connection in another state stays shut down if its flag and its trace stay. -/
theorem Sockets.ShutDown.put {so' : Socket m Ref} {code : ℤ} {j : ℕ} (hs : s.ShutDown code j)
    (hfound : s.sockets[i]? = some so)
    (hshut : so.connection.shutDown = true → so'.connection.shutDown = true)
    (htrace : so.connection.trace <+: so'.connection.trace) : (s.put i so').ShutDown code j := by
  obtain ⟨so₀, hfound₀, hshut₀, hmem⟩ := hs
  unfold ShutDown
  rw [getElem?_put hfound]
  by_cases hji : j = i
  · rw [if_pos hji]
    obtain rfl : so = so₀ := Option.some.inj (hfound.symm.trans (hji ▸ hfound₀))
    exact ⟨so', rfl, hshut hshut₀, htrace.subset hmem⟩
  · rw [if_neg hji]
    exact ⟨so₀, hfound₀, hshut₀, hmem⟩

/-- No step takes the flag back. -/
theorem Connection.shutDown_next {admission : WsAdmission Ref} {c c' : Connection}
    {e : WsEvent Ref} (h : c.next admission buffer e = some c') (hshut : c.shutDown = true) :
    c'.shutDown = true := by
  by_cases hown : e.isOwn = true
  · exact (next_own hown h).2.1.trans hshut
  · cases e with
    | route => exact (next_route h).2.1.trans hshut
    | dropGuard => exact (next_dropGuard h).2.2.trans hshut
    | shutdown code =>
      cases h
      split
      · rfl
      · exact hshut
    | _ => exact absurd rfl hown

theorem Sockets.Advances.shutDown {e : WsEvent Ref} {code : ℤ} {j : ℕ}
    (hadv : s.Advances buffer i e so c) (hs : s.ShutDown code j) :
    (s.put i (so.withConnection c)).ShutDown code j :=
  hs.put hadv.found (Connection.shutDown_next hadv.step) (Connection.trace_prefix_next hadv.step)

/-- A shutdown in progress, or one that was made, among those after a step. -/
theorem Sockets.mem_shutdowns {sd : Shutdown} :
    sd ∈ s.shutdowns ↔ sd ∈ s.finished ∨ s.running = some sd := by
  unfold shutdowns
  rw [List.mem_append, Option.mem_toList]

theorem Sockets.closes_moves (hsound : ∀ so ∈ s.sockets, so.Sound buffer) (htab : s.Tabled)
    (hs : s.Closes) (h : s.Moves buffer s') : s'.Closes := by
  -- a step that leaves the shutdowns alone, while there is none or the table stays
  have hkeep {t : Sockets m Ref} (hfin : t.finished = s.finished) (hrun : t.running = s.running)
      (htable : s.running = none ∨ t.active = s.active)
      (hclosed : ∀ code j, s.ShutDown code j → t.ShutDown code j) : t.Closes := by
    have hall : t.shutdowns = s.shutdowns := by rw [shutdowns, shutdowns, hfin, hrun]
    refine ⟨hfin ▸ hs.finished, ?_, hall ▸ hs.once, ?_⟩
    · intro sd hsd
      rw [hrun] at hsd
      rcases htable with hnone | hactive
      · rw [hnone] at hsd
        cases hsd
      · rw [hactive]
        exact hs.running sd hsd
    · intro sd hsd j hj
      exact hclosed _ _ (hs.closed sd (hall ▸ hsd) j hj)
  cases h with
  | arrived handshake =>
    refine hkeep rfl rfl (.inr rfl) ?_
    rintro code j ⟨so, hfound, h⟩
    obtain ⟨hlt, -⟩ := List.getElem?_eq_some_iff.mp hfound
    exact ⟨so, (List.getElem?_append_left hlt).trans hfound, h⟩
  | tookId hfound hadm hid =>
    exact hkeep rfl rfl (.inr rfl) fun code j h => h.put hfound id List.prefix_rfl
  | stepped hadv => exact hkeep rfl rfl (.inr rfl) fun code j h => hadv.shutDown h
  | registered hadv hid hrunning =>
    exact hkeep rfl rfl (.inl hrunning) fun code j h => hadv.shutDown h
  | dropped hadv hid hrunning =>
    exact hkeep rfl rfl (.inl hrunning) fun code j h => hadv.shutDown h
  | began code hrunning =>
    have hbefore : s.shutdowns = s.finished := by rw [shutdowns, hrunning, Option.toList_none,
      List.append_nil]
    refine ⟨hs.finished, ?_, ?_, ?_⟩
    · intro sd hsd
      cases hsd
      exact .rfl
    · show ((s.finished ++ [_]).flatMap Shutdown.closed).Nodup
      rw [List.flatMap_append, List.flatMap_singleton, List.append_nil, ← hbefore]
      exact hs.once
    · intro sd hsd j hj
      rcases mem_shutdowns.mp hsd with hsd | hsd
      · exact hs.closed sd (hbefore ▸ hsd) j hj
      · cases hsd
        cases hj
  | @closed i wsId so c sd hadv hactive hrunning =>
    obtain ⟨hid, hreg⟩ := (registered_self_iff hadv.found wsId).mp ((htab wsId i).mp hactive)
    obtain ⟨-, hopen⟩ :=
      ((hsound so (List.mem_of_getElem? hadv.found)).lifecycle.registered_iff).mp hreg
    have hc := Connection.next_shutdown hadv.step hreg
    have hbefore : s.shutdowns = s.finished ++ [sd] := by rw [shutdowns, hrunning,
      Option.toList_some]
    -- no shutdown has closed the connection before
    have hnew : i ∉ s.shutdowns.flatMap Shutdown.closed := by
      intro hmem
      obtain ⟨sd', hsd', hi⟩ := List.mem_flatMap.mp hmem
      obtain ⟨so', hfound', hshut', -⟩ := hs.closed sd' hsd' i hi
      obtain rfl : so = so' := Option.some.inj (hadv.found.symm.trans hfound')
      rw [hopen] at hshut'
      cases hshut'
    refine ⟨hs.finished, ?_, ?_, ?_⟩
    · intro sd' hsd'
      cases hsd'
      have hperm := (Dict.perm_entries hactive).map Prod.snd
      rw [List.append_assoc]
      exact (hperm.symm.append_left sd.closed).trans (hs.running sd hrunning)
    · show ((s.finished ++ [{ sd with closed := sd.closed ++ [i] }]).flatMap Shutdown.closed).Nodup
      have honce := hs.once
      rw [hbefore, List.flatMap_append, List.flatMap_singleton] at honce hnew
      rw [List.flatMap_append, List.flatMap_singleton, ← List.append_assoc]
      exact honce.append (List.nodup_singleton i) (by simpa using hnew)
    · intro sd' hsd' j hj
      rcases mem_shutdowns.mp hsd' with hsd' | hsd'
      · exact hadv.shutDown (hs.closed sd' (mem_shutdowns.mpr (.inl hsd')) j hj)
      · cases hsd'
        rcases List.mem_append.mp hj with hj | hj
        · exact hadv.shutDown (hs.closed sd (mem_shutdowns.mpr (.inr hrunning)) j hj)
        · rw [List.mem_singleton.mp hj]
          refine ⟨so.withConnection c, (getElem?_put hadv.found i).trans (if_pos rfl), ?_, ?_⟩
          · show c.shutDown = true
            rw [hc]
            rfl
          · show WireEvent.protocolClose sd.code ∈ c.trace
            rw [hc]
            exact List.mem_append_right _ (List.mem_singleton_self _)
  | @finished sd hrunning hempty =>
    have hbefore : s.shutdowns = s.finished ++ [sd] := by rw [shutdowns, hrunning,
      Option.toList_some]
    have hsame : ({ s with running := none, finished := s.finished ++ [sd] } :
        Sockets m Ref).shutdowns = s.shutdowns := by
      rw [hbefore]
      exact List.append_nil _
    refine ⟨?_, nofun, hsame ▸ hs.once, fun sd' hsd' j hj => ?_⟩
    · intro sd' hsd'
      rcases List.mem_append.mp hsd' with hsd' | hsd'
      · exact hs.finished sd' hsd'
      · rw [List.mem_singleton.mp hsd']
        have hperm := hs.running sd hrunning
        rwa [hempty, List.map_nil, List.append_nil] at hperm
    · exact hs.closed sd' (hsame ▸ hsd') j hj

/-- Everything that holds of the connections of an application. -/
structure Sockets.Law (buffer : Ref → Option (List UInt8)) (s : Sockets m Ref) : Prop where
  sound : ∀ so ∈ s.sockets, so.Sound buffer
  numbered : s.Numbered
  tabled : s.Tabled
  closes : s.Closes

theorem Sockets.length_moves (h : s.Moves buffer s') :
    s.sockets.length ≤ s'.sockets.length := by
  cases h with
  | arrived handshake =>
    show _ ≤ (s.sockets ++ [_]).length
    rw [List.length_append]
    exact Nat.le_add_right _ _
  | began | finished => exact le_rfl
  | _ => exact (List.length_set ..).ge

theorem Sockets.law_new (buffer : Ref → Option (List UInt8)) :
    (new : Sockets m Ref).Law buffer where
  sound so hso := absurd hso List.not_mem_nil
  numbered := ⟨List.nodup_nil, fun n hn => absurd hn List.not_mem_nil, (Nat.zero_mod _).symm⟩
  tabled wsId i := by
    refine iff_of_false (by rw [new, Dict.get?_empty]; exact nofun) ?_
    rintro ⟨so, hfound, -⟩
    cases hfound
  closes := by
    refine ⟨fun sd hsd => absurd hsd List.not_mem_nil, ?_, List.nodup_nil,
      fun sd hsd => absurd hsd List.not_mem_nil⟩
    rintro sd ⟨⟩

/-- The law holds as long as there were no more connections than numbers. -/
theorem Sockets.law_of_reached (hs : (socketsSystem m buffer).Reached s)
    (hlen : s.sockets.length ≤ usizeSize) : s.Law buffer := by
  refine hs.invariant (P := fun s => s.sockets.length ≤ usizeSize → s.Law buffer) ?_ ?_ hlen
  · rintro s rfl -
    exact law_new buffer
  · intro s e s' ih hstep hlen
    have hmoves := next_moves hstep
    have hlaw := ih ((length_moves hmoves).trans hlen)
    exact ⟨sound_moves hlaw.sound hmoves,
      numbered_moves hlaw.numbered ((length_moves hmoves).trans hlen) hmoves,
      tabled_moves hlaw.sound hlaw.numbered hlaw.tabled hmoves,
      closes_moves hlaw.sound hlaw.tabled hlaw.closes hmoves⟩

end

/-- **The active WebSockets.** In every run of at most as many connections as there are numbers,
each connection has done what it could have done alone, no two have one number, and
`active_websockets` has exactly the connections that are in progress and that no shutdown
reached: none is forgotten, and none stays after its guard was dropped. -/
theorem active_websockets_law (buffer : Ref → Option (List UInt8)) {s : Sockets m Ref}
    (hs : (socketsSystem m buffer).Reached s) (hlen : s.sockets.length ≤ usizeSize) :
    (∀ so ∈ s.sockets, (connectionSystem so.handshake.compiled so.handshake.snap buffer
      so.handshake.path so.handshake.origin).Reached so.connection) ∧
    (∀ (i j n : ℕ) (so so' : Socket m Ref), s.sockets[i]? = some so →
      s.sockets[j]? = some so' → so.wsId = some n → so'.wsId = some n → i = j) ∧
    (∀ n i, s.active.get? n = some i → ∃ so, s.sockets[i]? = some so ∧ so.wsId = some n) ∧
    ∀ i so, s.sockets[i]? = some so → ((∃ n, so.wsId = some n ∧ s.active.get? n = some i) ↔
      so.connection.stage.inProgress = true ∧ so.connection.shutDown = false) := by
  have hlaw := Sockets.law_of_reached hs hlen
  refine ⟨fun so hso => (hlaw.sound so hso).reached, ?_, ?_, ?_⟩
  · intro i j n so so' hi hj hn hn'
    exact hlaw.numbered.index_unique hi hj hn hn'
  · intro n i hactive
    obtain ⟨so, hfound, hid, -⟩ := (hlaw.tabled n i).mp hactive
    exact ⟨so, hfound, hid⟩
  · intro i so hfound
    have hso := hlaw.sound so (List.mem_of_getElem? hfound)
    rw [← hso.lifecycle.registered_iff]
    constructor
    · rintro ⟨n, -, hactive⟩
      exact ((Sockets.registered_self_iff hfound n).mp ((hlaw.tabled n i).mp hactive)).2
    · intro hreg
      obtain ⟨n, hn⟩ := Option.isSome_iff_exists.mp (hso.numbered hreg)
      exact ⟨n, hn, (hlaw.tabled n i).mpr ⟨so, hfound, hn, hreg⟩⟩

/-- **Shutdowns.** In the same runs, a shutdown that is finished has closed every connection that
was registered when it took the lock, each with its code, and no connection is closed by two
shutdowns or twice by one. -/
theorem shutdowns_law (buffer : Ref → Option (List UInt8)) {s : Sockets m Ref}
    (hs : (socketsSystem m buffer).Reached s) (hlen : s.sockets.length ≤ usizeSize) :
    (∀ sd ∈ s.finished, sd.closed.Perm sd.found) ∧
    (∀ sd ∈ s.shutdowns, ∀ i ∈ sd.closed, s.ShutDown sd.code i) ∧
    (s.shutdowns.flatMap Shutdown.closed).Nodup := by
  have hlaw := Sockets.law_of_reached hs hlen
  exact ⟨hlaw.closes.finished, hlaw.closes.closed, hlaw.closes.once⟩

-- ════════════════════════════════════════════════════════════════════════
-- A concrete run
-- ════════════════════════════════════════════════════════════════════════

/-- A handshake with the echo application. -/
def echoHandshake : Handshake segmentMatcher String :=
  ⟨⟨echoApp.routers, echoApp.websocket, .new⟩, echoApp.hotSnapshot, "/ws", none⟩

/-- Two connections, of which the first has ended when a shutdown comes. -/
def twoSockets : Option (Sockets segmentMatcher String) :=
  ([.arrive echoHandshake, .arrive echoHandshake, .takeId 0, .takeId 1, .register 1, .register 0,
    .own 0 (.create true), .own 1 (.create true), .own 0 (.handlerEnds .returned), .dropGuard 0,
    .shutdown 1001, .closeNext 1, .own 1 (.handlerEnds .returned), .shutdownEnds,
    .dropGuard 1] : List (SocketsEvent segmentMatcher String)).foldlM
    (Sockets.next fun _ => none) .new

theorem twoSockets_reached {s : Sockets segmentMatcher String} (h : twoSockets = some s) :
    (socketsSystem segmentMatcher fun _ => none).Reached s :=
  TransitionSystem.Reached.foldlM (fun _ _ _ h => h) (.init rfl) h

/-- What the run leaves. -/
theorem twoSockets_state : ∃ s, twoSockets = some s ∧ s.sockets.length ≤ usizeSize ∧
    s.active.entries = [] ∧ s.finished = [⟨1001, [1], [1]⟩] := by
  have hrun : twoSockets.map (fun s => (s.sockets.length, s.active.entries, s.finished)) =
      some (2, [], [⟨1001, [1], [1]⟩]) := by decide +kernel
  obtain ⟨s, hs, heq⟩ := Option.map_eq_some_iff.mp hrun
  obtain ⟨hlen, hactive, hfinished⟩ : s.sockets.length = 2 ∧ s.active.entries = [] ∧
      s.finished = [⟨1001, [1], [1]⟩] := by simpa using heq
  refine ⟨s, hs, ?_, hactive, hfinished⟩
  rw [hlen]
  unfold usizeSize
  decide

theorem twoSockets_registry :
    ∃ s, twoSockets = some s ∧ s.active.entries = [] ∧
      ∀ i so, s.sockets[i]? = some so → ((∃ n, so.wsId = some n ∧ s.active.get? n = some i) ↔
        so.connection.stage.inProgress = true ∧ so.connection.shutDown = false) := by
  obtain ⟨s, hs, hlen, hactive, -⟩ := twoSockets_state
  exact ⟨s, hs, hactive,
    (active_websockets_law (fun _ => none) (twoSockets_reached hs) hlen).2.2.2⟩

theorem twoSockets_shutdown :
    ∃ s, twoSockets = some s ∧ s.ShutDown 1001 1 ∧
      (s.shutdowns.flatMap Shutdown.closed).Nodup := by
  obtain ⟨s, hs, hlen, -, hfinished⟩ := twoSockets_state
  obtain ⟨-, hclosed, honce⟩ := shutdowns_law (fun _ => none) (twoSockets_reached hs) hlen
  have hmem : ⟨1001, [1], [1]⟩ ∈ s.shutdowns := by
    rw [Sockets.mem_shutdowns, hfinished]
    exact .inl (List.mem_singleton_self _)
  exact ⟨s, hs, hclosed _ hmem 1 (List.mem_singleton_self _), honce⟩

end OxyRoute
