import OxyRoute.Lib.Transition
import OxyRoute.Native.Registration
import OxyRoute.Routing.Segments
import OxyRoute.Native.Values

/-!
# WebSocket connections

A connection from its arrival on: `run_rsgi_websocket` routes it, registers its protocol and runs
the handler; the handler, and whatever else has the `WebSocket`, accepts, sends, receives and
closes; `shutdown_websockets` may come at any moment. Three places close the protocol, and only
`WebSocket.close` looks at the `closed` flag.

## Main definitions

- `admitWebsocket` — routing and the check of the origin
- `WebSocket` — its flag and transport, with `received` and `close`
- `Connection`, `connectionSystem` — a connection and its steps
- `ClosedProperly` — the protocol is closed at most once, and not after the peer closed

## Main results

- `closes_properly_iff` — a run closes properly exactly when every step of it may close
-/

namespace OxyRoute

variable {m : Matchit} {Ref : Type}

-- ════════════════════════════════════════════════════════════════════════
-- Admission
-- ════════════════════════════════════════════════════════════════════════

/-- What becomes of a connection before its handler. -/
inductive WsAdmission (Ref : Type)
  | noRoute
  | indexError
  | forbidden
  | admitted (route : WebsocketRoute Ref) (params : PathParams)

/-- Whether the allowed origins of a route admit an `Origin` header. -/
def originAllowed : Option (List String) → Option String → Bool
  | none, _ => true
  | some origins, origin =>
    "*" ∈ origins || match origin with
      | some o => origins.any fun allowed => Text.eqIgnoreAsciiCase allowed (Text.trim o)
      | none => false

/-- `run_rsgi_websocket` up to the registration of the protocol. -/
def admitWebsocket (compiled : CompiledRouters m) (snap : FrozenState m Ref) (path : String)
    (origin : Option String) : WsAdmission Ref :=
  match matchWsRouteCompiled compiled path with
  | none => .noRoute
  | some (idx, params) =>
    match snap.websocketRoutes[idx]? with
    | none => .indexError
    | some route =>
      if originAllowed route.allowedOrigins origin then .admitted route params else .forbidden

-- ════════════════════════════════════════════════════════════════════════
-- The WebSocket object
-- ════════════════════════════════════════════════════════════════════════

/-- `WebSocket`. -/
structure WebSocket where
  hasTransport : Bool
  closed : Bool
  deriving DecidableEq, Repr

/-- What `transport.receive()` yields: kind 0 is the peer's close, 1 carries bytes, 2 text. -/
structure Frame (Ref : Type) where
  kind : ℕ
  data : PyVal Ref

/-- The three ways to receive. -/
inductive ReceiveMode
  | any
  | text
  | bytes
  deriving DecidableEq, Repr

/-- The value of a data frame; `buffer` reads a `bytearray` or a `memoryview`. -/
def frameValue (buffer : Ref → Option (List UInt8)) (mode : ReceiveMode) (frame : Frame Ref) :
    Except (PyErr Ref) (PyVal Ref) :=
  match mode with
  | .any => .ok frame.data
  | .text =>
    if frame.kind ≠ 2 then .error (.valueError "expected text frame")
    else
      match frame.data with
      | .str s => .ok (.str s)
      | _ => .error (.valueError "expected text frame")
  | .bytes =>
    if frame.kind ≠ 1 then .error (.valueError "expected binary frame")
    else
      match frame.data with
      | .bytes b => .ok (.bytes b)
      | .object r =>
        match buffer r with
        | some b => .ok (.bytes b)
        | none => .error (.valueError "expected binary frame")
      | _ => .error (.valueError "expected binary frame")

namespace WebSocket

/-- `accept`, when the handshake is done. -/
def accept (ws : WebSocket) : WebSocket := { ws with hasTransport := true }

/-- The error of sending and receiving before `accept`. -/
def notAccepted : PyErr Ref := .runtimeError "WebSocket: call accept() before send/receive"

/-- `receive`, `receive_text` and `receive_bytes`, when the transport has yielded a frame. -/
def received (buffer : Ref → Option (List UInt8)) (ws : WebSocket) (mode : ReceiveMode)
    (frame : Frame Ref) : WebSocket × Except (PyErr Ref) (PyVal Ref) :=
  if ws.hasTransport = false then (ws, .error notAccepted)
  else if frame.kind = 0 then
    ({ ws with closed := true }, .error (.runtimeError "WebSocket closed by peer"))
  else (ws, frameValue buffer mode frame)

/-- `close`: the code the protocol is closed with, if it is. -/
def close (ws : WebSocket) (code : Option ℤ) : WebSocket × Option ℤ :=
  ({ ws with closed := true }, if ws.closed then none else some (code.getD 1000))

end WebSocket

-- ════════════════════════════════════════════════════════════════════════
-- Connections
-- ════════════════════════════════════════════════════════════════════════

/-- What is seen on the protocol of a connection. -/
inductive WireEvent
  | peerClose
  | protocolClose (code : ℤ)
  deriving DecidableEq, Repr

/-- How far `run_rsgi_websocket` has come. -/
inductive WsStage
  | arrived
  | registered
  | running
  /-- The handler raised, or its value cannot be awaited. -/
  | failed
  /-- It returns, and its guard is not dropped yet. -/
  | returning
  | ended
  deriving DecidableEq, Repr

/-- A connection. `registered` says whether `active_websockets` has its protocol; `shutDown` and
`errorClosed` record that a shutdown reached it and that the dispatcher closed it. -/
structure Connection where
  stage : WsStage
  ws : Option WebSocket
  registered : Bool
  shutDown : Bool
  errorClosed : Bool
  trace : List WireEvent
  deriving DecidableEq, Repr

/-- How the call of a handler ends. -/
inductive HandlerEnd
  | returned
  | raisedBeforeAwait
  | notAwaitable
  | raised
  deriving DecidableEq, Repr

/-- The steps of a connection. -/
inductive WsEvent (Ref : Type)
  | route
  | create (ok : Bool)
  | accept
  | send
  | receive (mode : ReceiveMode) (frame : Frame Ref)
  | close (code : Option ℤ)
  | handlerEnds (out : HandlerEnd)
  | errorClose
  | cancel
  | dropGuard
  | shutdown (code : ℤ)

namespace Connection

/-- A call of `protocol.close`. -/
def closeProtocol (s : Connection) (code : ℤ) : Connection :=
  { s with trace := s.trace ++ [.protocolClose code] }

/-- The step that routes the connection. -/
def routed (s : Connection) : WsAdmission Ref → Connection
  | .noRoute => { s with stage := .ended }.closeProtocol 1000
  | .forbidden => { s with stage := .ended }.closeProtocol 1008
  | .indexError => { s with stage := .ended }
  | .admitted _ _ => { s with stage := .registered, registered := true }

/-- A call of `receive` or the like that has got a frame. -/
def receive (s : Connection) (buffer : Ref → Option (List UInt8)) (ws : WebSocket)
    (mode : ReceiveMode) (frame : Frame Ref) : Connection :=
  { s with
    ws := some (ws.received buffer mode frame).1
    trace := s.trace ++ if ws.hasTransport = true ∧ frame.kind = 0 then [.peerClose] else [] }

/-- A call of `WebSocket.close`. -/
def close (s : Connection) (ws : WebSocket) (code : Option ℤ) : Connection :=
  match ws.close code with
  | (ws, some code) => { s with ws := some ws }.closeProtocol code
  | (ws, none) => { s with ws := some ws }

/-- One step; there is none where an event is not enabled. -/
def next (admission : WsAdmission Ref) (buffer : Ref → Option (List UInt8)) (s : Connection) :
    WsEvent Ref → Option Connection
  | .route => if s.stage = .arrived then some (s.routed admission) else none
  | .create ok =>
    if s.stage = .registered then
      some (if ok then { s with stage := .running, ws := some ⟨false, false⟩ }
        else { s with stage := .failed })
    else none
  | .accept => s.ws.map fun ws => { s with ws := some ws.accept }
  | .send => s.ws.map fun _ => s
  | .receive mode frame => s.ws.map fun ws => s.receive buffer ws mode frame
  | .close code => s.ws.map fun ws => s.close ws code
  | .handlerEnds out =>
    if s.stage = .running then
      some { s with stage := if out = .returned then .returning else .failed }
    else none
  | .errorClose =>
    if s.stage = .failed then
      some ({ s with stage := .returning, errorClosed := true }.closeProtocol 1011)
    else none
  | .cancel =>
    if s.stage = .registered ∨ s.stage = .running then some { s with stage := .returning } else none
  | .dropGuard =>
    if s.stage = .returning then some { s with stage := .ended, registered := false } else none
  | .shutdown code =>
    some (if s.registered then { s with registered := false, shutDown := true }.closeProtocol code
      else s)

end Connection

/-- A connection to an application. -/
def connectionSystem (compiled : CompiledRouters m) (snap : FrozenState m Ref)
    (buffer : Ref → Option (List UInt8)) (path : String) (origin : Option String) :
    TransitionSystem Connection (WsEvent Ref) where
  init s := s = ⟨.arrived, none, false, false, false, []⟩
  step s e s' := s.next (admitWebsocket compiled snap path origin) buffer e = some s'

/-- The protocol is closed at most once, and not after the peer's close was received. -/
structure ClosedProperly (trace : List WireEvent) : Prop where
  once : trace.countP (· ≠ .peerClose) ≤ 1
  notAfterPeer : trace.Pairwise fun e e' => e = .peerClose → e' = .peerClose

namespace ClosedProperly

variable {t l : List WireEvent}

theorem nil : ClosedProperly [] := ⟨Nat.zero_le _, .nil⟩

theorem of_append (h : ClosedProperly (t ++ l)) : ClosedProperly t where
  once := by
    have hcount := h.once
    rw [List.countP_append] at hcount
    exact Nat.le_of_add_right_le hcount
  notAfterPeer := (List.pairwise_append.mp h.notAfterPeer).1

/-- Receiving the peer's close is always in order. -/
theorem append_peerClose (h : ClosedProperly t) : ClosedProperly (t ++ [.peerClose]) where
  once := by
    rw [List.countP_append]
    exact h.once
  notAfterPeer := by
    refine List.pairwise_append.mpr ⟨h.notAfterPeer, List.pairwise_singleton _ _, ?_⟩
    intro e _ e' he' _
    exact List.mem_singleton.mp he'

/-- Closing the protocol is in order only where nothing was seen on it. -/
theorem append_protocolClose_iff {code : ℤ} : ClosedProperly (t ++ [.protocolClose code]) ↔ t = [] := by
  constructor
  · intro h
    cases t with
    | nil => rfl
    | cons e t =>
      cases e with
      | peerClose =>
        have hpair := (List.pairwise_append.mp h.notAfterPeer).2.2 _ List.mem_cons_self _
          (List.mem_singleton_self _) rfl
        cases hpair
      | protocolClose code' =>
        have hcount := h.once
        have hfirst : (WireEvent.protocolClose code' :: t).countP (· ≠ .peerClose) =
            t.countP (· ≠ .peerClose) + 1 := List.countP_cons_of_pos (by simp)
        rw [List.countP_append, hfirst] at hcount
        have hone : [WireEvent.protocolClose code].countP (· ≠ .peerClose) = 1 := rfl
        omega
  · rintro rfl
    exact ⟨le_rfl, List.pairwise_singleton _ _⟩

end ClosedProperly

-- ════════════════════════════════════════════════════════════════════════
-- What closes the protocol
-- ════════════════════════════════════════════════════════════════════════

/-- The `closed` flag; unset where there is no `WebSocket` yet. -/
def Connection.flag (s : Connection) : Bool := (s.ws.map (·.closed)).getD false

/-- The `closed` flag is set, or a shutdown or the dispatcher has closed the protocol. -/
def Connection.touched (s : Connection) : Bool := s.flag || s.shutDown || s.errorClosed

/-- The steps that close the protocol once the handler may run: the dispatcher's after a failed
handler, a shutdown of a registered connection, and `WebSocket.close` where the flag is unset. -/
def WsEvent.Closes (s : Connection) : WsEvent Ref → Prop
  | .errorClose => s.stage = .failed
  | .shutdown _ => s.registered = true
  | .close _ => s.ws.isSome ∧ s.flag = false
  | _ => False

/-- A step that closes the protocol finds it untouched. -/
def MayClose (s : Connection) (e : WsEvent Ref) : Prop := e.Closes s → s.touched = false

/-- The trace is empty as long as the connection is untouched, unless it was turned away. -/
structure Recorded (s : Connection) : Prop where
  early : s.stage = .arrived ∨ s.stage = .registered → s.ws = none
  arrived : s.stage = .arrived → s.registered = false ∧ s.trace = []
  trace : s.stage = .ended ∧ s.ws = none ∧ s.registered = false ∨
    (s.trace = [] ↔ s.touched = false)

section

variable {admission : WsAdmission Ref} {buffer : Ref → Option (List UInt8)} {s s' : Connection}
  {e : WsEvent Ref}

/-- What a step shows on the wire. -/
theorem Connection.next_trace (h : s.next admission buffer e = some s') :
    (s'.trace = s.trace ∧ ¬ e.Closes s) ∨ (s'.trace = s.trace ++ [.peerClose] ∧ ¬ e.Closes s) ∨
    ∃ code, s'.trace = s.trace ++ [.protocolClose code] ∧ (e.Closes s ∨ s.stage = .arrived) := by
  cases e with
  | route =>
    simp only [next, Option.ite_none_right_eq_some] at h
    obtain ⟨hstage, h⟩ := h
    cases h
    cases admission with
    | noRoute => exact .inr (.inr ⟨1000, rfl, .inr hstage⟩)
    | forbidden => exact .inr (.inr ⟨1008, rfl, .inr hstage⟩)
    | _ => exact .inl ⟨rfl, id⟩
  | create ok =>
    simp only [next, Option.ite_none_right_eq_some] at h
    obtain ⟨-, h⟩ := h
    cases h
    cases ok <;> exact .inl ⟨rfl, id⟩
  | accept | send =>
    obtain ⟨ws, -, rfl⟩ := Option.map_eq_some_iff.mp h
    exact .inl ⟨rfl, id⟩
  | receive mode frame =>
    obtain ⟨ws, -, rfl⟩ := Option.map_eq_some_iff.mp h
    by_cases hclose : ws.hasTransport = true ∧ frame.kind = 0
    · exact .inr (.inl ⟨by simp [receive, hclose], id⟩)
    · exact .inl ⟨by simp [receive, hclose], id⟩
  | close code =>
    obtain ⟨ws, hws, rfl⟩ := Option.map_eq_some_iff.mp h
    cases hflag : ws.closed with
    | true =>
      refine .inl ⟨by simp [close, WebSocket.close, hflag], ?_⟩
      rintro ⟨-, hunset⟩
      simp [flag, hws, hflag] at hunset
    | false =>
      refine .inr (.inr ⟨code.getD 1000, ?_, .inl ⟨by simp [hws], by simp [flag, hws, hflag]⟩⟩)
      simp [close, WebSocket.close, hflag, closeProtocol]
  | handlerEnds out =>
    simp only [next, Option.ite_none_right_eq_some] at h
    obtain ⟨-, h⟩ := h
    cases h
    exact .inl ⟨rfl, id⟩
  | errorClose =>
    simp only [next, Option.ite_none_right_eq_some] at h
    obtain ⟨hstage, h⟩ := h
    cases h
    exact .inr (.inr ⟨1011, rfl, .inl hstage⟩)
  | cancel | dropGuard =>
    simp only [next, Option.ite_none_right_eq_some] at h
    obtain ⟨-, h⟩ := h
    cases h
    exact .inl ⟨rfl, id⟩
  | shutdown code =>
    cases h
    by_cases hreg : s.registered = true
    · rw [if_pos hreg]
      exact .inr (.inr ⟨code, rfl, .inl hreg⟩)
    · rw [if_neg hreg]
      exact .inl ⟨rfl, hreg⟩

/-- A connection that was touched has a trace, and keeps both. -/
theorem Recorded.of_touched (hearly : s'.stage = .arrived ∨ s'.stage = .registered → s'.ws = none)
    (harrived : s'.stage ≠ .arrived) (htouched : s'.touched = true) (htrace : s'.trace ≠ []) :
    Recorded s' where
  early := hearly
  arrived h := absurd h harrived
  trace := .inr (iff_of_false htrace (by simp [htouched]))

/-- A step that changes neither what the trace depends on nor the trace. -/
theorem Recorded.move (hs : Recorded s)
    (hearly : s'.stage = .arrived ∨ s'.stage = .registered → s'.ws = none)
    (harrived : s'.stage ≠ .arrived) (htouched : s'.touched = s.touched)
    (htrace : s'.trace = s.trace)
    (hended : s.stage = .ended → s.ws = none → s.registered = false →
      s'.stage = .ended ∧ s'.ws = none ∧ s'.registered = false) : Recorded s' where
  early := hearly
  arrived h := absurd h harrived
  trace := by
    rw [htouched, htrace]
    rcases hs.trace with ⟨hstage, hws, hreg⟩ | htr
    · exact .inl (hended hstage hws hreg)
    · exact .inr htr

/-- A connection with a `WebSocket` is past its registration. -/
theorem Recorded.past (hs : Recorded s) {ws : WebSocket} (hws : s.ws = some ws) :
    s.stage ≠ .arrived ∧ s.stage ≠ .registered := by
  constructor
  · intro h
    rw [hs.early (.inl h)] at hws
    cases hws
  · intro h
    rw [hs.early (.inr h)] at hws
    cases hws

theorem Recorded.trace_iff (hs : Recorded s) {ws : WebSocket} (hws : s.ws = some ws) :
    s.trace = [] ↔ s.touched = false := by
  refine hs.trace.resolve_left ?_
  rintro ⟨-, hnone, -⟩
  rw [hnone] at hws
  cases hws

/-- Receiving a frame keeps the record. -/
theorem Recorded.receive (hs : Recorded s) {ws : WebSocket} (hws : s.ws = some ws)
    (mode : ReceiveMode) (frame : Frame Ref) : Recorded (s.receive buffer ws mode frame) := by
  obtain ⟨harr, hreg⟩ := hs.past hws
  by_cases hclose : ws.hasTransport = true ∧ frame.kind = 0
  · refine .of_touched (fun h => h.elim (absurd · harr) (absurd · hreg)) harr ?_ ?_
    · simp [Connection.receive, Connection.touched, Connection.flag, WebSocket.received, hclose]
    · simp [Connection.receive, hclose]
  · refine hs.move (fun h => h.elim (absurd · harr) (absurd · hreg)) harr ?_ ?_ ?_
    · have hsame : (ws.received buffer mode frame).1 = ws := by
        unfold WebSocket.received
        split
        · rfl
        · next htransport =>
          rw [if_neg fun hkind => hclose ⟨by simpa using htransport, hkind⟩]
      simp [Connection.receive, Connection.touched, Connection.flag, hsame, hws]
    · simp [Connection.receive, hclose]
    · intro _ hnone
      rw [hnone] at hws
      cases hws

/-- So does `WebSocket.close`. -/
theorem Recorded.close (hs : Recorded s) {ws : WebSocket} (hws : s.ws = some ws)
    (code : Option ℤ) : Recorded (s.close ws code) := by
  obtain ⟨harr, hreg⟩ := hs.past hws
  have hiff := hs.trace_iff hws
  have hstage : s.stage = (s.close ws code).stage := by
    unfold Connection.close
    split <;> rfl
  cases hflag : ws.closed with
  | true =>
    have htouched : s.touched = true := by
      simp [Connection.touched, Connection.flag, hws, hflag]
    refine .of_touched (hstage ▸ fun h => h.elim (absurd · harr) (absurd · hreg))
      (hstage ▸ harr) ?_ ?_
    · simp [Connection.close, WebSocket.close, hflag, Connection.touched, Connection.flag]
    · simp [Connection.close, WebSocket.close, hflag, hiff, htouched]
  | false =>
    refine .of_touched (hstage ▸ fun h => h.elim (absurd · harr) (absurd · hreg))
      (hstage ▸ harr) ?_ ?_
    · simp [Connection.close, WebSocket.close, hflag, Connection.closeProtocol,
        Connection.touched, Connection.flag]
    · simp [Connection.close, WebSocket.close, hflag, Connection.closeProtocol]

/-- Each step keeps the record. -/
theorem Recorded.next (hs : Recorded s) (h : s.next admission buffer e = some s') : Recorded s' := by
  cases e with
  | route =>
    simp only [Connection.next, Option.ite_none_right_eq_some] at h
    obtain ⟨hstage, h⟩ := h
    cases h
    have hws := hs.early (.inl hstage)
    have hreg := (hs.arrived hstage).1
    have hiff : s.trace = [] ↔ s.touched = false :=
      hs.trace.resolve_left fun h => by rw [hstage] at h; cases h.1
    cases admission with
    | admitted route params => exact ⟨fun _ => hws, nofun, .inr hiff⟩
    | _ => exact ⟨fun _ => hws, nofun, .inl ⟨rfl, hws, hreg⟩⟩
  | create ok =>
    simp only [Connection.next, Option.ite_none_right_eq_some] at h
    obtain ⟨hstage, h⟩ := h
    cases h
    have hws := hs.early (.inr hstage)
    have hiff : s.trace = [] ↔ s.touched = false :=
      hs.trace.resolve_left fun h => by rw [hstage] at h; cases h.1
    cases ok with
    | true =>
      refine ⟨by simp, nofun, .inr ?_⟩
      simpa [Connection.touched, Connection.flag, hws] using hiff
    | false => exact ⟨by simp, nofun, .inr hiff⟩
  | accept =>
    obtain ⟨ws, hws, rfl⟩ := Option.map_eq_some_iff.mp h
    obtain ⟨harr, hreg⟩ := hs.past hws
    refine hs.move (fun h => h.elim (absurd · harr) (absurd · hreg)) harr ?_ rfl ?_
    · simp [Connection.touched, Connection.flag, hws, WebSocket.accept]
    · intro _ hnone
      rw [hnone] at hws
      cases hws
  | send =>
    obtain ⟨ws, hws, rfl⟩ := Option.map_eq_some_iff.mp h
    exact hs
  | receive mode frame =>
    obtain ⟨ws, hws, rfl⟩ := Option.map_eq_some_iff.mp h
    exact hs.receive hws mode frame
  | close code =>
    obtain ⟨ws, hws, rfl⟩ := Option.map_eq_some_iff.mp h
    exact hs.close hws code
  | handlerEnds out =>
    simp only [Connection.next, Option.ite_none_right_eq_some] at h
    obtain ⟨hstage, h⟩ := h
    cases h
    refine hs.move ?_ ?_ rfl rfl (fun hended => by rw [hstage] at hended; cases hended)
    · intro h
      dsimp only at h
      split at h <;> simp at h
    · dsimp only
      split <;> exact nofun
  | errorClose =>
    simp only [Connection.next, Option.ite_none_right_eq_some] at h
    obtain ⟨-, h⟩ := h
    cases h
    refine .of_touched (by simp [Connection.closeProtocol]) nofun ?_ ?_
    · simp [Connection.closeProtocol, Connection.touched]
    · simp [Connection.closeProtocol]
  | cancel =>
    simp only [Connection.next, Option.ite_none_right_eq_some] at h
    obtain ⟨hstage, h⟩ := h
    cases h
    refine hs.move (by simp) nofun rfl rfl ?_
    intro hended
    rw [hended] at hstage
    rcases hstage with hstage | hstage <;> cases hstage
  | dropGuard =>
    simp only [Connection.next, Option.ite_none_right_eq_some] at h
    obtain ⟨hstage, h⟩ := h
    cases h
    refine hs.move (by simp) nofun rfl rfl ?_
    intro hended
    rw [hstage] at hended
    cases hended
  | shutdown code =>
    cases h
    by_cases hreg : s.registered = true
    · rw [if_pos hreg]
      have harr : s.stage ≠ .arrived := fun h => by
        rw [(hs.arrived h).1] at hreg
        cases hreg
      refine .of_touched hs.early harr ?_ ?_
      · simp [Connection.closeProtocol, Connection.touched]
      · simp [Connection.closeProtocol]
    · rw [if_neg hreg]
      exact hs

/-- A step that closes the protocol finds an empty trace exactly when the connection is
untouched. -/
theorem Recorded.closes_iff (hs : Recorded s) (hc : e.Closes s) :
    s.trace = [] ↔ s.touched = false := by
  refine hs.trace.resolve_left ?_
  rintro ⟨hstage, hws, hreg⟩
  cases e with
  | errorClose => cases hstage.symm.trans hc
  | shutdown code => cases hreg.symm.trans hc
  | close code =>
    rw [WsEvent.Closes, hws] at hc
    cases hc.1
  | _ => exact hc

/-- One step closes properly exactly when it may close. -/
theorem closedProperly_next_iff (hs : Recorded s) (h : s.next admission buffer e = some s') :
    ClosedProperly s'.trace ↔ ClosedProperly s.trace ∧ MayClose s e := by
  rcases Connection.next_trace h with ⟨ht, hc⟩ | ⟨ht, hc⟩ | ⟨code, ht, hc⟩
  · rw [ht]
    exact ⟨fun hp => ⟨hp, fun h => absurd h hc⟩, fun hp => hp.1⟩
  · rw [ht]
    exact ⟨fun hp => ⟨hp.of_append, fun h => absurd h hc⟩, fun hp => hp.1.append_peerClose⟩
  · rw [ht, ClosedProperly.append_protocolClose_iff]
    constructor
    · intro hnil
      rw [hnil]
      exact ⟨.nil, fun hcl => (hs.closes_iff hcl).mp hnil⟩
    · rintro ⟨-, hmay⟩
      rcases hc with hcl | harr
      · exact (hs.closes_iff hcl).mpr (hmay hcl)
      · exact (hs.arrived harr).2

end

/-- **Closing a WebSocket.** In every run of a connection, the protocol is closed at most once and
never after the peer's close was received, exactly when the run has only steps that may close:
the handler fails only while the `closed` flag is unset and no shutdown has come; a shutdown comes
only while the flag is unset and the handler has not failed; and `WebSocket.close` is called on an
unset flag only before both. -/
theorem closes_properly_iff (compiled : CompiledRouters m) (snap : FrozenState m Ref)
    (buffer : Ref → Option (List UInt8)) (path : String) (origin : Option String)
    {s : Connection} (hs : (connectionSystem compiled snap buffer path origin).Reached s) :
    ClosedProperly s.trace ↔
      (connectionSystem compiled snap buffer path origin).ReachedUnder MayClose s := by
  have hrecorded : ∀ s, (connectionSystem compiled snap buffer path origin).Reached s →
      Recorded s := by
    intro s hs
    refine hs.invariant (P := Recorded) ?_ ?_
    · rintro s rfl
      exact ⟨fun _ => rfl, fun _ => ⟨rfl, rfl⟩, .inr ⟨fun _ => rfl, fun _ => rfl⟩⟩
    · intro s e s' hr hstep
      exact hr.next hstep
  constructor
  · intro hp
    induction hs with
    | init h => exact .init h
    | step hr _ hstep ih =>
      obtain ⟨hprev, hmay⟩ := (closedProperly_next_iff (hrecorded _ hr) hstep).mp hp
      exact .step (ih hprev) hmay hstep
  · intro hunder
    induction hunder with
    | init h =>
      obtain rfl := h
      exact .nil
    | step hr hmay hstep ih =>
      exact (closedProperly_next_iff (hrecorded _ hr.reached) hstep).mpr ⟨ih hr.reached, hmay⟩

-- ════════════════════════════════════════════════════════════════════════
-- Concrete connections
-- ════════════════════════════════════════════════════════════════════════

/-- An application with the WebSocket route `/ws`. -/
def echoApp : AppState segmentMatcher String :=
  (addWebsocketRoute plainHost (.new true) "/ws" "echo" none).1

/-- A connection to it. -/
def echoSystem : TransitionSystem Connection (WsEvent String) :=
  connectionSystem ⟨echoApp.routers, echoApp.websocket, .new⟩ echoApp.hotSnapshot (fun _ => none)
    "/ws" none

/-- The connection after some steps. -/
def echoRun (events : List (WsEvent String)) : Option Connection :=
  events.foldlM (fun s e => s.next (admitWebsocket ⟨echoApp.routers, echoApp.websocket, .new⟩
    echoApp.hotSnapshot "/ws" none) (fun _ => none) e) ⟨.arrived, none, false, false, false, []⟩

theorem echoRun_reached {events : List (WsEvent String)} {s : Connection}
    (h : echoRun events = some s) : echoSystem.Reached s := by
  have hrun (s₀ : Connection) (h₀ : echoSystem.Reached s₀) (events : List (WsEvent String))
      (h : events.foldlM (fun s e => s.next (admitWebsocket
        ⟨echoApp.routers, echoApp.websocket, .new⟩ echoApp.hotSnapshot "/ws" none)
        (fun _ => none) e) s₀ = some s) : echoSystem.Reached s := by
    induction events generalizing s₀ with
    | nil =>
      cases h
      exact h₀
    | cons e events ih =>
      rw [List.foldlM_cons] at h
      obtain ⟨s₁, h₁, h⟩ := Option.bind_eq_some_iff.mp h
      exact ih s₁ (.step h₀ trivial h₁) h
  exact hrun _ (.init rfl) events h

/-- A handler that closes and returns. -/
theorem echo_closes_properly :
    ∃ s, echoRun [.route, .create true, .accept, .close none, .handlerEnds .returned, .dropGuard,
        .shutdown 1001] = some s ∧
      (ClosedProperly s.trace ↔ echoSystem.ReachedUnder MayClose s) := by
  have hrun : echoRun [.route, .create true, .accept, .close none, .handlerEnds .returned,
      .dropGuard, .shutdown 1001] =
        some ⟨.ended, some ⟨true, true⟩, false, false, false, [.protocolClose 1000]⟩ := rfl
  exact ⟨_, hrun, closes_properly_iff ⟨echoApp.routers, echoApp.websocket, .new⟩
    echoApp.hotSnapshot (fun _ => none) "/ws" none (echoRun_reached hrun)⟩

/-- The uncaught error of a closed peer closes the protocol after the peer did, and an error after
`ws.close()` closes it a second time. -/
theorem echo_closes_twice :
    ∃ s s', echoSystem.Reached s ∧ s.trace = [.peerClose, .protocolClose 1011] ∧
      ¬ ClosedProperly s.trace ∧ echoSystem.Reached s' ∧
      s'.trace = [.protocolClose 1000, .protocolClose 1011] ∧ ¬ ClosedProperly s'.trace := by
  have hafter : echoRun [.route, .create true, .accept, .receive .any ⟨0, .none⟩,
      .handlerEnds .raised, .errorClose] = some ⟨.returning, some ⟨true, true⟩, true, false, true,
        [.peerClose, .protocolClose 1011]⟩ := rfl
  have htwice : echoRun [.route, .create true, .accept, .close none, .handlerEnds .raised,
      .errorClose] = some ⟨.returning, some ⟨true, true⟩, true, false, true,
        [.protocolClose 1000, .protocolClose 1011]⟩ := rfl
  refine ⟨_, _, echoRun_reached hafter, rfl, ?_, echoRun_reached htwice, rfl, ?_⟩
  · intro h
    exact absurd h.notAfterPeer (by decide)
  · intro h
    exact absurd h.once (by decide)

end OxyRoute
