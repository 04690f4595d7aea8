import OxyRoute.Native.Counting

/-!
# One response for each request

How many responses are started on the protocol object of a request, where handlers use it through
the helpers. The dispatcher starts one itself, unless the handler returns the marker of a helper;
a helper that raises after it has started a response leaves two.

## Main definitions

- `Delegates`, `ProtocolUse` — what Python code does with the protocol object
- `MarkersGenuine` — only helpers return the marker
- `OneResponse` — at most one response, and one for each request that completes

## Main results

- `one_response` — one response unless a helper breaks
-/

namespace OxyRoute

open Routine

variable {m : Matchit} {Ref W : Type}

-- ════════════════════════════════════════════════════════════════════════
-- What Python code does with the protocol object
-- ════════════════════════════════════════════════════════════════════════

section

variable (rt : Runtime m Ref W) (tr : Transport m Ref W) (req : HttpRequest Ref)
  (snap : FrozenState m Ref) (started : W → ℕ)

/-- A handler does not touch the protocol object, or leaves the request to a helper. -/
inductive Delegates (w : World m Ref W) (r : Except (PyErr Ref) (PyVal Ref)) (w' : World m Ref W) :
    Prop
  | own : restPart started w' = restPart started w → Delegates w r w'
  | helper {c : PyResult m Ref W (PyVal Ref)} {w₀ : World m Ref W} :
      restPart started w₀ = restPart started w → IsHelper rt tr req.protocol started c →
      (c.run w₀).result = r → restPart started w' = restPart started (c.run w₀).state →
      Delegates w r w'

/-- Only handlers use the protocol object, through the helpers. The state counts the responses
that are started, and the helpers that raise after they have started one. -/
structure ProtocolUse (broken : W → ℕ) : Prop
    extends LeavesAlone rt req snap fun w => (started w, broken w) where
  counts : CountsResponses rt tr req.protocol started
  respond : ∀ call w, restPart broken (rt.respond req.protocol call w).2 = restPart broken w
  le : ∀ w, broken w ≤ started w
  marks : ∀ v, tr.Marks v → IsMarker rt.toInspection v
  handler : ∀ entry ∈ snap.routes, ∀ kwargs w,
    Delegates rt tr req started w ((handlerRun rt entry kwargs).run w).result
      ((handlerRun rt entry kwargs).run w).state
  breaks : ∀ entry ∈ snap.routes, ∀ kwargs w, Breaks started (handlerRun rt entry kwargs) w →
    restPart broken ((handlerRun rt entry kwargs).run w).state = restPart broken w + 1
  holds : ∀ entry ∈ snap.routes, ∀ kwargs w, ¬ Breaks started (handlerRun rt entry kwargs) w →
    restPart broken ((handlerRun rt entry kwargs).run w).state = restPart broken w

/-- Only a helper that has started a response returns the marker. -/
structure MarkersGenuine : Prop extends PlainValues rt req snap where
  handler : ∀ entry ∈ snap.routes, ∀ kwargs w v,
    ((handlerRun rt entry kwargs).run w).result = .ok v → IsMarker rt.toInspection v →
      restPart started ((handlerRun rt entry kwargs).run w).state ≠ restPart started w

end

/-- The request completes: the server gets no error. -/
def Completes (r : Except (Exit Ref) Unit) : Prop := r = .ok () ∨ r = .error .done

/-- At most one response has been started, and one if the request completes. -/
structure OneResponse (started : W → ℕ) (w : World m Ref W)
    (r : Ending (World m Ref W) (RequestEvent Ref) (Exit Ref) Unit) : Prop where
  atMost : restPart started r.state ≤ restPart started w + 1
  complete : Completes r.result → restPart started r.state = restPart started w + 1

-- ════════════════════════════════════════════════════════════════════════
-- Responses that are not broken
-- ════════════════════════════════════════════════════════════════════════

section

variable {rt : Runtime m Ref W} {tr : Transport m Ref W} {req : HttpRequest Ref}
  {snap : FrozenState m Ref} {started broken : W → ℕ}

/-- The responses that no broken helper has started. -/
def unbroken (started broken : W → ℕ) (w : W) : ℕ := started w - broken w

theorem unbroken_add {w w' : World m Ref W} (n : ℕ) (hle : broken w.rest ≤ started w.rest)
    (hstarted : restPart started w' = restPart started w + n)
    (hbroken : restPart broken w' = restPart broken w) :
    restPart (unbroken started broken) w' = restPart (unbroken started broken) w + n := by
  show restPart started w' - restPart broken w' = started w.rest - broken w.rest + n
  rw [hstarted, hbroken]
  exact Nat.sub_add_comm hle

theorem unbroken_broken {w w' : World m Ref W}
    (hstarted : restPart started w' = restPart started w + 1)
    (hbroken : restPart broken w' = restPart broken w + 1) :
    restPart (unbroken started broken) w' = restPart (unbroken started broken) w := by
  show restPart started w' - restPart broken w' = started w.rest - broken w.rest
  rw [hstarted, hbroken]
  exact Nat.add_sub_add_right _ 1 _

/-- A helper that breaks has started one response. -/
theorem ProtocolUse.breaks_once (huse : ProtocolUse rt tr req snap started broken)
    {entry : RouteEntry Ref} (hentry : entry ∈ snap.routes) (kwargs : Dict String (PyVal Ref))
    {w : World m Ref W} (hbreaks : Breaks started (handlerRun rt entry kwargs) w) :
    restPart started ((handlerRun rt entry kwargs).run w).state = restPart started w + 1 := by
  obtain ⟨⟨e, he⟩, hne⟩ := hbreaks
  cases huse.handler entry hentry kwargs w with
  | own hkeep => exact absurd hkeep hne
  | @helper c w₀ hstart hc hresult hstate =>
    have hresponds := hc.responds huse.counts w₀
    rw [Ensures, hresult, he] at hresponds
    rw [hstate, ← hstart]
    refine hresponds.resolve_left fun hsame => hne ?_
    rw [hstate, hsame, hstart]

/-- One response for the marker, none for another value. -/
theorem ProtocolUse.marker_counted (huse : ProtocolUse rt tr req snap started broken)
    (hmark : MarkersGenuine rt req snap started) {entry : RouteEntry Ref}
    (hentry : entry ∈ snap.routes) (kwargs : Dict String (PyVal Ref)) {w : World m Ref W}
    {v : PyVal Ref} (hv : ((handlerRun rt entry kwargs).run w).result = .ok v) :
    ∃ n, restPart started ((handlerRun rt entry kwargs).run w).state = restPart started w + n ∧
      MarkerCounted rt.toInspection v n := by
  cases huse.handler entry hentry kwargs w with
  | own hkeep =>
    have hplain : ¬ IsMarker rt.toInspection v := fun hm =>
      hmark.handler entry hentry kwargs w v hv hm hkeep
    exact ⟨0, hkeep, .inr ⟨hplain, rfl⟩⟩
  | @helper c w₀ hstart hc hresult hstate =>
    have hresponds := hc.responds huse.counts w₀
    rw [Ensures, hresult, hv] at hresponds
    refine ⟨1, ?_, .inl ⟨huse.marks v hresponds.2, rfl⟩⟩
    rw [hstate, hresponds.1, hstart]

/-- The responses that are not broken are counted as the dispatchers need it: a helper that breaks
counts for nothing. -/
theorem ProtocolUse.tallied (huse : ProtocolUse rt tr req snap started broken)
    (hmark : MarkersGenuine rt req snap started) :
    Tallied rt req snap (unbroken started broken) where
  toLeavesAlone := huse.toLeavesAlone.comp fun p => p.1 - p.2
  values := hmark.toPlainValues
  respond call w :=
    have hstarts := huse.counts.respond call w
    have hkeeps := huse.respond call w
    ⟨fun a ha => unbroken_add 1 (huse.le w.rest) (hstarts.1 a ha) hkeeps,
      fun e he => unbroken_add 0 (huse.le w.rest) (hstarts.2 e he) hkeeps⟩
  handler entry hentry kwargs := by
    intro w
    unfold Ensures
    split
    · next v hv =>
      have hnot : ¬ Breaks started (handlerRun rt entry kwargs) w := by
        rintro ⟨⟨e, he⟩, -⟩
        rw [hv] at he
        cases he
      obtain ⟨n, hn, hcount⟩ := huse.marker_counted hmark hentry kwargs hv
      exact ⟨n, unbroken_add n (huse.le w.rest) hn (huse.holds entry hentry kwargs w hnot), hcount⟩
    · next e he =>
      refine ⟨False.elim, fun _ => ?_⟩
      by_cases h : Breaks started (handlerRun rt entry kwargs) w
      · exact unbroken_broken (huse.breaks_once hentry kwargs h) (huse.breaks entry hentry kwargs w h)
      · have hsame : restPart started ((handlerRun rt entry kwargs).run w).state =
            restPart started w := Classical.byContradiction fun hne => h ⟨⟨e, he⟩, hne⟩
        exact unbroken_add 0 (huse.le w.rest) hsame (huse.holds entry hentry kwargs w h)

end

/-- **One response.** For every runtime, every state an application reaches and every request,
within the concurrency limit or over it, where Python code uses the protocol object through the
helpers of handlers and only helpers return the marker: if no helper breaks, one response is
started, and a request that completes with one response is one where no helper has broken. -/
theorem one_response {o : MaskOrder} (rt : Runtime m Ref W) (tr : Transport m Ref W)
    (req : HttpRequest Ref) (w : World m Ref W) (started broken : W → ℕ) (admitted : Bool)
    (hreached : (appSystem m Ref o).Reached w.app)
    (huse : ProtocolUse rt tr req w.app.hotSnapshot started broken)
    (hmark : MarkersGenuine rt req w.app.hotSnapshot started) :
    (restPart broken ((handleRsgi rt req admitted).run w).state = restPart broken w →
        OneResponse started w ((handleRsgi rt req admitted).run w)) ∧
      (Completes ((handleRsgi rt req admitted).run w).result →
        OneResponse started w ((handleRsgi rt req admitted).run w) →
          restPart broken ((handleRsgi rt req admitted).run w).state = restPart broken w) := by
  have ht := huse.tallied hmark
  have hsync (entry : RouteEntry Ref) (hentry : entry ∈ w.app.hotSnapshot.routes)
      (htrivial : entry.trivialSync = true) : entry.isAsync = false :=
    (((prepared_of_reached hreached).2 entry hentry).plain htrivial).isAsync
  have hanswers : Ensures (handleRsgi rt req admitted) w (fun _ _ _ => False) fun e w' _ =>
      (e = .done → restPart (unbroken started broken) w' =
        restPart (unbroken started broken) w + 1) ∧
      (e ≠ .done → restPart (unbroken started broken) w' =
        restPart (unbroken started broken) w) := by
    have hspends : Ensures (if admitted then dispatchWith rt req w.app.hotSnapshot
        else shedRequest rt req) w _ _ :=
      Spends.ite (dispatchWith_answers ht hsync) (shed_answers ht) w
    have hrun : (handleRsgi rt req admitted).run w =
        (if admitted then dispatchWith rt req w.app.hotSnapshot else shedRequest rt req).run w := by
      cases admitted with
      | true => exact dispatch_run rt req w
      | false => rfl
    rw [Ensures, hrun]
    exact hspends.mono (fun _ _ _ h => h.elim fun _ hn => hn.2) fun _ _ _ he => he
  rcases hr : (handleRsgi rt req admitted).run w with ⟨r, w', l⟩
  rw [Ensures, hr] at hanswers
  have hle := huse.le w.rest
  have hle' := huse.le w'.rest
  cases r with
  | ok u => exact hanswers.elim
  | error e =>
    obtain ⟨hdone, hraised⟩ := hanswers
    dsimp only [restPart, unbroken] at hdone hraised ⊢
    constructor
    · intro hbroken
      by_cases he : e = .done
      · have hone := hdone he
        have hstarted : started w'.rest = started w.rest + 1 := by omega
        exact ⟨Nat.le_of_eq hstarted, fun _ => hstarted⟩
      · have hsame := hraised he
        refine ⟨?_, ?_⟩
        · dsimp only [restPart]
          omega
        · rintro (h | h)
          · cases h
          · cases h
            exact absurd rfl he
    · intro hcompletes hone
      have he : e = .done := by
        rcases hcompletes with h | h
        · cases h
        · cases h
          rfl
      have hunbroken := hdone he
      have hstarted := hone.complete hcompletes
      dsimp only [restPart] at hstarted
      omega

-- ════════════════════════════════════════════════════════════════════════
-- A stream
-- ════════════════════════════════════════════════════════════════════════

/-- The responses that no broken helper has started, and those of broken ones. -/
abbrev Started := ℕ × ℕ

/-- One more response. -/
def startOne (w : World segmentMatcher String Started) : World segmentMatcher String Started :=
  { w with rest := (w.rest.1 + 1, w.rest.2) }

/-- A helper has broken. -/
def breakOne (w : World segmentMatcher String Started) : World segmentMatcher String Started :=
  { w with rest := (w.rest.1 - 1, w.rest.2 + 1) }

/-- A protocol object with streams. -/
def streamTransport : Transport segmentMatcher String Started where
  responseStream := some fun _ _ w => (.ok "stream", startOne w)
  responseFile := none
  sendStr _ _ w := (.ok (), w)
  sendBytes _ _ w := (.ok (), w)
  sseEvent _ := none
  buffer _ := none
  sseDone := "done"
  streamDone _ := "done"
  httpException _ _ := "exception"

/-- A runtime where no handler is awaited. -/
def quietRuntime : Runtime segmentMatcher String Started where
  toInspection := { (plainRuntime segmentMatcher).toInspection with
    getattr := fun r name =>
      .ok (if r = "done" ∧ name = "__oxyroute_stream_done__" then some (.bool true) else none) }
  call _ _ _ w := (.ok (.object "coroutine"), w)
  callMethod _ _ _ w := (.ok .none, w)
  intoFuture _ := .ok ()
  await v w := (.ok v, w)
  readBody _ w := (.ok (.bytes []), w)
  respond _ _ w := (.ok (), startOne w)
  setPathTemplate _ _ w := w
  rateLimit rl _ w := (.allowed rl.limit 0 1, w)
  others w := w
  dbQuery _ := none
  executeQuery _ _ w := (.ok (.list []), w)
  newRequest _ _ _ _ := .ok (.object "request")
  formUrlencoded _ := []
  parseBoundary _ := none
  multipartFields _ _ := ([], none)
  jsonBytesToPy _ := .error "EOF while parsing a value at line 1 column 0"
  decodeJwt _ _ _ := .error .other
  jsonToString _ := "null"
  maskOrder := (plainRuntime segmentMatcher).maskOrder
  maxBodyBytes := 8 * 1024 * 1024
  debug := false

/-- An iterator that yields a chunk, and may be lost after it. -/
def chunks (lost : Bool) : Items segmentMatcher String Started :=
  (fun w => (.ok (.bytes [104, 105]), w)) ::
    if lost then [fun w => (.error (.runtimeError "lost"), w)] else []

/-- `stream_bytes` for these chunks. -/
def streamChunks (lost : Bool) : PyResult segmentMatcher String Started (PyVal String) :=
  streamBytes quietRuntime streamTransport "protocol" (chunks lost) 200 [] "text/plain"

/-- A runtime where handlers stream these chunks. -/
def streamRuntime (lost : Bool) : Runtime segmentMatcher String Started :=
  { quietRuntime with
    await := fun _ w =>
      (((streamChunks lost).run w).result,
        if lost then breakOne ((streamChunks lost).run w).state
        else ((streamChunks lost).run w).state) }

/-- An application with one asynchronous handler. -/
def streamApp : World segmentMatcher String Started :=
  ⟨(addRoute { plainHost with isCoroutineFunction := fun _ => .ok true } (AppState.new true)
    { method := "GET", path := "/", handler := "stream", readJsonBody := false }).1, (0, 0)⟩

theorem streamApp_reached :
    (appSystem segmentMatcher String ⟨id, fun _ => .rfl⟩).Reached streamApp.app :=
  .step (i := .addRoute { plainHost with isCoroutineFunction := fun _ => .ok true } _)
    (.init ⟨true, rfl⟩) trivial rfl

theorem streamApp_route : ∀ entry ∈ streamApp.app.hotSnapshot.routes,
    entry.isAsync = true ∧ entry.extra.dependencies = [] := by
  decide

theorem streamChunks_run (rt : Runtime segmentMatcher String Started) (lost : Bool)
    (w : World segmentMatcher String Started) :
    (streamBytes rt streamTransport "protocol" (chunks lost) 200 [] "text/plain").run w =
      ⟨if lost then .error (.runtimeError "lost") else .ok (.object "done"), startOne w, []⟩ := by
  cases lost with
  | true => rfl
  | false => rfl

theorem chunks_plain (lost : Bool) : PlainItems (fun p : Started => p.1 + p.2) (chunks lost) := by
  intro next hnext w
  cases lost with
  | true =>
    rcases List.mem_pair.mp hnext with rfl | rfl
    · rfl
    · rfl
  | false =>
    rw [List.mem_singleton.mp hnext]

/-- A handler of the application streams the chunks. -/
theorem stream_run (lost : Bool) {entry : RouteEntry String} (hasync : entry.isAsync = true)
    (kwargs : Dict String (PyVal String)) (w : World segmentMatcher String Started) :
    (handlerRun (streamRuntime lost) entry kwargs).run w =
      ⟨if lost then .error (.runtimeError "lost") else .ok (.object "done"),
        if lost then breakOne (startOne w) else startOne w, [.handler entry.handler kwargs]⟩ := by
  unfold handlerRun handlerValue
  rw [hasync]
  cases lost with
  | true => rfl
  | false => rfl

/-- It breaks if the iterator is lost. -/
theorem stream_breaks_iff (lost : Bool) {entry : RouteEntry String} (hasync : entry.isAsync = true)
    (kwargs : Dict String (PyVal String)) (w : World segmentMatcher String Started) :
    Breaks (fun p : Started => p.1 + p.2) (handlerRun (streamRuntime lost) entry kwargs) w ↔
      lost = true := by
  rw [Breaks, stream_run lost hasync]
  cases lost with
  | true =>
    refine iff_of_true ⟨⟨_, rfl⟩, ?_⟩ rfl
    show w.rest.1 + 1 - 1 + (w.rest.2 + 1) ≠ w.rest.1 + w.rest.2
    omega
  | false =>
    refine iff_of_false ?_ Bool.false_ne_true
    rintro ⟨⟨e, he⟩, -⟩
    cases he

theorem stream_counts (lost : Bool) : CountsResponses (streamRuntime lost) streamTransport "protocol"
    fun p : Started => p.1 + p.2 where
  respond call w := ⟨fun _ _ => Nat.add_right_comm _ _ _, fun e he => by cases he⟩
  responseStream f hf status headers w := by
    cases hf
    exact ⟨fun _ _ => Nat.add_right_comm _ _ _, fun e he => by cases he⟩
  responseFile f hf := by cases hf
  sendStr _ _ _ := rfl
  sendBytes _ _ _ := rfl

theorem stream_use (lost : Bool) :
    ProtocolUse (streamRuntime lost) streamTransport (plainRequest "GET" "/")
      streamApp.app.hotSnapshot (fun p => p.1 + p.2) fun p => p.2 where
  others _ := rfl
  readBody _ := rfl
  setPathTemplate _ _ := rfl
  rateLimit _ _ _ := rfl
  callMethod _ _ _ _ := rfl
  middleware f _ args w := rfl
  exceptionHandler h hh := by cases hh
  dependency entry hentry dep hdep := by
    rw [(streamApp_route entry hentry).2] at hdep
    cases hdep
  bodyModel entry hentry model hmodel args w := rfl
  counts := stream_counts lost
  respond _ _ := rfl
  le w := Nat.le_add_left _ _
  marks v hv := by
    rcases hv with rfl | ⟨status, rfl⟩
    · rfl
    · rfl
  handler entry hentry kwargs w := by
    have hrun := streamChunks_run (streamRuntime lost) lost w
    rw [stream_run lost (streamApp_route entry hentry).1]
    refine @Delegates.helper _ _ _ _ _ _ _ _ _ _ _ w rfl
      (.streamBytes 200 [] "text/plain" (chunks_plain lost)) ?_ ?_
    · exact (congrArg Ending.result hrun).trans rfl
    · refine Eq.trans ?_ (congrArg (fun r => restPart _ (Ending.state r)) hrun).symm
      cases lost with
      | true =>
        show w.rest.1 + 1 - 1 + (w.rest.2 + 1) = w.rest.1 + 1 + w.rest.2
        omega
      | false => rfl
  breaks entry hentry kwargs w hbreaks := by
    have hasync := (streamApp_route entry hentry).1
    rw [stream_run lost hasync, (stream_breaks_iff lost hasync kwargs w).mp hbreaks]
    rfl
  holds entry hentry kwargs w hnot := by
    have hasync := (streamApp_route entry hentry).1
    have hlost : lost = false :=
      Bool.eq_false_iff.mpr fun h => hnot ((stream_breaks_iff lost hasync kwargs w).mpr h)
    rw [stream_run lost hasync, hlost]
    rfl

theorem stream_markers (lost : Bool) :
    MarkersGenuine (streamRuntime lost) (plainRequest "GET" "/") streamApp.app.hotSnapshot
      fun p : Started => p.1 + p.2 where
  middleware f hf := by cases hf
  exceptionHandler h hh := by cases hh
  handler entry hentry kwargs w v hv _ := by
    rw [stream_run lost (streamApp_route entry hentry).1]
    cases lost with
    | true =>
      show w.rest.1 + 1 - 1 + (w.rest.2 + 1) ≠ w.rest.1 + w.rest.2
      omega
    | false =>
      show w.rest.1 + 1 + w.rest.2 ≠ w.rest.1 + w.rest.2
      omega

/-- A stream that is sent to its end is the only response. -/
theorem stream_one :
    OneResponse (fun p : Started => p.1 + p.2) streamApp
      ((handleRsgi (streamRuntime false) (plainRequest "GET" "/") true).run streamApp) := by
  refine (one_response (streamRuntime false) streamTransport (plainRequest "GET" "/") streamApp
    (fun p => p.1 + p.2) (fun p => p.2) true streamApp_reached (stream_use false)
    (stream_markers false)).1 ?_
  rfl

/-- A stream whose iterator raises is followed by the answer to the error: two responses. -/
theorem stream_lost_two :
    (appSystem segmentMatcher String ⟨id, fun _ => .rfl⟩).Reached streamApp.app ∧
      ProtocolUse (streamRuntime true) streamTransport (plainRequest "GET" "/")
        streamApp.app.hotSnapshot (fun p => p.1 + p.2) (fun p => p.2) ∧
      MarkersGenuine (streamRuntime true) (plainRequest "GET" "/") streamApp.app.hotSnapshot
        (fun p => p.1 + p.2) ∧
      ¬ OneResponse (fun p : Started => p.1 + p.2) streamApp
        ((handleRsgi (streamRuntime true) (plainRequest "GET" "/") true).run streamApp) := by
  refine ⟨streamApp_reached, stream_use true, stream_markers true, fun h => ?_⟩
  have htwo : restPart (fun p : Started => p.1 + p.2)
      ((handleRsgi (streamRuntime true) (plainRequest "GET" "/") true).run streamApp).state = 2 :=
    rfl
  have hmost := h.atMost
  rw [htwo] at hmost
  exact absurd hmost (by decide)

end OxyRoute
