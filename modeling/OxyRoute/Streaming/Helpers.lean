import OxyRoute.Streaming.Sse
import OxyRoute.Lib.Tally

/-!
# Responses that handlers send themselves

The helpers of `oxyroute/sse.py`, `oxyroute/streaming.py` and `oxyroute/static.py`. They make
response calls on the protocol object and return a marker that keeps the dispatcher from sending
a response of its own.

## Main definitions

- `Transport` — what the helpers use of the protocol object and of Python
- `Items` — what an iterator yields, step by step
- `sendSse`, `streamBytes`, `streamText`, `streamJsonl` — the helpers for streams
- `StaticFiles.call` — the handler for static files
- `IsHelper` — a call of one of them

## Main results

- `IsHelper.responds` — a helper that returns has started one response and returns a marker
- `Streams.breaks_iff` — where a helper raises after it has started a response
-/

namespace OxyRoute

open Routine

variable {m : Matchit} {Ref W : Type}

-- ════════════════════════════════════════════════════════════════════════
-- The protocol object
-- ════════════════════════════════════════════════════════════════════════

/-- What the helpers use of the protocol object and of Python. -/
structure Transport (m : Matchit) (Ref W : Type) where
  /-- `protocol.response_stream`, where the protocol object has it. -/
  responseStream : Option (ℕ → HeaderPairs → World m Ref W →
    Except (PyErr Ref) Ref × World m Ref W)
  /-- `protocol.response_file`, where the protocol object has it. -/
  responseFile : Option (ℕ → HeaderPairs → String → World m Ref W →
    Except (PyErr Ref) Unit × World m Ref W)
  /-- `stream.send_str`, awaited. -/
  sendStr : Ref → PyVal Ref → World m Ref W → Except (PyErr Ref) Unit × World m Ref W
  /-- `stream.send_bytes`, awaited. -/
  sendBytes : Ref → PyVal Ref → World m Ref W → Except (PyErr Ref) Unit × World m Ref W
  /-- The fields of an object that is an `SSEEvent`. -/
  sseEvent : Ref → Option SseEvent
  /-- The bytes of a bytes-like object. -/
  buffer : Ref → Option (List UInt8)
  /-- The value of `sse_done()`. -/
  sseDone : Ref
  /-- The value of `stream_done(status)`. -/
  streamDone : ℕ → Ref
  /-- `HTTPException(status_code, detail)`. -/
  httpException : ℕ → String → Ref

/-- What an iterator yields, step by step: a step gives the next item or raises. -/
abbrev Items (m : Matchit) (Ref W : Type) :=
  List (World m Ref W → Except (PyErr Ref) (PyVal Ref) × World m Ref W)

/-- A loop over an iterator. -/
def forEach (body : PyVal Ref → PyResult m Ref W Unit) : Items m Ref W → PyResult m Ref W Unit
  | [] => return
  | next :: rest => do
    let item ← Routine.effect next
    body item
    forEach body rest

/-- A loop that gathers what `f` makes of the items. -/
def gather {α : Type} (f : PyVal Ref → Except (PyErr Ref) α) :
    Items m Ref W → PyResult m Ref W (List α)
  | [] => return []
  | next :: rest => do
    let item ← Routine.effect next
    let chunk ← Routine.ofExcept (f item)
    return chunk :: (← gather f rest)

/-- `"".join(chunks)`, from the item with the given number on. -/
def joinStrs (py : Inspection Ref) : ℕ → List (PyVal Ref) → Except (PyErr Ref) PyStr
  | _, [] => .ok ⟨"", false⟩
  | i, .str s :: rest => do
    let tail ← joinStrs py (i + 1) rest
    return ⟨s.text ++ tail.text, s.surrogates || tail.surrogates⟩
  | i, v :: _ => .error (.typeError
      ("sequence item " ++ toString i ++ ": expected str instance, " ++ v.typeName py ++ " found"))

/-- `b"".join(chunks)`, from the item with the given number on. -/
def joinBytes (py : Inspection Ref) (buffer : Ref → Option (List UInt8)) :
    ℕ → List (PyVal Ref) → Except (PyErr Ref) (List UInt8)
  | _, [] => .ok []
  | i, v :: rest =>
    let bytes := match v with
      | .bytes b => some b
      | .object r => buffer r
      | _ => none
    match bytes with
    | some b => return b ++ (← joinBytes py buffer (i + 1) rest)
    | none => .error (.typeError ("sequence item " ++ toString i ++
        ": expected a bytes-like object, " ++ v.typeName py ++ " found"))

section

variable (rt : Runtime m Ref W) (tr : Transport m Ref W) (protocol : Ref)

-- ════════════════════════════════════════════════════════════════════════
-- The helpers
-- ════════════════════════════════════════════════════════════════════════

/-- `send_sse`. -/
def sendSse (events : Items m Ref W) (status : ℕ) (headers : HeaderPairs) :
    PyResult m Ref W (PyVal Ref) := do
  let baseHeaders := [("content-type", "text/event-stream; charset=utf-8"),
    ("cache-control", "no-cache"), ("connection", "keep-alive")] ++ headers
  match tr.responseStream with
  | some streamFactory =>
    let stream ← Routine.effect (streamFactory status baseHeaders)
    forEach (fun item => do
      let chunk ← Routine.ofExcept (toSseChunk tr.sseEvent item)
      Routine.effect (tr.sendStr stream (.str chunk))) events
    return .object tr.sseDone
  | none =>
    let chunks ← gather (fun item => (toSseChunk tr.sseEvent item).map .str) events
    let body ← Routine.ofExcept (joinStrs rt.toInspection 0 chunks)
    Routine.effect (rt.respond protocol (.responseStr status baseHeaders body))
    return .object tr.sseDone

/-- `stream_bytes`. -/
def streamBytes (iterable : Items m Ref W) (status : ℕ) (headers : HeaderPairs)
    (contentType : String) : PyResult m Ref W (PyVal Ref) := do
  let baseHeaders := ("content-type", contentType) :: headers
  match tr.responseStream with
  | some streamFactory =>
    let stream ← Routine.effect (streamFactory status baseHeaders)
    forEach (fun chunk => Routine.effect (tr.sendBytes stream chunk)) iterable
    return .object (tr.streamDone status)
  | none =>
    let chunks ← gather .ok iterable
    let body ← Routine.ofExcept (joinBytes rt.toInspection tr.buffer 0 chunks)
    Routine.effect (rt.respond protocol (.responseBytes status baseHeaders body))
    return .object (tr.streamDone status)

/-- `stream_text`. -/
def streamText (iterable : Items m Ref W) (status : ℕ) (headers : HeaderPairs)
    (contentType : String) : PyResult m Ref W (PyVal Ref) := do
  let baseHeaders := ("content-type", contentType) :: headers
  match tr.responseStream with
  | some streamFactory =>
    let stream ← Routine.effect (streamFactory status baseHeaders)
    forEach (fun chunk => Routine.effect (tr.sendStr stream chunk)) iterable
    return .object (tr.streamDone status)
  | none =>
    let chunks ← gather .ok iterable
    let body ← Routine.ofExcept (joinStrs rt.toInspection 0 chunks)
    Routine.effect (rt.respond protocol (.responseStr status baseHeaders body))
    return .object (tr.streamDone status)

/-- The generator of `stream_jsonl`: each item as a line of JSON. -/
def jsonlItems (iterable : Items m Ref W) : Items m Ref W :=
  iterable.map fun next w =>
    match next w with
    | (.ok item, w') => ((rt.jsonDumps item).map fun line => .text (line ++ "\n"), w')
    | (.error e, w') => (.error e, w')

/-- `stream_jsonl`. -/
def streamJsonl (iterable : Items m Ref W) (status : ℕ) (headers : HeaderPairs) :
    PyResult m Ref W (PyVal Ref) :=
  streamText rt tr protocol (jsonlItems rt iterable) status headers
    "application/x-ndjson; charset=utf-8"

end

-- ════════════════════════════════════════════════════════════════════════
-- Static files
-- ════════════════════════════════════════════════════════════════════════

/-- The file system `StaticFiles` looks at. -/
structure FileSystem (Ref : Type) where
  /-- `Path.resolve`. -/
  resolve : String → Except (PyErr Ref) String
  /-- `Path.exists`. -/
  pathExists : String → Except (PyErr Ref) Bool
  /-- `Path.is_file`. -/
  isFile : String → Except (PyErr Ref) Bool
  /-- `mimetypes.guess_type`. -/
  guessType : String → Option String
  /-- Read a file. -/
  read : String → Except (PyErr Ref) (List UInt8)

/-- `StaticFiles`; the directory is resolved. -/
structure StaticFiles where
  directory : String
  html : Bool
  maxAge : Option ℤ
  deriving DecidableEq, Repr

/-- The parts of a path. -/
def pathParts (path : String) : List String :=
  ((path.toList.splitOnP (· == '/')).filter (· ≠ [])).map String.ofList

/-- `directory / path`. -/
def joinPaths (directory path : String) : String :=
  if directory = "/" then "/" ++ path else directory ++ "/" ++ path

/-- `str.lstrip("/")`. -/
def lstripSlash (path : String) : String := String.ofList (path.toList.dropWhile (· = '/'))

/-- The file for a path, or the `HTTPException` for one that has none. -/
def StaticFiles.target (files : StaticFiles) (fs : FileSystem Ref)
    (httpException : ℕ → String → Ref) (path : String) : Except (PyErr Ref) String := do
  if ['.', '.'] ∈ path.toList.splitOnP (· == '/') then
    throw (.raised (httpException 403 "Forbidden"))
  let targetPath ← match fs.resolve (joinPaths files.directory (lstripSlash path)) with
    | .ok p => .ok p
    | .error _ => .error (.raised (httpException 404 "Not Found"))
  if !(pathParts files.directory).isPrefixOf (pathParts targetPath) then
    throw (.raised (httpException 403 "Forbidden"))
  -- `not exists() or not is_file()`
  let found ← if ← fs.pathExists targetPath then fs.isFile targetPath else pure false
  if found then return targetPath
  let index := joinPaths targetPath "index.html"
  if files.html then
    if ← fs.isFile index then return index
  throw (.raised (httpException 404 "Not Found"))

/-- The headers of a static file. -/
def StaticFiles.headers (files : StaticFiles) (fs : FileSystem Ref) (file : String) :
    HeaderPairs :=
  [("content-type", (fs.guessType file).getD "application/octet-stream")] ++
    match files.maxAge with
    | some n => [("cache-control", "public, max-age=" ++ toString n)]
    | none => []

/-- `StaticFiles.__call__`. -/
def StaticFiles.call (files : StaticFiles) (fs : FileSystem Ref) (rt : Runtime m Ref W)
    (tr : Transport m Ref W) (protocol : Ref) (path : String) : PyResult m Ref W (PyVal Ref) := do
  let file ← Routine.ofExcept (files.target fs tr.httpException path)
  let headers := files.headers fs file
  match tr.responseFile with
  | some responseFile =>
    Routine.effect (responseFile 200 headers file)
    return .object (tr.streamDone 200)
  | none =>
    let body ← Routine.ofExcept (fs.read file)
    Routine.effect (rt.respond protocol (.responseBytes 200 headers body))
    return .object (tr.streamDone 200)

-- ════════════════════════════════════════════════════════════════════════
-- Responses started
-- ════════════════════════════════════════════════════════════════════════

/-- A part of what is outside the application, such as the number of responses that have been
started on the protocol object. -/
abbrev restPart {κ : Type} (part : W → κ) (w : World m Ref W) : κ := part w.rest

/-- A call starts a response if it returns, and none if it raises. -/
def Starts {α : Type} (started : W → ℕ)
    (f : World m Ref W → Except (PyErr Ref) α × World m Ref W) : Prop :=
  ∀ w, (∀ a, (f w).1 = .ok a → restPart started (f w).2 = restPart started w + 1) ∧
    ∀ e, (f w).1 = .error e → restPart started (f w).2 = restPart started w

/-- The calls on the protocol object that start a response, and those that do not. -/
structure CountsResponses (rt : Runtime m Ref W) (tr : Transport m Ref W) (protocol : Ref)
    (started : W → ℕ) : Prop where
  respond : ∀ call, Starts started (rt.respond protocol call)
  responseStream : ∀ f, tr.responseStream = some f → ∀ status headers,
    Starts started (f status headers)
  responseFile : ∀ f, tr.responseFile = some f → ∀ status headers path,
    Starts started (f status headers path)
  sendStr : ∀ stream v w, restPart started (tr.sendStr stream v w).2 = restPart started w
  sendBytes : ∀ stream v w, restPart started (tr.sendBytes stream v w).2 = restPart started w

/-- The iterator makes no response calls. -/
def PlainItems (started : W → ℕ) (items : Items m Ref W) : Prop :=
  ∀ next ∈ items, ∀ w, restPart started (next w).2 = restPart started w

/-- A call of a helper. -/
inductive IsHelper (rt : Runtime m Ref W) (tr : Transport m Ref W) (protocol : Ref)
    (started : W → ℕ) : PyResult m Ref W (PyVal Ref) → Prop
  | sendSse {events : Items m Ref W} (status : ℕ) (headers : HeaderPairs) :
      PlainItems started events →
      IsHelper rt tr protocol started (sendSse rt tr protocol events status headers)
  | streamBytes {iterable : Items m Ref W} (status : ℕ) (headers : HeaderPairs)
      (contentType : String) : PlainItems started iterable →
      IsHelper rt tr protocol started
        (streamBytes rt tr protocol iterable status headers contentType)
  | streamText {iterable : Items m Ref W} (status : ℕ) (headers : HeaderPairs)
      (contentType : String) : PlainItems started iterable →
      IsHelper rt tr protocol started
        (streamText rt tr protocol iterable status headers contentType)
  | streamJsonl {iterable : Items m Ref W} (status : ℕ) (headers : HeaderPairs) :
      PlainItems started iterable →
      IsHelper rt tr protocol started (streamJsonl rt tr protocol iterable status headers)
  | staticFiles (files : StaticFiles) (fs : FileSystem Ref) (path : String) :
      IsHelper rt tr protocol started (files.call fs rt tr protocol path)

/-- The values of `sse_done()` and `stream_done()`. -/
def Transport.Marks (tr : Transport m Ref W) (v : PyVal Ref) : Prop :=
  v = .object tr.sseDone ∨ ∃ status, v = .object (tr.streamDone status)

section

variable {rt : Runtime m Ref W} {tr : Transport m Ref W} {protocol : Ref} {started : W → ℕ}

theorem Starts.spends {α : Type} {f : World m Ref W → Except (PyErr Ref) α × World m Ref W}
    (h : Starts started f) :
    Spends (restPart started) (fun _ => False) (fun _ n => n = 1)
      (Routine.effect f : PyResult m Ref W α) := by
  intro w
  have hw := h w
  refine ensures_effect.mpr ?_
  rcases hr : f w with ⟨r, w'⟩
  rw [hr] at hw
  cases r with
  | ok a => exact ⟨1, hw.1 a rfl, rfl⟩
  | error e => exact ⟨False.elim, fun _ => hw.2 e rfl⟩

theorem forEach_keeps {body : PyVal Ref → PyResult m Ref W Unit} {items : Items m Ref W}
    (hitems : PlainItems started items) (hbody : ∀ v, Keeps (restPart started) (body v)) :
    Keeps (restPart started) (forEach body items) := by
  induction items with
  | nil => exact keeps_pure ()
  | cons next rest ih =>
    have hrest := ih fun f hf => hitems f (List.mem_cons_of_mem next hf)
    exact (keeps_effect (hitems next List.mem_cons_self)).bind fun item =>
      (hbody item).bind fun _ => hrest

theorem gather_keeps {α : Type} (f : PyVal Ref → Except (PyErr Ref) α) {items : Items m Ref W}
    (hitems : PlainItems started items) : Keeps (restPart started) (gather f items) := by
  induction items with
  | nil => exact keeps_pure []
  | cons next rest ih =>
    have hrest := ih fun f hf => hitems f (List.mem_cons_of_mem next hf)
    exact (keeps_effect (hitems next List.mem_cons_self)).bind fun item =>
      (keeps_ofExcept _).bind fun chunk => hrest.bind fun _ => keeps_pure _

/-- A value comes with one response, an error with at most one. -/
def Responds (started : W → ℕ) (P : PyVal Ref → Prop) (c : PyResult m Ref W (PyVal Ref)) : Prop :=
  ∀ w, Ensures c w (fun v w' _ => restPart started w' = restPart started w + 1 ∧ P v)
    fun _ w' _ => restPart started w' = restPart started w ∨
      restPart started w' = restPart started w + 1

/-- The computation raises, and a response has been started. -/
def Breaks (started : W → ℕ) (c : PyResult m Ref W (PyVal Ref)) (w : World m Ref W) : Prop :=
  (∃ e, (c.run w).result = .error e) ∧ restPart started (c.run w).state ≠ restPart started w

/-- A stream is started and fed. -/
def feedStream (f : World m Ref W → Except (PyErr Ref) Ref × World m Ref W)
    (feed : Ref → PyResult m Ref W Unit) (marker : Ref) : PyResult m Ref W (PyVal Ref) := do
  let stream ← Routine.effect f
  feed stream
  return .object marker

/-- The chunks are gathered and sent as one response. -/
def sendGathered {α β : Type} (chunks : PyResult m Ref W α) (join : α → Except (PyErr Ref) β)
    (send : β → World m Ref W → Except (PyErr Ref) Unit × World m Ref W) (marker : Ref) :
    PyResult m Ref W (PyVal Ref) := do
  let chunks ← chunks
  let body ← Routine.ofExcept (join chunks)
  Routine.effect (send body)
  return .object marker

theorem Responds.mono {P P' : PyVal Ref → Prop} {c : PyResult m Ref W (PyVal Ref)}
    (hc : Responds started P c) (h : ∀ v, P v → P' v) : Responds started P' c :=
  fun w => (hc w).mono (fun v _ _ hv => ⟨hv.1, h v hv.2⟩) fun _ _ _ he => he

theorem responds_of_spends {P : PyVal Ref → Prop} {c : PyResult m Ref W (PyVal Ref)}
    (hc : Spends (restPart started) (fun _ => False) (fun v n => P v ∧ n = 1) c) :
    Responds started P c := by
  intro w
  refine (hc w).mono ?_ fun _ _ _ he => .inl (he.2 id)
  rintro v w' l ⟨n, hn, hv, rfl⟩
  exact ⟨hn, hv⟩

theorem feedStream_responds {f : World m Ref W → Except (PyErr Ref) Ref × World m Ref W}
    (hf : Starts started f) {feed : Ref → PyResult m Ref W Unit}
    (hfeed : ∀ stream, Keeps (restPart started) (feed stream)) (marker : Ref) :
    Responds started (fun v => v = .object marker) (feedStream f feed marker) := by
  intro w
  refine ((hf.spends w).mono (fun _ _ _ h => h) fun _ _ _ he => .inl (he.2 id)).bind ?_
  rintro stream w' l ⟨n, hn, rfl⟩
  have hfed : Ensures (feed stream) w'
      (fun _ w'' _ => restPart started w'' = restPart started w')
      (fun _ w'' _ => restPart started w'' = restPart started w') := by
    have hkeep := hfeed stream w'
    unfold Ensures
    split
    · exact hkeep
    · exact hkeep
  refine (hfed.mono (fun _ _ _ h => h) fun _ _ _ h => .inr (h.trans hn)).bind ?_
  intro _ w'' l' h
  exact ensures_pure.mpr ⟨h.trans hn, rfl⟩

/-- An error before the response is started, or of the call that starts it. -/
theorem sendGathered_exact {α β : Type} {chunks : PyResult m Ref W α}
    (hchunks : Keeps (restPart started) chunks) (join : α → Except (PyErr Ref) β)
    {send : β → World m Ref W → Except (PyErr Ref) Unit × World m Ref W}
    (hsend : ∀ body, Starts started (send body)) (marker : Ref) :
    Spends (restPart started) (fun _ => False) (fun v n => v = .object marker ∧ n = 1)
      (sendGathered chunks join send marker) := by
  refine hchunks.spends_zero.bind_zero fun chunks => ?_
  refine (keeps_ofExcept (join chunks)).spends_zero.bind_zero fun body => ?_
  exact (hsend body).spends.bind_pure fun _ n hn => ⟨rfl, hn⟩

/-- A stream breaks if it has been started and feeding it raises. -/
theorem feedStream_breaks_iff {f : World m Ref W → Except (PyErr Ref) Ref × World m Ref W}
    (hf : Starts started f) {feed : Ref → PyResult m Ref W Unit}
    (hfeed : ∀ stream, Keeps (restPart started) (feed stream)) (marker : Ref)
    (w : World m Ref W) :
    Breaks started (feedStream f feed marker) w ↔
      ∃ stream w', f w = (.ok stream, w') ∧ ∃ e, ((feed stream).run w').result = .error e := by
  have hstart := hf w
  rcases hr : f w with ⟨r, w'⟩
  rw [hr] at hstart
  have heffect : (Routine.effect f : PyResult m Ref W Ref).run w = ⟨r, w', []⟩ := by
    rw [effect_run, hr]
  cases r with
  | error e =>
    have hrun : (feedStream f feed marker).run w = ⟨.error e, w', []⟩ := bind_run_error heffect _
    constructor
    · rintro ⟨-, hne⟩
      rw [hrun] at hne
      exact absurd (hstart.2 e rfl) hne
    · rintro ⟨stream, w'', ⟨⟩, -⟩
  | ok stream =>
    have hkeep := hfeed stream w'
    have hone := hstart.1 stream rfl
    rcases hfed : (feed stream).run w' with ⟨r, w'', l⟩
    rw [hfed] at hkeep
    have hrun : (feedStream f feed marker).run w = _ := bind_run_ok heffect _
    cases r with
    | error e =>
      rw [bind_run_error hfed] at hrun
      refine iff_of_true ⟨⟨e, by rw [hrun]; rfl⟩, ?_⟩ ⟨stream, w', rfl, e, by rw [hfed]⟩
      rw [hrun, Ending.state_after, hkeep, hone]
      exact Nat.succ_ne_self _
    | ok u =>
      rw [bind_run_ok hfed] at hrun
      refine iff_of_false ?_ ?_
      · rintro ⟨⟨e, he⟩, -⟩
        rw [hrun] at he
        cases he
      · rintro ⟨stream', w₁, ⟨⟩, e, he⟩
        rw [hfed] at he
        cases he

theorem not_breaks {R : PyVal Ref → ℕ → Prop} {c : PyResult m Ref W (PyVal Ref)}
    (hc : Spends (restPart started) (fun _ => False) R c) (w : World m Ref W) :
    ¬ Breaks started c w := by
  rintro ⟨⟨e, he⟩, hne⟩
  have hw := hc w
  rw [Ensures, he] at hw
  exact hne (hw.2 id)

/-- A helper for streams: a stream where the protocol object has one, or else one response. -/
structure Streams {α β : Type} (tr : Transport m Ref W) (c : PyResult m Ref W (PyVal Ref))
    (status : ℕ) (headers : HeaderPairs) (feed : Ref → PyResult m Ref W Unit)
    (chunks : PyResult m Ref W α) (join : α → Except (PyErr Ref) β)
    (send : β → World m Ref W → Except (PyErr Ref) Unit × World m Ref W) (marker : Ref) : Prop where
  streamed : ∀ f, tr.responseStream = some f → c = feedStream (f status headers) feed marker
  gathered : tr.responseStream = none → c = sendGathered chunks join send marker

section

variable {α β : Type} {c : PyResult m Ref W (PyVal Ref)} {status : ℕ} {headers : HeaderPairs}
  {feed : Ref → PyResult m Ref W Unit} {chunks : PyResult m Ref W α}
  {join : α → Except (PyErr Ref) β}
  {send : β → World m Ref W → Except (PyErr Ref) Unit × World m Ref W} {marker : Ref}

theorem Streams.responds (h : Streams tr c status headers feed chunks join send marker)
    (hcount : CountsResponses rt tr protocol started)
    (hfeed : ∀ stream, Keeps (restPart started) (feed stream))
    (hchunks : Keeps (restPart started) chunks) (hsend : ∀ body, Starts started (send body)) :
    Responds started (fun v => v = .object marker) c := by
  cases hstream : tr.responseStream with
  | some f =>
    rw [h.streamed f hstream]
    exact feedStream_responds (hcount.responseStream f hstream status headers) hfeed marker
  | none =>
    rw [h.gathered hstream]
    exact responds_of_spends (sendGathered_exact hchunks join hsend marker)

/-- It breaks where the stream has been started and feeding it raises. -/
theorem Streams.breaks_iff (h : Streams tr c status headers feed chunks join send marker)
    (hcount : CountsResponses rt tr protocol started)
    (hfeed : ∀ stream, Keeps (restPart started) (feed stream))
    (hchunks : Keeps (restPart started) chunks) (hsend : ∀ body, Starts started (send body))
    (w : World m Ref W) :
    Breaks started c w ↔
      ∃ f stream w', tr.responseStream = some f ∧ f status headers w = (.ok stream, w') ∧
        ∃ e, ((feed stream).run w').result = .error e := by
  cases hstream : tr.responseStream with
  | some f =>
    rw [h.streamed f hstream,
      feedStream_breaks_iff (hcount.responseStream f hstream status headers) hfeed marker w]
    constructor
    · rintro ⟨stream, w', hf, he⟩
      exact ⟨f, stream, w', rfl, hf, he⟩
    · rintro ⟨f', stream, w', hf', hf, he⟩
      cases hf'
      exact ⟨stream, w', hf, he⟩
  | none =>
    rw [h.gathered hstream]
    refine iff_of_false (not_breaks (sendGathered_exact hchunks join hsend marker) w) ?_
    rintro ⟨f, stream, w', ⟨⟩, -⟩

end

-- ════════════════════════════════════════════════════════════════════════
-- The helpers start one response
-- ════════════════════════════════════════════════════════════════════════

section

variable (rt tr protocol) (items : Items m Ref W) (status : ℕ) (headers : HeaderPairs)
  (contentType : String)

/-- What `send_sse` does with its stream. -/
def feedSse (stream : Ref) : PyResult m Ref W Unit :=
  forEach (fun item => do
    let chunk ← Routine.ofExcept (toSseChunk tr.sseEvent item)
    Routine.effect (tr.sendStr stream (.str chunk))) items

theorem sendSse_streams :
    Streams tr (sendSse rt tr protocol items status headers) status
      ([("content-type", "text/event-stream; charset=utf-8"), ("cache-control", "no-cache"),
        ("connection", "keep-alive")] ++ headers)
      (feedSse tr items) (gather (fun item => (toSseChunk tr.sseEvent item).map .str) items)
      (joinStrs rt.toInspection 0) (fun body => rt.respond protocol (.responseStr status
        ([("content-type", "text/event-stream; charset=utf-8"), ("cache-control", "no-cache"),
          ("connection", "keep-alive")] ++ headers) body)) tr.sseDone where
  streamed f hf := by
    unfold sendSse
    rw [hf]
    rfl
  gathered hnone := by
    unfold sendSse
    rw [hnone]
    rfl

theorem streamBytes_streams :
    Streams tr (streamBytes rt tr protocol items status headers contentType) status
      (("content-type", contentType) :: headers)
      (fun stream => forEach (fun chunk => Routine.effect (tr.sendBytes stream chunk)) items)
      (gather .ok items) (joinBytes rt.toInspection tr.buffer 0)
      (fun body => rt.respond protocol (.responseBytes status
        (("content-type", contentType) :: headers) body)) (tr.streamDone status) where
  streamed f hf := by
    unfold streamBytes
    rw [hf]
    rfl
  gathered hnone := by
    unfold streamBytes
    rw [hnone]
    rfl

theorem streamText_streams :
    Streams tr (streamText rt tr protocol items status headers contentType) status
      (("content-type", contentType) :: headers)
      (fun stream => forEach (fun chunk => Routine.effect (tr.sendStr stream chunk)) items)
      (gather .ok items) (joinStrs rt.toInspection 0)
      (fun body => rt.respond protocol (.responseStr status
        (("content-type", contentType) :: headers) body)) (tr.streamDone status) where
  streamed f hf := by
    unfold streamText
    rw [hf]
    rfl
  gathered hnone := by
    unfold streamText
    rw [hnone]
    rfl

end

theorem jsonlItems_plain {items : Items m Ref W} (h : PlainItems started items) :
    PlainItems started (jsonlItems rt items) := by
  intro next hnext w
  obtain ⟨step, hstep, rfl⟩ := List.mem_map.mp hnext
  have hkeep := h step hstep w
  rcases hr : step w with ⟨r, w'⟩
  rw [hr] at hkeep
  cases r with
  | ok item => simpa [hr] using hkeep
  | error e => simpa [hr] using hkeep

theorem send_keeps {items : Items m Ref W} (hitems : PlainItems started items)
    {send : Ref → PyVal Ref → World m Ref W → Except (PyErr Ref) Unit × World m Ref W}
    (hsend : ∀ stream v w, restPart started (send stream v w).2 = restPart started w)
    (stream : Ref) :
    Keeps (restPart started) (forEach (fun chunk => Routine.effect (send stream chunk)) items) :=
  forEach_keeps hitems fun chunk => keeps_effect (hsend stream chunk)

theorem feedSse_keeps {items : Items m Ref W} (hitems : PlainItems started items)
    (hcount : CountsResponses rt tr protocol started) (stream : Ref) :
    Keeps (restPart started) (feedSse tr items stream) :=
  forEach_keeps hitems fun _ => (keeps_ofExcept _).bind fun chunk =>
    keeps_effect (hcount.sendStr stream (.str chunk))

/-- A static file is no stream: what fails fails before the response is started. -/
theorem staticFiles_exact (hcount : CountsResponses rt tr protocol started) (files : StaticFiles)
    (fs : FileSystem Ref) (path : String) :
    Spends (restPart started) (fun _ => False)
      (fun v n => v = .object (tr.streamDone 200) ∧ n = 1)
      (files.call fs rt tr protocol path) := by
  refine (keeps_ofExcept _).spends_zero.bind_zero fun file => ?_
  cases hfile : tr.responseFile with
  | some f => exact (hcount.responseFile f hfile 200 _ file).spends.bind_pure fun _ n hn => ⟨rfl, hn⟩
  | none =>
    refine (keeps_ofExcept (fs.read file)).spends_zero.bind_zero fun body => ?_
    exact (hcount.respond _).spends.bind_pure fun _ n hn => ⟨rfl, hn⟩

/-- A helper that returns has started one response, and returns a marker. -/
theorem IsHelper.responds (hcount : CountsResponses rt tr protocol started)
    {c : PyResult m Ref W (PyVal Ref)} (hc : IsHelper rt tr protocol started c) :
    Responds started tr.Marks c := by
  cases hc with
  | sendSse status headers hitems =>
    exact ((sendSse_streams rt tr protocol _ status headers).responds hcount
      (feedSse_keeps hitems hcount) (gather_keeps _ hitems) fun _ => hcount.respond _).mono
        fun _ => .inl
  | streamBytes status headers contentType hitems =>
    exact ((streamBytes_streams rt tr protocol _ status headers contentType).responds hcount
      (send_keeps hitems hcount.sendBytes) (gather_keeps _ hitems) fun _ => hcount.respond _).mono
        fun _ h => .inr ⟨status, h⟩
  | streamText status headers contentType hitems =>
    exact ((streamText_streams rt tr protocol _ status headers contentType).responds hcount
      (send_keeps hitems hcount.sendStr) (gather_keeps _ hitems) fun _ => hcount.respond _).mono
        fun _ h => .inr ⟨status, h⟩
  | streamJsonl status headers hitems =>
    exact ((streamText_streams rt tr protocol _ status headers _).responds hcount
      (send_keeps (jsonlItems_plain hitems) hcount.sendStr)
      (gather_keeps _ (jsonlItems_plain hitems)) fun _ => hcount.respond _).mono
        fun _ h => .inr ⟨status, h⟩
  | staticFiles files fs path =>
    exact (responds_of_spends (staticFiles_exact hcount files fs path)).mono
      fun _ h => .inr ⟨200, h⟩

/-- `send_sse` breaks where an item is no event, or where the iterator or the stream raises. -/
theorem sendSse_breaks_iff (hcount : CountsResponses rt tr protocol started)
    {items : Items m Ref W} (hitems : PlainItems started items) (status : ℕ)
    (headers : HeaderPairs) (w : World m Ref W) :
    Breaks started (sendSse rt tr protocol items status headers) w ↔
      ∃ f stream w', tr.responseStream = some f ∧
        f status ([("content-type", "text/event-stream; charset=utf-8"),
          ("cache-control", "no-cache"), ("connection", "keep-alive")] ++ headers) w =
            (.ok stream, w') ∧
        ∃ e, ((feedSse tr items stream).run w').result = .error e :=
  (sendSse_streams rt tr protocol items status headers).breaks_iff hcount
    (feedSse_keeps hitems hcount) (gather_keeps _ hitems) (fun _ => hcount.respond _) w

end

end OxyRoute
