import OxyRoute.Native.DbQuery
import OxyRoute.Native.JsonReader
import OxyRoute.Native.Limiter
import OxyRoute.Native.Stops

/-!
# Runtimes on the package

Some of what the dispatcher calls belongs to the package: the check of a limiter, the JSON reader,
the execution of a query, and the class of the objects that dependencies take as `request`. The
runtimes below have these as they are. What follows holds in them of the stages of a request.

## Main definitions

- `LimiterMemory`, `withLimiters` — limiters that keep their buckets in the world
- `withJsonReader`, `withQueries` — the JSON reader, and the queries
- `RequestObject`, `RequestClass`, `withRequests` — the class `Request`
- `ChecksDone` — worlds that the checks of a limiter lead to

## Main results

- `checkRateLimit_checked` — a limited route decides as the limiter does after the checks so far
- `decodeJsonBody_written` — what a body that the writer wrote reaches the handler as
- `resolveQuery_chunks` — the value of a dependency that returns a query with a chunk size
- `requestContext_fields`, `factoryBlind_of_path` — the `request` of a factory
-/

namespace OxyRoute

variable {m : Matchit} {Ref Raw W : Type}

-- ════════════════════════════════════════════════════════════════════════
-- Limiters
-- ════════════════════════════════════════════════════════════════════════

/-- Where the world keeps the buckets of limiters, and its clock. Limiters with the same settings
are one limiter here. -/
structure LimiterMemory (W : Type) where
  hashing : KeyHashing
  buckets : RateLimiter → W → Fin numShards → Dict String F64Bucket
  setBuckets : RateLimiter → (Fin numShards → Dict String F64Bucket) → W → W
  now : W → ℕ
  buckets_setBuckets : ∀ rl shards w, buckets rl (setBuckets rl shards w) = shards

/-- A runtime whose limiters are checked by `RateLimiter::check`. -/
def withLimiters (mem : LimiterMemory W) (rt : Runtime m Ref W) : Runtime m Ref W :=
  { rt with
    rateLimit := fun rl key w =>
      let out := rl.check mem.hashing (mem.buckets rl w.rest) key (mem.now w.rest)
      (out.1, { w with rest := mem.setBuckets rl out.2 w.rest }) }

/-- Worlds that the checks of a limiter lead to, in the order of its locks: a new limiter, a check
at the time of the clock, and anything that leaves the buckets alone. -/
inductive ChecksDone (mem : LimiterMemory W) (rt : Runtime m Ref W) (rl : RateLimiter) :
    List (String × ℕ) → World m Ref W → Prop
  | new {w : World m Ref W} : mem.buckets rl w.rest = (fun _ => .empty) → ChecksDone mem rt rl [] w
  | check {calls : List (String × ℕ)} {w : World m Ref W} (key : String) :
      ChecksDone mem rt rl calls w →
      ChecksDone mem rt rl (calls ++ [(key, mem.now w.rest)])
        ((withLimiters mem rt).rateLimit rl key w).2
  | other {calls : List (String × ℕ)} {w w' : World m Ref W} : ChecksDone mem rt rl calls w →
      mem.buckets rl w'.rest = mem.buckets rl w.rest → ChecksDone mem rt rl calls w'

variable {mem : LimiterMemory W} {rt : Runtime m Ref W} {rl : RateLimiter}
  {calls : List (String × ℕ)} {w : World m Ref W}

/-- The buckets are those of the checks. -/
theorem ChecksDone.buckets_eq_run (h : ChecksDone mem rt rl calls w) :
    mem.buckets rl w.rest = rl.run mem.hashing calls := by
  induction h with
  | new h => exact h
  | @check calls w key _ ih =>
    have hafter : mem.buckets rl ((withLimiters mem rt).rateLimit rl key w).2.rest =
        (rl.check mem.hashing (mem.buckets rl w.rest) key (mem.now w.rest)).2 :=
      mem.buckets_setBuckets rl _ _
    rw [hafter, ih, RateLimiter.run, RateLimiter.run, List.foldl_append]
    rfl
  | other _ hsame ih => exact hsame.trans ih

/-- What holds of a limiter after any calls holds of it in the world. -/
theorem ChecksDone.limiterKept (h : ChecksDone mem rt rl calls w) (hpos : 1 ≤ rl.limit)
    (hlimit : rl.limit < 2 ^ 64) : LimiterKept rl mem.hashing calls (mem.buckets rl w.rest) := by
  rw [h.buckets_eq_run]
  exact rl.kept_run hpos hlimit mem.hashing calls

/-- **The guard of a limited route.** It decides as the limiter does after the checks so far, and
goes on in a world where its own check is one of them. -/
theorem checkRateLimit_checked (h : ChecksDone mem rt rl calls w) (req : HttpRequest Ref)
    {entry : RouteEntry Ref} (hrl : entry.extra.rateLimiter = some rl) :
    let key := extractRateLimitKey rt.toInspection req rl.keyStrategy
    let decision := (rl.check mem.hashing (rl.run mem.hashing calls) key (mem.now w.rest)).1
    ∃ w', ChecksDone mem rt rl (calls ++ [(key, mem.now w.rest)]) w' ∧
      (checkRateLimit (withLimiters mem rt) req entry).run w =
        ((match decision with
          | .allowed .. => pure ()
          | .denied limit resetSecs =>
            finish (send429RateLimited (withLimiters mem rt) req limit resetSecs)
            : Dispatch m Ref W Unit).run w').after [.rateLimited key decision] := by
  intro key decision
  refine ⟨_, h.check key, ?_⟩
  have hdecision : ((withLimiters mem rt).rateLimit rl key w).1 = decision := by
    show (rl.check mem.hashing (mem.buckets rl w.rest) key (mem.now w.rest)).1 = _
    rw [h.buckets_eq_run]
  have hcheck : (Routine.effect fun w => (.ok ((withLimiters mem rt).rateLimit rl key w).1,
      ((withLimiters mem rt).rateLimit rl key w).2) : Dispatch m Ref W RateLimitDecision).run w =
        ⟨.ok decision, ((withLimiters mem rt).rateLimit rl key w).2, []⟩ := by
    rw [Routine.effect_run, hdecision]
  unfold checkRateLimit
  rw [hrl]
  exact Routine.bind_run_ok hcheck _

-- ════════════════════════════════════════════════════════════════════════
-- JSON bodies
-- ════════════════════════════════════════════════════════════════════════

/-- A runtime that reads JSON by `json_bytes_to_py`; `text` is what `serde_json` says of a body it
does not read. -/
def withJsonReader (r : SerdeReader) (text : List UInt8 → String) (rt : Runtime m Ref W) :
    Runtime m Ref W :=
  { rt with
    jsonBytesToPy := fun bytes =>
      match jsonBytesToPy r bytes with
      | some v => .ok v
      | none => .error (text bytes) }

/-- **A body from the writer.** A value that the writer of the package wrote reaches the handler as
what is read again, if the limits of the reader allow it; if not, the body is a JSON error. -/
theorem decodeJsonBody_written {sw : SerdeWriter} {r : SerdeReader} {text : List UInt8 → String}
    {v : PyVal Ref} (hdoubles : Doubles v) (hkeys : DistinctKeys v) {entry : RouteEntry Ref}
    (hmodel : entry.bodyModel = none) {input : HandlerInput Ref}
    (hbody : pyToJsonBytes sw.toSerdeJson rt.toInspection v = .ok input.body) :
    ((∀ d e, v.Element d e → TakenAlone sw.toSerdeJson r.float 128 d e) →
      decodeJsonBody (withJsonReader r text rt) entry input =
        pure (.assign [("json", reread sw.toSerdeJson r.float v)])) ∧
    (¬ (∀ d e, v.Element d e → TakenAlone sw.toSerdeJson r.float 128 d e) →
      decodeJsonBody (withJsonReader r text rt) entry input =
        pure (.jsonParseError (errorJson rt ("json: " ++ text input.body)))) := by
  have hread := jsonBytesToPy_of_written (r := r) hdoubles hkeys hbody
  have htaken : (eventOf sw.toSerdeJson r.float v).readable 128 = true ↔
      ∀ d e, v.Element d e → TakenAlone sw.toSerdeJson r.float 128 d e := readable_eventOf v 128
  rw [← htaken]
  constructor
  · intro hreadable
    rw [if_pos hreadable] at hread
    have hok : (withJsonReader r text rt).jsonBytesToPy input.body =
        .ok (reread sw.toSerdeJson r.float v) := by
      simp only [withJsonReader, hread]
    rw [decodeJsonBody, hmodel]
    dsimp only
    rw [hok]
  · intro hreadable
    rw [if_neg hreadable] at hread
    have herror : (withJsonReader r text rt).jsonBytesToPy input.body =
        .error (text input.body) := by
      simp only [withJsonReader, hread]
    rw [decodeJsonBody, hmodel]
    dsimp only
    rw [herror]
    rfl

-- ════════════════════════════════════════════════════════════════════════
-- Queries
-- ════════════════════════════════════════════════════════════════════════

/-- The query of an object, the server that a pool is connected to, and the world after a query. -/
structure Databases (m : Matchit) (Ref Raw W : Type) where
  query : Ref → DBQuery Ref
  server : PgPool → World m Ref W → Postgres Ref Raw
  after : PgPool → Ref → World m Ref W → World m Ref W

/-- A runtime that executes queries by `execute_query`. Where that aborts the process nothing is
said. -/
def withQueries (db : Databases m Ref Raw W) (rt : Runtime m Ref W) : Runtime m Ref W :=
  { rt with
    executeQuery := fun pool q w =>
      match executeQuery (db.server pool w) (db.query q) with
      | some r => (r, db.after pool q w)
      | none => rt.executeQuery pool q w }

/-- **A query with a chunk size.** A dependency that returns it fails as it does with the query
without one, or has the batches of the same rows. -/
theorem resolveQuery_chunks {db : Databases m Ref Raw W} {snap : FrozenState m Ref}
    {pool : PgPool} (hpool : snap.dbPool = some pool) {o o' : PyVal Ref} {q q' : Ref}
    (ho : rt.dbQuery o = some q) (ho' : rt.dbQuery o' = some q') {n : ChunkSize}
    (hn : (db.query q').chunkSize = some n)
    (hq : db.query q = { db.query q' with chunkSize := none })
    (hcap : withCapacity (db.server pool w) n.toNat = true) :
    ChunksAgree n.toNat
      (some ((resolveQuery (withQueries db rt) snap o).run w).result)
      (some ((resolveQuery (withQueries db rt) snap o').run w).result) := by
  have hresult {o : PyVal Ref} {q : Ref} (ho : rt.dbQuery o = some q)
      {r : Except (PyErr Ref) (PyVal Ref)}
      (hr : executeQuery (db.server pool w) (db.query q) = some r) :
      ((resolveQuery (withQueries db rt) snap o).run w).result = r := by
    have ho' : (withQueries db rt).dbQuery o = some q := ho
    rw [resolveQuery, ho', hpool]
    show ((withQueries db rt).executeQuery pool q w).1 = r
    simp only [withQueries, hr]
  have hagree := chunksAgree_of_withCapacity hcap (db.query q').query (db.query q').args
  have hwhole : db.query q' = ⟨(db.query q').query, (db.query q').args, some n⟩ := by
    rw [← hn]
  have hrows : db.query q = ⟨(db.query q').query, (db.query q').args, none⟩ := hq
  rw [← hrows, ← hwhole] at hagree
  rcases h : executeQuery (db.server pool w) (db.query q) with _ | r
  · rw [h] at hagree
    cases hagree
  rcases h' : executeQuery (db.server pool w) (db.query q') with _ | r'
  · exact absurd h' hagree.ne_none
  rw [hresult ho h, hresult ho' h', ← h, ← h']
  exact hagree

-- ════════════════════════════════════════════════════════════════════════
-- Request objects
-- ════════════════════════════════════════════════════════════════════════

/-- `Request`, before its headers were asked for. -/
structure RequestObject (Ref : Type) where
  scope : Ref
  method : String
  path : String
  queryString : String

namespace RequestObject

/-- `Request.__getitem__`, given the headers of the scope; none for a `KeyError`. -/
def getItem (r : RequestObject Ref) (headers : PyVal Ref) (key : String) : Option (PyVal Ref) :=
  if key = "headers" then some headers
  else if key = "method" then some (.text r.method)
  else if key = "path" then some (.text r.path)
  else if key = "query_string" then some (.text r.queryString)
  else none

/-- `Request.__iter__`. -/
def keys : List String := ["method", "path", "query_string", "headers"]

/-- `Request.__len__`. -/
def len : ℕ := 4

/-- The keys are those that have an item, each once. -/
theorem mem_keys_iff (r : RequestObject Ref) (headers : PyVal Ref) (key : String) :
    key ∈ keys ↔ (r.getItem headers key).isSome := by
  unfold getItem keys
  split_ifs <;> simp_all

theorem keys_nodup : keys.Nodup ∧ keys.length = len := by decide

end RequestObject

/-- The objects of the class. -/
structure RequestClass (Ref : Type) where
  object : RequestObject Ref → Ref
  fields : Ref → Option (RequestObject Ref)
  fields_object : ∀ o, fields (object o) = some o

/-- A runtime that makes `Request` objects by their constructor, which only stores its arguments. -/
def withRequests (cls : RequestClass Ref) (rt : Runtime m Ref W) : Runtime m Ref W :=
  { rt with
    newRequest := fun scope method path queryString =>
      .ok (.object (cls.object ⟨scope, method, path, queryString⟩)) }

/-- The fields of the object of a request. -/
def HttpRequest.toObject (req : HttpRequest Ref) : RequestObject Ref :=
  ⟨req.scope, req.method, req.path, req.queryString⟩

variable {cls : RequestClass Ref}

/-- **The `request` of a factory.** Where one wants it, an object is made, with the fields of the
request. -/
theorem requestContext_fields (req : HttpRequest Ref) (snap : FrozenState m Ref)
    {entry : RouteEntry Ref} (hwants : entry.extra.dependencies.any (·.wantsRequest) = true) :
    ∃ r, requestContext (withRequests cls rt) req snap entry = pure (some (.object r)) ∧
      cls.fields r = some req.toObject := by
  refine ⟨cls.object req.toObject, ?_, cls.fields_object _⟩
  rw [requestContext, if_pos hwants]
  rfl

/-- A factory that asks its `request` for the path and the query string only takes the request of
another method for the same. -/
theorem factoryBlind_of_path {dep : DependencyEntry Ref}
    (hfactory : ∀ o o' : RequestObject Ref, o.path = o'.path → o.queryString = o'.queryString →
      ∀ prev w,
        rt.call dep.factory [] (factoryKwargs dep (some (.object (cls.object o'))) prev) w =
          rt.call dep.factory [] (factoryKwargs dep (some (.object (cls.object o))) prev) w)
    (req : HttpRequest Ref) (method : String) (scope : Ref) :
    FactoryBlind (withRequests cls rt) dep
      ((withRequests cls rt).newRequest req.scope req.method req.path req.queryString)
      ((withRequests cls rt).newRequest scope method req.path req.queryString) :=
  .inr ⟨_, _, rfl, rfl, hfactory req.toObject ⟨scope, method, req.path, req.queryString⟩ rfl rfl⟩

end OxyRoute
