import OxyRoute.Lib.Batches
import OxyRoute.Lib.Dict
import OxyRoute.Native.Values

/-!
# Database queries

The queries of `db.rs`: the arguments are bound, the rows are decoded to dictionaries as they
arrive, and the dictionaries are returned in one list or in chunks. Postgres and `sqlx` are
parameters: what a query fetches, how a value decodes, and how much memory the allocator gives.
A query with chunks returns what the same query returns without, cut into batches, unless the
buffer of a chunk cannot be allocated.

## Main definitions

- `DBQuery`, `DBQuery.new` — a query, and its constructor
- `bindArgs`, `decodePgRowToDict` — the arguments, and a row
- `executeQuery` — `execute_query`
- `ChunksAgree` — the chunks of a query against its rows

## Main results

- `chunksOf_of_filling` — the loop with chunks against the one without
- `executeQuery_chunksAgree_iff` — for which queries the chunks agree
-/

namespace OxyRoute

variable {Ref Raw : Type}

-- ════════════════════════════════════════════════════════════════════════
-- Queries
-- ════════════════════════════════════════════════════════════════════════

/-- A `chunk_size`. -/
structure ChunkSize where
  val : UInt64
  pos : val ≠ 0

def ChunkSize.toNat (n : ChunkSize) : ℕ := n.val.toNat

theorem ChunkSize.toNat_pos (n : ChunkSize) : 0 < n.toNat := by
  rw [ChunkSize.toNat, Nat.pos_iff_ne_zero]
  exact fun h => n.pos (UInt64.toNat_inj.mp h)

/-- `DBQuery`. The arguments are a tuple, so `execute_query` does not fail to take them for one. -/
structure DBQuery (Ref : Type) where
  query : String
  args : List (PyVal Ref)
  chunkSize : Option ChunkSize

/-- `DBQuery::new`. -/
def DBQuery.new (query : String) (args : Option (PyVal Ref)) (chunkSize : Option UInt64) :
    Except (PyErr Ref) (DBQuery Ref) := do
  let args ← match args with
    | some (.tuple items) | some (.list items) => .ok items
    | some _ => .error (.typeError "args must be a list or tuple of query parameters")
    | none => .ok []
  let chunkSize ← match chunkSize with
    | some cs =>
      if h : cs = 0 then .error (.valueError "chunk_size must be greater than 0")
      else .ok (some ⟨cs, h⟩)
    | none => .ok none
  return { query := query, args := args, chunkSize := chunkSize }

/-- The values that are bound to a placeholder. -/
inductive PgArg
  | null
  | bool (b : Bool)
  | int (n : ℤ)
  | float (x : F64)
  | text (s : String)
  deriving Repr

/-- One turn of the loop over the arguments. `typeText` is `str(type(value))`. -/
def bindArg (typeText : PyVal Ref → String) : PyVal Ref → Except (PyErr Ref) PgArg
  | .none => .ok .null
  | .bool b => .ok (.bool b)
  | .int n =>
    if n < -(2 ^ 63) ∨ 2 ^ 63 ≤ n then
      .error (.overflowError "Python int too large to convert to C long")
    else .ok (.int n)
  | .float x => .ok (.float x)
  | .str s => s.toStr.map .text
  | v => .error (.valueError ("Unsupported DBQuery argument type: " ++ typeText v))

/-- The arguments in order; the first that cannot be bound is the error. -/
def bindArgs (typeText : PyVal Ref → String) (args : List (PyVal Ref)) :
    Except (PyErr Ref) (List PgArg) :=
  args.mapM (bindArg typeText)

-- ════════════════════════════════════════════════════════════════════════
-- Rows
-- ════════════════════════════════════════════════════════════════════════

/-- The Rust types that values are decoded to. -/
inductive PgTarget
  | bool | i16 | i32 | i64 | f32 | f64 | decimal | string | json | uuid
  | naiveDate | naiveTime | naiveDateTime | dateTimeUtc | bytes
  deriving DecidableEq, Repr

namespace PgTarget

/-- The type for the name of a Postgres type; none is the fallback. -/
def ofTypeName : String → Option PgTarget
  | "BOOL" => some .bool
  | "INT2" => some .i16
  | "INT4" => some .i32
  | "INT8" => some .i64
  | "FLOAT4" => some .f32
  | "FLOAT8" => some .f64
  | "NUMERIC" | "DECIMAL" => some .decimal
  | "TEXT" | "VARCHAR" | "CHAR" | "\"CHAR\"" | "NAME" | "CITEXT" | "BPCHAR" => some .string
  | "JSON" | "JSONB" => some .json
  | "UUID" => some .uuid
  | "DATE" => some .naiveDate
  | "TIME" | "TIMETZ" => some .naiveTime
  | "TIMESTAMP" => some .naiveDateTime
  | "TIMESTAMPTZ" => some .dateTimeUtc
  | "BYTEA" => some .bytes
  | _ => none

/-- `stringify!` of the type. -/
def stringify : PgTarget → String
  | .bool => "bool"
  | .i16 => "i16"
  | .i32 => "i32"
  | .i64 => "i64"
  | .f32 => "f32"
  | .f64 => "f64"
  | .decimal => "rust_decimal::Decimal"
  | .string => "String"
  | .json => "serde_json::Value"
  | .uuid => "uuid::Uuid"
  | .naiveDate => "chrono::NaiveDate"
  | .naiveTime => "chrono::NaiveTime"
  | .naiveDateTime => "chrono::NaiveDateTime"
  | .dateTimeUtc => "chrono::DateTime<chrono::Utc>"
  | .bytes => "Vec<u8>"

end PgTarget

/-- A decoded value. Decimals, UUIDs, dates and times are stored as the text they are printed
as. -/
inductive PgValue
  | bool (b : Bool)
  | int (n : ℤ)
  | float (x : F64)
  | text (s : String)
  | json (j : Json)
  | bytes (b : List UInt8)

/-- The value that is stored in the dictionary. -/
def PgValue.toPy : PgValue → PyVal Ref
  | .bool b => .bool b
  | .int n => .int n
  | .float x => .float x
  | .text s => .text s
  | .json j => jsonToPy j
  | .bytes b => .bytes b

/-- A column of a row: its name, the name of its type, and what `try_get_raw` returns, which is
none for a null. -/
structure PgColumn (Raw : Type) where
  name : String
  typeName : String
  raw : Except String (Option Raw)

/-- What the query needs from outside: the rows that are fetched, each of them possibly an error,
how a value decodes, `str(type(value))`, and whether the allocator has this many bytes. -/
structure Postgres (Ref Raw : Type) where
  fetch : String → List PgArg → List (Except String (List (PgColumn Raw)))
  decode : PgTarget → Raw → Except String PgValue
  typeText : PyVal Ref → String
  allocates : ℕ → Bool

/-- The value of a column that is not null. -/
def decodeColumn (pg : Postgres Ref Raw) (name ty : String) (raw : Raw) :
    Except (PyErr Ref) (PyVal Ref) :=
  match PgTarget.ofTypeName ty with
  | some target =>
    match pg.decode target raw with
    | .ok v => .ok v.toPy
    | .error e => .error (.valueError ("Failed to decode column '" ++ name ++ "' (type " ++ ty ++
        ") as " ++ target.stringify ++ ": " ++ e))
  | none =>
    match pg.decode .string raw with
    | .ok v => .ok v.toPy
    | .error _ => .error (.valueError ("Failed to decode column '" ++ name ++
        "' (unsupported Postgres type '" ++ ty ++ "')"))

/-- The columns from index `i` on are set in the dictionary. -/
def decodeColumns (pg : Postgres Ref Raw) :
    ℕ → List (PgColumn Raw) → Dict String (PyVal Ref) → Except (PyErr Ref) (Dict String (PyVal Ref))
  | _, [], d => .ok d
  | i, col :: cols, d =>
    match col.raw with
    | .error e => .error (.valueError ("Failed to get raw column '" ++ col.name ++
        "' at index " ++ toString i ++ ": " ++ e))
    | .ok none => decodeColumns pg (i + 1) cols (d.set col.name .none)
    | .ok (some raw) => do
      let v ← decodeColumn pg col.name col.typeName raw
      decodeColumns pg (i + 1) cols (d.set col.name v)

/-- `decode_pg_row_to_dict`. -/
def decodePgRowToDict (pg : Postgres Ref Raw) (row : List (PgColumn Raw)) :
    Except (PyErr Ref) (PyVal Ref) := do
  let d ← decodeColumns pg 0 row Dict.empty
  return .dict (d.entries.map fun e => (.text e.1, e.2))

-- ════════════════════════════════════════════════════════════════════════
-- Execution
-- ════════════════════════════════════════════════════════════════════════

/-- The error of a stream that fails. -/
def streamingFailed (e : String) : PyErr Ref := .runtimeError ("DBQuery streaming failed: " ++ e)

/-- The loop without a chunk size. -/
def collectRows (pg : Postgres Ref Raw) :
    List (Except String (List (PgColumn Raw))) → List (PyVal Ref) →
      Except (PyErr Ref) (List (PyVal Ref))
  | [], out => .ok out
  | .error e :: _, _ => .error (streamingFailed e)
  | .ok row :: stream, out => do
    let d ← decodePgRowToDict pg row
    collectRows pg stream (out ++ [d])

/-- The loop with a chunk size, and the flush after it. -/
def collectChunks (pg : Postgres Ref Raw) (chunkSz : ℕ) :
    List (Except String (List (PgColumn Raw))) → List (PyVal Ref) → List (List (PyVal Ref)) →
      Except (PyErr Ref) (List (List (PyVal Ref)))
  | [], currentChunk, chunks =>
    if currentChunk ≠ [] then .ok (chunks ++ [currentChunk]) else .ok chunks
  | .error e :: _, _, _ => .error (streamingFailed e)
  | .ok row :: stream, currentChunk, chunks => do
    let d ← decodePgRowToDict pg row
    let currentChunk := currentChunk ++ [d]
    if chunkSz ≤ currentChunk.length then
      collectChunks pg chunkSz stream [] (chunks ++ [currentChunk])
    else collectChunks pg chunkSz stream currentChunk chunks

/-- `Vec::with_capacity` for this many pointers: whether there is a buffer. The process is aborted
for more than `isize::MAX` bytes, and where the allocator fails. -/
def withCapacity (pg : Postgres Ref Raw) (capacity : ℕ) : Bool :=
  8 * capacity ≤ 2 ^ 63 - 1 && pg.allocates (8 * capacity)

/-- `execute_query`; none where the process is aborted. -/
def executeQuery (pg : Postgres Ref Raw) (q : DBQuery Ref) :
    Option (Except (PyErr Ref) (PyVal Ref)) :=
  match bindArgs pg.typeText q.args with
  | .error e => some (.error e)
  | .ok args =>
    let stream := pg.fetch q.query args
    match q.chunkSize with
    | some chunkSz =>
      if withCapacity pg chunkSz.toNat then
        some ((collectChunks pg chunkSz.toNat stream [] []).map fun chunks =>
          .list (chunks.map .list))
      else none
    | none => some ((collectRows pg stream []).map .list)

-- ════════════════════════════════════════════════════════════════════════
-- The two loops
-- ════════════════════════════════════════════════════════════════════════

/-- The outcome of the loop with a chunk size, given that of the loop without: the same error, or
the batches of the rows. -/
inductive ChunksOf {ε α : Type} (n : ℕ) : Except ε (List α) → Except ε (List (List α)) → Prop
  | error (e : ε) : ChunksOf n (.error e) (.error e)
  | ok {rows : List α} {chunks : List (List α)} :
      Batched n rows chunks → ChunksOf n (.ok rows) (.ok chunks)

/-- The loops on the rest of a stream. The chunks so far are those of the rows so far. -/
theorem chunksOf_of_filling (pg : Postgres Ref Raw) {n : ℕ}
    (stream : List (Except String (List (PgColumn Raw)))) {out currentChunk : List (PyVal Ref)}
    {chunks : List (List (PyVal Ref))} (h : Filling n out chunks currentChunk) :
    ChunksOf n (collectRows pg stream out) (collectChunks pg n stream currentChunk chunks) := by
  induction stream generalizing out currentChunk chunks with
  | nil =>
    rw [collectRows, collectChunks]
    by_cases hrest : currentChunk = []
    · subst hrest
      exact .ok h.batched_full
    · rw [if_pos hrest]
      exact .ok (h.batched_rest hrest)
  | cons item stream ih =>
    cases item with
    | error e => exact .error _
    | ok row =>
      rw [collectRows, collectChunks]
      cases hrow : decodePgRowToDict pg row with
      | error e => exact .error _
      | ok d =>
        show ChunksOf n (collectRows pg stream (out ++ [d]))
          (if n ≤ (currentChunk ++ [d]).length then _ else _)
        by_cases hfull : n ≤ (currentChunk ++ [d]).length
        · rw [if_pos hfull]
          exact ih (h.push_full d hfull)
        · rw [if_neg hfull]
          exact ih (h.push_lt d (not_le.mp hfull))

/-- The loops on a whole stream. -/
theorem collectChunks_of_collectRows (pg : Postgres Ref Raw) (n : ChunkSize)
    (stream : List (Except String (List (PgColumn Raw)))) :
    ChunksOf n.toNat (collectRows pg stream []) (collectChunks pg n.toNat stream [] []) :=
  chunksOf_of_filling pg stream (.start n.toNat_pos)

-- ════════════════════════════════════════════════════════════════════════
-- The chunks of a query
-- ════════════════════════════════════════════════════════════════════════

/-- The outcome of a query with a chunk size, given that of the query without: the same error, or
the lists of the batches of the rows. -/
inductive ChunksAgree (n : ℕ) : Option (Except (PyErr Ref) (PyVal Ref)) →
    Option (Except (PyErr Ref) (PyVal Ref)) → Prop
  | error (e : PyErr Ref) : ChunksAgree n (some (.error e)) (some (.error e))
  | ok {rows : List (PyVal Ref)} {chunks : List (List (PyVal Ref))} : Batched n rows chunks →
      ChunksAgree n (some (.ok (.list rows))) (some (.ok (.list (chunks.map .list))))

theorem ChunksOf.chunksAgree {n : ℕ} {rows : Except (PyErr Ref) (List (PyVal Ref))}
    {chunks : Except (PyErr Ref) (List (List (PyVal Ref)))} (h : ChunksOf n rows chunks) :
    ChunksAgree n (some (rows.map .list)) (some (chunks.map fun cs => .list (cs.map .list))) := by
  cases h with
  | error e => exact .error e
  | ok h => exact .ok h

/-- A query that is aborted does not agree. -/
theorem ChunksAgree.ne_none {n : ℕ} {rows chunks : Option (Except (PyErr Ref) (PyVal Ref))}
    (h : ChunksAgree n rows chunks) : chunks ≠ none := by
  cases h with
  | error e => exact Option.some_ne_none _
  | ok h => exact Option.some_ne_none _

theorem withCapacity_iff {pg : Postgres Ref Raw} {capacity : ℕ} :
    withCapacity pg capacity = true ↔
      8 * capacity ≤ 2 ^ 63 - 1 ∧ pg.allocates (8 * capacity) = true := by
  rw [withCapacity, Bool.and_eq_true, decide_eq_true_iff]

/-- If the buffer of a chunk can be allocated, the chunks agree. -/
theorem chunksAgree_of_withCapacity {pg : Postgres Ref Raw} {n : ChunkSize}
    (hcap : withCapacity pg n.toNat = true) (query : String) (args : List (PyVal Ref)) :
    ChunksAgree n.toNat (executeQuery pg ⟨query, args, none⟩)
      (executeQuery pg ⟨query, args, some n⟩) := by
  rw [executeQuery, executeQuery]
  cases hargs : bindArgs pg.typeText args with
  | error e => exact .error e
  | ok bound =>
    dsimp only
    rw [if_pos hcap]
    exact (collectChunks_of_collectRows pg n _).chunksAgree

/-- **Chunks.** Whatever a query fetches, with a chunk size it fails as it does without, or
returns the batches of the same rows, if and only if its arguments do not bind or the buffer of a
chunk can be allocated. -/
theorem executeQuery_chunksAgree_iff (pg : Postgres Ref Raw) (query : String)
    (args : List (PyVal Ref)) (n : ChunkSize) :
    ChunksAgree n.toNat (executeQuery pg ⟨query, args, none⟩)
        (executeQuery pg ⟨query, args, some n⟩) ↔
      (∃ e, bindArgs pg.typeText args = .error e) ∨
        (8 * n.toNat ≤ 2 ^ 63 - 1 ∧ pg.allocates (8 * n.toNat) = true) := by
  rw [← withCapacity_iff]
  by_cases hcap : withCapacity pg n.toNat = true
  · exact iff_of_true (chunksAgree_of_withCapacity hcap query args) (.inr hcap)
  · rw [executeQuery, executeQuery]
    cases hargs : bindArgs pg.typeText args with
    | error e => exact iff_of_true (.error e) (.inl ⟨e, rfl⟩)
    | ok bound =>
      dsimp only
      rw [if_neg hcap]
      refine iff_of_false (fun h => h.ne_none rfl) ?_
      rintro (⟨e, he⟩ | h)
      · cases he
      · exact hcap h

/-- A database that answers every query with the number 1. -/
def selectOne : Postgres String ℤ where
  fetch _ _ := [.ok [⟨"num", "INT4", .ok (some 1)⟩]]
  decode _ n := .ok (.int n)
  typeText _ := ""
  allocates _ := true

/-- A chunk size of `2 ^ 60`. -/
def hugeChunkSize : ChunkSize := ⟨0x1000000000000000, by decide⟩

/-- The constructor takes it, and no buffer has room for it. -/
theorem huge_chunk_size_aborts :
    (DBQuery.new "SELECT 1" none (some hugeChunkSize.val) : Except (PyErr String) _) =
        .ok ⟨"SELECT 1", [], some hugeChunkSize⟩ ∧
      ¬ ChunksAgree hugeChunkSize.toNat (executeQuery selectOne ⟨"SELECT 1", [], none⟩)
        (executeQuery selectOne ⟨"SELECT 1", [], some hugeChunkSize⟩) := by
  have haborts : executeQuery selectOne ⟨"SELECT 1", [], some hugeChunkSize⟩ = none := rfl
  exact ⟨rfl, fun h => h.ne_none haborts⟩

end OxyRoute
