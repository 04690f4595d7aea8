import OxyRoute.Native.Publication

/-!
# Database pools

The calls of `setup_database` and `close_database`, interleaved with each other and with requests.
Connecting and closing are awaited outside the write lock; in between, a pool is in the hands of
the call. A pool is known by its handle, the order in which it was opened.

## Main definitions

- `Pooled`, `databaseSystem` — an application and the calls on its pools
- `Pooled.places` — where the opened pools are

## Main results

- `database_law` — every pool is in one place, and a request that comes gets an open one
-/

namespace OxyRoute

variable {m : Matchit} {Ref : Type}

/-- The arguments of `setup_database`. -/
structure PoolOptions where
  url : String
  maxConnections : ℕ
  deriving DecidableEq, Repr

/-- How far a call of `setup_database` has come. -/
inductive SetupStage
  | connecting (options : PoolOptions)
  | connected (id : ℕ)
  | done
  deriving DecidableEq, Repr

/-- How far a call of `close_database` has come. -/
inductive CloseStage
  | called
  | taken (id : Option ℕ)
  | done
  deriving DecidableEq, Repr

/-- The pool that a call has in its hands. -/
def SetupStage.pool? : SetupStage → Option ℕ
  | .connected id => some id
  | _ => none

/-- The pool that a call has in its hands. -/
def CloseStage.pool? : CloseStage → Option ℕ
  | .taken id => id
  | _ => none

/-- An application, the pools that were opened, with what they were opened with, and the calls on
them. `current` is the pool of the state, `seen` the pools that the requests found in their
snapshots. -/
structure Pooled (m : Matchit) (Ref : Type) where
  system : System m Ref
  pools : List PoolOptions
  current : Option ℕ
  setups : List SetupStage
  closes : List CloseStage
  seen : List (Option ℕ)
  closed : List ℕ
  replaced : List ℕ

/-- A step of the system, or of a call on its pools. -/
inductive PoolEvent (Ref : Type)
  | system (e : Event Ref)
  | setup (options : PoolOptions)
  | connects (i : ℕ) (ok : Bool)
  | install (i : ℕ)
  | close
  | take (i : ℕ)
  | closes (i : ℕ)

/-- Only the two calls write the pool of the state. -/
def Event.writesPool : Event Ref → Bool
  | .configure (.database _) => true
  | _ => false

def Event.arrives : Event Ref → Bool
  | .arrive _ => true
  | _ => false

/-- The pool with a handle. -/
def poolOf (id : Option ℕ) : Option PgPool := id.map PgPool.mk

namespace Pooled

/-- One step; there is none where an event is not enabled. -/
def next (h : Host Ref) (s : Pooled m Ref) : PoolEvent Ref → Option (Pooled m Ref)
  | .system e =>
    if e.writesPool then none
    else (s.system.next h e).map fun system =>
      { s with system := system, seen := if e.arrives then s.seen ++ [s.current] else s.seen }
  | .setup options => some { s with setups := s.setups ++ [.connecting options] }
  | .connects i ok =>
    match s.setups[i]? with
    | some (.connecting options) =>
      some (if ok then
        { s with
          pools := s.pools ++ [options]
          setups := s.setups.set i (.connected s.pools.length) }
      else { s with setups := s.setups.set i .done })
    | _ => none
  | .install i =>
    match s.setups[i]? with
    | some (.connected id) =>
      -- the pool that was there is dropped, not closed
      some { s with
        system := { s.system with
          app := s.system.app.configure (.database (poolOf (some id))) }
        current := some id
        setups := s.setups.set i .done
        replaced := s.replaced ++ s.current.toList }
    | _ => none
  | .close => some { s with closes := s.closes ++ [.called] }
  | .take i =>
    match s.closes[i]? with
    | some .called =>
      some { s with
        system := { s.system with app := s.system.app.configure (.database none) }
        current := none
        closes := s.closes.set i (.taken s.current) }
    | _ => none
  | .closes i =>
    match s.closes[i]? with
    | some (.taken id) =>
      some { s with closes := s.closes.set i .done, closed := s.closed ++ id.toList }
    | _ => none

/-- Where the opened pools are: with a call that has connected, in the state, with a call that
closes them, closed, or replaced by another pool. -/
def places (s : Pooled m Ref) : List ℕ :=
  s.setups.filterMap SetupStage.pool? ++ (s.current.toList ++
    (s.closes.filterMap CloseStage.pool? ++ (s.closed ++ s.replaced)))

/-- Every opened pool is in one place, and the state, its snapshot and the requests have the pools
they are recorded with. -/
structure Accounted (s : Pooled m Ref) : Prop where
  snapshot : s.system.app.snapshot.dbPool = s.system.app.dbPool
  current : s.system.app.dbPool = poolOf s.current
  seen : (s.system.requests.map fun r => r.snapshot.dbPool) = s.seen.map poolOf
  opened : ∀ id, some id ∈ s.seen → id < s.pools.length
  once : ∀ id, s.places.count id = if id < s.pools.length then 1 else 0

end Pooled

/-- An application and its pools, from its construction. -/
def databaseSystem (m : Matchit) (h : Host Ref) (includeOpenapi : Bool) :
    TransitionSystem (Pooled m Ref) (PoolEvent Ref) where
  init s := s = ⟨⟨AppState.new includeOpenapi, [], []⟩, [], none, [], [], [], [], []⟩
  step s e s' := s.next h e = some s'

-- ════════════════════════════════════════════════════════════════════════
-- Steps of the system
-- ════════════════════════════════════════════════════════════════════════

theorem commitRoute_dbPool (h : Host Ref) (st : AppState m Ref) (a : AddRouteArgs Ref)
    (entry : RouteEntry Ref) (opId : String) :
    (commitRoute h st a entry opId).1.dbPool = st.dbPool := by
  unfold commitRoute
  simp only
  split
  · rfl
  · split
    · rfl
    · split
      · rfl
      · split
        · rfl
        · split <;> rfl

theorem commitWebsocketRoute_dbPool (st : AppState m Ref) (path : String)
    (route : WebsocketRoute Ref) : (commitWebsocketRoute st path route).1.dbPool = st.dbPool := by
  unfold commitWebsocketRoute
  simp only
  split <;> rfl

section

variable {h : Host Ref} {s s' : System m Ref} {e : Event Ref}

/-- No step but the two calls writes the pool of the state. -/
theorem System.dbPool_next (hs : s.next h e = some s') (he : e.writesPool = false) :
    s'.app.dbPool = s.app.dbPool := by
  by_cases hmoves : e.moves = true
  · obtain ⟨i, r, r', -, rfl, -⟩ := System.next_moves hmoves hs
    rfl
  cases e with
  | register a =>
    simp only [System.next] at hs
    split at hs <;> cases hs
    · rfl
    · exact commitRoute_dbPool h s.app a _ _
  | registerWebsocket path route =>
    cases hs
    exact commitWebsocketRoute_dbPool s.app path route
  | configure setting =>
    cases hs
    cases setting with
    | database pool => cases he
    | _ => rfl
  | freeze o =>
    obtain ⟨app', hf, rfl⟩ := Option.map_eq_some_iff.mp hs
    unfold AppState.freeze at hf
    simp only at hf
    split at hf
    · cases hf
      rfl
    · obtain ⟨c, -, rfl⟩ := Option.map_eq_some_iff.mp hf
      rfl
  | compileTables i o =>
    simp only [System.next] at hs
    split at hs
    · split at hs
      · obtain ⟨⟨app', c⟩, hout, rfl⟩ := Option.map_eq_some_iff.mp hs
        unfold AppState.ensureCompiledSnapshot at hout
        split at hout
        · cases hout
          rfl
        · obtain ⟨c', -, hc⟩ := Option.map_eq_some_iff.mp hout
          cases hc
          rfl
      · cases hs
    · cases hs
  | arrive target =>
    cases hs
    rfl
  | snapshotTables i => exact absurd rfl hmoves
  | readTables i => exact absurd rfl hmoves
  | matchPath i => exact absurd rfl hmoves
  | lookup i => exact absurd rfl hmoves
  | handOver i => exact absurd rfl hmoves

/-- The snapshot has the pool of the state wherever it had before. -/
theorem System.snapshot_dbPool_next (hs : s.next h e = some s') (he : e.writesPool = false)
    (hold : s.app.snapshot.dbPool = s.app.dbPool) : s'.app.snapshot.dbPool = s'.app.dbPool := by
  cases hm : s.mutates h e with
  | true =>
    obtain ⟨st, hst⟩ := System.rebuilt_of_mutates hs hm
    rw [hst]
    rfl
  | false => rw [(System.snapshot_of_not_mutates hs hm).1, System.dbPool_next hs he, hold]

theorem System.snapshots_setRequest {i : ℕ} {r r' : Request m Ref} (hi : s.requests[i]? = some r)
    (hr : r'.snapshot = r.snapshot) :
    ((s.setRequest i r').requests.map fun r => r.snapshot) =
      s.requests.map fun r => r.snapshot := by
  unfold System.setRequest
  rw [List.map_set, hr]
  have hmap : (s.requests.map fun r => r.snapshot)[i]? = some r.snapshot := by
    rw [List.getElem?_map, hi]
    rfl
  obtain ⟨hlt, heq⟩ := List.getElem?_eq_some_iff.mp hmap
  rw [← heq]
  exact List.set_getElem_self hlt

/-- A request keeps the snapshot that there was when it came. -/
theorem System.snapshots_next (hs : s.next h e = some s') :
    (s'.requests.map fun r => r.snapshot) =
      (s.requests.map fun r => r.snapshot) ++ if e.arrives then [s.app.hotSnapshot] else [] := by
  have hmove : ∀ {i : ℕ} {r : Request m Ref} {phase : Phase m Ref}, s.requests[i]? = some r →
      ((s.setRequest i (r.withPhase phase)).requests.map fun r => r.snapshot) =
        (s.requests.map fun r => r.snapshot) ++ [] := by
    intro i r phase hi
    rw [List.append_nil]
    exact System.snapshots_setRequest hi rfl
  cases e with
  | register a =>
    simp only [System.next] at hs
    split at hs <;> cases hs <;> exact (List.append_nil _).symm
  | registerWebsocket path route =>
    cases hs
    exact (List.append_nil _).symm
  | configure setting =>
    cases hs
    exact (List.append_nil _).symm
  | freeze o =>
    obtain ⟨app', -, rfl⟩ := Option.map_eq_some_iff.mp hs
    exact (List.append_nil _).symm
  | arrive target =>
    cases hs
    exact List.map_append
  | snapshotTables i =>
    simp only [System.next] at hs
    split at hs
    · next hi =>
      split at hs <;> cases hs
      exact hmove hi
    · cases hs
  | readTables i =>
    simp only [System.next] at hs
    split at hs
    · next hi =>
      split at hs
      · split at hs <;> cases hs <;> exact hmove hi
      · cases hs
    · cases hs
  | compileTables i o =>
    simp only [System.next] at hs
    split at hs
    · next hi =>
      split at hs
      · obtain ⟨out, -, rfl⟩ := Option.map_eq_some_iff.mp hs
        exact hmove hi
      · cases hs
    · cases hs
  | matchPath i =>
    simp only [System.next] at hs
    split at hs
    · next hi =>
      split at hs <;> cases hs
      unfold Request.afterMatch
      split <;> exact hmove hi
    · cases hs
  | lookup i =>
    simp only [System.next] at hs
    split at hs
    · next hi =>
      split at hs <;> cases hs
      unfold Request.afterLookup
      split <;> exact hmove hi
    · cases hs
  | handOver i =>
    simp only [System.next] at hs
    split at hs
    · next hi =>
      split at hs
      · cases hs
        exact hmove hi
      · split at hs <;> cases hs
        exact hmove hi
      · cases hs
    · cases hs

end

-- ════════════════════════════════════════════════════════════════════════
-- Where the pools are
-- ════════════════════════════════════════════════════════════════════════

/-- Setting one element changes what is counted by that element. -/
theorem count_filterMap_set {α : Type} (f : α → Option ℕ) {l : List α} {i : ℕ} {a : α}
    (hi : l[i]? = some a) (b : α) (id : ℕ) :
    ((l.set i b).filterMap f).count id + (f a).toList.count id =
      (l.filterMap f).count id + (f b).toList.count id := by
  have hcons : ∀ (c : α) (l : List α), ((c :: l).filterMap f).count id =
      (f c).toList.count id + (l.filterMap f).count id := by
    intro c l
    rw [List.filterMap_cons]
    cases f c with
    | none => rw [Option.toList_none, List.count_nil, Nat.zero_add]
    | some x =>
      rw [Option.toList_some, List.count_cons, List.count_singleton]
      exact Nat.add_comm _ _
  induction l generalizing i with
  | nil => cases hi
  | cons c l ih =>
    cases i with
    | zero =>
      obtain rfl := Option.some.inj hi
      rw [List.set_cons_zero, hcons, hcons]
      omega
    | succ i =>
      have ihi := ih (i := i) hi
      rw [List.set_cons_succ, hcons, hcons]
      omega

namespace Pooled

variable {h : Host Ref} {s s' : Pooled m Ref} {i : ℕ}

theorem count_places (s : Pooled m Ref) (id : ℕ) :
    s.places.count id = (s.setups.filterMap SetupStage.pool?).count id +
      (s.current.toList.count id + ((s.closes.filterMap CloseStage.pool?).count id +
        (s.closed.count id + s.replaced.count id))) := by
  unfold places
  rw [List.count_append, List.count_append, List.count_append, List.count_append]

/-- The number of a pool of the state is that of an opened one. -/
theorem Accounted.current_lt (ha : s.Accounted) {id : ℕ} (hid : s.current = some id) :
    id < s.pools.length := by
  have hcount := ha.once id
  rw [count_places, hid, Option.toList_some, List.count_singleton_self] at hcount
  by_contra hle
  rw [if_neg hle] at hcount
  omega

theorem Accounted.system {system : System m Ref} {e : Event Ref} (ha : s.Accounted)
    (he : e.writesPool = false) (hs : s.system.next h e = some system) :
    { s with
      system := system
      seen := if e.arrives then s.seen ++ [s.current] else s.seen }.Accounted where
  snapshot := System.snapshot_dbPool_next hs he ha.snapshot
  current := (System.dbPool_next hs he).trans ha.current
  seen := by
    have hsnapshots := congrArg (List.map fun snap => snap.dbPool) (System.snapshots_next hs)
    rw [List.map_map, List.map_append, List.map_map] at hsnapshots
    refine hsnapshots.trans ?_
    have hold := ha.seen
    cases e.arrives with
    | true =>
      show _ ++ [s.system.app.snapshot.dbPool] = (s.seen ++ [s.current]).map poolOf
      rw [List.map_append, ha.snapshot, ha.current, ← hold]
      rfl
    | false => exact (List.append_nil _).trans hold
  opened id hid := by
    cases hb : e.arrives with
    | true =>
      rw [hb] at hid
      rcases List.mem_append.mp hid with hid | hid
      · exact ha.opened id hid
      · exact ha.current_lt (List.mem_singleton.mp hid).symm
    | false =>
      rw [hb] at hid
      exact ha.opened id hid
  once := ha.once

/-- Another pool is opened. -/
theorem Accounted.opens (ha : s.Accounted) {options : PoolOptions}
    (hi : s.setups[i]? = some (.connecting options)) :
    { s with
      pools := s.pools ++ [options]
      setups := s.setups.set i (.connected s.pools.length) }.Accounted := by
  refine ⟨ha.snapshot, ha.current, ha.seen, ?_, ?_⟩
  · intro id hid
    show id < (s.pools ++ [options]).length
    rw [List.length_append]
    exact Nat.lt_add_right _ (ha.opened id hid)
  · intro id
    have hset := count_filterMap_set SetupStage.pool? hi (.connected s.pools.length) id
    have honce := ha.once id
    have hnew : [s.pools.length].count id = if id = s.pools.length then 1 else 0 := by
      by_cases heq : id = s.pools.length
      · rw [heq, List.count_singleton_self, if_pos rfl]
      · rw [if_neg heq]
        exact List.count_eq_zero_of_not_mem fun hmem => heq (List.mem_singleton.mp hmem)
    simp only [SetupStage.pool?, Option.toList_some, Option.toList_none, List.count_nil] at hset
    rw [count_places] at honce ⊢
    dsimp only
    rw [List.length_append, List.length_singleton]
    split at honce <;> split at hnew <;> split <;> omega

/-- A call of one of the two kinds goes on, and pools change hands. -/
theorem Accounted.moves (ha : s.Accounted) {setups : List SetupStage} {closes : List CloseStage}
    {closed replaced : List ℕ}
    (hmoves : ∀ id, { s with
      setups := setups, closes := closes, closed := closed, replaced := replaced }.places.count id =
        s.places.count id) :
    { s with
      setups := setups, closes := closes, closed := closed, replaced := replaced }.Accounted where
  snapshot := ha.snapshot
  current := ha.current
  seen := ha.seen
  opened := ha.opened
  once id := (hmoves id).trans (ha.once id)

/-- A call publishes another pool, or none. -/
theorem Accounted.publishes (ha : s.Accounted) {pool : Option PgPool} {current : Option ℕ}
    {setups : List SetupStage} {closes : List CloseStage} {replaced : List ℕ}
    (hpool : pool = poolOf current)
    (hmoves : ∀ id, { s with
      current := current, setups := setups, closes := closes
      replaced := replaced }.places.count id = s.places.count id) :
    { s with
      system := { s.system with app := s.system.app.configure (.database pool) }
      current := current, setups := setups, closes := closes, replaced := replaced }.Accounted where
  snapshot := rfl
  current := hpool
  seen := ha.seen
  opened := ha.opened
  once id := (hmoves id).trans (ha.once id)

/-- Every step accounts for the pools. -/
theorem Accounted.next {e : PoolEvent Ref} (ha : s.Accounted) (hs : s.next h e = some s') :
    s'.Accounted := by
  cases e with
  | system e =>
    rw [Pooled.next] at hs
    split at hs
    · cases hs
    · next he =>
      obtain ⟨system, hsystem, rfl⟩ := Option.map_eq_some_iff.mp hs
      exact ha.system (Bool.eq_false_iff.mpr he) hsystem
  | setup options =>
    cases hs
    refine ha.moves fun id => ?_
    rw [count_places, count_places]
    dsimp only
    rw [List.filterMap_append, List.count_append]
    rfl
  | connects i ok =>
    rw [Pooled.next] at hs
    split at hs
    · next options hi =>
      cases ok <;> cases hs
      · refine ha.moves fun id => ?_
        have hset := count_filterMap_set SetupStage.pool? hi .done id
        simp only [SetupStage.pool?, Option.toList_none, List.count_nil] at hset
        rw [count_places, count_places]
        dsimp only
        omega
      · exact ha.opens hi
    · cases hs
  | install i =>
    rw [Pooled.next] at hs
    split at hs
    · next n hi =>
      cases hs
      refine ha.publishes rfl fun id => ?_
      have hset := count_filterMap_set SetupStage.pool? hi .done id
      simp only [SetupStage.pool?, Option.toList_some, Option.toList_none, List.count_nil] at hset
      rw [count_places, count_places]
      dsimp only
      rw [List.count_append, Option.toList_some]
      omega
    · cases hs
  | close =>
    cases hs
    refine ha.moves fun id => ?_
    rw [count_places, count_places]
    dsimp only
    rw [List.filterMap_append, List.count_append]
    rfl
  | take i =>
    rw [Pooled.next] at hs
    split at hs
    · next hi =>
      cases hs
      refine ha.publishes rfl fun id => ?_
      have hset := count_filterMap_set CloseStage.pool? hi (.taken s.current) id
      simp only [CloseStage.pool?, Option.toList_none, List.count_nil] at hset
      rw [count_places, count_places]
      dsimp only
      rw [Option.toList_none, List.count_nil]
      omega
    · cases hs
  | closes i =>
    rw [Pooled.next] at hs
    split at hs
    · next n hi =>
      cases hs
      refine ha.moves fun id => ?_
      have hset := count_filterMap_set CloseStage.pool? hi .done id
      simp only [CloseStage.pool?, Option.toList_none, List.count_nil] at hset
      rw [count_places, count_places]
      dsimp only
      rw [List.count_append]
      omega
    · cases hs

theorem accounted_of_reached {includeOpenapi : Bool}
    (hs : (databaseSystem m h includeOpenapi).Reached s) : s.Accounted := by
  refine hs.invariant ?_ fun s e s' ha hnext => ha.next hnext
  rintro s rfl
  exact ⟨rfl, rfl, rfl, fun id hid => absurd hid List.not_mem_nil, fun id => rfl⟩

/-- A pool is not in two places. -/
theorem Accounted.not_mem_of_current (ha : s.Accounted) {id : ℕ} (hid : s.current = some id) :
    id ∉ s.closes.filterMap CloseStage.pool? ∧ id ∉ s.closed ∧ id ∉ s.replaced := by
  have hcount := ha.once id
  rw [count_places, hid, Option.toList_some, List.count_singleton_self,
    if_pos (ha.current_lt hid)] at hcount
  refine ⟨?_, ?_, ?_⟩ <;> rw [← List.count_eq_zero] <;> omega

/-- Whatever the order of the calls, every pool that was opened is in one place only: with a call
that has connected, in the state, with a call that closes it, closed, or replaced. So no pool is
closed twice, and a replaced one never. The snapshot has the pool of the state, and a request that
comes finds it there, open; and once every call has come to its end, a pool that is not in the state
was closed or replaced. -/
theorem database_law {includeOpenapi : Bool} (hs : (databaseSystem m h includeOpenapi).Reached s) :
    (∀ id, s.places.count id = if id < s.pools.length then 1 else 0) ∧
    s.closed.Nodup ∧ s.closed.Disjoint s.replaced ∧
    (∀ target s', s.next h (.system (.arrive target)) = some s' →
      (s'.system.requests.map fun r : Request m Ref => r.snapshot.dbPool) =
        (s.system.requests.map fun r => r.snapshot.dbPool) ++ [poolOf s.current] ∧
      ∀ id, s.current = some id →
        id ∉ s'.closes.filterMap CloseStage.pool? ∧ id ∉ s'.closed ∧ id ∉ s'.replaced) ∧
    ((∀ stage ∈ s.setups, stage = .done) → (∀ stage ∈ s.closes, stage = .done) →
      ∀ id, id < s.pools.length → s.current = some id ∨ id ∈ s.closed ∨ id ∈ s.replaced) := by
  have ha := accounted_of_reached hs
  refine ⟨ha.once, ?_, ?_, ?_, ?_⟩
  · refine List.nodup_iff_count_le_one.mpr fun id => ?_
    have hcount := ha.once id
    rw [count_places] at hcount
    split at hcount <;> omega
  · intro id hclosed hreplaced
    have hcount := ha.once id
    have hone := List.count_pos_iff.mpr hclosed
    have htwo := List.count_pos_iff.mpr hreplaced
    rw [count_places] at hcount
    split at hcount <;> omega
  · intro target s' hnext
    cases hnext
    refine ⟨?_, fun id hid => ha.not_mem_of_current hid⟩
    show ((s.system.requests ++ [_]).map fun r : Request m Ref => r.snapshot.dbPool) = _
    rw [List.map_append, ← ha.current, ← ha.snapshot]
    rfl
  · intro hsetups hcloses id hlt
    have hcount := ha.once id
    have hno : s.setups.filterMap SetupStage.pool? = [] :=
      List.filterMap_eq_nil_iff.mpr fun stage hmem => by rw [hsetups stage hmem]; rfl
    have hno' : s.closes.filterMap CloseStage.pool? = [] :=
      List.filterMap_eq_nil_iff.mpr fun stage hmem => by rw [hcloses stage hmem]; rfl
    rw [count_places, hno, hno', if_pos hlt] at hcount
    by_contra hnot
    simp only [not_or] at hnot
    obtain ⟨hcurrent, hclosed, hreplaced⟩ := hnot
    have hout : s.current.toList.count id = 0 := by
      refine List.count_eq_zero_of_not_mem fun hmem => hcurrent ?_
      exact Option.mem_toList.mp hmem
    rw [List.count_nil, hout, List.count_eq_zero_of_not_mem hclosed,
      List.count_eq_zero_of_not_mem hreplaced] at hcount
    omega

end Pooled

/-- Two pools were set up, the second while the first was in use, and the second was closed. -/
def replacedPool : Pooled segmentMatcher String where
  system := ⟨(((AppState.new true).configure (.database (some ⟨0⟩))).configure
    (.database (some ⟨1⟩))).configure (.database none), [], []⟩
  pools := [⟨"a", 1⟩, ⟨"b", 1⟩]
  current := none
  setups := [.done, .done]
  closes := [.done]
  seen := []
  closed := [1]
  replaced := [0]

theorem replacedPool_reached :
    (databaseSystem segmentMatcher plainHost true).Reached replacedPool := by
  have hrun : ([.setup ⟨"a", 1⟩, .setup ⟨"b", 1⟩, .connects 0 true, .connects 1 true, .install 0,
      .install 1, .close, .take 0, .closes 0] : List (PoolEvent String)).foldlM
        (Pooled.next plainHost) ⟨⟨AppState.new true, [], []⟩, [], none, [], [], [], [], []⟩ =
          some replacedPool := rfl
  exact TransitionSystem.Reached.foldlM (fun _ _ _ h => h) (.init rfl) hrun

theorem replacedPool_not_closed :
    replacedPool.closed.Nodup ∧ replacedPool.closed.Disjoint replacedPool.replaced := by
  obtain ⟨-, hnodup, hdisjoint, -⟩ := Pooled.database_law replacedPool_reached
  exact ⟨hnodup, hdisjoint⟩

end OxyRoute
