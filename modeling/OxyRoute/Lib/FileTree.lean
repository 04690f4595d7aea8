import Mathlib.Data.List.Perm.Subperm
import OxyRoute.Lib.Dict
import OxyRoute.Lib.Text

/-!
# Files and symbolic links

A tree of files is what is at each location, a location being a list of names from the root on. A
path is walked name by name, and a symbolic link is followed where it is met. A path is resolved by
following its links without asking that anything is there; a link that is met again while it is
followed stays in the path.

## Main definitions

- `FileTree` — a tree with its files, directories and links
- `FileTree.walk` — where a path leads
- `FileTree.realpath` — a path resolved as far as possible

## Main results

- `FileTree.walk_realpath` — a resolved path leads nowhere else than to itself
-/

/-- What is at a location. -/
inductive FileNode (α : Type*)
  | file (content : α)
  | dir
  | link (target : String)
  deriving DecidableEq

/-- A name in a directory. -/
structure IsName (name : String) : Prop where
  ne_empty : name ≠ ""
  ne_dot : name ≠ "."
  ne_dots : name ≠ ".."
  no_slash : '/' ∉ name.toList

/-- A tree: every location in it is named in a directory. -/
structure FileTree (α : Type*) where
  nodes : Dict (List String) (FileNode α)
  root : nodes.get? [] = some .dir
  parent : ∀ loc name, loc ++ [name] ∈ nodes.keys → nodes.get? loc = some .dir
  named : ∀ loc ∈ nodes.keys, ∀ name ∈ loc, IsName name

instance (name : String) : Decidable (IsName name) :=
  decidable_of_iff (name ≠ "" ∧ name ≠ "." ∧ name ≠ ".." ∧ '/' ∉ name.toList)
    ⟨fun ⟨h₁, h₂, h₃, h₄⟩ => ⟨h₁, h₂, h₃, h₄⟩,
      fun h => ⟨h.ne_empty, h.ne_dot, h.ne_dots, h.no_slash⟩⟩

/-- A tree given by its locations. -/
def FileTree.ofDict {α : Type*} (nodes : Dict (List String) (FileNode α))
    (root : nodes.get? [] = some .dir)
    (parent : ∀ loc ∈ nodes.keys, nodes.get? loc.dropLast = some .dir)
    (named : ∀ loc ∈ nodes.keys, ∀ name ∈ loc, IsName name) : FileTree α where
  nodes := nodes
  root := root
  parent loc name h := by
    have hparent := parent _ h
    rwa [List.dropLast_concat] at hparent
  named := named

/-- The names of a path. -/
def pathNames (path : String) : List String :=
  (path.toList.splitOnP (· == '/')).map String.ofList

/-- The path of a location. -/
def locString (loc : List String) : String :=
  if loc = [] then "/" else String.ofList (loc.flatMap fun name => '/' :: name.toList)

/-- Where the target of a link starts. -/
def linkStart (target : String) (dir : List String) : List String :=
  if target.toList.head? = some '/' then [] else dir

namespace FileTree

variable {α : Type*}

def isDir (t : FileTree α) (loc : List String) : Bool :=
  match t.nodes.get? loc with
  | some .dir => true
  | _ => false

/-- The locations of the links. -/
def links (t : FileTree α) : List (List String) :=
  (t.nodes.entries.filter fun e => match e.2 with
    | .link _ => true
    | _ => false).map Prod.fst

/-- A name looked up in a directory. -/
def enterBy (t : FileTree α) (dir : List String) (name : String)
    (onLink : String → Option (List String)) : Option (List String) :=
  if name = "" ∨ name = "." then (if t.isDir dir then some dir else none)
  else if name = ".." then (if t.isDir dir then some dir.dropLast else none)
  else match t.nodes.get? (dir ++ [name]) with
    | some (.link target) => onLink target
    | some _ => some (dir ++ [name])
    | none => none

/-- A name looked up in a directory; so many links may be nested. -/
def enter (t : FileTree α) : ℕ → List String → String → Option (List String)
  | 0, dir, name => t.enterBy dir name fun _ => none
  | depth + 1, dir, name => t.enterBy dir name fun target =>
      (pathNames target).foldlM (t.enter depth) (linkStart target dir)

/-- Where names lead from a directory. -/
def walk (t : FileTree α) (depth : ℕ) (dir : List String) (names : List String) :
    Option (List String) :=
  names.foldlM (t.enter depth) dir

/-- Where a link leads. -/
def opens (t : FileTree α) (depth : ℕ) (loc : List String) : Option (List String) :=
  match t.nodes.get? loc with
  | some (.link target) => t.walk depth (linkStart target loc.dropLast) (pathNames target)
  | _ => none

/-- A name appended to a path. -/
def appendBy (t : FileTree α) (path : List String) (name : String)
    (onLink : String → List String) : List String :=
  if name = "" ∨ name = "." then path
  else if name = ".." then path.dropLast
  else match t.nodes.get? (path ++ [name]) with
    | some (.link target) => onLink target
    | _ => path ++ [name]

/-- A name appended to a path and resolved; the links that are being followed stay. -/
def follow (t : FileTree α) : ℕ → List (List String) → List String → String → List String
  | 0, _, path, name => t.appendBy path name fun _ => path ++ [name]
  | depth + 1, active, path, name => t.appendBy path name fun target =>
      if path ++ [name] ∈ active then path ++ [name]
      else (pathNames target).foldl (t.follow depth ((path ++ [name]) :: active))
        (linkStart target path)

/-- A path resolved as far as possible. No more links can be nested than there are. -/
def realpath (t : FileTree α) (path : String) : List String :=
  (pathNames path).foldl (t.follow t.links.length []) []

-- ════════════════════════════════════════════════════════════════════════
-- Links
-- ════════════════════════════════════════════════════════════════════════

variable {t : FileTree α} {dir path loc : List String} {name target : String} {depth : ℕ}

theorem mem_links (h : t.nodes.get? loc = some (.link target)) : loc ∈ t.links := by
  refine List.mem_map.mpr ⟨(loc, .link target), ?_, rfl⟩
  exact List.mem_filter.mpr ⟨Dict.mem_entries_of_get? h, rfl⟩

theorem opens_eq (h : t.nodes.get? (dir ++ [name]) = some (.link target)) :
    t.opens depth (dir ++ [name]) = t.walk depth (linkStart target dir) (pathNames target) := by
  rw [opens, h, List.dropLast_concat]

/-- What a name is: none, the parent, a link, or anything else. -/
inductive NameCase (t : FileTree α) (dir : List String) (name : String) : Prop
  | skip (h : name = "" ∨ name = ".")
  | up (h : name = "..")
  | link (target : String) (hskip : ¬ (name = "" ∨ name = ".")) (hup : name ≠ "..")
      (h : t.nodes.get? (dir ++ [name]) = some (.link target))
  | other (hskip : ¬ (name = "" ∨ name = ".")) (hup : name ≠ "..")
      (h : ∀ target, t.nodes.get? (dir ++ [name]) ≠ some (.link target))

theorem nameCase (t : FileTree α) (dir : List String) (name : String) : NameCase t dir name := by
  by_cases hskip : name = "" ∨ name = "."
  · exact .skip hskip
  by_cases hup : name = ".."
  · exact .up hup
  by_cases hlink : ∃ target, t.nodes.get? (dir ++ [name]) = some (.link target)
  · obtain ⟨target, htarget⟩ := hlink
    exact .link target hskip hup htarget
  · exact .other hskip hup fun target h => hlink ⟨target, h⟩

theorem enter_link (hskip : ¬ (name = "" ∨ name = ".")) (hup : name ≠ "..")
    (hnode : t.nodes.get? (dir ++ [name]) = some (.link target))
    (h : t.enter depth dir name = some loc) :
    ∃ d, depth = d + 1 ∧ t.opens d (dir ++ [name]) = some loc := by
  cases depth with
  | zero =>
    rw [enter, enterBy, if_neg hskip, if_neg hup, hnode] at h
    cases h
  | succ d =>
    rw [enter, enterBy, if_neg hskip, if_neg hup, hnode] at h
    refine ⟨d, rfl, ?_⟩
    rw [opens_eq hnode]
    exact h

theorem enter_other (hskip : ¬ (name = "" ∨ name = ".")) (hup : name ≠ "..")
    (h : ∀ target, t.nodes.get? (dir ++ [name]) ≠ some (.link target))
    (hloc : t.enter depth dir name = some loc) : loc = dir ++ [name] := by
  have hby : ∀ onLink, t.enterBy dir name onLink = some loc → loc = dir ++ [name] := by
    intro onLink hget
    rw [enterBy, if_neg hskip, if_neg hup] at hget
    cases hnode : t.nodes.get? (dir ++ [name]) with
    | none =>
      rw [hnode] at hget
      cases hget
    | some node =>
      rw [hnode] at hget
      cases node with
      | link target => exact absurd hnode (h target)
      | file content => exact (Option.some.inj hget).symm
      | dir => exact (Option.some.inj hget).symm
  cases depth with
  | zero => exact hby _ hloc
  | succ d => exact hby _ hloc

theorem walk_cons (d : ℕ) (names : List String) : t.walk d dir (name :: names) =
    (t.enter d dir name).bind fun next => t.walk d next names :=
  List.foldlM_cons

theorem exists_enter {d : ℕ} {names : List String} (h : (t.walk d dir (name :: names)).isSome) :
    ∃ next, t.enter d dir name = some next ∧ (t.walk d next names).isSome := by
  rw [walk_cons] at h
  cases hnext : t.enter d dir name with
  | none =>
    rw [hnext] at h
    cases h
  | some next =>
    rw [hnext] at h
    exact ⟨next, rfl, h⟩

theorem enter_skip (h : name = "" ∨ name = ".") (hloc : t.enter depth dir name = some loc) :
    loc = dir := by
  have hby : ∀ onLink, t.enterBy dir name onLink = some loc → loc = dir := by
    intro onLink hget
    rw [enterBy, if_pos h] at hget
    split at hget
    · exact (Option.some.inj hget).symm
    · cases hget
  cases depth with
  | zero => exact hby _ hloc
  | succ d => exact hby _ hloc

theorem enter_up (h : name = "..") (hloc : t.enter depth dir name = some loc) :
    loc = dir.dropLast := by
  have hby : ∀ onLink, t.enterBy dir name onLink = some loc → loc = dir.dropLast := by
    intro onLink hget
    rw [enterBy, if_neg (by simp [h]), if_pos h] at hget
    split at hget
    · exact (Option.some.inj hget).symm
    · cases hget
  cases depth with
  | zero => exact hby _ hloc
  | succ d => exact hby _ hloc

theorem follow_skip (active : List (List String)) (h : name = "" ∨ name = ".") :
    t.follow depth active path name = path := by
  cases depth with
  | zero => rw [follow, appendBy, if_pos h]
  | succ d => rw [follow, appendBy, if_pos h]

theorem follow_up (active : List (List String)) (h : name = "..") :
    t.follow depth active path name = path.dropLast := by
  have hskip : ¬ (name = "" ∨ name = ".") := by simp [h]
  cases depth with
  | zero => rw [follow, appendBy, if_neg hskip, if_pos h]
  | succ d => rw [follow, appendBy, if_neg hskip, if_pos h]

theorem follow_other (active : List (List String)) (hskip : ¬ (name = "" ∨ name = "."))
    (hup : name ≠ "..") (h : ∀ target, t.nodes.get? (path ++ [name]) ≠ some (.link target)) :
    t.follow depth active path name = path ++ [name] := by
  have hby : ∀ onLink, t.appendBy path name onLink = path ++ [name] := by
    intro onLink
    rw [appendBy, if_neg hskip, if_neg hup]
    split
    · next target hnode => exact absurd hnode (h target)
    · rfl
  cases depth with
  | zero => exact hby _
  | succ d => exact hby _

theorem follow_link {active : List (List String)} (hskip : ¬ (name = "" ∨ name = "."))
    (hup : name ≠ "..") (h : t.nodes.get? (path ++ [name]) = some (.link target)) :
    t.follow (depth + 1) active path name = if path ++ [name] ∈ active then path ++ [name]
      else (pathNames target).foldl (t.follow depth ((path ++ [name]) :: active))
        (linkStart target path) := by
  rw [follow, appendBy, if_neg hskip, if_neg hup, h]

theorem follow_zero_link {active : List (List String)} (hskip : ¬ (name = "" ∨ name = "."))
    (hup : name ≠ "..") (h : t.nodes.get? (path ++ [name]) = some (.link target)) :
    t.follow 0 active path name = path ++ [name] := by
  rw [follow, appendBy, if_neg hskip, if_neg hup, h]

-- ════════════════════════════════════════════════════════════════════════
-- Resolved paths
-- ════════════════════════════════════════════════════════════════════════

/-- The links in a path lead nowhere. -/
def Settled (t : FileTree α) (path : List String) : Prop :=
  ∀ loc target, loc <+: path → t.nodes.get? loc = some (.link target) → ∀ d, t.opens d loc = none

theorem Settled.nil : t.Settled [] := by
  intro loc target hloc hnode
  rw [List.prefix_nil.mp hloc, t.root] at hnode
  cases hnode

theorem Settled.dropLast (h : t.Settled path) : t.Settled path.dropLast :=
  fun loc target hloc => h loc target (hloc.trans (List.dropLast_prefix path))

theorem Settled.concat (h : t.Settled path)
    (hnew : ∀ target, t.nodes.get? (path ++ [name]) = some (.link target) →
      ∀ d, t.opens d (path ++ [name]) = none) : t.Settled (path ++ [name]) := by
  intro loc target hloc hnode
  rcases List.prefix_concat_iff.mp hloc with rfl | hloc
  · exact hnew target hnode
  · exact h loc target hloc hnode

theorem Settled.start (h : t.Settled path) (target : String) :
    t.Settled (linkStart target path) := by
  unfold linkStart
  split
  · exact .nil
  · exact h

/-- The links that are followed lead somewhere only if what is left of them does, through no more
nested links. -/
def Pending (t : FileTree α) (active : List (List String)) (path names : List String) : Prop :=
  ∀ loc ∈ active, ∀ d, (t.opens d loc).isSome → ∃ d' ≤ d, (t.walk d' path names).isSome

/-- A link that is met again while it is followed leads nowhere. -/
theorem Pending.opens_eq_none {active : List (List String)} {names : List String}
    (h : t.Pending active path (name :: names)) (hskip : ¬ (name = "" ∨ name = "."))
    (hup : name ≠ "..") (hnode : t.nodes.get? (path ++ [name]) = some (.link target))
    (hin : path ++ [name] ∈ active) (d : ℕ) : t.opens d (path ++ [name]) = none := by
  induction d using Nat.strong_induction_on with
  | _ d ih =>
    by_contra hne
    obtain ⟨d', hle, hsome⟩ := h _ hin d (Option.isSome_iff_ne_none.mpr hne)
    obtain ⟨next, hnext, -⟩ := exists_enter hsome
    obtain ⟨d₀, rfl, hopens⟩ := enter_link hskip hup hnode hnext
    rw [ih d₀ (by omega)] at hopens
    cases hopens

/-- What is left after a name that leads to the path that follows it. -/
theorem Pending.tail {active : List (List String)} {names : List String} {next : List String}
    (h : t.Pending active path (name :: names))
    (hnext : ∀ d loc, t.enter d path name = some loc → loc = next) :
    t.Pending active next names := by
  intro loc hloc d hsome
  obtain ⟨d', hle, hwalk⟩ := h loc hloc d hsome
  obtain ⟨loc', henter, hrest⟩ := exists_enter hwalk
  rw [hnext d' loc' henter] at hrest
  exact ⟨d', hle, hrest⟩

/-- What is left inside a link. -/
theorem Pending.link {active : List (List String)} {names : List String}
    (h : t.Pending active path (name :: names)) (hskip : ¬ (name = "" ∨ name = "."))
    (hup : name ≠ "..") (hnode : t.nodes.get? (path ++ [name]) = some (.link target)) :
    t.Pending ((path ++ [name]) :: active) (linkStart target path) (pathNames target) := by
  intro loc hloc d hsome
  rcases List.mem_cons.mp hloc with rfl | hloc
  · rw [opens_eq hnode] at hsome
    exact ⟨d, le_rfl, hsome⟩
  · obtain ⟨d', hle, hwalk⟩ := h loc hloc d hsome
    obtain ⟨next, henter, -⟩ := exists_enter hwalk
    obtain ⟨d₀, rfl, hopens⟩ := enter_link hskip hup hnode henter
    rw [opens_eq hnode] at hopens
    exact ⟨d₀, by omega, Option.isSome_of_eq_some hopens⟩

/-- There is a nested link left for every link that is not followed yet. -/
structure Nesting (t : FileTree α) (depth : ℕ) (active : List (List String)) : Prop where
  nodup : active.Nodup
  subset : active ⊆ t.links
  enough : t.links.length ≤ active.length + depth

theorem Nesting.mem_of_zero {active : List (List String)} (h : t.Nesting 0 active)
    (hloc : loc ∈ t.links) : loc ∈ active := by
  by_contra hno
  have hnodup : (loc :: active).Nodup := List.nodup_cons.mpr ⟨hno, h.nodup⟩
  have hsub : loc :: active ⊆ t.links := List.cons_subset.mpr ⟨hloc, h.subset⟩
  have hlen := (List.subperm_of_subset hnodup hsub).length_le
  have henough := h.enough
  rw [List.length_cons] at hlen
  omega

theorem Nesting.cons {active : List (List String)} (h : t.Nesting (depth + 1) active)
    (hloc : loc ∈ t.links) (hno : loc ∉ active) : t.Nesting depth (loc :: active) where
  nodup := List.nodup_cons.mpr ⟨hno, h.nodup⟩
  subset := List.cons_subset.mpr ⟨hloc, h.subset⟩
  enough := by
    have henough := h.enough
    rw [List.length_cons]
    omega

/-- A name is resolved: the path stays settled, and is where the name leads if it leads anywhere. -/
def Resolved (t : FileTree α) (depth : ℕ) (active : List (List String)) (path : List String)
    (name : String) : Prop :=
  t.Settled (t.follow depth active path name) ∧
    ∀ d loc, t.enter d path name = some loc → loc = t.follow depth active path name

/-- Only a link needs an argument. -/
theorem resolved_of_link {active : List (List String)} (hpath : t.Settled path)
    (hlink : ∀ target, ¬ (name = "" ∨ name = ".") → name ≠ ".." →
      t.nodes.get? (path ++ [name]) = some (.link target) → t.Resolved depth active path name) :
    t.Resolved depth active path name := by
  rcases t.nameCase path name with h | h | ⟨target, hskip, hup, hnode⟩ | ⟨hskip, hup, hnode⟩
  · rw [Resolved, follow_skip active h]
    exact ⟨hpath, fun d loc => enter_skip h⟩
  · rw [Resolved, follow_up active h]
    exact ⟨hpath.dropLast, fun d loc => enter_up h⟩
  · exact hlink target hskip hup hnode
  · rw [Resolved, follow_other active hskip hup hnode]
    exact ⟨hpath.concat fun target h => absurd h (hnode target),
      fun d loc => enter_other hskip hup hnode⟩

/-- A link that leads nowhere may stay. -/
theorem resolved_of_stays {active : List (List String)} (hpath : t.Settled path)
    (hskip : ¬ (name = "" ∨ name = ".")) (hup : name ≠ "..")
    (hnode : t.nodes.get? (path ++ [name]) = some (.link target))
    (hnone : ∀ d, t.opens d (path ++ [name]) = none)
    (hstays : t.follow depth active path name = path ++ [name]) :
    t.Resolved depth active path name := by
  rw [Resolved, hstays]
  refine ⟨hpath.concat fun _ _ => hnone, fun d loc henter => ?_⟩
  obtain ⟨d₀, -, hopens⟩ := enter_link hskip hup hnode henter
  rw [hnone] at hopens
  cases hopens

/-- From one name to a list of names. -/
theorem foldl_follow {active : List (List String)}
    (hname : ∀ path name names, t.Settled path → t.Pending active path (name :: names) →
      t.Resolved depth active path name)
    {names : List String} (hpath : t.Settled path) (hpending : t.Pending active path names) :
    t.Settled (names.foldl (t.follow depth active) path) ∧
      ∀ d loc, t.walk d path names = some loc → loc = names.foldl (t.follow depth active) path := by
  induction names generalizing path with
  | nil => exact ⟨hpath, fun d loc h => (Option.some.inj h).symm⟩
  | cons name names ih =>
    obtain ⟨hsettled, hnext⟩ := hname path name names hpath hpending
    obtain ⟨hrest, hwalk⟩ := ih hsettled (hpending.tail hnext)
    refine ⟨hrest, fun d loc hloc => ?_⟩
    obtain ⟨next, henter, -⟩ := exists_enter (Option.isSome_of_eq_some hloc)
    rw [walk_cons, henter, hnext d next henter] at hloc
    exact hwalk d loc hloc

/-- A path that is resolved is settled, and where it leads somewhere, it leads to what it is
resolved to. -/
theorem follow_spec {active : List (List String)} (hnesting : t.Nesting depth active)
    {names : List String} (hpath : t.Settled path) (hpending : t.Pending active path names) :
    t.Settled (names.foldl (t.follow depth active) path) ∧
      ∀ d loc, t.walk d path names = some loc → loc = names.foldl (t.follow depth active) path := by
  induction depth generalizing active path names with
  | zero =>
    refine foldl_follow (fun path name names hpath hpending => ?_) hpath hpending
    apply resolved_of_link hpath
    intro target hskip hup hnode
    have hnone := hpending.opens_eq_none hskip hup hnode (hnesting.mem_of_zero (mem_links hnode))
    exact resolved_of_stays hpath hskip hup hnode hnone (follow_zero_link hskip hup hnode)
  | succ depth ih =>
    refine foldl_follow (fun path name names hpath hpending => ?_) hpath hpending
    apply resolved_of_link hpath
    intro target hskip hup hnode
    have hfollow : t.follow (depth + 1) active path name = _ := follow_link hskip hup hnode
    by_cases hin : path ++ [name] ∈ active
    · rw [if_pos hin] at hfollow
      exact resolved_of_stays hpath hskip hup hnode (hpending.opens_eq_none hskip hup hnode hin)
        hfollow
    · rw [if_neg hin] at hfollow
      obtain ⟨hsettled, hwalk⟩ := ih (hnesting.cons (mem_links hnode) hin)
        (hpath.start target) (hpending.link hskip hup hnode)
      rw [Resolved, hfollow]
      refine ⟨hsettled, fun d loc henter => ?_⟩
      obtain ⟨d₀, rfl, hopens⟩ := enter_link hskip hup hnode henter
      rw [opens_eq hnode] at hopens
      exact hwalk d₀ loc hopens

theorem realpath_spec (t : FileTree α) (path : String) :
    t.Settled (t.realpath path) ∧
      ∀ d loc, t.walk d [] (pathNames path) = some loc → loc = t.realpath path := by
  have hnesting : t.Nesting t.links.length [] :=
    ⟨List.nodup_nil, List.nil_subset _, by rw [List.length_nil, Nat.zero_add]⟩
  exact follow_spec hnesting .nil fun loc hloc => absurd hloc List.not_mem_nil

-- ════════════════════════════════════════════════════════════════════════
-- Locations
-- ════════════════════════════════════════════════════════════════════════

/-- A settled path of names leads nowhere else than to itself. -/
theorem walk_settled {names : List String} (hs : t.Settled (dir ++ names))
    (hnames : ∀ name ∈ names, IsName name) {d : ℕ} (h : t.walk d dir names = some loc) :
    loc = dir ++ names := by
  induction names generalizing dir with
  | nil =>
    rw [List.append_nil]
    exact (Option.some.inj h).symm
  | cons name names ih =>
    have hname := hnames name List.mem_cons_self
    have hskip : ¬ (name = "" ∨ name = ".") := not_or.mpr ⟨hname.ne_empty, hname.ne_dot⟩
    obtain ⟨next, henter, -⟩ := exists_enter (Option.isSome_of_eq_some h)
    have happend : dir ++ name :: names = dir ++ [name] ++ names := by
      rw [List.append_assoc, List.singleton_append]
    rw [happend] at hs ⊢
    obtain rfl : next = dir ++ [name] := by
      by_cases hlink : ∃ target, t.nodes.get? (dir ++ [name]) = some (.link target)
      · obtain ⟨target, hnode⟩ := hlink
        obtain ⟨d₀, -, hopens⟩ := enter_link hskip hname.ne_dots hnode henter
        rw [hs _ target (List.prefix_append _ _) hnode] at hopens
        cases hopens
      · exact enter_other hskip hname.ne_dots (fun target h => hlink ⟨target, h⟩) henter
    rw [walk_cons, henter] at h
    exact ih hs (fun n hn => hnames n (List.mem_cons_of_mem _ hn)) h

/-- The names of a path hold no slash. -/
theorem no_slash_of_mem_pathNames {s name : String} (h : name ∈ pathNames s) :
    '/' ∉ name.toList := by
  obtain ⟨part, hpart, rfl⟩ := List.mem_map.mp h
  intro hin
  rw [String.toList_ofList] at hin
  have hfalse := Text.forall_mem_splitOnP (· == '/') hpart '/' hin
  simp at hfalse

theorem isName_foldl {names : List String} {f : List String → String → List String}
    (hf : ∀ path name, (∀ n ∈ path, IsName n) → '/' ∉ name.toList → ∀ n ∈ f path name, IsName n)
    (hpath : ∀ n ∈ path, IsName n) (hnames : ∀ name ∈ names, '/' ∉ name.toList) :
    ∀ n ∈ names.foldl f path, IsName n := by
  induction names generalizing path with
  | nil => exact hpath
  | cons name names ih =>
    apply ih (hf path name hpath (hnames name List.mem_cons_self))
    exact fun n hn => hnames n (List.mem_cons_of_mem _ hn)

theorem isName_concat (hpath : ∀ n ∈ path, IsName n) (hname : '/' ∉ name.toList)
    (hskip : ¬ (name = "" ∨ name = ".")) (hup : name ≠ "..") : ∀ n ∈ path ++ [name], IsName n := by
  intro n hn
  rcases List.mem_append.mp hn with hn | hn
  · exact hpath n hn
  · obtain rfl := List.mem_singleton.mp hn
    obtain ⟨hempty, hdot⟩ := not_or.mp hskip
    exact ⟨hempty, hdot, hup, hname⟩

theorem isName_linkStart (hpath : ∀ n ∈ path, IsName n) (target : String) :
    ∀ n ∈ linkStart target path, IsName n := by
  unfold linkStart
  split
  · exact fun n hn => absurd hn List.not_mem_nil
  · exact hpath

theorem isName_follow (depth : ℕ) (active : List (List String)) (path : List String) (name : String)
    (hpath : ∀ n ∈ path, IsName n) (hname : '/' ∉ name.toList) :
    ∀ n ∈ t.follow depth active path name, IsName n := by
  induction depth generalizing active path name with
  | zero =>
    rcases t.nameCase path name with h | h | ⟨target, hskip, hup, hnode⟩ | ⟨hskip, hup, hnode⟩
    · rw [follow_skip active h]
      exact hpath
    · rw [follow_up active h]
      exact fun n hn => hpath n (List.dropLast_subset path hn)
    · rw [follow_zero_link hskip hup hnode]
      exact isName_concat hpath hname hskip hup
    · rw [follow_other active hskip hup hnode]
      exact isName_concat hpath hname hskip hup
  | succ depth ih =>
    rcases t.nameCase path name with h | h | ⟨target, hskip, hup, hnode⟩ | ⟨hskip, hup, hnode⟩
    · rw [follow_skip active h]
      exact hpath
    · rw [follow_up active h]
      exact fun n hn => hpath n (List.dropLast_subset path hn)
    · rw [follow_link hskip hup hnode]
      by_cases hin : path ++ [name] ∈ active
      · rw [if_pos hin]
        exact isName_concat hpath hname hskip hup
      · rw [if_neg hin]
        apply isName_foldl (ih _) (isName_linkStart hpath target)
        exact fun n hn => no_slash_of_mem_pathNames hn
    · rw [follow_other active hskip hup hnode]
      exact isName_concat hpath hname hskip hup

theorem isName_realpath (t : FileTree α) (s : String) : ∀ n ∈ t.realpath s, IsName n := by
  apply isName_foldl (isName_follow t.links.length []) (fun n hn => absurd hn List.not_mem_nil)
  exact fun n hn => no_slash_of_mem_pathNames hn

-- ════════════════════════════════════════════════════════════════════════
-- Paths of locations
-- ════════════════════════════════════════════════════════════════════════

theorem splitOnP_names {loc : List String} {part : List Char} (hpart : '/' ∉ part)
    (hloc : ∀ n ∈ loc, '/' ∉ n.toList) :
    (part ++ loc.flatMap fun n => '/' :: n.toList).splitOnP (· == '/') =
      part :: loc.map String.toList := by
  induction loc generalizing part with
  | nil =>
    rw [List.flatMap_nil, List.append_nil, List.map_nil]
    apply List.splitOnP_eq_singleton
    exact fun c hc => beq_eq_false_iff_ne.mpr fun h => hpart (h ▸ hc)
  | cons name loc ih =>
    have hrest := ih (hloc name List.mem_cons_self) fun n hn => hloc n (List.mem_cons_of_mem _ hn)
    rw [List.flatMap_cons, List.cons_append, List.splitOnP_append_cons_of_forall_mem, hrest,
      List.map_cons]
    · exact fun c hc => beq_eq_false_iff_ne.mpr fun h => hpart (h ▸ hc)
    · rfl

/-- The names of the path of a location. -/
theorem pathNames_locString {loc : List String} (hloc : ∀ n ∈ loc, IsName n) :
    pathNames (locString loc) = "" :: if loc = [] then [""] else loc := by
  unfold locString
  by_cases hnil : loc = []
  · rw [if_pos hnil, if_pos hnil]
    rfl
  · have hsplit : (loc.flatMap fun n => '/' :: n.toList).splitOnP (· == '/') =
        [] :: loc.map String.toList :=
      splitOnP_names List.not_mem_nil fun n hn => (hloc n hn).no_slash
    rw [if_neg hnil, if_neg hnil, pathNames, String.toList_ofList, hsplit, List.map_cons,
      List.map_map]
    have hid : String.ofList ∘ String.toList = id := funext fun s => String.ofList_toList
    rw [hid, List.map_id]

/-- The root is a directory. -/
theorem walk_root (d : ℕ) (names : List String) : t.walk d [] ("" :: names) = t.walk d [] names := by
  have hroot : t.enter d [] "" = some [] := by
    have hby : ∀ onLink, t.enterBy [] "" onLink = some [] := by
      intro onLink
      rw [enterBy, if_pos (Or.inl rfl), isDir, t.root]
      rfl
    cases d with
    | zero => exact hby _
    | succ d => exact hby _
  rw [walk_cons, hroot, Option.bind_some]

theorem walk_locString {loc : List String} (hloc : ∀ n ∈ loc, IsName n) (d : ℕ)
    (names : List String) :
    t.walk d [] (pathNames (locString loc) ++ names) = t.walk d [] (loc ++ names) := by
  rw [pathNames_locString hloc, List.cons_append, walk_root]
  by_cases hnil : loc = []
  · rw [if_pos hnil, hnil]
    exact walk_root d names
  · rw [if_neg hnil]

/-- A resolved path leads nowhere else than to itself. -/
theorem walk_realpath {s : String} {d : ℕ}
    (h : t.walk d [] (pathNames (locString (t.realpath s))) = some loc) : loc = t.realpath s := by
  have hnames := t.isName_realpath s
  have hwalk := t.walk_locString hnames d []
  rw [List.append_nil, List.append_nil, h] at hwalk
  have hsettled : t.Settled ([] ++ t.realpath s) := (t.realpath_spec s).1
  exact walk_settled hsettled hnames hwalk.symm

theorem walk_append (d : ℕ) (dir names rest : List String) :
    t.walk d dir (names ++ rest) = (t.walk d dir names).bind fun next => t.walk d next rest :=
  List.foldlM_append

theorem mem_keys_of_get? {node : FileNode α} (h : t.nodes.get? loc = some node) :
    loc ∈ t.nodes.keys :=
  (Dict.mem_keys_iff t.nodes loc).mpr (Option.isSome_of_eq_some h)

-- ════════════════════════════════════════════════════════════════════════
-- Paths that meet no link
-- ════════════════════════════════════════════════════════════════════════

/-- The names that are looked up; the others stay where they are. -/
def plainNames (names : List String) : List String := names.filter fun n => n ≠ "" ∧ n ≠ "."

/-- No link is met on the way to a location. -/
def Plain (t : FileTree α) (loc : List String) : Prop :=
  ∀ p, p <+: loc → ∀ target, t.nodes.get? p ≠ some (.link target)

theorem Plain.settled (h : t.Plain loc) : t.Settled loc :=
  fun p target hp hnode => absurd hnode (h p hp target)

theorem Plain.mono {loc' : List String} (h : t.Plain loc) (hp : loc' <+: loc) : t.Plain loc' :=
  fun p hp' => h p (hp'.trans hp)

theorem plainNames_cons_skip {names : List String} (h : name = "" ∨ name = ".") :
    plainNames (name :: names) = plainNames names := by
  refine List.filter_cons_of_neg ?_
  rw [decide_eq_true_iff]
  exact fun hne => h.elim hne.1 hne.2

theorem plainNames_cons {names : List String} (h : ¬ (name = "" ∨ name = ".")) :
    plainNames (name :: names) = name :: plainNames names :=
  List.filter_cons_of_pos (decide_eq_true (not_or.mp h))

theorem plainNames_of_isName {names : List String} (h : ∀ n ∈ names, IsName n) :
    plainNames names = names :=
  List.filter_eq_self.mpr fun n hn => decide_eq_true ⟨(h n hn).ne_empty, (h n hn).ne_dot⟩

theorem plainNames_append (names rest : List String) :
    plainNames (names ++ rest) = plainNames names ++ plainNames rest :=
  List.filter_append _ _

/-- A path that meets no link is resolved to its names. -/
theorem foldl_follow_plain {names : List String} {active : List (List String)}
    (hup : ".." ∉ names) (h : t.Plain (path ++ plainNames names)) :
    names.foldl (t.follow depth active) path = path ++ plainNames names := by
  induction names generalizing path with
  | nil => exact (List.append_nil path).symm
  | cons name names ih =>
    have hname : name ≠ ".." := fun heq => hup (heq ▸ List.mem_cons_self)
    have hrest : ".." ∉ names := fun hmem => hup (List.mem_cons_of_mem _ hmem)
    rw [List.foldl_cons]
    by_cases hskip : name = "" ∨ name = "."
    · rw [plainNames_cons_skip hskip] at h ⊢
      rw [follow_skip active hskip]
      exact ih hrest h
    · have happend : path ++ plainNames (name :: names) = path ++ [name] ++ plainNames names := by
        rw [plainNames_cons hskip, List.append_assoc, List.singleton_append]
      rw [happend] at h ⊢
      rw [follow_other active hskip hname (h _ (List.prefix_append _ _))]
      exact ih hrest h

theorem realpath_plain {s : String} (hup : ".." ∉ pathNames s)
    (h : t.Plain (plainNames (pathNames s))) : t.realpath s = plainNames (pathNames s) := by
  have h' : t.Plain ([] ++ plainNames (pathNames s)) := h
  exact foldl_follow_plain hup h'

/-- What lies above something is a directory. -/
theorem dir_of_node {names : List String} {node : FileNode α}
    (h : t.nodes.get? (loc ++ names) = some node) (hne : names ≠ []) :
    t.nodes.get? loc = some .dir := by
  induction names using List.reverseRecOn generalizing node with
  | nil => exact absurd rfl hne
  | append_singleton names last ih =>
    rw [← List.append_assoc] at h
    have hparent := t.parent _ _ (mem_keys_of_get? h)
    by_cases hnil : names = []
    · rw [hnil, List.append_nil] at hparent
      exact hparent
    · exact ih hparent hnil

/-- No link lies above a file or a directory. -/
theorem plain_of_node {node : FileNode α} (h : t.nodes.get? loc = some node)
    (hnode : ∀ target, node ≠ .link target) : t.Plain loc := by
  rintro p ⟨rest, rfl⟩ target hlink
  by_cases hnil : rest = []
  · rw [hnil, List.append_nil, hlink] at h
    exact hnode target (Option.some.inj h).symm
  · rw [dir_of_node h hnil] at hlink
    cases hlink

/-- A file or a directory is where its names lead. -/
theorem walk_of_node {names : List String} {node : FileNode α}
    (h : t.nodes.get? (dir ++ names) = some node) (hnode : ∀ target, node ≠ .link target)
    (hnames : ∀ n ∈ names, IsName n) (d : ℕ) : t.walk d dir names = some (dir ++ names) := by
  induction names using List.reverseRecOn generalizing node with
  | nil =>
    rw [List.append_nil]
    rfl
  | append_singleton names last ih =>
    rw [← List.append_assoc] at h ⊢
    have hparent := t.parent _ _ (mem_keys_of_get? h)
    have hlast := hnames last (List.mem_append_right _ (List.mem_singleton_self last))
    have henter : t.enter d (dir ++ names) last = some (dir ++ names ++ [last]) := by
      have hby : ∀ onLink, t.enterBy (dir ++ names) last onLink =
          some (dir ++ names ++ [last]) := by
        intro onLink
        rw [enterBy, if_neg (not_or.mpr ⟨hlast.ne_empty, hlast.ne_dot⟩), if_neg hlast.ne_dots, h]
        cases node with
        | link target => exact absurd rfl (hnode target)
        | file content => rfl
        | dir => rfl
      cases d with
      | zero => exact hby _
      | succ d => exact hby _
    rw [walk_append, ih hparent nofun
      fun n hn => hnames n (List.mem_append_left _ hn), Option.bind_some, walk_cons, henter]
    rfl

end FileTree
