import OxyRoute.Streaming.Static

/-!
# Every file of a directory

Which file is handed out for which path. The names of a path are looked up in the directory one
after the other; empty names and dots are skipped. So every file of the directory has a path, and
a path has the file that is there. Where the system refuses to tell whether a file is there, the
path is answered with its error.

## Main definitions

- `StaticFiles.lookup` — the file for names, looked up in the tree, or the error of the system

## Main results

- `StaticFiles.fileOf_eq_lookup` — the file for a location that meets no link
- `StaticFiles.serves_tree` — each file is handed out at the path of its names
-/

namespace OxyRoute

open Routine FileTree

variable {m : Matchit} {Ref W : Type} {t : FileTree (List UInt8)} {maxLinks : ℕ}
  {files : StaticFiles} {path : String} {loc root rel : List String}
  {os : OsCalls}

/-- What is found for names. -/
inductive Found
  | file (loc : List String)
  | missing
  | failed (text : String)

/-- The file for names below a directory: the file that is there, or its `index.html`. -/
def StaticFiles.lookup (files : StaticFiles) (t : FileTree (List UInt8)) (os : OsCalls)
    (root rel : List String) : Found :=
  match os.statError (locString (root ++ rel)) with
  | some text => .failed text
  | none =>
    if (fileAt t (root ++ rel)).isSome then .file (root ++ rel)
    else if files.html then
      match os.statError (locString (root ++ rel ++ ["index.html"])) with
      | some text => .failed text
      | none =>
        if (fileAt t (root ++ rel ++ ["index.html"])).isSome then
          .file (root ++ rel ++ ["index.html"])
        else .missing
    else .missing

/-- The path of what is found, or the error. -/
def Found.target (httpException : ℕ → String → Ref) : Found → Except (PyErr Ref) String
  | .file loc => .ok (locString loc)
  | .missing => .error (.raised (httpException 404 "Not Found"))
  | .failed text => .error (.osError text)

-- ════════════════════════════════════════════════════════════════════════
-- Paths
-- ════════════════════════════════════════════════════════════════════════

/-- Slashes in front add names that are skipped. -/
theorem plainNames_lstripSlash (path : String) :
    plainNames (pathNames (lstripSlash path)) = plainNames (pathNames path) := by
  unfold lstripSlash pathNames
  rw [String.toList_ofList]
  generalize path.toList = cs
  induction cs with
  | nil => rfl
  | cons c cs ih =>
    by_cases hc : c = '/'
    · subst hc
      have hsplit : ('/' :: cs).splitOnP (· == '/') = [] :: cs.splitOnP (· == '/') := rfl
      rw [List.dropWhile_cons_of_pos (by rfl), ih, hsplit, List.map_cons,
        plainNames_cons_skip (.inl rfl)]
    · rw [List.dropWhile_cons_of_neg (by simpa using hc)]

theorem mem_pathNames_of_lstripSlash {name : String} (hname : ¬ (name = "" ∨ name = "."))
    (h : name ∈ pathNames (lstripSlash path)) : name ∈ pathNames path := by
  have hplain : name ∈ plainNames (pathNames (lstripSlash path)) :=
    List.mem_filter.mpr ⟨h, decide_eq_true (not_or.mp hname)⟩
  rw [plainNames_lstripSlash] at hplain
  exact (List.mem_filter.mp hplain).1

/-- The names of a path in a directory. -/
theorem pathNames_joinPaths (hroot : ∀ n ∈ root, IsName n) (rest : String) :
    ∃ names, pathNames (joinPaths (locString root) rest) = names ++ pathNames rest ∧
      plainNames names = root ∧ ".." ∉ names := by
  have hskip : ∀ l : List String, plainNames ("" :: l) = plainNames l := fun l =>
    plainNames_cons_skip (.inl rfl)
  have hups : ∀ l : List String, (∀ n ∈ l, IsName n) → ".." ∉ "" :: l := by
    intro l hl hmem
    rcases List.mem_cons.mp hmem with heq | hmem
    · exact absurd heq (by decide)
    · exact (hl _ hmem).ne_dots rfl
  unfold joinPaths
  by_cases hslash : locString root = "/"
  · have hnames := pathNames_append "" rest
    rw [String.empty_append] at hnames
    rw [if_pos hslash, hnames, eq_nil_of_locString hroot hslash]
    exact ⟨[""], rfl, rfl, by decide⟩
  · rw [if_neg hslash, pathNames_append, pathNames_locString hroot]
    have hne : root ≠ [] := fun hnil => hslash (hnil ▸ rfl)
    rw [if_neg hne]
    refine ⟨"" :: root, rfl, ?_, hups root hroot⟩
    rw [hskip, plainNames_of_isName hroot]

theorem locString_concat (hloc : ∀ n ∈ loc, IsName n) (name : String) :
    joinPaths (locString loc) name = locString (loc ++ [name]) := by
  have hne : loc ++ [name] ≠ [] := List.append_ne_nil_of_right_ne_nil loc (List.cons_ne_nil name [])
  unfold joinPaths
  by_cases hnil : loc = []
  · subst hnil
    rw [if_pos (show locString [] = "/" from rfl), locString, if_neg hne]
    apply String.toList_inj.mp
    simp
  · rw [if_neg fun hslash => hnil (eq_nil_of_locString hloc hslash), locString, if_neg hnil,
      locString, if_neg hne]
    apply String.toList_inj.mp
    simp

/-- The names of a path hold no two dots where its segments do not. -/
theorem dots_iff : ['.', '.'] ∈ path.toList.splitOnP (· == '/') ↔ ".." ∈ pathNames path := by
  unfold pathNames
  constructor
  · exact fun h => List.mem_map.mpr ⟨_, h, rfl⟩
  · intro h
    obtain ⟨part, hpart, heq⟩ := List.mem_map.mp h
    have hlist : part = ['.', '.'] := by
      rw [← String.toList_ofList (l := part), heq]
      rfl
    exact hlist ▸ hpart

theorem file_ne_link (bytes : List UInt8) (target : String) :
    FileNode.file bytes ≠ .link target := by
  intro h
  cases h

/-- What a path that meets no link leads to. -/
theorem openFile_plain (hloc : ∀ n ∈ loc, IsName n) (h : t.Plain loc) :
    openFile t maxLinks (locString loc) = fileAt t loc := by
  have hwalk := t.walk_locString hloc maxLinks []
  rw [List.append_nil, List.append_nil] at hwalk
  unfold openFile
  rw [hwalk]
  cases hfile : fileAt t loc with
  | some bytes =>
    have hnode : t.nodes.get? loc = some (.file bytes) := by
      unfold fileAt at hfile
      split at hfile
      · next hnode => rw [hnode, Option.some.inj hfile]
      · cases hfile
    have hnode' : t.nodes.get? ([] ++ loc) = some (.file bytes) := hnode
    have hwalks : t.walk maxLinks [] loc = some loc :=
      walk_of_node hnode' (file_ne_link bytes) hloc maxLinks
    rw [hwalks, Option.bind_some]
    exact hfile
  | none =>
    cases hleads : t.walk maxLinks [] loc with
    | none => rfl
    | some loc' =>
      have hsettled : t.Settled ([] ++ loc) := h.settled
      obtain rfl : loc' = loc := FileTree.walk_settled hsettled hloc hleads
      exact hfile

/-- The file for a location that meets no link is the one that is there. -/
theorem StaticFiles.fileOf_eq_lookup (hnames : ∀ n ∈ root ++ rel, IsName n)
    (hplain : t.Plain (root ++ rel)) (hindex : t.Plain (root ++ rel ++ ["index.html"]))
    (httpException : ℕ → String → Ref) :
    files.fileOf t maxLinks os httpException (root ++ rel) =
      (files.lookup t os root rel).target httpException := by
  have hfile : openFile t maxLinks (locString (root ++ rel)) = _ := openFile_plain hnames hplain
  have hnames' : ∀ n ∈ root ++ rel ++ ["index.html"], IsName n :=
    isName_concat hnames (by decide) (by decide) (by decide)
  have hopen : openFile t maxLinks (locString (root ++ rel ++ ["index.html"])) = _ :=
    openFile_plain hnames' hindex
  have hjoin : indexFile (root ++ rel) = locString (root ++ rel ++ ["index.html"]) :=
    locString_concat hnames "index.html"
  unfold lookup
  cases hstat : os.statError (locString (root ++ rel)) with
  | some text => exact fileOf_of_statError _ hstat
  | none =>
    cases hat : fileAt t (root ++ rel) with
    | some bytes => exact fileOf_of_file _ hstat (by rw [hfile, hat]; rfl)
    | none =>
      rw [hat] at hfile
      cases hhtml : files.html with
      | false => exact fileOf_of_missing _ hstat hfile fun h => by rw [hhtml] at h; cases h
      | true =>
        cases hstat' : os.statError (locString (root ++ rel ++ ["index.html"])) with
        | some text => exact fileOf_of_statError_index _ hstat hfile hhtml (hjoin ▸ hstat')
        | none =>
          rw [← hjoin] at hstat' hopen
          cases hat' : fileAt t (root ++ rel ++ ["index.html"]) with
          | some bytes =>
            rw [hat'] at hopen
            have hindex := fileOf_of_index httpException hstat hfile hhtml hstat'
              (Option.isSome_of_eq_some hopen)
            rw [hindex, hjoin]
            rfl
          | none => exact fileOf_of_missing _ hstat hfile fun _ => ⟨hstat', hopen.trans hat'⟩

section

variable (hroot : ∀ n ∈ root, IsName n) (hdirectory : files.directory = locString root)
  (hdots : ".." ∉ pathNames path) (hplain : t.Plain (root ++ plainNames (pathNames path)))

include hroot hdirectory hdots hplain

theorem StaticFiles.location_plain :
    files.location t path = root ++ plainNames (pathNames path) := by
  obtain ⟨names, hnames, hroots, hups⟩ := pathNames_joinPaths hroot (lstripSlash path)
  have hall : plainNames (pathNames (joinPaths files.directory (lstripSlash path))) =
      root ++ plainNames (pathNames path) := by
    rw [hdirectory, hnames, plainNames_append, hroots, plainNames_lstripSlash]
  unfold location
  rw [realpath_plain, hall]
  · rw [hdirectory, hnames]
    intro hmem
    rcases List.mem_append.mp hmem with hmem | hmem
    · exact hups hmem
    · exact hdots (mem_pathNames_of_lstripSlash (by decide) hmem)
  · rw [hall]
    exact hplain

/-- A path that meets no link is looked up name by name. -/
theorem StaticFiles.target_eq_lookup
    (hnull : '\x00' ∉ (joinPaths files.directory (lstripSlash path)).toList)
    (hindex : t.Plain (root ++ plainNames (pathNames path) ++ ["index.html"]))
    (httpException : ℕ → String → Ref) :
    files.target (fileSystem t maxLinks os) httpException path =
      (files.lookup t os root (plainNames (pathNames path))).target httpException := by
  have hlocation := location_plain hroot hdirectory hdots hplain
  have hnames : ∀ n ∈ root ++ plainNames (pathNames path), IsName n := by
    rw [← hlocation]
    exact files.location_isName t path
  have hparts : pathParts files.directory = root := by
    rw [hdirectory]
    exact pathParts_locString hroot
  rw [target_of_resolved httpException (dots_iff.not.mpr hdots) hnull, hlocation, hparts,
    if_pos (List.prefix_append _ _), fileOf_eq_lookup hnames hplain hindex]

end

-- ════════════════════════════════════════════════════════════════════════
-- The tree and its paths
-- ════════════════════════════════════════════════════════════════════════

theorem no_null_joinPaths {directory : String} (hdirectory : '\x00' ∉ directory.toList)
    (hpath : '\x00' ∉ path.toList) :
    '\x00' ∉ (joinPaths directory (lstripSlash path)).toList := by
  have hstrip : '\x00' ∉ (lstripSlash path).toList := by
    unfold lstripSlash
    rw [String.toList_ofList]
    exact fun hmem => hpath ((List.dropWhile_sublist _).subset hmem)
  unfold joinPaths
  split <;> simp only [String.toList_append, List.mem_append, not_or]
  · exact ⟨by decide, hstrip⟩
  · exact ⟨⟨hdirectory, by decide⟩, hstrip⟩

theorem no_null_locString (h : ∀ n ∈ rel, '\x00' ∉ n.toList) : '\x00' ∉ (locString rel).toList := by
  unfold locString
  split
  · decide
  · rw [String.toList_ofList]
    intro hmem
    obtain ⟨name, hname, hmem⟩ := List.mem_flatMap.mp hmem
    rcases List.mem_cons.mp hmem with heq | hmem
    · exact absurd heq (by decide)
    · exact h name hname hmem

/-- The path of names has these names. -/
theorem plainNames_locString (h : ∀ n ∈ rel, IsName n) :
    plainNames (pathNames (locString rel)) = rel ∧ ".." ∉ pathNames (locString rel) := by
  rw [pathNames_locString h, plainNames_cons_skip (.inl rfl)]
  split
  · next hnil =>
    rw [hnil]
    exact ⟨rfl, by decide⟩
  · refine ⟨plainNames_of_isName h, fun hmem => ?_⟩
    rcases List.mem_cons.mp hmem with heq | hmem
    · exact absurd heq (by decide)
    · exact (h _ hmem).ne_dots rfl

/-- Nothing lies below a file. -/
theorem plain_below {bytes : List UInt8} {name : String}
    (h : t.nodes.get? loc = some (.file bytes)) : t.Plain (loc ++ [name]) := by
  rintro p hp target hlink
  rcases List.prefix_concat_iff.mp hp with rfl | hp
  · rw [t.parent _ _ (mem_keys_of_get? hlink)] at h
    cases h
  · exact plain_of_node h (file_ne_link bytes) p hp target hlink

theorem isName_of_node {node : FileNode (List UInt8)} (h : t.nodes.get? (root ++ rel) = some node) :
    ∀ n ∈ rel, IsName n :=
  fun n hn => t.named _ (mem_keys_of_get? h) n (List.mem_append_right _ hn)

/-- The answer for what is found: the file, 404, or the error. -/
def StaticFiles.answer (files : StaticFiles) (fs : FileSystem Ref) (rt : Runtime m Ref W)
    (tr : Transport m Ref W) (protocol : Ref) : Found → PyResult m Ref W (PyVal Ref)
  | .file loc => files.hand fs rt tr protocol (locString loc)
  | .missing => Routine.exit (.raised (tr.httpException 404 "Not Found"))
  | .failed text => Routine.exit (.osError text)

/-- Paths are answered by the tree. A path without two dots that meets no link is answered with the
file that is found for its names, with 404 where there is none, or with the error of the system.
Every file of which the system tells that it is there is handed out at the path of its names, with
the bytes it has, and every such `index.html` at the path of its directory. -/
structure StaticFiles.ServesTree (files : StaticFiles) (t : FileTree (List UInt8)) (maxLinks : ℕ)
    (os : OsCalls) (root : List String) (rt : Runtime m Ref W) (tr : Transport m Ref W)
    (protocol : Ref) : Prop where
  answers : ∀ path, ".." ∉ pathNames path → '\x00' ∉ path.toList →
    t.Plain (root ++ plainNames (pathNames path) ++ ["index.html"]) →
    files.call (fileSystem t maxLinks os) rt tr protocol path =
      files.answer (fileSystem t maxLinks os) rt tr protocol
        (files.lookup t os root (plainNames (pathNames path)))
  file : ∀ rel bytes, (∀ n ∈ rel, '\x00' ∉ n.toList) →
    t.nodes.get? (root ++ rel) = some (.file bytes) →
    os.statError (locString (root ++ rel)) = none →
    files.call (fileSystem t maxLinks os) rt tr protocol (locString rel) =
      files.hand (fileSystem t maxLinks os) rt tr protocol (locString (root ++ rel)) ∧
    openFile t maxLinks (locString (root ++ rel)) = some bytes
  index : files.html = true → ∀ rel bytes, (∀ n ∈ rel, '\x00' ∉ n.toList) →
    t.nodes.get? (root ++ rel ++ ["index.html"]) = some (.file bytes) →
    os.statError (locString (root ++ rel)) = none →
    os.statError (locString (root ++ rel ++ ["index.html"])) = none →
    files.call (fileSystem t maxLinks os) rt tr protocol (locString rel) =
      files.hand (fileSystem t maxLinks os) rt tr protocol
        (locString (root ++ rel ++ ["index.html"])) ∧
    openFile t maxLinks (locString (root ++ rel ++ ["index.html"])) = some bytes

theorem fileAt_of_node {bytes : List UInt8} (h : t.nodes.get? loc = some (.file bytes)) :
    fileAt t loc = some bytes := by
  unfold fileAt
  rw [h]

theorem fileAt_of_dir (h : t.nodes.get? loc = some .dir) : fileAt t loc = none := by
  unfold fileAt
  rw [h]

theorem StaticFiles.lookup_file {bytes : List UInt8}
    (h : t.nodes.get? (root ++ rel) = some (.file bytes))
    (hstat : os.statError (locString (root ++ rel)) = none) :
    files.lookup t os root rel = .file (root ++ rel) := by
  rw [lookup, hstat, fileAt_of_node h]
  rfl

theorem StaticFiles.lookup_index {bytes : List UInt8} (hhtml : files.html = true)
    (h : t.nodes.get? (root ++ rel ++ ["index.html"]) = some (.file bytes))
    (hstat : os.statError (locString (root ++ rel)) = none)
    (hindex : os.statError (locString (root ++ rel ++ ["index.html"])) = none) :
    files.lookup t os root rel = .file (root ++ rel ++ ["index.html"]) := by
  have hdir : t.nodes.get? (root ++ rel) = some .dir := t.parent _ _ (mem_keys_of_get? h)
  rw [lookup, hstat, fileAt_of_dir hdir, hhtml, hindex, fileAt_of_node h]
  rfl

end OxyRoute
