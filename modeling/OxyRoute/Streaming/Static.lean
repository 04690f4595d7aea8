import OxyRoute.Native.Dispatch
import OxyRoute.Streaming.Helpers
import OxyRoute.Lib.FileTree

/-!
# Static files of a directory

`oxyroute/static.py` over a tree of files with symbolic links. A path is resolved and compared with
the directory once; `index.html` is appended afterwards and is not resolved. The system may refuse
to tell whether a file is there, and nothing takes that error.

## Main definitions

- `OsCalls`, `fileSystem` — the calls of `pathlib` on a tree of files
- `StaticFiles.init` — `StaticFiles.__init__`
- `StaticFiles.ServesInside` — a call hands out files of the directory only
- `StaticFiles.IndexInside` — an `index.html` that is a link does not lead out of the directory
- `StaticFiles.StatAnswers` — the system tells whether the files looked for are there

## Main results

- `StaticFiles.target_eq` — the file for a path
- `StaticFiles.servesInside_iff` — a call hands out files of the directory only
-/

namespace OxyRoute

open Routine

variable {m : Matchit} {Ref W : Type}

-- ════════════════════════════════════════════════════════════════════════
-- Files of a tree
-- ════════════════════════════════════════════════════════════════════════

/-- What a tree of files does not tell. -/
structure OsCalls where
  /-- `mimetypes.guess_type`. -/
  guessType : String → Option String
  /-- The error of `stat` that `exists`, `is_file` and `is_dir` pass on, such as the one for a name
  that is too long. They take the error for a file that is not there, and since Python 3.14 every
  error. -/
  statError : String → Option String
  /-- The error of opening what is no file. -/
  openError : String → String

section

variable (t : FileTree (List UInt8)) (maxLinks : ℕ) (os : OsCalls)

/-- The bytes of the file at a location. -/
def fileAt (loc : List String) : Option (List UInt8) :=
  match t.nodes.get? loc with
  | some (.file bytes) => some bytes
  | _ => none

/-- The bytes of the file that a path leads to. -/
def openFile (path : String) : Option (List UInt8) :=
  (t.walk maxLinks [] (pathNames path)).bind (fileAt t)

/-- `Path.resolve` of an absolute path. -/
def resolvePath (path : String) : Except (PyErr Ref) String :=
  if '\x00' ∈ path.toList then .error (.valueError "embedded null byte")
  else .ok (locString (t.realpath path))

/-- An answer of `stat`, unless it is an error that is passed on. -/
def statAnswer (path : String) (answer : Bool) : Except (PyErr Ref) Bool :=
  match os.statError path with
  | some text => .error (.osError text)
  | none => .ok answer

/-- `Path.is_file`. -/
def isFileAt (path : String) : Except (PyErr Ref) Bool :=
  statAnswer os path (openFile t maxLinks path).isSome

/-- The calls of `pathlib` on a tree of files. -/
def fileSystem : FileSystem Ref where
  resolve := resolvePath t
  pathExists path := statAnswer os path (t.walk maxLinks [] (pathNames path)).isSome
  isFile := isFileAt t maxLinks os
  guessType := os.guessType
  read path := match openFile t maxLinks path with
    | some bytes => .ok bytes
    | none => .error (.osError (os.openError path))

/-- A path from the working directory on. -/
def absolutePath (cwd path : String) : String :=
  if path.toList.head? = some '/' then path else joinPaths cwd path

/-- `StaticFiles.__init__`. -/
def StaticFiles.init (cwd directory : String) (html : Bool) (maxAge : Option ℤ) :
    Except (PyErr Ref) StaticFiles := do
  let resolved ← resolvePath t (absolutePath cwd directory)
  if !(← statAnswer os resolved ((t.walk maxLinks [] (pathNames resolved)).any t.isDir)) then
    throw (.runtimeError ("Directory " ++ directory ++ " does not exist"))
  return ⟨resolved, html, maxAge⟩

/-- What a call does with the file. -/
def StaticFiles.hand (files : StaticFiles) (fs : FileSystem Ref) (rt : Runtime m Ref W)
    (tr : Transport m Ref W) (protocol : Ref) (file : String) : PyResult m Ref W (PyVal Ref) :=
  match tr.responseFile with
  | some responseFile => do
    Routine.effect (responseFile 200 (files.headers fs file) file)
    return .object (tr.streamDone 200)
  | none => do
    let body ← Routine.ofExcept (fs.read file)
    Routine.effect (rt.respond protocol (.responseBytes 200 (files.headers fs file) body))
    return .object (tr.streamDone 200)

/-- The location for a path. -/
def StaticFiles.location (files : StaticFiles) (path : String) : List String :=
  t.realpath (joinPaths files.directory (lstripSlash path))

/-- The index file of a location. -/
def indexFile (loc : List String) : String := joinPaths (locString loc) "index.html"

/-- A path leads to a file that lies in a directory. -/
def FileInside (root : List String) (file : String) : Prop :=
  ∃ loc, t.walk maxLinks [] (pathNames file) = some loc ∧ (fileAt t loc).isSome ∧ root <+: loc

/-- A call hands out a file that lies in the directory, or raises 403 or 404 and does nothing
else. -/
structure StaticFiles.ServesInside (files : StaticFiles) (root : List String)
    (rt : Runtime m Ref W) (tr : Transport m Ref W) (protocol : Ref) (path : String) : Prop where
  hands : ∀ file,
    files.target (fileSystem t maxLinks os) tr.httpException path = .ok file →
    FileInside t maxLinks root file ∧
      files.call (fileSystem t maxLinks os) rt tr protocol path =
        files.hand (fileSystem t maxLinks os) rt tr protocol file
  refuses : ∀ e,
    files.target (fileSystem t maxLinks os) tr.httpException path = .error e →
    (e = .raised (tr.httpException 403 "Forbidden") ∨
      e = .raised (tr.httpException 404 "Not Found")) ∧
      files.call (fileSystem t maxLinks os) rt tr protocol path = Routine.exit e

/-- A path is not refused before a file is looked for. -/
structure StaticFiles.Admits (files : StaticFiles) (root : List String) (path : String) :
    Prop where
  no_dots : ['.', '.'] ∉ path.toList.splitOnP (· == '/')
  no_null : '\x00' ∉ (joinPaths files.directory (lstripSlash path)).toList
  inside : root <+: files.location t path

/-- Where files are looked for, the system tells whether they are there. -/
def StaticFiles.StatAnswers (files : StaticFiles) (root : List String) (path : String) : Prop :=
  files.Admits t root path →
    os.statError (locString (files.location t path)) = none ∧
      (files.html = true → openFile t maxLinks (locString (files.location t path)) = none →
        os.statError (indexFile (files.location t path)) = none)

/-- Where `index.html` is looked for and is a link to a file, the link does not lead out of the
served directory. -/
def StaticFiles.IndexInside (files : StaticFiles) (root : List String) (path : String) : Prop :=
  files.html = true → files.Admits t root path →
    ∀ target, t.nodes.get? (files.location t path ++ ["index.html"]) = some (.link target) →
    ∀ loc, t.walk maxLinks [] (files.location t path ++ ["index.html"]) = some loc →
    (fileAt t loc).isSome → root <+: loc

end

-- ════════════════════════════════════════════════════════════════════════
-- The file for a path
-- ════════════════════════════════════════════════════════════════════════

variable {t : FileTree (List UInt8)} {maxLinks : ℕ} {files : StaticFiles} {path : String}
  {os : OsCalls}

theorem pathParts_eq (s : String) : pathParts s = (pathNames s).filter (· ≠ "") := by
  rw [pathParts, pathNames, List.filter_map]
  congr 1
  apply List.filter_congr
  intro part _
  exact decide_eq_decide.mpr (not_congr String.ofList_eq_empty_iff.symm)

theorem pathParts_locString {loc : List String} (hloc : ∀ n ∈ loc, IsName n) :
    pathParts (locString loc) = loc := by
  rw [pathParts_eq, FileTree.pathNames_locString hloc]
  by_cases hnil : loc = []
  · rw [if_pos hnil, hnil]
    rfl
  · rw [if_neg hnil]
    have hall : ∀ n ∈ loc, decide (n ≠ "") = true := fun n hn =>
      decide_eq_true (hloc n hn).ne_empty
    rw [List.filter_cons_of_neg (by simp), List.filter_eq_self.mpr hall]

theorem pathNames_append (directory name : String) :
    pathNames (directory ++ "/" ++ name) = pathNames directory ++ pathNames name := by
  have hlist : (directory ++ "/" ++ name).toList = directory.toList ++ '/' :: name.toList := by
    rw [String.toList_append, String.toList_append, List.append_assoc]
    rfl
  rw [pathNames, hlist, List.splitOnP_append_cons _ _ (by rfl), List.map_append]
  rfl

theorem eq_nil_of_locString {loc : List String} (hloc : ∀ n ∈ loc, IsName n)
    (h : locString loc = "/") : loc = [] := by
  by_contra hne
  have hparts := pathParts_locString hloc
  rw [h] at hparts
  exact hne hparts.symm

/-- A name in a location. -/
theorem walk_join {loc : List String} (hloc : ∀ n ∈ loc, IsName n) {name : String}
    (hname : pathNames name = [name]) (d : ℕ) :
    t.walk d [] (pathNames (joinPaths (locString loc) name)) = t.walk d [] (loc ++ [name]) := by
  rw [joinPaths]
  by_cases hroot : locString loc = "/"
  · have hnames := pathNames_append "" name
    rw [String.empty_append] at hnames
    rw [if_pos hroot, hnames, hname, eq_nil_of_locString hloc hroot]
    exact t.walk_root d [name]
  · rw [if_neg hroot, pathNames_append, hname]
    exact t.walk_locString hloc d [name]

theorem walk_of_openFile {bytes : List UInt8} {file : String}
    (h : openFile t maxLinks file = some bytes) :
    ∃ loc, t.walk maxLinks [] (pathNames file) = some loc ∧ fileAt t loc = some bytes :=
  Option.bind_eq_some_iff.mp h

theorem resolvePath_eq (h : '\x00' ∉ path.toList) :
    (resolvePath t path : Except (PyErr Ref) String) = .ok (locString (t.realpath path)) :=
  if_neg h

/-- The directory is resolved when the handler is made. -/
theorem StaticFiles.init_ok {cwd directory : String} {html : Bool} {maxAge : Option ℤ}
    (h : (StaticFiles.init t maxLinks os cwd directory html maxAge :
      Except (PyErr Ref) StaticFiles) = .ok files) :
    files = ⟨locString (t.realpath (absolutePath cwd directory)), html, maxAge⟩ := by
  obtain ⟨resolved, hresolved, h⟩ := Except.of_bind_eq_ok h
  obtain ⟨isDir, -, h⟩ := Except.of_bind_eq_ok h
  by_cases hnull : '\x00' ∈ (absolutePath cwd directory).toList
  · rw [resolvePath, if_pos hnull] at hresolved
    cases hresolved
  · rw [resolvePath_eq hnull] at hresolved
    obtain rfl := Except.ok.inj hresolved
    cases isDir with
    | false => cases h
    | true => exact (Except.ok.inj h).symm

/-- What is a file is there. -/
theorem bind_isFileAt (path : String) (k : Bool → Except (PyErr Ref) String) : (do
      let found ← statAnswer os path (t.walk maxLinks [] (pathNames path)).isSome
      if found then
        let isFile ← isFileAt t maxLinks os path
        k isFile
      else
        let isFile ← pure false
        k isFile) = isFileAt t maxLinks os path >>= k := by
  unfold isFileAt statAnswer
  cases os.statError path with
  | some text => rfl
  | none =>
    cases hopen : openFile t maxLinks path with
    | some bytes =>
      obtain ⟨loc, hwalk, -⟩ := walk_of_openFile hopen
      rw [hwalk]
      rfl
    | none => cases t.walk maxLinks [] (pathNames path) <;> rfl

section

variable (httpException : ℕ → String → Ref)

theorem StaticFiles.target_of_dots (h : ['.', '.'] ∈ path.toList.splitOnP (· == '/')) :
    files.target (fileSystem t maxLinks os) httpException path =
      .error (.raised (httpException 403 "Forbidden")) := by
  unfold target
  rw [if_pos h]
  rfl

theorem StaticFiles.target_of_null (hdots : ['.', '.'] ∉ path.toList.splitOnP (· == '/'))
    (h : '\x00' ∈ (joinPaths files.directory (lstripSlash path)).toList) :
    files.target (fileSystem t maxLinks os) httpException path =
      .error (.raised (httpException 404 "Not Found")) := by
  unfold target
  simp only [if_neg hdots, fileSystem, resolvePath, if_pos h]
  rfl

/-- The file of a location, then its index file. -/
def StaticFiles.fileOf (files : StaticFiles) (t : FileTree (List UInt8)) (maxLinks : ℕ)
    (os : OsCalls) (httpException : ℕ → String → Ref) (loc : List String) :
    Except (PyErr Ref) String := do
  if ← isFileAt t maxLinks os (locString loc) then return locString loc
  if files.html then
    if ← isFileAt t maxLinks os (indexFile loc) then return indexFile loc
  throw (.raised (httpException 404 "Not Found"))

theorem isFileAt_of_none {file : String} (h : os.statError file = none) :
    (isFileAt t maxLinks os file : Except (PyErr Ref) Bool) =
      .ok (openFile t maxLinks file).isSome := by
  rw [isFileAt, statAnswer, h]

theorem isFileAt_of_some {file text : String} (h : os.statError file = some text) :
    (isFileAt t maxLinks os file : Except (PyErr Ref) Bool) = .error (.osError text) := by
  rw [isFileAt, statAnswer, h]

section

variable {loc : List String}

theorem StaticFiles.fileOf_of_statError {text : String}
    (h : os.statError (locString loc) = some text) :
    files.fileOf t maxLinks os httpException loc = .error (.osError text) := by
  rw [fileOf, isFileAt_of_some h]
  rfl

variable (hstat : os.statError (locString loc) = none)

include hstat

theorem StaticFiles.fileOf_of_file (hfile : (openFile t maxLinks (locString loc)).isSome) :
    files.fileOf t maxLinks os httpException loc = .ok (locString loc) := by
  rw [fileOf, isFileAt_of_none hstat, hfile]
  rfl

variable (hnone : openFile t maxLinks (locString loc) = none)

include hnone

theorem StaticFiles.fileOf_of_statError_index (hhtml : files.html = true) {text : String}
    (h : os.statError (indexFile loc) = some text) :
    files.fileOf t maxLinks os httpException loc = .error (.osError text) := by
  rw [fileOf, isFileAt_of_none hstat, hnone, hhtml, isFileAt_of_some h]
  rfl

theorem StaticFiles.fileOf_of_index (hhtml : files.html = true)
    (hindex : os.statError (indexFile loc) = none)
    (hfile : (openFile t maxLinks (indexFile loc)).isSome) :
    files.fileOf t maxLinks os httpException loc = .ok (indexFile loc) := by
  rw [fileOf, isFileAt_of_none hstat, hnone, hhtml, isFileAt_of_none hindex, hfile]
  rfl

theorem StaticFiles.fileOf_of_missing (hindex : files.html = true →
      os.statError (indexFile loc) = none ∧ openFile t maxLinks (indexFile loc) = none) :
    files.fileOf t maxLinks os httpException loc =
      .error (.raised (httpException 404 "Not Found")) := by
  rw [fileOf, isFileAt_of_none hstat, hnone]
  cases hhtml : files.html with
  | false => rfl
  | true =>
    obtain ⟨hindex, hopen⟩ := hindex hhtml
    rw [isFileAt_of_none hindex, hopen]
    rfl

end

theorem StaticFiles.target_of_resolved (hdots : ['.', '.'] ∉ path.toList.splitOnP (· == '/'))
    (hnull : '\x00' ∉ (joinPaths files.directory (lstripSlash path)).toList) :
    files.target (fileSystem t maxLinks os) httpException path =
      if pathParts files.directory <+: files.location t path then
        files.fileOf t maxLinks os httpException (files.location t path)
      else .error (.raised (httpException 403 "Forbidden")) := by
  have hresolve : (resolvePath t (joinPaths files.directory (lstripSlash path)) :
      Except (PyErr Ref) String) = .ok (locString (files.location t path)) := resolvePath_eq hnull
  have hparts : pathParts (locString (files.location t path)) = files.location t path :=
    pathParts_locString (t.isName_realpath _)
  have hcheck : (pathParts files.directory).isPrefixOf (files.location t path) = true ↔
      pathParts files.directory <+: files.location t path := List.isPrefixOf_iff_prefix
  unfold target
  simp only [if_neg hdots, fileSystem, hresolve]
  change Except.bind (.ok (locString (files.location t path))) _ = _
  simp only [Except.bind, hparts]
  by_cases hinside : pathParts files.directory <+: files.location t path
  · rw [if_pos hinside, hcheck.mpr hinside]
    exact bind_isFileAt _ _
  · rw [if_neg hinside, Bool.eq_false_iff.mpr fun h => hinside (hcheck.mp h)]
    rfl

end

section

variable {rt : Runtime m Ref W} {tr : Transport m Ref W} {protocol : Ref} {fs : FileSystem Ref}
  {root : List String}

theorem StaticFiles.call_of_ok {file : String} (h : files.target fs tr.httpException path = .ok file)
    : files.call fs rt tr protocol path = files.hand fs rt tr protocol file := by
  rw [call, h, hand]
  rfl

theorem StaticFiles.call_of_error {e : PyErr Ref}
    (h : files.target fs tr.httpException path = .error e) :
    files.call fs rt tr protocol path = Routine.exit e := by
  rw [call, h]
  rfl

theorem StaticFiles.location_isName (files : StaticFiles) (t : FileTree (List UInt8))
    (path : String) : ∀ n ∈ files.location t path, IsName n :=
  t.isName_realpath _

theorem StaticFiles.walk_index (d : ℕ) :
    t.walk d [] (pathNames (indexFile (files.location t path))) =
      t.walk d [] (files.location t path ++ ["index.html"]) :=
  walk_join (files.location_isName t path) (by decide) d

/-- What is not a link leads to itself. -/
theorem StaticFiles.index_of_not_link {loc : List String}
    (hlink : ∀ target, t.nodes.get? (files.location t path ++ ["index.html"]) ≠
      some (.link target))
    (h : t.walk maxLinks [] (files.location t path ++ ["index.html"]) = some loc) :
    loc = files.location t path ++ ["index.html"] := by
  rw [FileTree.walk_append] at h
  obtain ⟨dir, hdir, hname⟩ := Option.bind_eq_some_iff.mp h
  obtain rfl : dir = [] ++ files.location t path :=
    FileTree.walk_settled (t.realpath_spec _).1 (files.location_isName t path) hdir
  rw [FileTree.walk_cons] at hname
  obtain ⟨next, hnext, hrest⟩ := Option.bind_eq_some_iff.mp hname
  have heq := FileTree.enter_other (by decide) (by decide) hlink hnext
  rw [← Option.some.inj hrest, heq]

/-- Where a path is not refused, the file and then the index file is looked for. -/
theorem StaticFiles.target_of_admits (hroot : pathParts files.directory = root)
    (h : files.Admits t root path) (httpException : ℕ → String → Ref) :
    files.target (fileSystem t maxLinks os) httpException path =
      files.fileOf t maxLinks os httpException (files.location t path) := by
  have hinside : pathParts files.directory <+: files.location t path := hroot ▸ h.inside
  rw [target_of_resolved httpException h.no_dots h.no_null, if_pos hinside]

/-- A path that is refused is answered with 403 or 404. -/
theorem StaticFiles.target_of_not_admits (hroot : pathParts files.directory = root)
    (h : ¬ files.Admits t root path) (httpException : ℕ → String → Ref) :
    ∃ e, files.target (fileSystem t maxLinks os) httpException path = .error e ∧
      (e = .raised (httpException 403 "Forbidden") ∨
        e = .raised (httpException 404 "Not Found")) := by
  by_cases hdots : ['.', '.'] ∈ path.toList.splitOnP (· == '/')
  · exact ⟨_, target_of_dots httpException hdots, .inl rfl⟩
  by_cases hnull : '\x00' ∈ (joinPaths files.directory (lstripSlash path)).toList
  · exact ⟨_, target_of_null httpException hdots hnull, .inr rfl⟩
  have houtside : ¬ pathParts files.directory <+: files.location t path :=
    fun hinside => h ⟨hdots, hnull, hroot ▸ hinside⟩
  refine ⟨_, ?_, .inl rfl⟩
  rw [target_of_resolved httpException hdots hnull, if_neg houtside]

theorem StaticFiles.hands_file (h : files.Admits t root path) {bytes : List UInt8}
    (hopen : openFile t maxLinks (locString (files.location t path)) = some bytes) :
    FileInside t maxLinks root (locString (files.location t path)) := by
  obtain ⟨loc, hwalk, hfile⟩ := walk_of_openFile hopen
  refine ⟨loc, hwalk, Option.isSome_of_eq_some hfile, ?_⟩
  rw [FileTree.walk_realpath hwalk]
  exact h.inside

theorem StaticFiles.hands_index (h : files.Admits t root path) (hhtml : files.html = true)
    (hindex : files.IndexInside t maxLinks root path) {bytes : List UInt8}
    (hopen : openFile t maxLinks (indexFile (files.location t path)) = some bytes) :
    FileInside t maxLinks root (indexFile (files.location t path)) := by
  obtain ⟨loc, hwalk, hfile⟩ := walk_of_openFile hopen
  have hsome := Option.isSome_of_eq_some hfile
  refine ⟨loc, hwalk, hsome, ?_⟩
  rw [walk_index] at hwalk
  by_cases hlink : ∃ target, t.nodes.get? (files.location t path ++ ["index.html"]) =
      some (.link target)
  · obtain ⟨target, hnode⟩ := hlink
    exact hindex hhtml h target hnode loc hwalk hsome
  · rw [index_of_not_link (fun target h => hlink ⟨target, h⟩) hwalk]
    exact h.inside.trans (List.prefix_append _ _)

/-- What is in the directory of an index file is no file itself. -/
theorem StaticFiles.openFile_eq_none {target : String}
    (h : t.nodes.get? (files.location t path ++ ["index.html"]) = some (.link target)) :
    openFile t maxLinks (locString (files.location t path)) = none := by
  cases hopen : openFile t maxLinks (locString (files.location t path)) with
  | none => rfl
  | some bytes =>
    obtain ⟨loc, hwalk, hfile⟩ := walk_of_openFile hopen
    have hloc : loc = files.location t path := FileTree.walk_realpath hwalk
    have hdir := t.parent _ _ (FileTree.mem_keys_of_get? h)
    rw [hloc, fileAt, hdir] at hfile
    cases hfile

theorem StaticFiles.servesInside_of_ok {file : String}
    (h : files.target (fileSystem t maxLinks os) tr.httpException path = .ok file)
    (hinside : FileInside t maxLinks root file) :
    files.ServesInside t maxLinks os root rt tr protocol path where
  hands file' h' := by
    obtain rfl := Except.ok.inj (h.symm.trans h')
    exact ⟨hinside, call_of_ok h⟩
  refuses e h' := by
    rw [h] at h'
    cases h'

theorem StaticFiles.servesInside_of_error {e : PyErr Ref}
    (h : files.target (fileSystem t maxLinks os) tr.httpException path = .error e)
    (hstatus : e = .raised (tr.httpException 403 "Forbidden") ∨
      e = .raised (tr.httpException 404 "Not Found")) :
    files.ServesInside t maxLinks os root rt tr protocol path where
  hands file h' := by
    rw [h] at h'
    cases h'
  refuses e' h' := by
    obtain rfl := Except.error.inj (h.symm.trans h')
    exact ⟨hstatus, call_of_error h⟩

theorem StaticFiles.servesInside_of_indexInside (hroot : pathParts files.directory = root)
    (hanswers : files.StatAnswers t maxLinks os root path)
    (hindex : files.IndexInside t maxLinks root path) :
    files.ServesInside t maxLinks os root rt tr protocol path := by
  by_cases hadmits : files.Admits t root path
  · obtain ⟨hstat, hstatIndex⟩ := hanswers hadmits
    have htarget : files.target (fileSystem t maxLinks os) tr.httpException path = _ :=
      target_of_admits hroot hadmits tr.httpException
    cases hfile : openFile t maxLinks (locString (files.location t path)) with
    | some bytes =>
      rw [fileOf_of_file _ hstat (Option.isSome_of_eq_some hfile)] at htarget
      exact servesInside_of_ok htarget (hands_file hadmits hfile)
    | none =>
      by_cases hhtml : files.html = true ∧
        (openFile t maxLinks (indexFile (files.location t path))).isSome
      · obtain ⟨hhtml, hsome⟩ := hhtml
        obtain ⟨bytes, hopen⟩ := Option.isSome_iff_exists.mp hsome
        rw [fileOf_of_index _ hstat hfile hhtml (hstatIndex hhtml hfile) hsome] at htarget
        exact servesInside_of_ok htarget (hands_index hadmits hhtml hindex hopen)
      · rw [fileOf_of_missing _ hstat hfile fun h => ⟨hstatIndex h hfile,
          Option.not_isSome_iff_eq_none.mp fun hsome => hhtml ⟨h, hsome⟩⟩] at htarget
        exact servesInside_of_error htarget (.inr rfl)
  · obtain ⟨e, he, hstatus⟩ := target_of_not_admits hroot hadmits tr.httpException
    exact servesInside_of_error he hstatus

/-- An error of the system is passed on. -/
theorem StaticFiles.ServesInside.not_osError (h : files.ServesInside t maxLinks os root rt tr protocol path)
    (text : String) :
    files.target (fileSystem t maxLinks os) tr.httpException path ≠ .error (.osError text) := by
  intro htarget
  obtain ⟨hstatus | hstatus, -⟩ := h.refuses _ htarget
  · cases hstatus
  · cases hstatus

theorem StaticFiles.statAnswers_of_servesInside (hroot : pathParts files.directory = root)
    (h : files.ServesInside t maxLinks os root rt tr protocol path) :
    files.StatAnswers t maxLinks os root path := by
  intro hadmits
  have htarget : files.target (fileSystem t maxLinks os) tr.httpException path = _ :=
    target_of_admits hroot hadmits tr.httpException
  have hstat : os.statError (locString (files.location t path)) = none := by
    by_contra hsome
    obtain ⟨text, htext⟩ := Option.ne_none_iff_exists'.mp hsome
    exact h.not_osError text (htarget.trans (fileOf_of_statError _ htext))
  refine ⟨hstat, fun hhtml hnone => ?_⟩
  by_contra hsome
  obtain ⟨text, htext⟩ := Option.ne_none_iff_exists'.mp hsome
  exact h.not_osError text (htarget.trans (fileOf_of_statError_index _ hstat hnone hhtml htext))

theorem StaticFiles.indexInside_of_servesInside (hroot : pathParts files.directory = root)
    (h : files.ServesInside t maxLinks os root rt tr protocol path) :
    files.IndexInside t maxLinks root path := by
  intro hhtml hadmits target hnode loc hwalk hfile
  have hindex : (openFile t maxLinks (indexFile (files.location t path))).isSome := by
    rw [openFile, walk_index, hwalk]
    exact hfile
  obtain ⟨hstat, hstatIndex⟩ := statAnswers_of_servesInside hroot h hadmits
  have hnone : openFile t maxLinks (locString (files.location t path)) = none :=
    openFile_eq_none hnode
  have htarget : files.target (fileSystem t maxLinks os) tr.httpException path =
      .ok (indexFile (files.location t path)) := by
    rw [target_of_admits hroot hadmits,
      fileOf_of_index _ hstat hnone hhtml (hstatIndex hhtml hnone) hindex]
  obtain ⟨⟨loc', hwalk', -, hinside⟩, -⟩ := h.hands _ htarget
  rw [walk_index, hwalk] at hwalk'
  rw [Option.some.inj hwalk']
  exact hinside

/-- What `__init__` has resolved. -/
theorem StaticFiles.pathParts_of_init {cwd directory : String} {html : Bool} {maxAge : Option ℤ}
    (h : (StaticFiles.init t maxLinks os cwd directory html maxAge : Except (PyErr Ref) StaticFiles) =
      .ok files) :
    pathParts files.directory = t.realpath (absolutePath cwd directory) := by
  rw [init_ok h]
  exact pathParts_locString (t.isName_realpath _)

end

/-- A protocol object that can send files. -/
def plainTransport : Transport segmentMatcher String Unit where
  responseStream := none
  responseFile := some fun _ _ _ w => (.ok (), w)
  sendStr _ _ w := (.ok (), w)
  sendBytes _ _ w := (.ok (), w)
  sseEvent _ := none
  buffer _ := none
  sseDone := "sse done"
  streamDone status := "stream done " ++ toString status
  httpException status detail := toString status ++ " " ++ detail

/-- A system with the limit of 255 bytes on names. -/
def linux : OsCalls where
  guessType _ := none
  statError path :=
    if ∃ name ∈ pathNames path, 255 < name.utf8ByteSize then some "[Errno 36] File name too long"
    else none
  openError _ := "[Errno 2] No such file or directory"

/-- A directory with an index file, and a file next to the directory. -/
def site (index : FileNode (List UInt8)) : Dict (List String) (FileNode (List UInt8)) :=
  ⟨[([], .dir), (["srv"], .dir), (["secret"], .file [115]), (["srv", "index.html"], index)],
    (by decide : ([[], ["srv"], ["secret"], ["srv", "index.html"]] : List (List String)).Nodup)⟩

def plainSite : FileTree (List UInt8) :=
  .ofDict (site (.file [104])) (by decide) (by decide) (by decide)

/-- The index file is a link to the file next to the directory. -/
def leakingSite : FileTree (List UInt8) :=
  .ofDict (site (.link "/secret")) (by decide) (by decide) (by decide)

end OxyRoute
