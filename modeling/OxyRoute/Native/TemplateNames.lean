import OxyRoute.Native.Kwargs
import OxyRoute.Native.OpenApi

/-!
# Names in route templates

The matcher reads a parameter name up to the next slash, the scanners of the templates read it up
to the first character that is not in a word. They agree on a template exactly if its names are
words, and the document lists each name once if no two are the same.

## Main definitions

- `templateParams` — the parameters of a template, as the matcher reads them
- `ReadBy` — the matcher takes a template and reads its names so
- `ScannersAgree` — what the scanners find is what the matcher reports

## Main results

- `piecesFrom_eq_matcherPieces` — on words the scanners read what the matcher reads
- `scannersAgree_iff` — which templates the scanners read as the matcher does
-/

namespace OxyRoute

variable {m : Matchit} {Ref W : Type}

-- ════════════════════════════════════════════════════════════════════════
-- The reading of the matcher
-- ════════════════════════════════════════════════════════════════════════

/-- The marks of a parameter. -/
def isMark (c : Char) : Bool := c == ':' || c == '*'

/-- A template in pieces, where a name is everything up to the next slash. -/
def matcherPieces : Option (Char × List Char) → List Char → List Piece
  | none, [] => []
  | some cur, [] => [.param cur.1 cur.2]
  | none, c :: s =>
    if isMark c then matcherPieces (some (c, [])) s else .lit c :: matcherPieces none s
  | some cur, c :: s =>
    if c = '/' then .param cur.1 cur.2 :: .lit c :: matcherPieces none s
    else matcherPieces (some (cur.1, cur.2 ++ [c])) s

/-- The parameters among pieces, with their marks. -/
def markedNames (pieces : List Piece) : List (Char × List Char) :=
  pieces.filterMap fun p => match p with
    | .lit _ => none
    | .param mark name => some (mark, name)

/-- The parameters of a template with their marks, in order. -/
def templateParams (t : String) : List (Char × String) :=
  (markedNames (matcherPieces none t.toList)).map fun p => (p.1, String.ofList p.2)

/-- The parameter names of a template, in order. -/
def parameterNames (t : String) : List String := (templateParams t).map Prod.snd

/-- The names of the catch-all parameters of a template. -/
def catchAllNames (t : String) : List String :=
  ((templateParams t).filter fun p => p.1 == '*').map Prod.snd

/-- A template as text, with its parameters in braces. -/
def bracedTemplate (t : String) : String :=
  String.ofList ((matcherPieces none t.toList).flatMap fun p => match p with
    | .lit c => [c]
    | .param _ name => '{' :: name ++ ['}'])

/-- The matcher takes the template, and reports a value for each of its names, in order. -/
structure ReadBy (m : Matchit) (t : String) : Prop where
  accepted : m.refusal t = none
  names : ∀ {path params}, m.captures t path = some params →
    params.map Prod.fst = parameterNames t

/-- A parameter name is a word: not empty, of letters, digits and underscores. -/
def IsWord (name : List Char) : Prop := name ≠ [] ∧ ∀ c ∈ name, isNameChar c = true

/-- A captured value that belongs to a catch-all parameter. -/
def CatchAll (t : String) (params : PathParams) (e : String × String) : Prop :=
  ('*', e) ∈ ((templateParams t).map Prod.fst).zip params

/-- What the matcher captures for a catch-all is passed to the handler as text, whether the
request is served in the short circuit or not, unless a later source has its name. -/
def CatchAllsAsText (rt : Runtime m Ref W) (t : String) : Prop :=
  ∀ {req : HttpRequest Ref} {entry : RouteEntry Ref} {w : World m Ref W} {path : String}
    {params : PathParams} {kwargs : Dict String (PyVal Ref)}, AllPrepared w.app →
    entry.extra.pathTemplate = t → m.captures t path = some params →
    Called rt req entry w params kwargs →
    ∀ e, CatchAll t params e → (∀ body, ¬ SetLater rt req entry body e.1) →
      kwargs.get? e.1 = some (.text e.2)

/-- The scanners find the names the matcher reports, the document lists each of them once and
puts it in braces, and a catch-all is passed as text. -/
structure ScannersAgree (rt : Runtime m Ref W) (t : String) : Prop where
  wildcard : ∀ name, name ∈ wildcardParamNames t ↔ name ∈ catchAllNames t
  all : ∀ name, name ∈ allPathParamNames t ↔ name ∈ parameterNames t
  listed : (openapiPathAndParams t).2 = (parameterNames t).map pathParameter
  once : (openapiPathAndParams t).2.Nodup
  path : (openapiPathAndParams t).1 = bracedTemplate t
  asText : CatchAllsAsText rt t

-- ════════════════════════════════════════════════════════════════════════
-- One name
-- ════════════════════════════════════════════════════════════════════════

theorem paramNames_eq (pieces : List Piece) :
    paramNames pieces = (markedNames pieces).map fun e => String.ofList e.2 := by
  induction pieces with
  | nil => rfl
  | cons p pieces ih =>
    cases p with
    | lit c => exact ih
    | param mark name => exact congrArg (String.ofList name :: ·) ih

/-- The matcher reads a name up to the next slash. -/
theorem matcherPieces_some (cur : Char × List Char) (s : List Char) :
    matcherPieces (some cur) s = .param cur.1 (cur.2 ++ s.takeWhile (· ≠ '/')) ::
      matcherPieces none (s.dropWhile (· ≠ '/')) := by
  induction s generalizing cur with
  | nil => simp [matcherPieces]
  | cons c s ih =>
    by_cases hc : c = '/'
    · subst hc
      simp [matcherPieces, show isMark '/' = false from rfl]
    · rw [matcherPieces, if_neg hc, ih]
      simp [hc]

/-- The scanners read a name up to the next character that is not in a word. -/
theorem piecesFrom_some (p : Char → Bool) (cur : Char × List Char) (s : List Char) :
    piecesFrom p (some cur) s = namePiece (cur.1, cur.2 ++ s.takeWhile isNameChar) ++
      piecesFrom p none (s.dropWhile isNameChar) := by
  induction s generalizing cur with
  | nil => simp [piecesFrom]
  | cons c s ih =>
    by_cases hc : isNameChar c = true
    · rw [piecesFrom, if_pos hc, ih]
      simp [hc]
    · rw [piecesFrom, if_neg hc]
      simp [hc, piecesFrom]

/-- A word before a slash is read alike. -/
theorem takeWhile_isNameChar {s : List Char}
    (h : ∀ c ∈ s.takeWhile (· ≠ '/'), isNameChar c = true) :
    s.takeWhile isNameChar = s.takeWhile (· ≠ '/') ∧
      s.dropWhile isNameChar = s.dropWhile (· ≠ '/') := by
  induction s with
  | nil => exact ⟨rfl, rfl⟩
  | cons c s ih =>
    by_cases hc : c = '/'
    · subst hc
      exact ⟨rfl, rfl⟩
    · have htake : (c :: s).takeWhile (· ≠ '/') = c :: s.takeWhile (· ≠ '/') := by simp [hc]
      have hdrop : (c :: s).dropWhile (· ≠ '/') = s.dropWhile (· ≠ '/') := by simp [hc]
      rw [htake] at h ⊢
      rw [hdrop]
      have hname := h c List.mem_cons_self
      obtain ⟨ht, hd⟩ := ih fun d hd => h d (List.mem_cons_of_mem _ hd)
      rw [List.takeWhile_cons_of_pos hname, List.dropWhile_cons_of_pos hname, ht, hd]
      exact ⟨rfl, rfl⟩

-- ════════════════════════════════════════════════════════════════════════
-- Templates of words
-- ════════════════════════════════════════════════════════════════════════

/-- A piece as a scanner for some of the marks sees it: a parameter with another mark is text. -/
def unmark (p : Char → Bool) : Piece → List Piece
  | .lit c => [.lit c]
  | .param mark name => if p mark then [.param mark name] else .lit mark :: name.map .lit

/-- Text without a mark is left as it is. -/
theorem piecesFrom_append {p : Char → Bool} {w s : List Char} (hw : ∀ c ∈ w, p c = false) :
    piecesFrom p none (w ++ s) = w.map .lit ++ piecesFrom p none s := by
  induction w with
  | nil => rfl
  | cons c w ih =>
    have hc := hw c List.mem_cons_self
    rw [List.cons_append, piecesFrom, if_neg (by simp [hc]),
      ih fun d hd => hw d (List.mem_cons_of_mem _ hd)]
    rfl

theorem not_isMark_of_isNameChar {c : Char} (h : isNameChar c = true) : isMark c = false := by
  rw [isMark, Bool.or_eq_false_iff, beq_eq_false_iff_ne, beq_eq_false_iff_ne]
  constructor
  · rintro rfl
    cases h
  · rintro rfl
    cases h

/-- On words the scanners read what the matcher reads. The induction is on the length, since a
name is read in one step. -/
theorem piecesFrom_eq_matcherPieces {p : Char → Bool} (hp : ∀ c, p c = true → isMark c = true)
    (s : List Char) (hwords : ∀ e ∈ markedNames (matcherPieces none s), IsWord e.2) :
    piecesFrom p none s = (matcherPieces none s).flatMap (unmark p) := by
  induction hn : s.length using Nat.strong_induction_on generalizing s with
  | _ n ih =>
  cases s with
  | nil => rfl
  | cons c s =>
    by_cases hm : isMark c = true
    · rw [matcherPieces, if_pos hm, matcherPieces_some] at hwords ⊢
      have hname : IsWord (s.takeWhile (· ≠ '/')) := hwords _ List.mem_cons_self
      obtain ⟨htake, hdrop⟩ := takeWhile_isNameChar hname.2
      have hlen : (s.dropWhile (· ≠ '/')).length < n := by
        have := (List.dropWhile_suffix (l := s) (· ≠ '/')).length_le
        simp only [List.length_cons] at hn
        omega
      have hrest := ih _ hlen _ (fun e he => hwords e (List.mem_cons_of_mem _ he)) rfl
      rw [List.flatMap_cons, ← hrest, List.nil_append, unmark]
      by_cases hpc : p c = true
      · rw [piecesFrom, if_pos hpc, piecesFrom_some, if_pos hpc, List.nil_append, htake, hdrop,
          namePiece, if_neg hname.1]
      · have hsplit : s = s.takeWhile (· ≠ '/') ++ s.dropWhile (· ≠ '/') :=
          List.takeWhile_append_dropWhile.symm
        rw [piecesFrom, if_neg hpc, if_neg hpc]
        nth_rewrite 1 [hsplit]
        rw [piecesFrom_append]
        · rfl
        · intro d hd
          have hd' := not_isMark_of_isNameChar (hname.2 d hd)
          by_contra hpd
          rw [hp d (by simpa using hpd)] at hd'
          cases hd'
    · have hpc : ¬ p c = true := fun h => hm (hp c h)
      rw [matcherPieces, if_neg hm] at hwords ⊢
      rw [piecesFrom, if_neg hpc, ih s.length (by simp [← hn]) s hwords rfl]
      rfl

theorem markedNames_append (l l' : List Piece) :
    markedNames (l ++ l') = markedNames l ++ markedNames l' :=
  List.filterMap_append

theorem markedNames_lits (w : List Char) : markedNames (w.map .lit) = [] := by
  induction w with
  | nil => rfl
  | cons c w ih => exact ih

/-- Of the parameters a scanner sees those with its marks. -/
theorem markedNames_unmark (p : Char → Bool) (pieces : List Piece) :
    markedNames (pieces.flatMap (unmark p)) = (markedNames pieces).filter fun e => p e.1 := by
  induction pieces with
  | nil => rfl
  | cons piece pieces ih =>
    rw [List.flatMap_cons, markedNames_append, ih]
    cases piece with
    | lit c => rfl
    | param mark name =>
      have hcons : markedNames (.param mark name :: pieces) =
          (mark, name) :: markedNames pieces := rfl
      rw [hcons, List.filter_cons, unmark]
      by_cases hp : p mark = true
      · rw [if_pos hp, if_pos hp]
        rfl
      · rw [if_neg hp, if_neg hp]
        show markedNames (name.map .lit) ++ _ = _
        rw [markedNames_lits, List.nil_append]

/-- All parameters the matcher reads have a mark. -/
theorem isMark_of_mem {s : List Char} {cur : Option (Char × List Char)}
    (hcur : ∀ c ∈ cur, isMark c.1 = true) {e : Char × List Char}
    (he : e ∈ markedNames (matcherPieces cur s)) : isMark e.1 = true := by
  induction s generalizing cur with
  | nil =>
    cases cur with
    | none => cases he
    | some c =>
      rw [List.mem_singleton.mp he]
      exact hcur c rfl
  | cons d s ih =>
    cases cur with
    | none =>
      rw [matcherPieces] at he
      by_cases hd : isMark d = true
      · rw [if_pos hd] at he
        refine ih ?_ he
        intro c hc
        rw [← Option.some.inj hc]
        exact hd
      · rw [if_neg hd] at he
        exact ih (by simp) he
    | some c =>
      rw [matcherPieces] at he
      by_cases hd : d = '/'
      · rw [if_pos hd] at he
        rcases List.mem_cons.mp he with rfl | he
        · exact hcur c rfl
        · exact ih (by simp) he
      · rw [if_neg hd] at he
        refine ih ?_ he
        intro c' hc'
        rw [← Option.some.inj hc']
        exact hcur c rfl

theorem unmark_isMark {s : List Char} :
    (matcherPieces none s).flatMap (unmark isMark) = matcherPieces none s := by
  have hkeep : ∀ p ∈ matcherPieces none s, unmark isMark p = [p] := by
    intro p hp
    cases p with
    | lit c => rfl
    | param mark name =>
      have hin : (mark, name) ∈ markedNames (matcherPieces none s) :=
        List.mem_filterMap.mpr ⟨_, hp, rfl⟩
      rw [unmark, if_pos (isMark_of_mem (by simp) hin)]
  rw [List.flatMap_congr hkeep]
  exact List.flatMap_singleton' _

-- ════════════════════════════════════════════════════════════════════════
-- What the scanners find
-- ════════════════════════════════════════════════════════════════════════

theorem mem_namePiece {cur : Char × List Char} (hcur : ∀ c ∈ cur.2, isNameChar c = true)
    {e : Char × List Char} (he : e ∈ markedNames (namePiece cur)) : IsWord e.2 := by
  rw [namePiece] at he
  split at he
  · cases he
  · next hne =>
    rw [List.mem_singleton.mp he]
    exact ⟨hne, hcur⟩

/-- The scanners find words only. -/
theorem isWord_of_mem {p : Char → Bool} {s : List Char} {cur : Option (Char × List Char)}
    (hcur : ∀ e ∈ cur, ∀ c ∈ e.2, isNameChar c = true) {e : Char × List Char}
    (he : e ∈ markedNames (piecesFrom p cur s)) : IsWord e.2 := by
  induction s generalizing cur with
  | nil =>
    cases cur with
    | none => cases he
    | some cur => exact mem_namePiece (hcur cur rfl) he
  | cons d s ih =>
    have hrest (he' : e ∈ markedNames (if p d then piecesFrom p (some (d, [])) s
        else .lit d :: piecesFrom p none s)) : IsWord e.2 := by
      split at he'
      · exact ih (by simp) he'
      · exact ih (by simp) he'
    cases cur with
    | none => exact hrest he
    | some cur =>
      rw [piecesFrom] at he
      by_cases hd : isNameChar d = true
      · rw [if_pos hd] at he
        refine ih ?_ he
        intro e' he' c hc
        rw [← Option.some.inj he'] at hc
        rcases List.mem_append.mp hc with hc | hc
        · exact hcur cur rfl c hc
        · rw [List.mem_singleton.mp hc]
          exact hd
      · rw [if_neg hd, markedNames_append] at he
        rcases List.mem_append.mp he with he | he
        · exact mem_namePiece (hcur cur rfl) he
        · exact hrest he

theorem mem_allPathParamNames {t name : String} : name ∈ allPathParamNames t ↔
    ∃ e ∈ markedNames (piecesFrom isMark none t.toList), String.ofList e.2 = name := by
  rw [allPathParamNames, List.mem_dedup, paramNames_eq, List.mem_map]
  rfl

theorem mem_wildcardParamNames {t name : String} : name ∈ wildcardParamNames t ↔
    ∃ e ∈ markedNames (piecesFrom (· == '*') none t.toList), String.ofList e.2 = name := by
  rw [wildcardParamNames, List.mem_dedup, paramNames_eq, List.mem_map]
  rfl

theorem parameterNames_eq (t : String) : parameterNames t =
    (markedNames (matcherPieces none t.toList)).map fun e => String.ofList e.2 := by
  simp [parameterNames, templateParams]

theorem mem_catchAllNames {t name : String} : name ∈ catchAllNames t ↔
    ∃ e ∈ markedNames (matcherPieces none t.toList), e.1 = '*' ∧ String.ofList e.2 = name := by
  simp [catchAllNames, templateParams]

theorem pathParameter_name (name : String) :
    (pathParameter name).pointer ["name"] = some (.str name) := by
  rw [pathParameter, Json.ofMembers, Json.pointer]
  dsimp only [List.foldl_cons, List.foldl_nil]
  rw [Json.get?_insert_of_ne (by decide), Json.get?_insert_of_ne (by decide),
    Json.get?_insert_of_ne (by decide), Json.get?_insert_self]
  rfl

theorem pathParameter_injective : Function.Injective pathParameter := by
  intro a b h
  have hname := congrArg (Json.pointer ["name"]) h
  rw [pathParameter_name, pathParameter_name] at hname
  exact Json.str.inj (Option.some.inj hname)

/-- All names of a template are words. -/
def WordNames (t : String) : Prop := ∀ name ∈ parameterNames t, IsWord name.toList

theorem wordNames_iff {t : String} :
    WordNames t ↔ ∀ e ∈ markedNames (matcherPieces none t.toList), IsWord e.2 := by
  rw [WordNames, parameterNames_eq, List.forall_mem_map]
  simp only [String.toList_ofList]

theorem openapi_names {t : String} (h : WordNames t) :
    openapiPathAndParams t = (bracedTemplate t, (parameterNames t).map pathParameter) := by
  have hpieces : templatePieces (fun c => c == ':' || c == '*') t = matcherPieces none t.toList :=
    (piecesFrom_eq_matcherPieces (fun _ hc => hc) _ (wordNames_iff.mp h)).trans unmark_isMark
  rw [openapiPathAndParams, hpieces, paramNames_eq, parameterNames_eq]
  rfl

theorem wildcardParamNames_of_words {t : String} (h : WordNames t) (name : String) :
    name ∈ wildcardParamNames t ↔ name ∈ catchAllNames t := by
  have hstar : ∀ c, (c == '*') = true → isMark c = true := by
    intro c hc
    rw [isMark, hc, Bool.or_true]
  rw [mem_wildcardParamNames, mem_catchAllNames,
    piecesFrom_eq_matcherPieces hstar _ (wordNames_iff.mp h), markedNames_unmark]
  simp [and_assoc]

theorem allPathParamNames_of_words {t : String} (h : WordNames t) (name : String) :
    name ∈ allPathParamNames t ↔ name ∈ parameterNames t := by
  rw [mem_allPathParamNames, parameterNames_eq, List.mem_map,
    piecesFrom_eq_matcherPieces (fun _ hc => hc) _ (wordNames_iff.mp h), unmark_isMark]

/-- The scanners find all names only if the names are words. -/
theorem wordNames_of_allPathParamNames {t : String}
    (h : ∀ name, name ∈ allPathParamNames t ↔ name ∈ parameterNames t) : WordNames t := by
  intro name hname
  obtain ⟨e, he, rfl⟩ := mem_allPathParamNames.mp ((h name).mpr hname)
  rw [String.toList_ofList]
  exact isWord_of_mem (by simp) he

-- ════════════════════════════════════════════════════════════════════════
-- The value of a catch-all
-- ════════════════════════════════════════════════════════════════════════

theorem mem_of_mem_zip {l : List (Char × String)} {params : PathParams}
    (h : params.map Prod.fst = l.map Prod.snd) {c : Char} {e : String × String}
    (he : (c, e) ∈ (l.map Prod.fst).zip params) : (c, e.1) ∈ l := by
  induction l generalizing params with
  | nil => cases he
  | cons p l ih =>
    cases params with
    | nil => cases he
    | cons e' params =>
      obtain ⟨hhead, htail⟩ := List.cons.inj h
      rcases List.mem_cons.mp he with heq | he
      · obtain ⟨rfl, rfl⟩ := Prod.mk.inj heq
        rw [hhead]
        exact List.mem_cons_self
      · exact List.mem_cons_of_mem _ (ih htail he)

/-- The captured value of a catch-all is filed under a name of a catch-all. -/
theorem CatchAll.mem_catchAllNames {t path : String} {params : PathParams} {e : String × String}
    (hread : ReadBy m t) (hparams : m.captures t path = some params) (he : CatchAll t params e) :
    e.1 ∈ catchAllNames t := by
  have hin := mem_of_mem_zip (hread.names hparams) he
  exact List.mem_map.mpr ⟨_, List.mem_filter.mpr ⟨hin, rfl⟩, rfl⟩

/-- Where the scanner for catch-alls finds all of them, they are passed as text. -/
theorem catchAllsAsText {rt : Runtime m Ref W} {t : String} (hread : ReadBy m t)
    (hwild : ∀ name, name ∈ wildcardParamNames t ↔ name ∈ catchAllNames t)
    (hnodup : (parameterNames t).Nodup) : CatchAllsAsText rt t := by
  intro req entry w path params kwargs hprepared htemplate hparams hcalled e he hname
  obtain ⟨⟨idx, -, hentry⟩, -⟩ := id hcalled
  obtain ⟨h, a, opId, hp⟩ := hprepared.2 entry (List.mem_of_getElem? hentry)
  have hkeep := preparedFrom hp
  have hwildcard : e.1 ∈ entry.extra.wildcardParams := by
    rw [hkeep.wildcardParams, ← hkeep.pathTemplate, htemplate, hwild]
    exact he.mem_catchAllNames hread hparams
  have hparamsNodup : (params.map Prod.fst).Nodup := by
    rw [hread.names hparams]
    exact hnodup
  rw [hcalled.get?_of_name hprepared hparamsNodup (List.of_mem_zip he).2 hname, pathParamValue,
    if_pos hwildcard]

/-- **Route templates.** For every template the matcher takes, the scanners find the names the
matcher reports, the document lists each of them once and replaces it by its name in braces, and
the handler gets the value of a catch-all as text, exactly if every name is a word and no two
names are the same. -/
theorem scannersAgree_iff {rt : Runtime m Ref W} {t : String} (hread : ReadBy m t) :
    ScannersAgree rt t ↔ WordNames t ∧ (parameterNames t).Nodup := by
  constructor
  · intro h
    refine ⟨wordNames_of_allPathParamNames h.all, ?_⟩
    have hlisted := h.once
    rw [h.listed] at hlisted
    exact hlisted.of_map _
  · rintro ⟨hwords, hnodup⟩
    have hopenapi := openapi_names hwords
    have hwild := wildcardParamNames_of_words hwords
    exact {
      wildcard := hwild
      all := allPathParamNames_of_words hwords
      listed := congrArg Prod.snd hopenapi
      once := by
        rw [hopenapi]
        exact hnodup.map pathParameter_injective
      path := congrArg Prod.fst hopenapi
      asText := catchAllsAsText hread hwild hnodup }

/-- A template of whole segments is read alike by the matcher for them. -/
theorem readBy_segmentMatcher {t : String} (haccepted : segmentMatcher.refusal t = none)
    (hnames : (Segment.ofTemplate t).filterMap Segment.name = parameterNames t) :
    ReadBy segmentMatcher t where
  accepted := haccepted
  names h := (Segment.captures_names h).trans hnames

/-- A catch-all below a directory, called `rest`. -/
theorem rest_scannersAgree :
    ScannersAgree (plainRuntime segmentMatcher) "/files/*rest" ↔
      WordNames "/files/*rest" ∧ (parameterNames "/files/*rest").Nodup :=
  scannersAgree_iff (readBy_segmentMatcher (by decide) (by decide))

/-- A catch-all called `rest-path` is taken for one called `rest`: its value is coerced. -/
theorem hyphen_scanners_disagree :
    ReadBy segmentMatcher "/files/*rest-path" ∧
      segmentMatcher.captures "/files/*rest-path" "/files/42" = some [("rest-path", "42")] ∧
      wildcardParamNames "/files/*rest-path" = ["rest"] ∧
      (pathParamValue (wildcardParamNames "/files/*rest-path") ("rest-path", "42") :
        PyVal String) = .int 42 ∧
      ¬ ScannersAgree (plainRuntime segmentMatcher) "/files/*rest-path" := by
  have hread : ReadBy segmentMatcher "/files/*rest-path" :=
    readBy_segmentMatcher (by decide) (by decide)
  refine ⟨hread, by decide, by decide, rfl, fun h => ?_⟩
  have hwords := wordNames_of_allPathParamNames h.all
  have hname : IsWord "rest-path".toList := hwords _ (by decide)
  exact absurd (hname.2 '-' (by decide)) (by decide)

end OxyRoute
