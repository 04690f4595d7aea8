import OxyRoute.Native.CorsObject
import OxyRoute.Native.Serve

/-!
# Cookies

A `Cookie` header is read in three places: for the token of a route, for the double-submit check
against forged requests, and for handlers. All three read the same pairs of names and values. The
first two take the first pair of a name, the last one the last, and the first does not look for
another pair where the value is empty.

## Main definitions

- `cookiePairs`, `cookieValues` — the pairs of a header, and the values of a name
- `firstCookie` — the first value that is not empty
- `readCookie`, `requestCookies` — `_read_cookie` and `Request.cookies`

## Main results

- `findsCookie_iff` — when a token cookie is found
- `readersAgree_iff` — when the three readers agree
-/

namespace OxyRoute

-- ════════════════════════════════════════════════════════════════════════
-- The readers
-- ════════════════════════════════════════════════════════════════════════

/-- What `([^=]+)=(.*)` matches at the start of a part. -/
def cookiePairMatch (part : List Char) : Option (List Char × List Char) :=
  match Text.splitOnce (· == '=') part with
  | none => none
  | some (k, v) => if k = [] then none else some (k, v.takeWhile (· ≠ '\n'))

/-- The loop of `_read_cookie` over the parts of the header. -/
def readCookieIn (name : String) : List (List Char) → String
  | [] => ""
  | part :: parts =>
    match cookiePairMatch (pyStrip part) with
    | none => readCookieIn name parts
    | some (k, v) =>
      if String.ofList (pyStrip k) = name then
        -- `.strip().strip('"')`
        String.ofList (Text.strip (· == '"') (pyStrip v))
      else readCookieIn name parts

/-- `_read_cookie`, for the text of the header. -/
def readCookie (raw name : String) : String := readCookieIn name (raw.toList.splitOn ';')

/-- `Request.cookies`, for the text of the header. -/
def requestCookies (raw : String) : Dict String String :=
  if raw = "" then .empty
  else .ofList ((raw.toList.splitOn ';').filterMap fun chunk =>
    (Text.splitOnce (· == '=') chunk).map fun q =>
      (String.ofList (pyStrip q.1), String.ofList (pyStrip q.2)))

-- ════════════════════════════════════════════════════════════════════════
-- Pairs
-- ════════════════════════════════════════════════════════════════════════

/-- The name and the value of a part of the header: the name is trimmed, the value is trimmed and
loses one enclosing pair of double quotes. -/
def cookiePair (part : List Char) : Option (String × String) :=
  (Text.splitOnce (· == '=') part).map fun q =>
    (String.ofList (Text.trimChars q.1), String.ofList (trimCookieDquotes q.2))

/-- The values of the pairs with a name, in order. -/
def valuesIn (name : String) (parts : List (List Char)) : List String :=
  ((parts.filterMap cookiePair).filter fun p => p.1 = name).map Prod.snd

/-- The values of the pairs of a header with a name, in order. -/
def cookieValues (raw name : String) : List String := valuesIn name (raw.toList.splitOn ';')

/-- The value of the first pair with a name whose value is not empty. -/
def firstCookie (raw name : String) : Option String :=
  (cookieValues raw name).find? fun v => v ≠ ""

/-- A value that is not empty. -/
def nonEmpty (v : String) : Option String := if v = "" then none else some v

/-- The token cookie is the first one that is not empty, also where the request has no bearer
token. -/
structure FindsCookie (raw name : String) : Prop where
  value : extractCookieValue raw name = firstCookie raw name
  token : ∀ auth, extractBearer auth = none →
    requestToken (some name) auth (some raw) = firstCookie raw name

/-- The three readers find the same value for a name, or none that is not empty. -/
structure ReadersAgree (raw name : String) : Prop where
  csrf : extractCookieValue raw name = nonEmpty (readCookie raw name)
  request : extractCookieValue raw name = ((requestCookies raw).get? name).bind nonEmpty

theorem valuesIn_of_none {part : List Char} (h : cookiePair part = none) (name : String)
    (parts : List (List Char)) : valuesIn name (part :: parts) = valuesIn name parts := by
  rw [valuesIn, List.filterMap_cons_none h, valuesIn]

theorem valuesIn_of_some {part : List Char} {p : String × String} (h : cookiePair part = some p)
    (name : String) (parts : List (List Char)) : valuesIn name (part :: parts) =
      if p.1 = name then p.2 :: valuesIn name parts else valuesIn name parts := by
  rw [valuesIn, List.filterMap_cons_some h, List.filter_cons, valuesIn]
  by_cases hname : p.1 = name
  · rw [if_pos hname, if_pos (by simpa using hname)]
    rfl
  · rw [if_neg hname, if_neg (by simpa using hname)]

-- ════════════════════════════════════════════════════════════════════════
-- The token cookie
-- ════════════════════════════════════════════════════════════════════════

theorem trimCookieDquotes_trimChars (s : List Char) :
    trimCookieDquotes (Text.trimChars s) = trimCookieDquotes s := by
  have htrim : Text.trimChars (Text.trimChars s) = Text.trimChars s := Text.strip_strip s
  rw [trimCookieDquotes, trimCookieDquotes, htrim]

theorem isWhitespace_of_equals (c : Char) (h : (c == '=') = true) :
    Text.isWhitespace c = false := by
  rw [beq_iff_eq.mp h]
  rfl

/-- Trimming a part does not change its pair. -/
theorem cookiePair_trimChars (part : List Char) :
    cookiePair (Text.trimChars part) = cookiePair part := by
  have hsplit := congrArg (Option.map fun q : List Char × List Char =>
    (String.ofList q.1, String.ofList (trimCookieDquotes q.2)))
      (Text.splitOnce_strip isWhitespace_of_equals part)
  simp only [Option.map_map, Function.comp_def] at hsplit
  have hquotes (s : List Char) : trimCookieDquotes (Text.strip Text.isWhitespace s) =
      trimCookieDquotes s := trimCookieDquotes_trimChars s
  simp only [hquotes] at hsplit
  exact hsplit

theorem extractCookieValue_eq (raw name : String) :
    extractCookieValue raw name = (cookieValues raw name).head?.bind nonEmpty := by
  rw [extractCookieValue, cookieValues]
  induction raw.toList.splitOn ';' with
  | nil => rfl
  | cons part parts ih =>
    have hpair := cookiePair_trimChars part
    rw [cookieValueIn]
    rw [cookiePair] at hpair
    cases hs : Text.splitOnce (· == '=') (Text.trimChars part) with
    | none =>
      rw [hs] at hpair
      rw [valuesIn_of_none hpair.symm]
      exact ih
    | some q =>
      rw [hs] at hpair
      rw [valuesIn_of_some hpair.symm]
      dsimp only
      rw [trimCookieDquotes_trimChars]
      by_cases hname : String.ofList (Text.trimChars q.1) = name
      · rw [if_neg (not_not_intro hname), if_pos hname, List.head?_cons, Option.bind_some, nonEmpty]
        simp only [String.ofList_eq_empty_iff]
      · rw [if_pos hname, if_neg hname]
        exact ih

theorem nonEmpty_eq_filter (v : Option String) : v.bind nonEmpty = v.filter (· ≠ "") := by
  cases v with
  | none => rfl
  | some v =>
    rw [Option.bind_some, nonEmpty, Option.filter_some]
    by_cases hv : v = ""
    · simp [hv]
    · simp [hv]

theorem extractCookieValue_ne_empty (raw name : String) :
    (extractCookieValue raw name).filter (· ≠ "") = extractCookieValue raw name := by
  rw [extractCookieValue_eq, nonEmpty_eq_filter, Option.filter_filter]
  simp

/-- Without a bearer token the request has the cookie as its token. -/
theorem requestToken_of_cookie {auth : Option String} (h : extractBearer auth = none)
    (raw name : String) :
    requestToken (some name) auth (some raw) = extractCookieValue raw name := by
  rw [requestToken, h]
  exact extractCookieValue_ne_empty raw name

/-- **Token cookie.** For every header and every name, the token cookie is the value of the first
pair with the name whose value is not empty, exactly if the first pair with the name has such a
value or none has. -/
theorem findsCookie_iff (raw name : String) :
    FindsCookie raw name ↔
      (∀ v ∈ (cookieValues raw name).head?, v ≠ "") ∨ ∀ v ∈ cookieValues raw name, v = "" := by
  have hvalue : extractCookieValue raw name = firstCookie raw name ↔
      (∀ v ∈ (cookieValues raw name).head?, v ≠ "") ∨ ∀ v ∈ cookieValues raw name, v = "" := by
    rw [extractCookieValue_eq, firstCookie]
    cases cookieValues raw name with
    | nil => simp
    | cons v vs =>
      rw [List.head?_cons, Option.bind_some, nonEmpty, List.find?_cons]
      by_cases hv : v = ""
      · subst hv
        rw [if_pos rfl, eq_comm]
        simp
      · simp [hv]
  constructor
  · exact fun h => hvalue.mp h.value
  · intro h
    exact ⟨hvalue.mpr h, fun auth hauth => (requestToken_of_cookie hauth raw name).trans
      (hvalue.mpr h)⟩

/-- An empty cookie hides a token of the same name. -/
theorem empty_cookie_hides_token :
    cookieValues "t=; t=abc" "t" = ["", "abc"] ∧ extractCookieValue "t=; t=abc" "t" = none ∧
      requestToken (some "t") none (some "t=; t=abc") = none ∧ ¬ FindsCookie "t=; t=abc" "t" := by
  have hnone : extractCookieValue "t=; t=abc" "t" = none := by decide
  refine ⟨by decide, hnone, by decide, fun h => ?_⟩
  have hvalue := h.value
  rw [hnone] at hvalue
  exact absurd hvalue (by decide)

-- ════════════════════════════════════════════════════════════════════════
-- The readers in Python
-- ════════════════════════════════════════════════════════════════════════

/-- Text without double quotes and control characters. -/
def PlainChars (s : List Char) : Prop := ∀ c ∈ s, c ≠ '"' ∧ Text.isControl c = false

instance (s : List Char) : Decidable (PlainChars s) :=
  decidable_of_iff (s.all (fun c => c != '"' && !Text.isControl c) = true) (by simp [PlainChars])

theorem PlainChars.subset {s t : List Char} (ht : PlainChars t) (h : s ⊆ t) : PlainChars s :=
  fun c hc => ht c (h hc)

theorem pyIsSpace_of_not_isControl {c : Char} (h : Text.isControl c = false) :
    pyIsSpace c = Text.isWhitespace c := by
  have hno : ¬ isInfoSeparator c = true := by
    unfold isInfoSeparator
    unfold Text.isControl at h
    simp only [Bool.or_eq_false_iff, decide_eq_false_iff_not, Bool.and_eq_true,
      decide_eq_true_eq] at h ⊢
    omega
  rw [Bool.eq_iff_iff, pyIsSpace_iff, or_iff_left hno]

/-- On plain text Python and Rust trim the same. -/
theorem PlainChars.pyStrip_eq {s : List Char} (h : PlainChars s) : pyStrip s = Text.trimChars s :=
  Text.strip_congr fun c hc => pyIsSpace_of_not_isControl (h c hc).2

theorem PlainChars.trimChars {s : List Char} (h : PlainChars s) : PlainChars (Text.trimChars s) :=
  h.subset fun _ hc =>
    (List.dropWhile_sublist _).subset ((List.rdropWhile_prefix _ _).sublist.subset hc)

/-- Plain text has no quotes to take off. -/
theorem PlainChars.trimCookieDquotes_eq {s : List Char} (h : PlainChars s) :
    trimCookieDquotes s = Text.trimChars s := by
  rw [trimCookieDquotes]
  refine if_neg fun ⟨_, hhead, _⟩ => ?_
  exact (h.trimChars _ (List.mem_of_mem_head? hhead)).1 rfl

theorem PlainChars.strip_dquotes {s : List Char} (h : PlainChars s) :
    Text.strip (· == '"') s = s := by
  have hnone : ∀ c ∈ s, (c == '"') = false := fun c hc => beq_eq_false_iff_ne.mpr (h c hc).1
  have hkeep (l : List Char) : l.dropWhile (fun _ => false) = l := by
    cases l with
    | nil => rfl
    | cons c l => rfl
  rw [Text.strip_congr (q := fun _ => false) hnone, Text.strip, hkeep, List.rdropWhile, hkeep,
    List.reverse_reverse]

/-- The parts of a plain text between separators are plain. -/
theorem PlainChars.of_splitOnce {p : Char → Bool} {s : List Char} {q : List Char × List Char}
    (h : PlainChars s) (hs : Text.splitOnce p s = some q) : PlainChars q.1 ∧ PlainChars q.2 := by
  obtain ⟨c, -, rfl⟩ := Text.eq_of_splitOnce hs
  exact ⟨h.subset (List.subset_append_left _ _),
    h.subset fun d hd => List.mem_append_right _ (List.mem_cons_of_mem c hd)⟩

/-- The pair of a plain part. -/
theorem cookiePair_of_plain {part : List Char} (h : PlainChars part) : cookiePair part =
    (Text.splitOnce (· == '=') part).map fun q =>
      (String.ofList (pyStrip q.1), String.ofList (pyStrip q.2)) := by
  rw [cookiePair]
  cases hs : Text.splitOnce (· == '=') part with
  | none => rfl
  | some q =>
    obtain ⟨hname, hvalue⟩ := h.of_splitOnce hs
    rw [Option.map_some, Option.map_some, hname.pyStrip_eq, hvalue.pyStrip_eq,
      hvalue.trimCookieDquotes_eq]

theorem readCookieIn_eq {name : String} (hname : name ≠ "") {parts : List (List Char)}
    (h : ∀ part ∈ parts, PlainChars part) :
    readCookieIn name parts = (valuesIn name parts).head?.getD "" := by
  induction parts with
  | nil => rfl
  | cons part parts ih =>
    have hrest := ih fun part' hpart' => h part' (List.mem_cons_of_mem part hpart')
    have hplain := h part List.mem_cons_self
    have hpair := cookiePair_of_plain hplain.trimChars
    rw [cookiePair_trimChars] at hpair
    rw [readCookieIn, hplain.pyStrip_eq, cookiePairMatch]
    cases hs : Text.splitOnce (· == '=') (Text.trimChars part) with
    | none =>
      rw [hs] at hpair
      rw [valuesIn_of_none hpair]
      exact hrest
    | some q =>
      rw [hs] at hpair
      rw [valuesIn_of_some hpair]
      dsimp only
      by_cases hnil : q.1 = []
      · have hother : ¬ String.ofList (pyStrip q.1) = name := by
          rw [hnil]
          exact fun hempty => hname hempty.symm
        rw [if_pos hnil, if_neg hother]
        exact hrest
      · have hvalue := (hplain.trimChars.of_splitOnce hs).2
        have hline : q.2.takeWhile (· ≠ '\n') = q.2 := by
          rw [List.takeWhile_eq_self_iff]
          intro c hc
          have hcontrol := (hvalue c hc).2
          rw [decide_eq_true_iff]
          rintro rfl
          cases hcontrol
        have hstripped : PlainChars (pyStrip q.2) := by
          rw [hvalue.pyStrip_eq]
          exact hvalue.trimChars
        rw [if_neg hnil, hline]
        dsimp only
        rw [hstripped.strip_dquotes]
        by_cases hkey : String.ofList (pyStrip q.1) = name
        · rw [if_pos hkey, if_pos hkey]
          rfl
        · rw [if_neg hkey, if_neg hkey]
          exact hrest

theorem get?_ofList_getLast? (l : List (String × String)) (name : String) :
    (Dict.ofList l).get? name = ((l.filter fun p => p.1 = name).map Prod.snd).getLast? := by
  rw [Dict.ofList, Dict.get?_setAll, List.getLast?_map, ← List.head?_reverse, ← List.filter_reverse,
    List.head?_filter]
  simp

theorem requestCookies_get? {raw : String} (h : PlainChars raw.toList) (name : String) :
    (requestCookies raw).get? name = (cookieValues raw name).getLast? := by
  have hparts : ∀ part ∈ raw.toList.splitOn ';', cookiePair part =
      (Text.splitOnce (· == '=') part).map fun q =>
        (String.ofList (pyStrip q.1), String.ofList (pyStrip q.2)) := fun part hpart =>
    cookiePair_of_plain (h.subset fun _ hc => Text.mem_of_mem_splitOnP hpart hc)
  rw [cookieValues, valuesIn, List.filterMap_congr hparts, ← get?_ofList_getLast?, requestCookies]
  split
  · next hempty =>
    rw [hempty]
    rfl
  · rfl

theorem readCookie_eq {raw name : String} (h : PlainChars raw.toList) (hname : name ≠ "") :
    readCookie raw name = (cookieValues raw name).head?.getD "" :=
  readCookieIn_eq hname fun _ hpart => h.subset fun _ hc => Text.mem_of_mem_splitOnP hpart hc

theorem nonEmpty_getD (v : Option String) : nonEmpty (v.getD "") = v.bind nonEmpty := by
  cases v with
  | none => rfl
  | some v => rfl

/-- A character of a token. -/
def isTokenChar (c : Char) : Bool :=
  c.isAlphanum || "!#$%&'*+-.^_`|~".toList.contains c

/-- The name of a cookie: a token. -/
def IsCookieName (name : String) : Prop := name ≠ "" ∧ name.toList.all isTokenChar = true

/-- **Cookie readers.** For every header without double quotes and control characters and every
name, the reader for tokens, the one for the check against forged requests and the one for
handlers find the same value or none that is not empty, exactly if the header has no pair with the
name or the first and the last one have the same value. -/
theorem readersAgree_iff {raw name : String} (hplain : PlainChars raw.toList)
    (hname : IsCookieName name) :
    ReadersAgree raw name ↔ (cookieValues raw name).head? = (cookieValues raw name).getLast? := by
  have hcsrf : extractCookieValue raw name = nonEmpty (readCookie raw name) := by
    rw [extractCookieValue_eq, readCookie_eq hplain hname.1, nonEmpty_getD]
  have hrequest : extractCookieValue raw name = ((requestCookies raw).get? name).bind nonEmpty ↔
      (cookieValues raw name).head? = (cookieValues raw name).getLast? := by
    rw [extractCookieValue_eq, requestCookies_get? hplain]
    cases hvalues : cookieValues raw name with
    | nil => simp
    | cons v vs =>
      obtain ⟨u, hu⟩ : ∃ u, (v :: vs).getLast? = some u :=
        ⟨_, List.getLast?_eq_some_getLast (by simp)⟩
      rw [hu, List.head?_cons, Option.bind_some, Option.bind_some, nonEmpty, nonEmpty]
      by_cases hv : v = ""
      · by_cases hu : u = ""
        · simp [hv, hu]
        · simp [hv, hu, eq_comm]
      · by_cases hu : u = ""
        · simp [hv, hu]
        · simp [hv, hu]
  exact ⟨fun h => hrequest.mp h.request, fun h => ⟨hcsrf, hrequest.mpr h⟩⟩

/-- One session cookie. -/
theorem session_readersAgree :
    ReadersAgree "theme=dark; sid=7" "sid" ↔
      (cookieValues "theme=dark; sid=7" "sid").head? =
        (cookieValues "theme=dark; sid=7" "sid").getLast? :=
  readersAgree_iff (by decide) ⟨by decide, by decide⟩

/-- Of two cookies with one name the guards see the first and the handler sees the second. -/
theorem second_cookie_seen :
    extractCookieValue "a=1; a=2" "a" = some "1" ∧ readCookie "a=1; a=2" "a" = "1" ∧
      (requestCookies "a=1; a=2").get? "a" = some "2" ∧ ¬ ReadersAgree "a=1; a=2" "a" := by
  have hfirst : extractCookieValue "a=1; a=2" "a" = some "1" := by decide
  have hlast : (requestCookies "a=1; a=2").get? "a" = some "2" := by decide
  refine ⟨hfirst, by decide, hlast, fun h => ?_⟩
  have hsame := h.request
  rw [hfirst, hlast] at hsame
  exact absurd hsame (by decide)

end OxyRoute
