import OxyRoute.Native.Cookies
import OxyRoute.Native.CorsParity
import OxyRoute.Native.ShortCircuit

/-!
# Double-submit tokens

`CSRFConfig` and `apply_csrf` of `oxyroute/csrf.py`: a request with an unsafe method has to repeat
the secret of a cookie in a header. The check is a request middleware.

## Main definitions

- `CsrfConfig`, `CsrfConfig.guard` — the configuration and its check
- `IsCsrfMiddleware` — a middleware that `apply_csrf` adds
- `cookieHeader`, `storedPair` — what a client sends, and what it keeps of a `Set-Cookie` line

## Main results

- `csrf_refused` — what happens to a request that the check refuses
- `csrf_round_trip` — a token that was set and is sent back is accepted
-/

namespace OxyRoute

open Routine

variable {m : Matchit} {Ref W : Type}

/-- `CSRFConfig`. -/
structure CsrfConfig where
  cookieName : String := "oxyroute_csrf"
  headerName : String := "X-CSRF-Token"
  unsafeMethods : List String := ["POST", "PUT", "PATCH", "DELETE"]
  secure : Bool := false

/-- `a or b`, for strings. -/
def orText (a b : String) : String := if a = "" then b else a

namespace CsrfConfig

variable (case : StrCase) (cfg : CsrfConfig)

/-- `set_cookie_value`. -/
def setCookieValue (token : String) : String :=
  cfg.cookieName ++ "=" ++ token ++ "; Path=/; SameSite=Lax" ++
    if cfg.secure then "; Secure" else ""

/-- `_read_header`, for a scope with these header values. -/
def readHeader (header : String → String) (name : String) : String :=
  strStrip (orText (header name) (header (case.lower name)))

/-- `_read_cookie`, for a scope with these header values. -/
def readCookieOf (header : String → String) (name : String) : String :=
  readCookie (orText (header "cookie") (header "Cookie")) name

/-- `guard`, for a scope with this method and these header values: why the request is refused, if
it is. -/
def guard (method : String) (header : String → String) : Option String :=
  if case.upper method ∉ cfg.unsafeMethods then none
  else
    let a := readCookieOf header cfg.cookieName
    let b := readHeader case header cfg.headerName
    if a = "" ∨ b = "" then some "missing"
    -- `hmac.compare_digest` of strings of one length
    else if a.length ≠ b.length ∨ utf8 a ≠ utf8 b then some "mismatch"
    else none

end CsrfConfig

/-- `_csrf_403`. -/
def csrf403 (detail : String) : PyVal Ref :=
  .response (.dict [(.text "error", .text "csrf"), (.text "detail", .text detail)]) (.int 403)
    (.dict [(.text "content-type", .text "application/json; charset=utf-8")]) .none

/-- The middleware that `apply_csrf` adds, called for a request with these header values: it
answers with 403 or goes on with `chain`. -/
structure IsCsrfMiddleware (rt : Runtime m Ref W) (req : HttpRequest Ref) (case : StrCase)
    (cfg : CsrfConfig) (header : String → String) (chain : Option Ref) (f : Ref) : Prop where
  refused : ∀ detail, cfg.guard case req.method header = some detail → ∀ w,
    rt.call f [.object req.scope, .object req.protocol] .empty w = (.ok (csrf403 detail), w)
  passed : cfg.guard case req.method header = none → ∀ w,
    rt.call f [.object req.scope, .object req.protocol] .empty w =
      match chain with
      | none => (.ok .none, w)
      | some g => rt.call g [.object req.scope, .object req.protocol] .empty w

section

variable {rt : Runtime m Ref W} {req : HttpRequest Ref} {snap : FrozenState m Ref}

-- ════════════════════════════════════════════════════════════════════════
-- Requests with middlewares
-- ════════════════════════════════════════════════════════════════════════

/-- Only middlewares are called. -/
theorem MiddlewareCalls.calls {fs : List Ref} {w w' : World m Ref W}
    {l : List (RequestEvent Ref)} {verdict : MiddlewareVerdict Ref}
    (h : MiddlewareCalls rt req fs w l verdict w') : ∀ e ∈ l, ∃ g out, e = .middleware g out := by
  induction h with
  | passed => exact fun e he => absurd he List.not_mem_nil
  | next _ _ _ ih => exact List.forall_mem_cons.mpr ⟨⟨_, _, rfl⟩, ih⟩
  | answered _ _ => exact List.forall_mem_singleton.mpr ⟨_, _, rfl⟩
  | raised _ => exact List.forall_mem_singleton.mpr ⟨_, _, rfl⟩

/-- A request passes if every middleware returns `None`. -/
theorem MiddlewareCalls.isNone_of_passed {fs : List Ref} {w w' : World m Ref W}
    {l : List (RequestEvent Ref)} {verdict : MiddlewareVerdict Ref}
    (h : MiddlewareCalls rt req fs w l verdict w') (hpassed : verdict = .passed) :
    ∀ f ∈ fs, ∃ v w₁ w₂, rt.call f [.object req.scope, .object req.protocol] .empty w₁ =
      (.ok v, w₂) ∧ v.isNone = true := by
  induction h with
  | passed => exact fun f hf => absurd hf List.not_mem_nil
  | next hcall hnone _ ih =>
    exact List.forall_mem_cons.mpr ⟨⟨_, _, _, hcall, hnone⟩, ih hpassed⟩
  | answered _ _ => cases hpassed
  | raised _ => cases hpassed

/-- The calls of a list that starts with middlewares that the request passes. -/
theorem MiddlewareCalls.append {fs gs : List Ref} {w w' w'' : World m Ref W}
    {l l' : List (RequestEvent Ref)} {verdict verdict' : MiddlewareVerdict Ref}
    (h : MiddlewareCalls rt req fs w l verdict w') (hpassed : verdict = .passed)
    (h' : MiddlewareCalls rt req gs w' l' verdict' w'') :
    MiddlewareCalls rt req (fs ++ gs) w (l ++ l') verdict' w'' := by
  induction h with
  | passed => exact h'
  | next hcall hnone _ ih => exact .next hcall hnone (ih hpassed h')
  | answered _ _ => cases hpassed
  | raised _ => cases hpassed

/-- What is called is determined by the world. -/
theorem MiddlewareCalls.unique {fs : List Ref} {w w₁ w₂ : World m Ref W}
    {l₁ l₂ : List (RequestEvent Ref)} {verdict₁ verdict₂ : MiddlewareVerdict Ref}
    (h₁ : MiddlewareCalls rt req fs w l₁ verdict₁ w₁)
    (h₂ : MiddlewareCalls rt req fs w l₂ verdict₂ w₂) :
    l₁ = l₂ ∧ verdict₁ = verdict₂ ∧ w₁ = w₂ := by
  induction h₁ generalizing l₂ with
  | passed =>
    cases h₂
    exact ⟨rfl, rfl, rfl⟩
  | next hcall hnone _ ih =>
    cases h₂ with
    | next hcall' _ hrest =>
      rw [hcall] at hcall'
      cases hcall'
      obtain ⟨rfl, rfl, rfl⟩ := ih hrest
      exact ⟨rfl, rfl, rfl⟩
    | answered hcall' hsome =>
      rw [hcall] at hcall'
      cases hcall'
      rw [hnone] at hsome
      cases hsome
    | raised hcall' =>
      rw [hcall] at hcall'
      cases hcall'
  | answered hcall hsome =>
    cases h₂ with
    | next hcall' hnone _ =>
      rw [hcall] at hcall'
      cases hcall'
      rw [hnone] at hsome
      cases hsome
    | answered hcall' _ =>
      rw [hcall] at hcall'
      cases hcall'
      exact ⟨rfl, rfl, rfl⟩
    | raised hcall' =>
      rw [hcall] at hcall'
      cases hcall'
  | raised hcall =>
    cases h₂ with
    | next hcall' _ _ =>
      rw [hcall] at hcall'
      cases hcall'
    | answered hcall' _ =>
      rw [hcall] at hcall'
      cases hcall'
    | raised hcall' =>
      rw [hcall] at hcall'
      cases hcall'
      exact ⟨rfl, rfl, rfl⟩

/-- With middlewares a request is answered before them, or goes through them. -/
theorem dispatch_middleware_cases {w : World m Ref W}
    (hne : w.app.hotSnapshot.requestMiddleware ≠ []) :
    (∀ e ∈ ((dispatch rt req).run w).log, IsAnswer e) ∨
      MiddlewareLaw rt req w.app.hotSnapshot (rt.others w) ((dispatch rt req).run w) := by
  rcases answerPreflight_cases rt req w.app.hotSnapshot with hpre | ⟨-, hfinish⟩
  · rw [dispatch_of_middleware rfl hne hpre]
    cases hopen : servesOpenapi req w.app.hotSnapshot with
    | false => exact .inr (runRsgi_middleware hopen hpre _)
    | true =>
      obtain ⟨call, hlog⟩ := serveOpenapi_log rt req (rt.others w) fun _ => do
        answerPreflight rt req w.app.hotSnapshot
        runMiddleware rt req w.app.hotSnapshot w.app.hotSnapshot.requestMiddleware
        routeAndServe rt req w.app.hotSnapshot
      rw [runRsgi, if_pos hopen, hlog]
      exact .inl (List.forall_mem_singleton.mpr trivial)
  · have hlogs : Logs IsAnswer (answerPreflight rt req w.app.hotSnapshot) := by
      have hpreflight : Logs IsAnswer (preflight rt req w.app.hotSnapshot) := by
        unfold preflight
        split
        · split
          · exact logs_pure _
          · refine (logs_ofExcept _).bind fun headers => ?_
            dsimp only
            split
            · exact logs_pure _
            · exact logs_pure _
        · exact logs_pure _
      refine (orRaise_logs hpreflight).bind fun answer => ?_
      split
      · exact logs_pure _
      · exact finish_logs (sendWithHeaders_logs rt req _ _ _)
      · exact rejectPlain_logs rt req _ _
    rcases hr : (answerPreflight rt req w.app.hotSnapshot).run w with ⟨r, w₁, l₁⟩
    cases r with
    | ok a => exact absurd hr (hfinish w a w₁ l₁)
    | error e =>
      have hsync : (tryRsgiSyncShortCircuit rt req w.app.hotSnapshot).run w =
          ⟨.error e, w₁, l₁⟩ := bind_run_error hr _
      have hrun : (dispatch rt req).run w = ⟨.error e, w₁, l₁⟩ :=
        (bind_run_ok (get_run w) _).trans (congrArg (Ending.after []) (bind_run_error hsync _))
      have hl := hlogs w
      rw [hr] at hl
      rw [hrun]
      exact .inl hl

/-- **Refused requests.** A request that the check of `apply_csrf` refuses, wherever the middleware
stands and whatever the others do, reaches no route, limiter, body, dependency or handler: all that
is called are request middlewares, and exception handlers for their errors. If it passes the
middlewares before, it is answered with the 403 response of the check. -/
theorem csrf_refused {case : StrCase} {cfg : CsrfConfig} {header : String → String}
    {chain : Option Ref} {f : Ref} {w : World m Ref W} {detail : String}
    (hmem : f ∈ w.app.hotSnapshot.requestMiddleware)
    (hcsrf : IsCsrfMiddleware rt req case cfg header chain f)
    (hrefused : cfg.guard case req.method header = some detail) :
    (∀ e ∈ ((dispatch rt req).run w).log, IsAnswer e ∨ ∃ g out, e = .middleware g out) ∧
    ∀ before after calls w', w.app.hotSnapshot.requestMiddleware = before ++ f :: after →
      NotPreflight rt req w.app.hotSnapshot → servesOpenapi req w.app.hotSnapshot = false →
      MiddlewareCalls rt req before (rt.others w) calls .passed w' →
      (dispatch rt req).run w =
        ((respondOrFail rt req w.app.hotSnapshot (csrf403 detail)).run w').after
          (calls ++ [.middleware f (.ok (csrf403 detail))]) := by
  have hne : w.app.hotSnapshot.requestMiddleware ≠ [] := List.ne_nil_of_mem hmem
  constructor
  · rcases dispatch_middleware_cases hne with hanswers | ⟨calls, verdict, w', hcalls, -, hanswer⟩
    · exact fun e he => .inl (hanswers e he)
    · have hverdict : verdict ≠ .passed := by
        intro hpassed
        obtain ⟨v, w₁, w₂, hcall, hnone⟩ := hcalls.isNone_of_passed hpassed f hmem
        rw [hcsrf.refused detail hrefused] at hcall
        cases hcall
        cases hnone
      obtain ⟨answer, hlog, hanswers⟩ := hanswer hverdict
      rw [hlog]
      intro e he
      rcases List.mem_append.mp he with he | he
      · exact .inr (hcalls.calls e he)
      · exact .inl (hanswers e he)
  · intro before after calls w' hsplit hpre hopen hbefore
    have hself : MiddlewareCalls rt req (f :: after) w' [.middleware f (.ok (csrf403 detail))]
        (.answered (csrf403 detail)) w' := .answered (hcsrf.refused detail hrefused w') rfl
    have hall := hbefore.append rfl hself
    rw [dispatch_of_middleware rfl hne hpre]
    obtain ⟨calls', verdict, w'', hcalls, hrun, -⟩ := runRsgi_middleware hopen hpre (rt.others w)
    rw [hsplit] at hcalls
    obtain ⟨rfl, rfl, rfl⟩ := hcalls.unique hall
    exact hrun

end

-- ════════════════════════════════════════════════════════════════════════
-- Tokens
-- ════════════════════════════════════════════════════════════════════════

/-- A text that can be the value of a cookie as it is: no white space, control character, double
quote or semicolon. -/
def IsCookieWord (s : String) : Prop :=
  ∀ c ∈ s.toList, Text.isWhitespace c = false ∧ (c ≠ '"' ∧ Text.isControl c = false) ∧ c ≠ ';'

instance (s : String) : Decidable (IsCookieWord s) :=
  decidable_of_iff (s.toList.all (fun c => !Text.isWhitespace c &&
    (c != '"' && !Text.isControl c) && c != ';') = true)
    (by simp [IsCookieWord, and_assoc])

/-- The name of a cookie is such a word, is not empty and has no equals sign. -/
structure NamesCookie (s : String) : Prop where
  word : IsCookieWord s
  nonempty : s ≠ ""
  no_equals : '=' ∉ s.toList

/-- A cookie as it may stand in a header. -/
structure IsCookie (p : String × String) : Prop where
  name : PlainChars p.1.toList
  value : PlainChars p.2.toList
  name_separators : ';' ∉ p.1.toList ∧ '=' ∉ p.1.toList
  value_separators : ';' ∉ p.2.toList

/-- A cookie in a header. -/
def cookieText (p : String × String) : List Char := p.1.toList ++ '=' :: p.2.toList

/-- The `Cookie` header for these cookies. -/
def cookieHeader : List (String × String) → List Char
  | [] => []
  | [p] => cookieText p
  | p :: ps => cookieText p ++ ';' :: ' ' :: cookieHeader ps

/-- What a client keeps of a `Set-Cookie` line: the name and the value before the attributes. -/
def storedPair (line : String) : Option (String × String) :=
  (Text.splitOnce (· == '=') (line.toList.takeWhile (· ≠ ';'))).map fun q =>
    (String.ofList (Text.trimChars q.1), String.ofList (Text.trimChars q.2))

/-- A cookie as it is read. -/
def trimmedPair (p : String × String) : String × String := (Text.trim p.1, Text.trim p.2)

theorem trimChars_of_no_space {s : List Char} (h : ∀ c ∈ s, Text.isWhitespace c = false) :
    Text.trimChars s = s := by
  have hkeep (l : List Char) : l.dropWhile (fun _ => false) = l := by
    cases l with
    | nil => rfl
    | cons c l => rfl
  have hstrip : Text.strip Text.isWhitespace s = s := by
    rw [Text.strip_congr (q := fun _ => false) h, Text.strip, hkeep, List.rdropWhile, hkeep,
      List.reverse_reverse]
  exact hstrip

theorem IsCookieWord.trim_eq {s : String} (h : IsCookieWord s) : Text.trim s = s := by
  rw [Text.trim, trimChars_of_no_space fun c hc => (h c hc).1, String.ofList_toList]

theorem NamesCookie.isCookie {name value : String} (hname : NamesCookie name)
    (hvalue : IsCookieWord value) : IsCookie (name, value) where
  name c hc := (hname.word c hc).2.1
  value c hc := (hvalue c hc).2.1
  name_separators := ⟨fun h => (hname.word _ h).2.2 rfl, hname.no_equals⟩
  value_separators h := (hvalue _ h).2.2 rfl

theorem IsCookie.cookieText_plain {p : String × String} (h : IsCookie p) :
    PlainChars (cookieText p) := by
  intro c hc
  rcases List.mem_append.mp hc with hc | hc
  · exact h.name c hc
  · rcases List.mem_cons.mp hc with rfl | hc
    · exact ⟨by decide, by decide⟩
    · exact h.value c hc

theorem IsCookie.no_semicolon {p : String × String} (h : IsCookie p) : ';' ∉ cookieText p := by
  intro hc
  rcases List.mem_append.mp hc with hc | hc
  · exact h.name_separators.1 hc
  · rcases List.mem_cons.mp hc with hc | hc
    · exact absurd hc (by decide)
    · exact h.value_separators hc

/-- A cookie is read from its text, with a blank before it or not. -/
theorem cookiePair_cookieText {p : String × String} (h : IsCookie p) {blanks : List Char}
    (hblanks : blanks = [] ∨ blanks = [' ']) :
    cookiePair (blanks ++ cookieText p) = some (trimmedPair p) := by
  have htext : cookiePair (cookieText p) = some (trimmedPair p) := by
    have hname : ∀ c ∈ p.1.toList, (c == '=') = false := fun c hc =>
      beq_eq_false_iff_ne.mpr fun heq => h.name_separators.2 (heq ▸ hc)
    rw [cookiePair, cookieText, Text.splitOnce_append hname rfl, Option.map_some,
      PlainChars.trimCookieDquotes_eq h.value]
    rfl
  rcases hblanks with rfl | rfl
  · exact htext
  · have htrim : Text.trimChars (' ' :: cookieText p) = Text.trimChars (cookieText p) :=
      Text.strip_cons (p := Text.isWhitespace) rfl _
    rw [List.singleton_append, ← cookiePair_trimChars, htrim, cookiePair_trimChars, htext]

/-- The cookies of a header are read in order. -/
theorem filterMap_cookieHeader {ps : List (String × String)} (h : ∀ p ∈ ps, IsCookie p)
    {blanks : List Char} (hblanks : blanks = [] ∨ blanks = [' ']) (hne : ps ≠ []) :
    ((blanks ++ cookieHeader ps).splitOn ';').filterMap cookiePair = ps.map trimmedPair := by
  have hblank : ';' ∉ blanks := by
    rcases hblanks with rfl | rfl
    · exact List.not_mem_nil
    · decide
  induction ps generalizing blanks with
  | nil => exact absurd rfl hne
  | cons p ps ih =>
    obtain ⟨hp, hps⟩ := List.forall_mem_cons.mp h
    have hpart : ';' ∉ blanks ++ cookieText p := fun hmem =>
      (List.mem_append.mp hmem).elim hblank hp.no_semicolon
    cases ps with
    | nil =>
      rw [cookieHeader, List.splitOn_eq_singleton hpart, List.filterMap_cons_some
        (cookiePair_cookieText hp hblanks)]
      rfl
    | cons q ps =>
      have hrest := ih hps (.inr rfl) (List.cons_ne_nil q ps) (by decide)
      rw [cookieHeader, ← List.append_assoc, List.splitOn_append_cons_self_of_not_mem hpart,
        List.filterMap_cons_some (cookiePair_cookieText hp hblanks)]
      · exact congrArg (trimmedPair p :: ·) hrest
      · exact List.cons_ne_nil q ps

theorem cookieHeader_plain {ps : List (String × String)} (h : ∀ p ∈ ps, IsCookie p) :
    PlainChars (cookieHeader ps) := by
  induction ps with
  | nil => exact fun c hc => absurd hc List.not_mem_nil
  | cons p ps ih =>
    obtain ⟨hp, hps⟩ := List.forall_mem_cons.mp h
    cases ps with
    | nil => exact hp.cookieText_plain
    | cons q ps =>
      intro c hc
      rcases List.mem_append.mp hc with hc | hc
      · exact hp.cookieText_plain c hc
      · rcases List.mem_cons.mp hc with rfl | hc
        · exact ⟨by decide, by decide⟩
        · rcases List.mem_cons.mp hc with rfl | hc
          · exact ⟨by decide, by decide⟩
          · exact ih hps c hc

/-- The first cookie of the name is read. -/
theorem readCookie_cookieHeader {name token : String} {before after : List (String × String)}
    (hname : NamesCookie name) (htoken : IsCookieWord token)
    (hothers : ∀ p ∈ before ++ after, IsCookie p) (hfirst : ∀ p ∈ before, Text.trim p.1 ≠ name) :
    readCookie (String.ofList (cookieHeader (before ++ (name, token) :: after))) name = token := by
  have hall : ∀ p ∈ before ++ (name, token) :: after, IsCookie p := by
    intro p hp
    rcases List.mem_append.mp hp with hp | hp
    · exact hothers p (List.mem_append_left after hp)
    · rcases List.mem_cons.mp hp with rfl | hp
      · exact hname.isCookie htoken
      · exact hothers p (List.mem_append_right before hp)
  have hplain : PlainChars
      (String.ofList (cookieHeader (before ++ (name, token) :: after))).toList := by
    rw [String.toList_ofList]
    exact cookieHeader_plain hall
  have hpairs := filterMap_cookieHeader hall (.inl rfl)
    (List.append_ne_nil_of_right_ne_nil before (List.cons_ne_nil (name, token) after))
  rw [List.nil_append] at hpairs
  have hbefore : (before.map trimmedPair).filter (fun p => p.1 = name) = [] := by
    rw [List.filter_eq_nil_iff]
    intro p hp
    obtain ⟨q, hq, rfl⟩ := List.mem_map.mp hp
    simp only [decide_eq_true_eq]
    exact hfirst q hq
  have hself : trimmedPair (name, token) = (name, token) :=
    Prod.ext hname.word.trim_eq htoken.trim_eq
  rw [readCookie_eq hplain hname.nonempty, cookieValues, valuesIn, String.toList_ofList, hpairs,
    List.map_append, List.filter_append, hbefore, List.nil_append, List.map_cons, hself,
    List.filter_cons_of_pos (by simp)]
  rfl

/-- What is kept of the line of `set_cookie_value` is the token under the name. -/
theorem storedPair_setCookieValue {cfg : CsrfConfig} {token : String}
    (hname : NamesCookie cfg.cookieName) (htoken : IsCookieWord token) :
    storedPair (cfg.setCookieValue token) = some (cfg.cookieName, token) := by
  have hcookie := hname.isCookie htoken
  obtain ⟨rest, hline⟩ : ∃ rest, (cfg.setCookieValue token).toList =
      cookieText (cfg.cookieName, token) ++ ';' :: rest := by
    refine ⟨" Path=/; SameSite=Lax".toList ++ (if cfg.secure then "; Secure" else "").toList, ?_⟩
    simp [CsrfConfig.setCookieValue, cookieText]
  have htake : (cookieText (cfg.cookieName, token) ++ ';' :: rest).takeWhile (· ≠ ';') =
      cookieText (cfg.cookieName, token) := by
    rw [List.takeWhile_append_of_pos]
    · simp
    · intro c hc
      simpa using fun heq : c = ';' => hcookie.no_semicolon (heq ▸ hc)
  have heq : ∀ c ∈ cfg.cookieName.toList, (c == '=') = false := fun c hc =>
    beq_eq_false_iff_ne.mpr fun heq => hname.no_equals (heq ▸ hc)
  rw [storedPair, hline, htake, cookieText, Text.splitOnce_append heq rfl, Option.map_some]
  exact congrArg some (Prod.ext hname.word.trim_eq htoken.trim_eq)

/-- **Tokens.** The name of the cookie and the token have no white space, control character, double
quote or semicolon, and the name no equals sign. A client that was sent the `Set-Cookie` line for
the token and returns its cookies, this one before any other of the name, passes the check with an unsafe method exactly if the header
has the token; with a safe one it always passes. -/
theorem csrf_round_trip (case : StrCase) (cfg : CsrfConfig) (token : String)
    {before after : List (String × String)} {header : String → String} (method : String)
    (hname : NamesCookie cfg.cookieName) (htoken : IsCookieWord token)
    (hissued : token ≠ "") (hothers : ∀ p ∈ before ++ after, IsCookie p)
    (hfirst : ∀ p ∈ before, Text.trim p.1 ≠ cfg.cookieName)
    (hcookies : ∀ p, storedPair (cfg.setCookieValue token) = some p →
      orText (header "cookie") (header "Cookie") =
        String.ofList (cookieHeader (before ++ p :: after))) :
    cfg.guard case method header = none ↔
      (case.upper method ∈ cfg.unsafeMethods →
        CsrfConfig.readHeader case header cfg.headerName = token) := by
  have hread : CsrfConfig.readCookieOf header cfg.cookieName = token := by
    rw [CsrfConfig.readCookieOf, hcookies _ (storedPair_setCookieValue hname htoken)]
    exact readCookie_cookieHeader hname htoken hothers hfirst
  unfold CsrfConfig.guard
  by_cases hmethod : case.upper method ∈ cfg.unsafeMethods
  · rw [if_neg (not_not.mpr hmethod)]
    simp only [hread, hissued, hmethod, true_implies, false_or]
    generalize CsrfConfig.readHeader case header cfg.headerName = b
    constructor
    · intro h
      split at h
      · cases h
      · split at h
        · cases h
        · next hmatch => exact (utf8_injective (not_not.mp (not_or.mp hmatch).2)).symm
    · rintro rfl
      rw [if_neg hissued, if_neg (by simp)]
  · rw [if_pos hmethod]
    exact iff_of_true rfl fun h => absurd h hmethod

/-- The cookies and the header of a client that was given the token `ab=`. -/
def mirroredHeaders (name : String) : String :=
  if name = "cookie" then "theme=dark; oxyroute_csrf=ab="
  else if name = "X-CSRF-Token" then "ab=" else ""

theorem mirrored_token_passes :
    (⟨"oxyroute_csrf", "X-CSRF-Token", ["POST"], false⟩ : CsrfConfig).guard asciiCase "POST"
      mirroredHeaders = none := by
  have hname : NamesCookie "oxyroute_csrf" := ⟨by decide, by decide, by decide⟩
  have htoken : IsCookieWord "ab=" := by decide
  have hothers : ∀ p ∈ [("theme", "dark")] ++ [], IsCookie p :=
    List.forall_mem_singleton.mpr ⟨by decide, by decide, by decide, by decide⟩
  refine (csrf_round_trip asciiCase _ "ab=" "POST" hname htoken (by decide) hothers
    (by decide) fun p hp => ?_).mpr fun _ => by decide
  rw [storedPair_setCookieValue hname htoken] at hp
  cases hp
  decide

/-- A runtime whose function `csrf` refuses requests without a token. -/
def csrfRuntime : Runtime segmentMatcher String Unit :=
  { plainRuntime segmentMatcher with
    call := fun f _ _ w =>
      if f = "csrf" then (.ok (csrf403 "missing"), w) else (.ok (.text f), w) }

/-- An application with the check. -/
def csrfApp : World segmentMatcher String Unit :=
  ⟨(AppState.new true).configure (.addMiddleware "csrf" true false), ()⟩

/-- A request without cookies and headers is refused. -/
theorem tokenless_request_refused :
    (dispatch csrfRuntime (plainRequest "POST" "/")).run csrfApp =
      ((respondOrFail csrfRuntime (plainRequest "POST" "/") csrfApp.app.hotSnapshot
        (csrf403 "missing")).run (csrfRuntime.others csrfApp)).after
        ([] ++ [.middleware "csrf" (.ok (csrf403 "missing"))]) := by
  have hguard : ({} : CsrfConfig).guard asciiCase "POST" (fun _ => "") = some "missing" := by decide
  have hcsrf : IsCsrfMiddleware csrfRuntime (plainRequest "POST" "/") asciiCase {} (fun _ => "")
      none "csrf" := by
    refine ⟨fun detail hd w => ?_, fun h => absurd (hguard.symm.trans h) (by decide)⟩
    have hdetail : some "missing" = some detail := hguard.symm.trans hd
    cases hdetail
    rfl
  exact (csrf_refused (by decide) hcsrf hguard).2 [] [] [] _ rfl
    (fun h => absurd h (by decide)) rfl .passed

end OxyRoute
