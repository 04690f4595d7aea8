import OxyRoute.Native.JsonFallback

/-!
# Dicts that handlers return

A dict is data and is answered by its JSON text, unless it has a status and a body. Such a dict is
a response: with headers or cookies one that the structured decoder reads, and without them one
with a text, if the status is a plausible one.

## Main definitions

- `JsonValue` — values that have a JSON text
- `AnsweredAsData` — a dict whose answer is its JSON text
- `plausibleStatus` — the status of a response
- `SafeHeaders`, `SafeCookies` — what the structured decoder takes

## Main results

- `dict_responses` — how a dict is answered
-/

namespace OxyRoute

variable {Ref : Type}

/-- A value with a JSON text. -/
def JsonValue (py : Inspection Ref) (v : PyVal Ref) : Prop := ∃ b, py.jsonBytes v = .ok b

/-- The dict is answered with its JSON text, and where it has none, by the error of the
serializer. -/
structure AnsweredAsData (py : Inspection Ref) (d : List (PyVal Ref × PyVal Ref)) : Prop where
  json : ∀ b, py.jsonBytes (.dict d) = .ok b → mapHandlerReturn py (.dict d) =
    .ok (.simple 200 (.owned b) "application/json; charset=utf-8")
  refused : ∀ e, py.jsonBytes (.dict d) = .error e → mapHandlerReturn py (.dict d) = .error e

/-- An integer in the range of statuses. -/
def statusOfInt (n : ℤ) : Option ℕ := if 100 ≤ n ∧ n ≤ 599 then some n.toNat else none

/-- An integer that is the status of a response. An object is the integer its `__index__` gives,
as a member of an `IntEnum` is. -/
def plausibleStatus (py : Inspection Ref) : PyVal Ref → Option ℕ
  | .int n => statusOfInt n
  | .object r => (py.index r).toOption.bind statusOfInt
  | _ => none

/-- A text without line break. -/
def SafeText (v : PyVal Ref) : Prop := ∃ s, v = .text s ∧ containsCrlf s = false

/-- A text without control character. -/
def SafeLine (v : PyVal Ref) : Prop := ∃ s, v = .text s ∧ isUnsafeCookieLine s = false

/-- No headers, or a dict of texts without line breaks. -/
def SafeHeaders (headers : Option (PyVal Ref)) : Prop :=
  ∀ v, headers = some v → v ≠ .none →
    ∃ entries, v = .dict entries ∧ ∀ e ∈ entries, SafeText e.1 ∧ SafeText e.2

/-- No cookies, or a list of texts without control characters. -/
def SafeCookies (cookies : Option (PyVal Ref)) : Prop :=
  ∀ v, cookies = some v → v ≠ .none → ∃ items, v = .list items ∧ ∀ item ∈ items, SafeLine item

variable {py : Inspection Ref}

-- ════════════════════════════════════════════════════════════════════════
-- Statuses
-- ════════════════════════════════════════════════════════════════════════

theorem statusOfInt_eq_some_iff {i : ℤ} {n : ℕ} :
    statusOfInt i = some n ↔ u16OfInt i = (.ok n : Except (PyErr Ref) ℕ) ∧ 100 ≤ n ∧ n ≤ 599 := by
  unfold statusOfInt u16OfInt
  constructor
  · intro h
    split at h
    · next hrange =>
      obtain rfl := Option.some.inj h
      rw [if_neg (by omega), if_pos (by omega)]
      exact ⟨rfl, by omega, by omega⟩
    · cases h
  · rintro ⟨h, hrange⟩
    split at h
    · cases h
    · split at h
      · cases h
        exact if_pos (by omega)
      · cases h

/-- A plausible status is the number that is taken for the status. -/
theorem plausibleStatus_eq_some_iff {st : PyVal Ref} {n : ℕ} :
    plausibleStatus py st = some n ↔ extractU16 py st = .ok n ∧ 100 ≤ n ∧ n ≤ 599 := by
  cases st with
  | int i => exact statusOfInt_eq_some_iff
  | object r =>
    show (py.index r).toOption.bind statusOfInt = some n ↔ (py.index r >>= u16OfInt) = .ok n ∧ _
    cases py.index r with
    | error e =>
      constructor
      · rintro ⟨⟩
      · rintro ⟨⟨⟩, -⟩
    | ok i => exact statusOfInt_eq_some_iff
  | bool b =>
    constructor
    · rintro ⟨⟩
    · rintro ⟨h, hrange⟩
      have hb : b.toNat = n := Except.ok.inj h
      have hle := Bool.toNat_le b
      omega
  | none | float | str | bytes | list | tuple | dict | response =>
    constructor
    · rintro ⟨⟩
    · rintro ⟨⟨⟩, -⟩

-- ════════════════════════════════════════════════════════════════════════
-- Headers and cookies
-- ════════════════════════════════════════════════════════════════════════

theorem extractString_eq_ok_iff {v : PyVal Ref} {s : String} :
    extractString py v = .ok s ↔ v = .text s := by
  constructor
  · intro h
    cases v with
    | str t =>
      obtain ⟨text, surrogates⟩ := t
      cases surrogates with
      | true => cases h
      | false => cases h; rfl
    | _ => cases h
  · rintro rfl
    rfl

theorem headerPairs_ok_iff {entries : List (PyVal Ref × PyVal Ref)} :
    (∃ pairs, headerPairs py entries = .ok pairs) ↔
      ∀ e ∈ entries, SafeText e.1 ∧ SafeText e.2 := by
  induction entries with
  | nil => exact ⟨fun _ e he => absurd he List.not_mem_nil, fun _ => ⟨[], rfl⟩⟩
  | cons e entries ih =>
    rw [List.forall_mem_cons, ← ih]
    constructor
    · rintro ⟨pairs, h⟩
      obtain ⟨key, hkey, h⟩ := Except.of_bind_eq_ok h
      obtain ⟨val, hval, h⟩ := Except.of_bind_eq_ok h
      by_cases hunsafe : containsCrlf key = true ∨ containsCrlf val = true
      · rw [if_pos hunsafe] at h
        cases h
      · rw [if_neg hunsafe] at h
        obtain ⟨-, -, h⟩ := Except.of_bind_eq_ok h
        obtain ⟨rest, hrest, -⟩ := Except.of_bind_eq_ok h
        obtain ⟨hk, hv⟩ := not_or.mp hunsafe
        exact ⟨⟨⟨key, extractString_eq_ok_iff.mp hkey, Bool.eq_false_iff.mpr hk⟩,
          ⟨val, extractString_eq_ok_iff.mp hval, Bool.eq_false_iff.mpr hv⟩⟩, rest, hrest⟩
    · rintro ⟨⟨⟨key, hkey, hk⟩, ⟨val, hval, hv⟩⟩, rest, hrest⟩
      refine ⟨(key, val) :: rest, ?_⟩
      have hsafe : ¬ (containsCrlf key = true ∨ containsCrlf val = true) := by simp [hk, hv]
      rw [headerPairs, hkey, hval, hrest]
      show (if containsCrlf key = true ∨ containsCrlf val = true then _ else _) = _
      rw [if_neg hsafe]
      rfl

theorem cookiePairs_ok_iff {items : List (PyVal Ref)} :
    (∃ pairs, cookiePairs py items = .ok pairs) ↔ ∀ item ∈ items, SafeLine item := by
  induction items with
  | nil => exact ⟨fun _ e he => absurd he List.not_mem_nil, fun _ => ⟨[], rfl⟩⟩
  | cons item items ih =>
    rw [List.forall_mem_cons, ← ih]
    constructor
    · rintro ⟨pairs, h⟩
      obtain ⟨s, hs, h⟩ := Except.of_bind_eq_ok h
      by_cases hunsafe : isUnsafeCookieLine s = true
      · rw [if_pos hunsafe] at h
        cases h
      · rw [if_neg hunsafe] at h
        obtain ⟨-, -, h⟩ := Except.of_bind_eq_ok h
        obtain ⟨rest, hrest, -⟩ := Except.of_bind_eq_ok h
        exact ⟨⟨s, extractString_eq_ok_iff.mp hs, Bool.eq_false_iff.mpr hunsafe⟩, rest, hrest⟩
    · rintro ⟨⟨s, hs, hsafe⟩, rest, hrest⟩
      refine ⟨("set-cookie", s) :: rest, ?_⟩
      rw [cookiePairs, hs, hrest]
      show (if isUnsafeCookieLine s = true then _ else _) = _
      rw [if_neg (Bool.eq_false_iff.mp hsafe)]
      rfl

theorem structuredHeaders_ok_iff {headers : Option (PyVal Ref)} :
    (∃ pairs, structuredHeaders py headers = .ok pairs) ↔ SafeHeaders headers := by
  unfold SafeHeaders
  cases headers with
  | none => exact ⟨fun _ v hv => absurd hv.symm (Option.some_ne_none v), fun _ => ⟨[], rfl⟩⟩
  | some v =>
    cases v with
    | none => exact ⟨fun _ v hv hne => absurd (Option.some.inj hv).symm hne, fun _ => ⟨[], rfl⟩⟩
    | dict entries =>
      have hpairs : (∃ pairs, headerPairs py entries = .ok pairs) ↔ _ := headerPairs_ok_iff
      constructor
      · rintro h _ ⟨⟩ -
        exact ⟨entries, rfl, hpairs.mp h⟩
      · intro h
        obtain ⟨entries', heq, hsafe⟩ := h _ rfl (by rintro ⟨⟩)
        cases heq
        exact hpairs.mpr hsafe
    | _ =>
      constructor
      · rintro ⟨pairs, h⟩
        cases h
      · intro h
        obtain ⟨entries, heq, -⟩ := h _ rfl (by rintro ⟨⟩)
        cases heq

theorem structuredCookies_ok_iff {cookies : Option (PyVal Ref)} :
    (∃ pairs, structuredCookies py cookies = .ok pairs) ↔ SafeCookies cookies := by
  unfold SafeCookies
  cases cookies with
  | none => exact ⟨fun _ v hv => absurd hv.symm (Option.some_ne_none v), fun _ => ⟨[], rfl⟩⟩
  | some v =>
    cases v with
    | none => exact ⟨fun _ v hv hne => absurd (Option.some.inj hv).symm hne, fun _ => ⟨[], rfl⟩⟩
    | list items =>
      have hpairs : (∃ pairs, cookiePairs py items = .ok pairs) ↔ _ := cookiePairs_ok_iff
      constructor
      · rintro h _ ⟨⟩ -
        exact ⟨items, rfl, hpairs.mp h⟩
      · intro h
        obtain ⟨items', heq, hsafe⟩ := h _ rfl (by rintro ⟨⟩)
        cases heq
        exact hpairs.mpr hsafe
    | _ =>
      constructor
      · rintro ⟨pairs, h⟩
        cases h
      · intro h
        obtain ⟨items, heq, -⟩ := h _ rfl (by rintro ⟨⟩)
        cases heq

-- ════════════════════════════════════════════════════════════════════════
-- Structured responses
-- ════════════════════════════════════════════════════════════════════════

theorem valueToBytesAndCt_ok {v : PyVal Ref} (h : JsonValue py v) :
    ∃ typed, valueToBytesAndCt py v = .ok typed := by
  obtain ⟨b, hb⟩ := h
  have hjson : ((do
      let bytes ← py.jsonBytes v
      return (bytes, "application/json; charset=utf-8")) :
        Except (PyErr Ref) (List UInt8 × String)) = .ok (b, "application/json; charset=utf-8") := by
    rw [hb]
    rfl
  unfold valueToBytesAndCt
  split
  · exact ⟨_, rfl⟩
  · exact ⟨_, rfl⟩
  · exact ⟨_, rfl⟩
  · exact ⟨_, hjson⟩
  · exact ⟨_, hjson⟩
  · exact ⟨_, hjson⟩
  · split
    · exact ⟨_, rfl⟩
    · exact ⟨_, hjson⟩

/-- The structured decoder answers with the status it is given, if it takes the headers and the
cookies. -/
theorem structuredFromStatusBody_status {st body : PyVal Ref} {headers cookies : Option (PyVal Ref)}
    {n : ℕ} (hst : plausibleStatus py st = some n) (hbody : JsonValue py body) :
    (SafeHeaders headers ∧ SafeCookies cookies → ∃ bytes hs,
      structuredFromStatusBody py st body headers cookies = .ok (.withHeaders n (.owned bytes) hs)) ∧
    (¬ (SafeHeaders headers ∧ SafeCookies cookies) →
      ∃ e, structuredFromStatusBody py st body headers cookies = .error e) := by
  obtain ⟨typed, htyped⟩ := valueToBytesAndCt_ok hbody
  have hsafe : (∃ pairs, structuredHeaders py headers = .ok pairs) ↔ _ := structuredHeaders_ok_iff
  have hlines : (∃ pairs, structuredCookies py cookies = .ok pairs) ↔ _ :=
    structuredCookies_ok_iff
  rw [structuredFromStatusBody_eq, (plausibleStatus_eq_some_iff.mp hst).1, htyped, ← hsafe, ← hlines]
  cases hheaders : structuredHeaders py headers with
  | error e =>
    refine ⟨?_, fun _ => ⟨e, rfl⟩⟩
    rintro ⟨⟨pairs, hpairs⟩, -⟩
    cases hpairs
  | ok pairs =>
    cases hcookies : structuredCookies py cookies with
    | error e =>
      refine ⟨?_, fun _ => ⟨e, rfl⟩⟩
      rintro ⟨-, pairs, hpairs⟩
      cases hpairs
    | ok lines => exact ⟨fun _ => ⟨_, _, rfl⟩, fun h => absurd ⟨⟨pairs, rfl⟩, lines, rfl⟩ h⟩

/-- The dict has headers or cookies. -/
def HasExtras (d : List (PyVal Ref × PyVal Ref)) : Prop :=
  (PyVal.getItem d "headers").isSome = true ∨ (PyVal.getItem d "cookies").isSome = true

theorem mapDict_extras {d : List (PyVal Ref × PyVal Ref)} {st body : PyVal Ref}
    (hst : PyVal.getItem d "status" = some st) (hbody : PyVal.getItem d "body" = some body)
    (h : HasExtras d) : mapHandlerReturn py (.dict d) = structuredFromStatusBody py st body
      (PyVal.getItem d "headers") (PyVal.getItem d "cookies") := by
  show mapDict py d = _
  unfold mapDict
  rw [hst, hbody]
  exact if_pos (Bool.or_eq_true_iff.mpr h)

/-- The answer of a dict that is data. -/
theorem answeredAsData {d : List (PyVal Ref × PyVal Ref)}
    (h : mapHandlerReturn py (.dict d) = jsonResponse py (.dict d)) : AnsweredAsData py d := by
  constructor
  · intro b hb
    rw [h, jsonResponse, hb]
    rfl
  · intro e he
    rw [h, jsonResponse, he]
    rfl

/-- A plausible status goes with the text of the body. -/
theorem mapDict_text {d : List (PyVal Ref × PyVal Ref)} {st body : PyVal Ref}
    (hst : PyVal.getItem d "status" = some st) (hbody : PyVal.getItem d "body" = some body)
    (h : ¬ HasExtras d) {n : ℕ} (hn : plausibleStatus py st = some n) {s : PyStr}
    (hs : py.toStr body = .ok s) : mapHandlerReturn py (.dict d) =
      .ok (.simple n (.owned (utf8 s.text)) "text/plain; charset=utf-8") := by
  obtain ⟨hcode, hrange⟩ := plausibleStatus_eq_some_iff.mp hn
  show mapDict py d = _
  unfold mapDict
  rw [hst, hbody]
  dsimp only
  rw [if_neg fun hextras => h (Bool.or_eq_true_iff.mp hextras), hcode, hs]
  exact if_pos hrange

/-- With another status, or where the body has no text, the dict is data. -/
theorem mapDict_data {d : List (PyVal Ref × PyVal Ref)} {st body : PyVal Ref}
    (hst : PyVal.getItem d "status" = some st) (hbody : PyVal.getItem d "body" = some body)
    (h : ¬ HasExtras d) (hn : plausibleStatus py st = none ∨ ∃ e, py.toStr body = .error e) :
    AnsweredAsData py d := by
  refine answeredAsData ?_
  show mapDict py d = _
  unfold mapDict
  rw [hst, hbody]
  dsimp only
  rw [if_neg fun hextras => h (Bool.or_eq_true_iff.mp hextras)]
  split
  · next code s hcode hs =>
    refine if_neg fun hrange => ?_
    rcases hn with hn | ⟨e, he⟩
    · rw [plausibleStatus_eq_some_iff.mpr ⟨hcode, hrange⟩] at hn
      cases hn
    · rw [hs] at he
      cases he
  · rfl

/-- A dict without status or without body is data. -/
theorem mapDict_unstructured {d : List (PyVal Ref × PyVal Ref)}
    (h : PyVal.getItem d "status" = none ∨ PyVal.getItem d "body" = none) :
    AnsweredAsData py d := by
  refine answeredAsData ?_
  show mapDict py d = _
  unfold mapDict
  split
  · next hst hbody =>
    rcases h with h | h
    · rw [h] at hst
      cases hst
    · rw [h] at hbody
      cases hbody
  · rfl

variable (py) in
/-- A dict without status or without body is data, and so is one with neither headers nor cookies
whose status is not plausible, or whose body `str` raises on. With a plausible status a dict is
answered with this status; where it has headers or cookies the structured decoder takes, and by
an error where it does not take them. -/
theorem dict_responses (d : List (PyVal Ref × PyVal Ref)) (hvalues : ∀ e ∈ d, JsonValue py e.2) :
    (PyVal.getItem d "status" = none ∨ PyVal.getItem d "body" = none → AnsweredAsData py d) ∧
    ∀ st body, PyVal.getItem d "status" = some st → PyVal.getItem d "body" = some body →
      (¬ HasExtras d → plausibleStatus py st = none → AnsweredAsData py d) ∧
      ∀ n, plausibleStatus py st = some n →
        (¬ HasExtras d →
          (∀ s, py.toStr body = .ok s → mapHandlerReturn py (.dict d) =
            .ok (.simple n (.owned (utf8 s.text)) "text/plain; charset=utf-8")) ∧
          ∀ e, py.toStr body = .error e → AnsweredAsData py d) ∧
        (HasExtras d →
          (SafeHeaders (PyVal.getItem d "headers") ∧ SafeCookies (PyVal.getItem d "cookies") →
            ∃ bytes hs, mapHandlerReturn py (.dict d) = .ok (.withHeaders n bytes hs)) ∧
          (¬ (SafeHeaders (PyVal.getItem d "headers") ∧ SafeCookies (PyVal.getItem d "cookies")) →
            ∃ e, mapHandlerReturn py (.dict d) = .error e)) := by
  refine ⟨mapDict_unstructured, fun st body hst hbody => ?_⟩
  refine ⟨fun hextras hn => mapDict_data hst hbody hextras (.inl hn), fun n hn => ⟨?_, ?_⟩⟩
  · intro hextras
    exact ⟨fun s hs => mapDict_text hst hbody hextras hn hs,
      fun e he => mapDict_data hst hbody hextras (.inr ⟨e, he⟩)⟩
  · intro hextras
    obtain ⟨e, he, rfl⟩ := PyVal.getItem_mem hbody
    rw [mapDict_extras hst hbody hextras]
    obtain ⟨hsafe, hunsafe⟩ := structuredFromStatusBody_status hn (hvalues e he)
    constructor
    · intro h
      obtain ⟨bytes, hs, heq⟩ := hsafe h
      exact ⟨_, hs, heq⟩
    · exact hunsafe

/-- An interpreter in which a text is its own `str`. -/
def textInspection : Inspection String :=
  { withJsonBytes .exact dumpsInspection with
    toStr := fun v => (extractString dumpsInspection v).map fun s => ⟨s, false⟩ }

/-- A status with a text. -/
def teapot : List (PyVal String × PyVal String) :=
  [(.text "status", .int 418), (.text "body", .text "I'm a teapot")]

/-- A text and a status that is none, as data. -/
def progress : List (PyVal String × PyVal String) :=
  [(.text "status", .int 1), (.text "body", .text "x")]

theorem teapot_response :
    mapHandlerReturn textInspection (.dict teapot) =
      .ok (.simple 418 (.owned (utf8 "I'm a teapot")) "text/plain; charset=utf-8") ∧
    ∃ b, textInspection.jsonBytes (.dict progress) = .ok b ∧
      mapHandlerReturn textInspection (.dict progress) =
        .ok (.simple 200 (.owned b) "application/json; charset=utf-8") := by
  have hteapot : ∀ e ∈ teapot, JsonValue textInspection e.2 := by
    rintro e (_ | ⟨_, _ | ⟨_, ⟨⟩⟩⟩)
    · exact ⟨_, rfl⟩
    · exact ⟨_, rfl⟩
  have hprogress : ∀ e ∈ progress, JsonValue textInspection e.2 := by
    rintro e (_ | ⟨_, _ | ⟨_, ⟨⟩⟩⟩)
    · exact ⟨_, rfl⟩
    · exact ⟨_, rfl⟩
  constructor
  · obtain ⟨-, hstatus⟩ := dict_responses textInspection teapot hteapot
    obtain ⟨-, htext⟩ := hstatus (.int 418) (.text "I'm a teapot") rfl rfl
    refine ((htext 418 rfl).1 ?_).1 _ rfl
    rintro (h | h) <;> cases h
  · obtain ⟨-, hstatus⟩ := dict_responses textInspection progress hprogress
    refine ⟨_, rfl, ((hstatus (.int 1) (.text "x") rfl rfl).1 ?_ rfl).json _ rfl⟩
    rintro (h | h) <;> cases h

/-- A header with a line break is refused, whatever the status; a dict with a key that JSON does not
have is no JSON value, whatever its values; and a body on which `str` raises leaves the dict to be
data, whatever its status. -/
theorem headers_dict_refused :
    mapHandlerReturn textInspection (.dict
        [(.text "status", .int 200), (.text "body", .text "x"),
          (.text "headers", .dict [(.text "x-note", .text "a\r\nb")])]) =
      .error (.valueError "unsafe response header contains CR or LF") ∧
    mapHandlerReturn textInspection (.dict [(.tuple [.int 1, .int 2], .int 3)]) =
      .error (.typeError "not JSON serializable") ∧
    mapHandlerReturn
        { (plainRuntime segmentMatcher).toInspection with
          toStr := fun _ => .error (.valueError "no text") }
        (.dict [(.text "status", .int 418), (.text "body", .object "record")]) =
      .ok (.simple 200 (.owned (utf8 "null")) "application/json; charset=utf-8") :=
  ⟨rfl, rfl, rfl⟩

end OxyRoute
