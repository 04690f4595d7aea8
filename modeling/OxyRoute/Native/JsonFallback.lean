import OxyRoute.Native.JsonWriter

/-!
# The JSON fallback

A value that the serializer refuses is given to `json.dumps`, which takes more: other keys, which
it turns into strings, strings without UTF-8 form, integers of any size, and floats that are not
finite, for which it writes names that JSON does not have.

## Main definitions

- `dumps` — the text of `json.dumps` with default arguments
- `pyToJsonBytesOrFallback` — the serializer with the fallback
- `AllFinite` — no float in the value is infinite or not a number
- `jsonPayload` — the value whose text a container is answered with

## Main results

- `dumps_reading` — a text of `json.dumps` is JSON exactly if the floats are finite
- `json_body_wellFormed_iff` — so is the body of a JSON response
-/

namespace OxyRoute

open JsonText

variable {Ref : Type}

/-- What Python's encoder writes for a `str` and for a finite float: tokens. -/
structure PyEncoder where
  str : PyStr → List Char
  float : ℚ → List Char
  str_token : ∀ s, ∃ k, StringToken (str s) k
  float_token : ∀ q, F64.ofRat q = .finite q → ∃ j, number (float q) = some j

/-- An encoder that writes nothing but what it has to. -/
def PyEncoder.exact : PyEncoder where
  str s := quote s.text
  float := doubleChars
  str_token s := ⟨s.text, stringToken_quote s.text⟩
  float_token _ h := ⟨_, number_doubleChars h⟩

section

variable (e : PyEncoder)

/-- A float: its `repr`, or a name. -/
def dumpsFloat : F64 → List Char
  | .finite q => e.float q
  | .nan => "NaN".toList
  | .inf false => "Infinity".toList
  | .inf true => "-Infinity".toList

/-- The key of a dict entry: a string, or the text of another scalar as a string. -/
def dumpsKey : PyVal Ref → Option (List Char)
  | .str s => some (e.str s)
  | .float x => some (e.str ⟨String.ofList (dumpsFloat e x), false⟩)
  | .bool b => some (e.str ⟨if b then "true" else "false", false⟩)
  | .none => some (e.str ⟨"null", false⟩)
  | .int n => some (e.str ⟨String.ofList (Decimal.intChars n), false⟩)
  | _ => none

mutual

/-- The text of `json.dumps(value)`; none where it raises. -/
def dumps : PyVal Ref → Option (List Char)
  | .none => some "null".toList
  | .bool b => some (if b then "true".toList else "false".toList)
  | .int n => some (Decimal.intChars n)
  | .float x => some (dumpsFloat e x)
  | .str s => some (e.str s)
  | .list items => (dumpsItems items).map fun l => '[' :: (separated l ++ [']'])
  | .tuple items => (dumpsItems items).map fun l => '[' :: (separated l ++ [']'])
  | .dict entries => (dumpsEntries entries).map fun l => '{' :: (separated l ++ ['}'])
  | _ => none

def dumpsItems : List (PyVal Ref) → Option (List (List Char))
  | [] => some []
  | v :: items => do return (← dumps v) :: (← dumpsItems items)

def dumpsEntries : List (PyVal Ref × PyVal Ref) → Option (List (List Char))
  | [] => some []
  | (k, v) :: entries => do
    let key ← dumpsKey e k
    let t ← dumps v
    return (key ++ (':' :: ' ' :: t)) :: (← dumpsEntries entries)

end

variable (w : SerdeJson) (py : Inspection Ref)

/-- What `json.dumps` returns, if it returns. It may raise for other reasons than `dumps`, such as
the depth of the recursion or the number of digits. -/
def DumpsWith : Prop := ∀ v s, py.jsonDumps v = .ok s → dumps e v = some s.toList

/-- `json_dumps_bytes`. -/
def jsonDumpsBytes (v : PyVal Ref) : Except (PyErr Ref) (List UInt8) := do
  return utf8 (← py.jsonDumps v)

/-- `py_to_json_bytes_or_fallback`. -/
def pyToJsonBytesOrFallback (v : PyVal Ref) : Except (PyErr Ref) (List UInt8) :=
  match pyToJsonBytes w py v with
  | .ok bytes => .ok bytes
  | .error _ => jsonDumpsBytes py v

/-- The runtime with this serializer. -/
def withJsonBytes : Inspection Ref := { py with jsonBytes := pyToJsonBytesOrFallback w py }

end

/-- Every float in the value is finite. -/
def AllFinite (v : PyVal Ref) : Prop := ∀ d x, v.Element d (.float x) → ∃ q, x = .finite q

/-- The bytes are JSON. -/
def BytesWellFormed (bytes : List UInt8) : Prop := ∃ j, BytesDenote bytes j

/-- The content type of a mapped response. -/
def HandlerMap.contentType : HandlerMap → Option String
  | .alreadySent => none
  | .withHeaders _ _ headers =>
    (headers.find? fun h => Text.eqIgnoreAsciiCase h.1 "content-type").map (·.2)
  | .simple _ _ contentType => some contentType

/-- The media type is JSON, whatever the case and the parameters. -/
def IsJsonType (contentType : String) : Prop :=
  Text.eqIgnoreAsciiCase (Text.trim (String.ofList (contentType.toList.takeWhile (· ≠ ';'))))
    "application/json" = true

/-- A 200 response with JSON bytes. -/
def HandlerMap.IsJson (bytes : List UInt8) (mapped : HandlerMap) : Prop :=
  (∃ contentType, mapped.contentType = some contentType ∧ IsJsonType contentType) ∧
    ((∃ headers, mapped = .withHeaders 200 (.owned bytes) headers) ∨
      ∃ contentType, mapped = .simple 200 (.owned bytes) contentType)

/-- The value whose text a value is answered with: the body of a structured response, or the
value. -/
def jsonPayload : PyVal Ref → PyVal Ref
  | .dict d =>
    match PyVal.getItem d "status", PyVal.getItem d "body" with
    | some _, some body =>
      if (PyVal.getItem d "headers").isSome || (PyVal.getItem d "cookies").isSome then body
      else .dict d
    | _, _ => .dict d
  | v => v

/-- A dict, list or tuple. -/
def IsContainer : PyVal Ref → Prop
  | .dict _ | .list _ | .tuple _ => True
  | _ => False

/-- A body that is serialized: neither a text nor bytes. -/
def Serialized (py : Inspection Ref) : PyVal Ref → Prop
  | .none | .str _ | .bytes _ => False
  | .dict _ | .list _ | .tuple _ => True
  | v => extractByteVec py v = none

variable {e : PyEncoder} {w : SerdeJson} {py : Inspection Ref}

-- ════════════════════════════════════════════════════════════════════════
-- The texts of the fallback
-- ════════════════════════════════════════════════════════════════════════

/-- The names of floats that are not finite are no JSON. -/
theorem dumpsFloat_broken {x : F64} (h : ¬ ∃ q, x = .finite q) :
    Broken readValue (dumpsFloat e x) := by
  have hstart {c : Char} {t : List Char} (hspace : isSpace c = false) (harr : c ≠ ']')
      (hobj : c ≠ '}') : Starts (c :: t) := ⟨c, t, rfl, hspace, harr, hobj⟩
  have hword {c : Char} {t : List Char} (hc : isNumberChar c = false) (r : List Char) :
      number ((c :: (t ++ r)).takeWhile isNumberChar) = none := by
    rw [List.takeWhile_cons_of_neg (Bool.eq_false_iff.mp hc), number_nil]
  cases x with
  | finite q => exact absurd ⟨q, rfl⟩ h
  | nan =>
    have htext : dumpsFloat e .nan = 'N' :: ['a', 'N'] := rfl
    rw [htext]
    exact broken_number (hstart (by decide) (by decide) (by decide)) (by decide)
      (hword (by decide))
  | inf neg =>
    cases neg with
    | false =>
      have htext : dumpsFloat e (.inf false) = 'I' :: "nfinity".toList := rfl
      rw [htext]
      exact broken_number (hstart (by decide) (by decide) (by decide)) (by decide)
        (hword (by decide))
    | true =>
      have htext : dumpsFloat e (.inf true) = '-' :: ('I' :: "nfinity".toList) := rfl
      rw [htext]
      refine broken_number (hstart (by decide) (by decide) (by decide)) (by decide) fun r => ?_
      rw [List.takeWhile_cons_of_pos (by decide), List.cons_append,
        List.takeWhile_cons_of_neg (by decide)]
      decide

theorem dumpsKey_token {k : PyVal Ref} {t : List Char} (h : dumpsKey e k = some t) :
    ∃ key, StringToken t key := by
  cases k with
  | str | float | bool | none | int =>
    cases h
    exact e.str_token _
  | _ => cases h

theorem allFinite_list_iff {items : List (PyVal Ref)} :
    (∀ v ∈ items, AllFinite v) ↔ AllFinite (.list items) := by
  constructor
  · intro h d x hx
    cases hx with
    | list hv hx => exact h _ hv _ _ hx
  · exact fun h v hv d x hx => h (d + 1) x (.list hv hx)

theorem allFinite_tuple_iff {items : List (PyVal Ref)} :
    (∀ v ∈ items, AllFinite v) ↔ AllFinite (.tuple items) := by
  constructor
  · intro h d x hx
    cases hx with
    | tuple hv hx => exact h _ hv _ _ hx
  · exact fun h v hv d x hx => h (d + 1) x (.tuple hv hx)

theorem allFinite_dict_iff {entries : List (PyVal Ref × PyVal Ref)} :
    (∀ e ∈ entries, AllFinite e.2) ↔ AllFinite (.dict entries) := by
  constructor
  · intro h d x hx
    cases hx with
    | dict he hx => exact h _ he _ _ hx
  · exact fun h e he d x hx => h (d + 1) x (.dict he hx)

theorem dumpsItems_eq {items : List (PyVal Ref)} {ts : List (List Char)}
    (h : dumpsItems e items = some ts) :
    List.Forall₂ (fun v t => v ∈ items ∧ dumps e v = some t) items ts := by
  induction items generalizing ts with
  | nil =>
    cases h
    exact .nil
  | cons v items ih =>
    obtain ⟨t, ht, h⟩ := Option.bind_eq_some_iff.mp h
    obtain ⟨rest, hrest, h⟩ := Option.bind_eq_some_iff.mp h
    cases h
    refine .cons ⟨List.mem_cons_self, ht⟩ ((ih hrest).imp ?_)
    exact fun v' t' h => ⟨List.mem_cons_of_mem _ h.1, h.2⟩

theorem dumpsEntries_eq {entries : List (PyVal Ref × PyVal Ref)} {ts : List (List Char)}
    (h : dumpsEntries e entries = some ts) :
    List.Forall₂ (fun entry t => entry ∈ entries ∧ ∃ key v, dumpsKey e entry.1 = some key ∧
      dumps e entry.2 = some v ∧ t = key ++ (':' :: ' ' :: v)) entries ts := by
  induction entries generalizing ts with
  | nil =>
    cases h
    exact .nil
  | cons entry entries ih =>
    obtain ⟨k, v⟩ := entry
    obtain ⟨key, hkey, h⟩ := Option.bind_eq_some_iff.mp h
    obtain ⟨t, ht, h⟩ := Option.bind_eq_some_iff.mp h
    obtain ⟨rest, hrest, h⟩ := Option.bind_eq_some_iff.mp h
    cases h
    refine .cons ⟨List.mem_cons_self, key, t, hkey, ht, rfl⟩ ((ih hrest).imp ?_)
    exact fun entry t h => ⟨List.mem_cons_of_mem _ h.1, h.2⟩

/-- A text of `json.dumps` is read if all floats in the value are finite, and is broken if not. -/
theorem dumps_reading {v : PyVal Ref} (hdoubles : Doubles v) {t : List Char}
    (h : dumps e v = some t) : SpellsIff readValue (AllFinite v) t := by
  -- a value without items that is no float
  have halone {v : PyVal Ref} {t : List Char} {j : Json}
      (hv : ∀ d x, ¬ v.Element d (.float x)) (ht : Spells readValue t j) :
      SpellsIff readValue (AllFinite v) t :=
    .inl ⟨fun d x hx => absurd hx (hv d x), j, ht⟩
  induction v using PyVal.inductionOn generalizing t with
  | none =>
    cases h
    exact halone (by rintro d x ⟨⟩) spells_null
  | bool b =>
    cases h
    cases b with
    | true => exact halone (by rintro d x ⟨⟩) (spells_bool true)
    | false => exact halone (by rintro d x ⟨⟩) (spells_bool false)
  | int n =>
    cases h
    exact halone (by rintro d x ⟨⟩) (spells_number (number_intChars n))
  | float x =>
    cases h
    have hfinite : AllFinite (.float x : PyVal Ref) ↔ ∃ q, x = .finite q := by
      refine ⟨fun hall => hall 0 x (.root _), fun hx d y hy => ?_⟩
      cases hy
      exact hx
    refine SpellsIff.congr hfinite.symm ?_
    by_cases hx : ∃ q, x = .finite q
    · obtain ⟨q, rfl⟩ := hx
      obtain ⟨j, hj⟩ := e.float_token q (hdoubles 0 q (.root _))
      exact .inl ⟨⟨q, rfl⟩, j, spells_number hj⟩
    · exact .inr ⟨hx, dumpsFloat_broken hx⟩
  | str s =>
    cases h
    obtain ⟨k, hk⟩ := e.str_token s
    exact halone (by rintro d x ⟨⟩) (spells_str hk)
  | list items ih =>
    obtain ⟨ts, hts, rfl⟩ := Option.map_eq_some_iff.mp h
    refine SpellsIff.congr allFinite_list_iff (spellsIff_arr ((dumpsItems_eq hts).imp ?_))
    exact fun v t ⟨hv, ht⟩ => ih v hv (fun d q hq => hdoubles (d + 1) q (.list hv hq)) ht
  | tuple items ih =>
    obtain ⟨ts, hts, rfl⟩ := Option.map_eq_some_iff.mp h
    refine SpellsIff.congr allFinite_tuple_iff (spellsIff_arr ((dumpsItems_eq hts).imp ?_))
    exact fun v t ⟨hv, ht⟩ => ih v hv (fun d q hq => hdoubles (d + 1) q (.tuple hv hq)) ht
  | dict entries ih =>
    obtain ⟨ts, hts, rfl⟩ := Option.map_eq_some_iff.mp h
    refine SpellsIff.congr allFinite_dict_iff (spellsIff_obj ((dumpsEntries_eq hts).imp ?_))
    rintro ⟨k, v⟩ t ⟨he, key, t', hkey, ht', rfl⟩
    obtain ⟨key', hkey'⟩ := dumpsKey_token hkey
    exact spellsIff_member hkey'
      (ih (k, v) he (fun d q hq => hdoubles (d + 1) q (.dict he hq)) ht')
  | bytes | response | object => cases h

theorem utf8_wellFormed_iff {s : String} : BytesWellFormed (utf8 s) ↔ WellFormed s.toList := by
  constructor
  · rintro ⟨j, s', heq, hs'⟩
    rw [utf8_injective heq]
    exact ⟨j, hs'⟩
  · rintro ⟨j, hj⟩
    exact ⟨j, s, rfl, hj⟩

/-- What is serialized, in whatever way, is JSON exactly if all floats in it are finite. -/
theorem pyToJsonBytesOrFallback_iff {v : PyVal Ref} (hdumps : DumpsWith e py)
    (hdoubles : Doubles v) {bytes : List UInt8}
    (h : pyToJsonBytesOrFallback w py v = .ok bytes) : BytesWellFormed bytes ↔ AllFinite v := by
  unfold pyToJsonBytesOrFallback at h
  split at h
  · next bytes' hnative =>
    cases h
    obtain ⟨hwritten, hread⟩ := pyToJsonBytes_spec w py v hdoubles
    have hfinite : AllFinite v := fun d x hx => (hwritten.mp ⟨bytes, hnative⟩ d _ hx).2
    exact ⟨fun _ => hfinite, fun _ => ⟨_, (hread bytes hnative _).mpr rfl⟩⟩
  · obtain ⟨s, hs, hbytes⟩ := Except.of_bind_eq_ok h
    cases hbytes
    rw [utf8_wellFormed_iff]
    exact (dumps_reading hdoubles (hdumps v s hs)).wellFormed_iff

-- ════════════════════════════════════════════════════════════════════════
-- Responses
-- ════════════════════════════════════════════════════════════════════════

theorem valueToBytesAndCt_serialized {v : PyVal Ref} (h : Serialized py v)
    {typed : List UInt8 × String} (htyped : valueToBytesAndCt py v = .ok typed) :
    py.jsonBytes v = .ok typed.1 := by
  have hjson (h : (do return (← py.jsonBytes v, "application/json; charset=utf-8") :
      Except (PyErr Ref) (List UInt8 × String)) = .ok typed) : py.jsonBytes v = .ok typed.1 := by
    obtain ⟨bytes, hbytes, h⟩ := Except.of_bind_eq_ok h
    cases h
    exact hbytes
  cases v with
  | none | str | bytes => exact h.elim
  | list | tuple | dict => exact hjson htyped
  | bool | int | float | response | object =>
    unfold valueToBytesAndCt at htyped
    dsimp only at htyped
    have hnone : extractByteVec py _ = none := h
    rw [hnone] at htyped
    exact hjson htyped

theorem jsonResponse_bytes {v : PyVal Ref} {mapped : HandlerMap}
    (hmapped : jsonResponse py v = .ok mapped) {bytes : List UInt8} (hjson : mapped.IsJson bytes) :
    py.jsonBytes v = .ok bytes := by
  obtain ⟨bytes', hbytes, h⟩ := Except.of_bind_eq_ok hmapped
  cases h
  rcases hjson.2 with ⟨headers, ⟨⟩⟩ | ⟨contentType, ⟨⟩⟩
  exact hbytes

theorem structured_bytes {st body : PyVal Ref} {headers cookies : Option (PyVal Ref)}
    {mapped : HandlerMap} (hmapped : structuredFromStatusBody py st body headers cookies = .ok mapped)
    {bytes : List UInt8} (hjson : mapped.IsJson bytes) (hserialized : Serialized py body) :
    py.jsonBytes body = .ok bytes := by
  rw [structuredFromStatusBody_eq] at hmapped
  obtain ⟨status, -, hmapped⟩ := Except.of_bind_eq_ok hmapped
  obtain ⟨typed, htyped, hmapped⟩ := Except.of_bind_eq_ok hmapped
  obtain ⟨pairs, -, hmapped⟩ := Except.of_bind_eq_ok hmapped
  obtain ⟨lines, -, hmapped⟩ := Except.of_bind_eq_ok hmapped
  cases hmapped
  rw [valueToBytesAndCt_serialized hserialized htyped]
  rcases hjson.2 with ⟨headers', heq⟩ | ⟨contentType, ⟨⟩⟩
  cases heq
  rfl

/-- The body of a JSON response is the text of the payload. -/
theorem jsonBytes_of_mapped {v : PyVal Ref} (hv : IsContainer v) {mapped : HandlerMap}
    (hmapped : mapHandlerReturn py v = .ok mapped) {bytes : List UInt8}
    (hjson : mapped.IsJson bytes) (hserialized : Serialized py (jsonPayload v)) :
    py.jsonBytes (jsonPayload v) = .ok bytes := by
  cases v with
  | list | tuple => exact jsonResponse_bytes hmapped hjson
  | dict d =>
    have hdict : mapDict py d = .ok mapped := hmapped
    unfold mapDict at hdict
    split at hdict
    · next st body hst hbody =>
      dsimp only at hdict
      split at hdict
      · next hstructured =>
        have hpayload : jsonPayload (.dict d) = body := by
          unfold jsonPayload
          dsimp only
          rw [hst, hbody]
          exact if_pos hstructured
        rw [hpayload] at hserialized ⊢
        exact structured_bytes hdict hjson hserialized
      · next hplain =>
        have hpayload : jsonPayload (.dict d) = .dict d := by
          unfold jsonPayload
          dsimp only
          rw [hst, hbody]
          exact if_neg hplain
        rw [hpayload]
        split at hdict
        · split at hdict
          · cases hdict
            obtain ⟨-, ⟨⟩, htype⟩ := hjson.1
            have hplainText : ¬ IsJsonType "text/plain; charset=utf-8" := by
              unfold IsJsonType
              decide
            exact absurd htype hplainText
          · exact jsonResponse_bytes hdict hjson
        · exact jsonResponse_bytes hdict hjson
    · next hno =>
      have hpayload : jsonPayload (.dict d) = .dict d := by
        unfold jsonPayload
        dsimp only
        split
        · next st body hst hbody => exact (hno st body hst hbody).elim
        · rfl
      rw [hpayload]
      exact jsonResponse_bytes hdict hjson
  | _ => exact hv.elim

/-- The payload is in the value. -/
theorem doubles_jsonPayload {v : PyVal Ref} (h : Doubles v) : Doubles (jsonPayload v) := by
  unfold jsonPayload
  split
  · next d =>
    split
    · next st body hst hbody =>
      split
      · obtain ⟨entry, hentry, rfl⟩ := PyVal.getItem_mem hbody
        exact fun depth q hq => h (depth + 1) q (.dict hentry hq)
      · exact h
    · exact h
  · exact h

variable (w py) in
/-- **JSON bodies.** For every dict, list or tuple that is answered with a 200 JSON response whose
body is serialized: the bytes are JSON exactly if every float in the serialized value is
finite. -/
theorem json_body_wellFormed_iff (v : PyVal Ref) (hdumps : DumpsWith e py) (hv : IsContainer v)
    (hdoubles : Doubles v) {mapped : HandlerMap}
    (hmapped : mapHandlerReturn (withJsonBytes w py) v = .ok mapped) {bytes : List UInt8}
    (hjson : mapped.IsJson bytes) (hserialized : Serialized (withJsonBytes w py) (jsonPayload v)) :
    BytesWellFormed bytes ↔ AllFinite (jsonPayload v) :=
  pyToJsonBytesOrFallback_iff hdumps (doubles_jsonPayload hdoubles)
    (jsonBytes_of_mapped hv hmapped hjson hserialized)

/-- A runtime whose `json.dumps` raises only where it has to. -/
def dumpsInspection : Inspection String :=
  { (plainRuntime segmentMatcher).toInspection with
    jsonDumps := fun v => match dumps .exact v with
      | some t => .ok (String.ofList t)
      | none => .error (.typeError "not JSON serializable") }

theorem dumpsInspection_dumps : DumpsWith .exact dumpsInspection := by
  intro v s h
  have hs : (match dumps PyEncoder.exact v with
    | some t => Except.ok (String.ofList t)
    | none => .error (.typeError "not JSON serializable")) =
      (.ok s : Except (PyErr String) String) := h
  split at hs
  · next t ht =>
    cases hs
    rw [ht, String.toList_ofList]
  · cases hs

theorem one_doubles : Doubles (.list [.int 1] : PyVal String) := by
  intro d q h
  cases h with
  | list hv h =>
    cases List.mem_singleton.mp hv
    cases h

theorem jsonType_charset : IsJsonType "application/json; charset=utf-8" := by
  unfold IsJsonType
  decide

/-- A list of an integer is answered with JSON. -/
theorem one_body :
    BytesWellFormed (utf8 (String.ofList ['[', '1', ']'])) ↔
      AllFinite (jsonPayload (.list [.int 1] : PyVal String)) :=
  json_body_wellFormed_iff .exact dumpsInspection (.list [.int 1]) dumpsInspection_dumps trivial
    one_doubles rfl ⟨⟨_, rfl, jsonType_charset⟩, .inr ⟨_, rfl⟩⟩ trivial

theorem nan_doubles : Doubles (.list [.float .nan] : PyVal String) := by
  intro d q h
  cases h with
  | list hv h =>
    cases List.mem_singleton.mp hv
    cases h

/-- A list of a float that is not a number is answered with what is no JSON. -/
theorem nan_body : mapHandlerReturn (withJsonBytes .exact dumpsInspection) (.list [.float .nan]) =
    .ok (.simple 200 (.owned (utf8 (String.ofList ['[', 'N', 'a', 'N', ']'])))
      "application/json; charset=utf-8") ∧
      ¬ BytesWellFormed (utf8 (String.ofList ['[', 'N', 'a', 'N', ']'])) := by
  refine ⟨rfl, ?_⟩
  have htext : dumps .exact (.list [.float .nan] : PyVal String) =
      some ['[', 'N', 'a', 'N', ']'] := rfl
  rw [utf8_wellFormed_iff, String.toList_ofList, (dumps_reading nan_doubles htext).wellFormed_iff]
  intro h
  obtain ⟨q, hq⟩ := h 1 .nan (.list List.mem_cons_self (.root _))
  cases hq

end OxyRoute
