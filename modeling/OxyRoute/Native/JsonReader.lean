import OxyRoute.Lib.Dict
import OxyRoute.Native.JsonWriter

/-!
# Python values of JSON texts

The visitor that builds Python values while `serde_json` reads a text, and what becomes of a value
that was written and is read again.

## Main definitions

- `SerdeEvent` — the calls of the visitor, nested like the text
- `visit`, `jsonBytesToPy` — the visitor and the function that runs it
- `SerdeText`, `SerdeReader` — which texts `serde_json` reads, and as what
- `reread` — what a written value comes back as

## Main results

- `jsonBytesToPy_pyToJsonBytes` — which written values come back, and which come back unchanged
-/

namespace OxyRoute

open JsonText

variable {Ref : Type}

/-- The calls of a visitor that `deserialize_any` makes without arbitrary precision. -/
inductive SerdeEvent
  | unit
  | bool (b : Bool)
  | i64 (n : ℤ)
  | u64 (n : ℕ)
  | f64 (x : F64)
  | str (s : String)
  | seq (elems : List SerdeEvent)
  | map (entries : List (String × SerdeEvent))

/-- The entries of a dict with string keys. -/
def pyEntries (d : Dict String (PyVal Ref)) : List (PyVal Ref × PyVal Ref) :=
  d.entries.map fun e => (.text e.1, e.2)

mutual

/-- `PyJsonVisitor`. -/
def visit : SerdeEvent → PyVal Ref
  | .unit => .none
  | .bool b => .bool b
  | .i64 n => .int n
  | .u64 n => .int n
  | .f64 x => .float x
  | .str s => .text s
  | .seq elems => .list (visitSeq elems [])
  | .map entries => .dict (pyEntries (visitMap entries .empty))

/-- The loop of `visit_seq`. -/
def visitSeq : List SerdeEvent → List (PyVal Ref) → List (PyVal Ref)
  | [], list => list
  | elem :: elems, list => visitSeq elems (list ++ [visit elem])

/-- The loop of `visit_map`. -/
def visitMap : List (String × SerdeEvent) → Dict String (PyVal Ref) → Dict String (PyVal Ref)
  | [], dict => dict
  | (k, v) :: entries, dict => visitMap entries (dict.set k (visit v))

end

/-- The number is finite. -/
def isFinite : F64 → Bool
  | .finite _ => true
  | _ => false

mutual

/-- The limits of `serde_json`: with this much depth remaining no array or object is opened at
the last level, and no number overflows. -/
def SerdeEvent.readable : ℕ → SerdeEvent → Bool
  | _, .f64 x => isFinite x
  | depth, .seq elems => decide (1 < depth) && readableSeq (depth - 1) elems
  | depth, .map entries => decide (1 < depth) && readableMap (depth - 1) entries
  | _, _ => true

def readableSeq : ℕ → List SerdeEvent → Bool
  | _, [] => true
  | depth, elem :: elems => elem.readable depth && readableSeq depth elems

def readableMap : ℕ → List (String × SerdeEvent) → Bool
  | _, [] => true
  | depth, (_, v) :: entries => v.readable depth && readableMap depth entries

end

/-- An integer of 64 bits is read as it is, any other as a double. -/
def intEvent (float : List Char → F64) (n : ℤ) : SerdeEvent :=
  if FitsU64 n then .u64 n.toNat else if FitsI64 n then .i64 n
  else .f64 (float (Decimal.intChars n))

/-- The texts with a comma and a blank between items and a colon and a blank after keys, and what
`serde_json` reads them as. `float` is its conversion of numbers, which need not be exact. -/
inductive SerdeText (float : List Char → F64) : List Char → SerdeEvent → Prop
  | null : SerdeText float "null".toList .unit
  | bool (b : Bool) : SerdeText float (toString b).toList (.bool b)
  | int (n : ℤ) : SerdeText float (Decimal.intChars n) (intEvent float n)
  | float {t : List Char} {q : ℚ} : number t = some (.float (.finite q)) →
      SerdeText float t (.f64 (float t))
  | str {t : List Char} {s : String} : PlainToken t s → SerdeText float t (.str s)
  | seq {l : List (List Char × SerdeEvent)} : (∀ e ∈ l, SerdeText float e.1 e.2) →
      SerdeText float ('[' :: (separated (l.map Prod.fst) ++ [']'])) (.seq (l.map Prod.snd))
  | map {l : List ((List Char × List Char) × String × SerdeEvent)} :
      (∀ e ∈ l, PlainToken e.1.1 e.2.1) → (∀ e ∈ l, SerdeText float e.1.2 e.2.2) →
      SerdeText float
        ('{' :: (separated (l.map fun e => e.1.1 ++ (':' :: ' ' :: e.1.2)) ++ ['}']))
        (.map (l.map Prod.snd))

/-- `serde_json` as the visitor is run by it: the calls it makes, if it reads the text to its end
without an error. -/
structure SerdeReader where
  parse : List UInt8 → Option SerdeEvent
  float : List Char → F64
  parse_text : ∀ {s : String} {e : SerdeEvent}, SerdeText float s.toList e →
    parse (utf8 s) = if e.readable 128 then some e else none

/-- `json_bytes_to_py`. -/
def jsonBytesToPy (r : SerdeReader) (bytes : List UInt8) : Option (PyVal Ref) :=
  (r.parse bytes).map visit

/-- `serde_json` as a writer: it spells strings character by character. -/
structure SerdeWriter extends SerdeJson where
  str_plain : ∀ s, PlainToken (str s) s

-- ════════════════════════════════════════════════════════════════════════
-- What a written value is read as
-- ════════════════════════════════════════════════════════════════════════

section

variable (w : SerdeJson) (float : List Char → F64)

mutual

/-- The calls of the visitor when the text of a value is read. -/
def eventOf : PyVal Ref → SerdeEvent
  | .bool b => .bool b
  | .int n => intEvent float n
  | .float (.finite q) => .f64 (float (w.float q))
  | .str s => .str s.text
  | .list items => .seq (eventItems items)
  | .tuple items => .seq (eventItems items)
  | .dict entries => .map (eventEntries entries)
  | _ => .unit

def eventItems : List (PyVal Ref) → List SerdeEvent
  | [] => []
  | v :: items => eventOf v :: eventItems items

def eventEntries : List (PyVal Ref × PyVal Ref) → List (String × SerdeEvent)
  | [] => []
  | (k, v) :: entries => (keyText k, eventOf v) :: eventEntries entries

end

mutual

/-- What a written value comes back as: tuples as lists, integers beyond 64 bits as floats, floats
as their texts are converted. -/
def reread : PyVal Ref → PyVal Ref
  | .int n => if FitsI64 n ∨ FitsU64 n then .int n else .float (float (Decimal.intChars n))
  | .float (.finite q) => .float (float (w.float q))
  | .list items => .list (rereadItems items)
  | .tuple items => .list (rereadItems items)
  | .dict entries => .dict (rereadEntries entries)
  | v => v

def rereadItems : List (PyVal Ref) → List (PyVal Ref)
  | [] => []
  | v :: items => reread v :: rereadItems items

def rereadEntries : List (PyVal Ref × PyVal Ref) → List (PyVal Ref × PyVal Ref)
  | [] => []
  | (k, v) :: entries => (k, reread v) :: rereadEntries entries

end

/-- An element at this depth that the reader takes if it may open containers at fewer than `n - 1`
levels: its numbers do not overflow, and it is no container below. -/
def TakenAlone (n d : ℕ) : PyVal Ref → Prop
  | .int i => FitsI64 i ∨ FitsU64 i ∨ isFinite (float (Decimal.intChars i)) = true
  | .float x => ∀ q, x = .finite q → isFinite (float (w.float q)) = true
  | .list _ | .tuple _ | .dict _ => d + 1 < n
  | _ => True

/-- An element that comes back as it was if what is in it does. -/
def KeptAlone : PyVal Ref → Prop
  | .int n => FitsI64 n ∨ FitsU64 n
  | .float x => ∀ q, x = .finite q → float (w.float q) = .finite q
  | .tuple _ => False
  | _ => True

end

/-- No dict in the value has a key twice. -/
def DistinctKeys (v : PyVal Ref) : Prop :=
  ∀ d entries, v.Element d (.dict entries) → (entries.map fun e => keyText e.1).Nodup

variable {w : SerdeJson} {py : Inspection Ref} {float : List Char → F64}

theorem eventItems_eq (items : List (PyVal Ref)) :
    eventItems w float items = items.map (eventOf w float) := by
  induction items with
  | nil => rfl
  | cons v items ih => rw [eventItems, ih, List.map_cons]

theorem eventEntries_eq (entries : List (PyVal Ref × PyVal Ref)) :
    eventEntries w float entries = entries.map fun e => (keyText e.1, eventOf w float e.2) := by
  induction entries with
  | nil => rfl
  | cons e entries ih => rw [eventEntries, ih, List.map_cons]

theorem rereadItems_eq (items : List (PyVal Ref)) :
    rereadItems w float items = items.map (reread w float) := by
  induction items with
  | nil => rfl
  | cons v items ih => rw [rereadItems, ih, List.map_cons]

theorem rereadEntries_eq (entries : List (PyVal Ref × PyVal Ref)) :
    rereadEntries w float entries = entries.map fun e => (e.1, reread w float e.2) := by
  induction entries with
  | nil => rfl
  | cons e entries ih => rw [rereadEntries, ih, List.map_cons]

theorem visitSeq_eq (elems : List SerdeEvent) (list : List (PyVal Ref)) :
    visitSeq elems list = list ++ elems.map visit := by
  induction elems generalizing list with
  | nil => exact (List.append_nil list).symm
  | cons e elems ih => rw [visitSeq, ih, List.append_assoc, List.map_cons, List.singleton_append]

theorem visitMap_eq (entries : List (String × SerdeEvent)) (dict : Dict String (PyVal Ref)) :
    visitMap entries dict = dict.setAll (entries.map fun e => (e.1, visit e.2)) := by
  induction entries generalizing dict with
  | nil => rfl
  | cons e entries ih => rw [visitMap, ih, List.map_cons, Dict.setAll_cons]

theorem readableSeq_iff {n : ℕ} (elems : List SerdeEvent) :
    readableSeq n elems = true ↔ ∀ e ∈ elems, e.readable n = true := by
  induction elems with
  | nil => exact ⟨fun _ e he => absurd he List.not_mem_nil, fun _ => rfl⟩
  | cons e elems ih => rw [readableSeq, Bool.and_eq_true, ih, List.forall_mem_cons]

theorem readableMap_iff {n : ℕ} (entries : List (String × SerdeEvent)) :
    readableMap n entries = true ↔ ∀ e ∈ entries, e.2.readable n = true := by
  induction entries with
  | nil => exact ⟨fun _ e he => absurd he List.not_mem_nil, fun _ => rfl⟩
  | cons e entries ih => rw [readableMap, Bool.and_eq_true, ih, List.forall_mem_cons]

-- ════════════════════════════════════════════════════════════════════════
-- The text of a written value
-- ════════════════════════════════════════════════════════════════════════

/-- The text of a list is made of the texts of its items. -/
theorem writeItems_pieces {items : List (PyVal Ref)} {first : Bool} {depth : ℕ} {t : List Char}
    (h : writeItems w py items first depth = .ok t) :
    ∃ ts, List.Forall₂ (fun v t => writePyJson w py v depth = .ok t) items ts ∧
      t = if first then separated ts else following ts := by
  induction items generalizing first t with
  | nil =>
    cases h
    exact ⟨[], .nil, by cases first <;> rfl⟩
  | cons v items ih =>
    obtain ⟨t', ht', h⟩ := Except.of_bind_eq_ok h
    obtain ⟨rest, hrest, h⟩ := Except.of_bind_eq_ok h
    cases h
    obtain ⟨ts, hts, rfl⟩ := ih hrest
    exact ⟨t' :: ts, .cons ht' hts, by cases first <;> rfl⟩

/-- The text of a dict is made of the texts of its keys and values. -/
theorem writeEntries_pieces {entries : List (PyVal Ref × PyVal Ref)} {first : Bool} {depth : ℕ}
    {t : List Char} (h : writeEntries w py entries first depth = .ok t) :
    ∃ ts : List (List Char × List Char),
      List.Forall₂ (fun e t => writeKey w e.1 = .ok t.1 ∧
        writePyJson w py e.2 depth = .ok t.2) entries ts ∧
      t = if first then separated (ts.map fun t => t.1 ++ (':' :: ' ' :: t.2))
        else following (ts.map fun t => t.1 ++ (':' :: ' ' :: t.2)) := by
  induction entries generalizing first t with
  | nil =>
    cases h
    exact ⟨[], .nil, by cases first <;> rfl⟩
  | cons e entries ih =>
    obtain ⟨k, v⟩ := e
    obtain ⟨key, hkey, h⟩ := Except.of_bind_eq_ok h
    obtain ⟨t', ht', h⟩ := Except.of_bind_eq_ok h
    obtain ⟨rest, hrest, h⟩ := Except.of_bind_eq_ok h
    cases h
    obtain ⟨ts, hts, rfl⟩ := ih hrest
    refine ⟨(key, t') :: ts, .cons ⟨hkey, ht'⟩ hts, ?_⟩
    have hcolon : key ++ ": ".toList ++ t' = key ++ (':' :: ' ' :: t') :=
      List.append_assoc key _ t'
    rw [hcolon]
    cases first with
    | true => rfl
    | false => rfl

/-- Two lists that are related item by item are the halves of a list of related pairs. -/
theorem exists_pairs {α β γ : Type} (R : α → β → Prop) (f : γ → β) {cs : List γ} {as : List α}
    (h : List.Forall₂ (fun c a => R a (f c)) cs as) :
    ∃ l : List (α × β), (∀ e ∈ l, R e.1 e.2) ∧ l.map Prod.fst = as ∧ l.map Prod.snd = cs.map f := by
  induction h with
  | nil => exact ⟨[], fun e he => absurd he List.not_mem_nil, rfl, rfl⟩
  | @cons c a cs as hca _ ih =>
    obtain ⟨l, hl, rfl, hsnd⟩ := ih
    exact ⟨(a, f c) :: l, List.forall_mem_cons.mpr ⟨hca, hl⟩, rfl, by simp [hsnd]⟩

section

variable {w : SerdeWriter}

/-- Whatever the value is written as is read as its event. -/
def ReadAsWritten (w : SerdeWriter) (py : Inspection Ref) (float : List Char → F64)
    (v : PyVal Ref) : Prop :=
  ∀ depth t, writePyJson w.toSerdeJson py v depth = .ok t →
    SerdeText float t (eventOf w.toSerdeJson float v)

theorem writeStr_plain {s : PyStr} {t : List Char}
    (h : writeStr w.toSerdeJson s = (.ok t : Except (PyErr Ref) (List Char))) :
    PlainToken t s.text := by
  obtain ⟨text, htext, ht⟩ := Except.of_bind_eq_ok h
  cases ht
  unfold PyStr.toStr at htext
  split at htext
  · cases htext
  · cases htext
    exact w.str_plain _

theorem writeKey_plain {k : PyVal Ref} {t : List Char}
    (h : writeKey w.toSerdeJson k = .ok t) : PlainToken t (keyText k) := by
  cases k with
  | str s =>
    have hstr : writeStr w.toSerdeJson s = (.ok t : Except (PyErr Ref) (List Char)) := h
    exact writeStr_plain hstr
  | _ => cases h

theorem writeItems_text {items : List (PyVal Ref)} (ih : ∀ v ∈ items, ReadAsWritten w py float v)
    {depth : ℕ} {t : List Char} (h : writeItems w.toSerdeJson py items true depth = .ok t) :
    SerdeText float ('[' :: (t ++ [']'])) (.seq (eventItems w.toSerdeJson float items)) := by
  obtain ⟨ts, hts, rfl⟩ := writeItems_pieces h
  have htexts : List.Forall₂ (fun v t => SerdeText float t (eventOf w.toSerdeJson float v))
      items ts :=
    ((List.forall₂_and_left _ _).mpr ⟨ih, hts⟩).imp fun v t h => h.1 depth t h.2
  obtain ⟨l, hl, rfl, hevents⟩ := exists_pairs _ (eventOf w.toSerdeJson float) htexts
  rw [eventItems_eq, ← hevents]
  exact .seq hl

theorem writeEntries_text {entries : List (PyVal Ref × PyVal Ref)}
    (ih : ∀ e ∈ entries, ReadAsWritten w py float e.2) {depth : ℕ} {t : List Char}
    (h : writeEntries w.toSerdeJson py entries true depth = .ok t) :
    SerdeText float ('{' :: (t ++ ['}'])) (.map (eventEntries w.toSerdeJson float entries)) := by
  obtain ⟨ts, hts, rfl⟩ := writeEntries_pieces h
  have htexts : List.Forall₂ (fun e t => PlainToken t.1 (keyText e.1) ∧
      SerdeText float t.2 (eventOf w.toSerdeJson float e.2)) entries ts :=
    ((List.forall₂_and_left _ _).mpr ⟨ih, hts⟩).imp fun e t h =>
      ⟨writeKey_plain h.2.1, h.1 depth t.2 h.2.2⟩
  obtain ⟨l, hl, rfl, hevents⟩ := exists_pairs
    (fun (t : List Char × List Char) (e : String × SerdeEvent) =>
      PlainToken t.1 e.1 ∧ SerdeText float t.2 e.2)
    (fun e : PyVal Ref × PyVal Ref => (keyText e.1, eventOf w.toSerdeJson float e.2)) htexts
  rw [eventEntries_eq, ← hevents]
  have hmap := SerdeText.map (fun e he => (hl e he).1) fun e he => (hl e he).2
  rwa [List.map_map]

/-- A written value is read as its event. -/
theorem readAsWritten {v : PyVal Ref} (hdoubles : Doubles v) : ReadAsWritten w py float v := by
  have hguard {depth : ℕ} {err : PyErr Ref} {x : Except (PyErr Ref) (List Char)} {t : List Char}
      (h : (if depth > 128 then .error err else x) = .ok t) : x = .ok t := by
    split at h
    · cases h
    · exact h
  induction v using PyVal.inductionOn with
  | none =>
    intro depth t h
    cases hguard h
    exact .null
  | bool b =>
    intro depth t h
    cases hguard h
    cases b with
    | true => exact .bool true
    | false => exact .bool false
  | int n =>
    intro depth t h
    have ht : writeInt n = (.ok t : Except (PyErr Ref) (List Char)) := hguard h
    have hchars : t = Decimal.intChars n := by
      unfold writeInt at ht
      split at ht
      · exact (Except.ok.inj ht).symm
      split at ht
      · exact (Except.ok.inj ht).symm
      split at ht
      · exact (Except.ok.inj ht).symm
      · cases ht
    rw [hchars]
    exact .int n
  | float x =>
    intro depth t h
    have ht : writeFloat w.toSerdeJson x = (.ok t : Except (PyErr Ref) (List Char)) := hguard h
    cases x with
    | finite q =>
      cases ht
      exact .float (w.float_token q (hdoubles 0 q (.root _)))
    | nan => cases ht
    | inf neg => cases ht
  | str s =>
    intro depth t h
    exact .str (writeStr_plain (hguard h))
  | bytes b =>
    intro depth t h
    cases hguard h
  | list items ih =>
    intro depth t h
    obtain ⟨text, htext, ht⟩ := Except.of_bind_eq_ok (hguard h)
    cases ht
    exact writeItems_text
      (fun v hv => ih v hv fun d q hq => hdoubles (d + 1) q (.list hv hq)) htext
  | tuple items ih =>
    intro depth t h
    obtain ⟨text, htext, ht⟩ := Except.of_bind_eq_ok (hguard h)
    cases ht
    exact writeItems_text
      (fun v hv => ih v hv fun d q hq => hdoubles (d + 1) q (.tuple hv hq)) htext
  | dict entries ih =>
    intro depth t h
    obtain ⟨text, htext, ht⟩ := Except.of_bind_eq_ok (hguard h)
    cases ht
    exact writeEntries_text
      (fun e he => ih e he fun d q hq => hdoubles (d + 1) q (.dict he hq)) htext
  | response body status headers cookies =>
    intro depth t h
    cases hguard h
  | object r =>
    intro depth t h
    cases hguard h

end

-- ════════════════════════════════════════════════════════════════════════
-- What the reader takes
-- ════════════════════════════════════════════════════════════════════════

theorem readable_intEvent {n : ℕ} {i : ℤ} : (intEvent float i).readable n = true ↔
    FitsI64 i ∨ FitsU64 i ∨ isFinite (float (Decimal.intChars i)) = true := by
  unfold intEvent
  split
  · next h => exact ⟨fun _ => .inr (.inl h), fun _ => rfl⟩
  · next hu64 =>
    split
    · next h => exact ⟨fun _ => .inl h, fun _ => rfl⟩
    · next hi64 =>
      show isFinite _ = true ↔ _
      simp only [hi64, hu64, false_or]

/-- The event of a value is within the limits exactly if every element is. -/
theorem readable_eventOf (v : PyVal Ref) (n : ℕ) :
    (eventOf w float v).readable n = true ↔
      ∀ d e, v.Element d e → TakenAlone w float n d e := by
  -- a value without items is its own only element
  have halone {v : PyVal Ref} {n : ℕ} (hv : ∀ d e, v.Element d e → d = 0 ∧ e = v)
      (h : (eventOf w float v).readable n = true ↔ TakenAlone w float n 0 v) :
      (eventOf w float v).readable n = true ↔
        ∀ d e, v.Element d e → TakenAlone w float n d e :=
    h.trans (element_alone_iff hv).symm
  -- one level deeper there is one level less
  have hdeeper {v : PyVal Ref} {n : ℕ} (hn : 1 < n)
      (ih : ∀ n, (eventOf w float v).readable n = true ↔
        ∀ d e, v.Element d e → TakenAlone w float n d e) :
      (eventOf w float v).readable (n - 1) = true ↔
        ∀ d e, v.Element d e → TakenAlone w float n (d + 1) e := by
    rw [ih (n - 1)]
    refine forall₂_congr fun d e => imp_congr_right fun _ => ?_
    have hlevel : d + 1 < n - 1 ↔ d + 1 + 1 < n := by omega
    cases e <;> simp only [TakenAlone, hlevel]
  induction v using PyVal.inductionOn generalizing n with
  | none =>
    exact halone (fun d e he => by cases he; exact ⟨rfl, rfl⟩) ⟨fun _ => trivial, fun _ => rfl⟩
  | bool b =>
    exact halone (fun d e he => by cases he; exact ⟨rfl, rfl⟩) ⟨fun _ => trivial, fun _ => rfl⟩
  | int i => exact halone (fun d e he => by cases he; exact ⟨rfl, rfl⟩) readable_intEvent
  | float x =>
    refine halone (fun d e he => by cases he; exact ⟨rfl, rfl⟩) ?_
    cases x with
    | finite q => exact ⟨fun h q' hq => F64.finite.inj hq ▸ h, fun h => h q rfl⟩
    | nan => exact ⟨fun _ q hq => absurd hq (by rintro ⟨⟩), fun _ => rfl⟩
    | inf neg => exact ⟨fun _ q hq => absurd hq (by rintro ⟨⟩), fun _ => rfl⟩
  | str s =>
    exact halone (fun d e he => by cases he; exact ⟨rfl, rfl⟩) ⟨fun _ => trivial, fun _ => rfl⟩
  | bytes b =>
    exact halone (fun d e he => by cases he; exact ⟨rfl, rfl⟩) ⟨fun _ => trivial, fun _ => rfl⟩
  | list items ih =>
    rw [element_list_iff]
    show (decide (1 < n) && readableSeq (n - 1) (eventItems w float items)) = true ↔
      0 + 1 < n ∧ _
    rw [Bool.and_eq_true, decide_eq_true_iff, readableSeq_iff, eventItems_eq, List.forall_mem_map]
    refine and_congr_right fun hn => forall₂_congr fun v hv => hdeeper hn (ih v hv)
  | tuple items ih =>
    rw [element_tuple_iff]
    show (decide (1 < n) && readableSeq (n - 1) (eventItems w float items)) = true ↔
      0 + 1 < n ∧ _
    rw [Bool.and_eq_true, decide_eq_true_iff, readableSeq_iff, eventItems_eq, List.forall_mem_map]
    refine and_congr_right fun hn => forall₂_congr fun v hv => hdeeper hn (ih v hv)
  | dict entries ih =>
    rw [element_dict_iff]
    show (decide (1 < n) && readableMap (n - 1) (eventEntries w float entries)) = true ↔
      0 + 1 < n ∧ _
    rw [Bool.and_eq_true, decide_eq_true_iff, readableMap_iff, eventEntries_eq, List.forall_mem_map]
    refine and_congr_right fun hn => forall₂_congr fun e he => hdeeper hn (ih e he)
  | response body status headers cookies =>
    exact halone (fun d e he => by cases he; exact ⟨rfl, rfl⟩) ⟨fun _ => trivial, fun _ => rfl⟩
  | object r =>
    exact halone (fun d e he => by cases he; exact ⟨rfl, rfl⟩) ⟨fun _ => trivial, fun _ => rfl⟩

-- ════════════════════════════════════════════════════════════════════════
-- What comes back
-- ════════════════════════════════════════════════════════════════════════

theorem visit_intEvent (n : ℤ) : (visit (intEvent float n) : PyVal Ref) =
    if FitsI64 n ∨ FitsU64 n then .int n else .float (float (Decimal.intChars n)) := by
  unfold intEvent
  split
  · next h =>
    rw [if_pos (.inr h), visit, Int.toNat_of_nonneg h.1]
  · next hu64 =>
    split
    · next h => rw [if_pos (.inl h), visit]
    · next hi64 => rw [if_neg (not_or.mpr ⟨hi64, hu64⟩), visit]

/-- The visitor builds the reread value from the events of a value that was written. -/
theorem visit_eventOf {v : PyVal Ref} (hwrites : ∀ d e, v.Element d e → WritesAlone e)
    (hkeys : DistinctKeys v) : visit (eventOf w float v) = reread w float v := by
  induction v using PyVal.inductionOn with
  | none => rfl
  | bool b => rfl
  | int n => exact visit_intEvent n
  | float x =>
    obtain ⟨q, rfl⟩ := hwrites 0 _ (.root _)
    rfl
  | str s =>
    obtain ⟨text, surrogates⟩ := s
    obtain rfl : surrogates = false := hwrites 0 _ (.root _)
    rfl
  | bytes b => exact (hwrites 0 _ (.root _)).elim
  | list items ih =>
    have hitems : items.map (visit ∘ eventOf w float) = items.map (reread w float) :=
      List.map_congr_left fun v hv => ih v hv (fun d e he => hwrites _ e (.list hv he))
        fun d entries he => hkeys _ entries (.list hv he)
    rw [eventOf, visit, visitSeq_eq, List.nil_append, eventItems_eq, List.map_map, hitems, reread,
      rereadItems_eq]
  | tuple items ih =>
    have hitems : items.map (visit ∘ eventOf w float) = items.map (reread w float) :=
      List.map_congr_left fun v hv => ih v hv (fun d e he => hwrites _ e (.tuple hv he))
        fun d entries he => hkeys _ entries (.tuple hv he)
    rw [eventOf, visit, visitSeq_eq, List.nil_append, eventItems_eq, List.map_map, hitems, reread,
      rereadItems_eq]
  | dict entries ih =>
    have hnodup := hkeys 0 entries (.root _)
    have hmembers : ((entries.map fun e => (keyText e.1, eventOf w float e.2)).map
        fun e => (e.1, (visit e.2 : PyVal Ref))) =
        entries.map fun e => (keyText e.1, reread w float e.2) := by
      rw [List.map_map]
      exact List.map_congr_left fun e he => congrArg (Prod.mk _)
        (ih e he (fun d e' he' => hwrites _ e' (.dict he he'))
          fun d entries' he' => hkeys _ entries' (.dict he he'))
    have hentries : (Dict.empty.setAll
        (entries.map fun e => (keyText e.1, reread w float e.2))).entries =
        entries.map fun e => (keyText e.1, reread w float e.2) :=
      Dict.entries_ofList_of_nodup (by rwa [List.map_map])
    rw [eventOf, visit, visitMap_eq, eventEntries_eq, hmembers, pyEntries, hentries, List.map_map,
      reread, rereadEntries_eq]
    refine congrArg PyVal.dict (List.map_congr_left fun e he => ?_)
    obtain ⟨k, hk⟩ := hwrites 0 _ (.root _) e he
    rw [Function.comp_apply, hk]
    rfl
  | response body status headers cookies => exact (hwrites 0 _ (.root _)).elim
  | object r => exact (hwrites 0 _ (.root _)).elim

theorem map_eq_self_iff {α : Type} {f : α → α} {l : List α} :
    l.map f = l ↔ ∀ a ∈ l, f a = a := by
  have h : l.map f = l.map id ↔ ∀ a ∈ l, f a = id a := List.map_inj_left
  rwa [List.map_id] at h

/-- A value is its reread value exactly if every element is kept. -/
theorem reread_eq_self_iff (v : PyVal Ref) :
    reread w float v = v ↔ ∀ d e, v.Element d e → KeptAlone w float e := by
  have halone {v : PyVal Ref} (hv : ∀ d e, v.Element d e → d = 0 ∧ e = v)
      (h : reread w float v = v ↔ KeptAlone w float v) :
      reread w float v = v ↔ ∀ d e, v.Element d e → KeptAlone w float e :=
    h.trans (element_alone_iff hv (Q := fun _ => KeptAlone w float)).symm
  induction v using PyVal.inductionOn with
  | none =>
    exact halone (fun d e he => by cases he; exact ⟨rfl, rfl⟩) ⟨fun _ => trivial, fun _ => rfl⟩
  | bool b =>
    exact halone (fun d e he => by cases he; exact ⟨rfl, rfl⟩) ⟨fun _ => trivial, fun _ => rfl⟩
  | int n =>
    refine halone (fun d e he => by cases he; exact ⟨rfl, rfl⟩) ?_
    rw [reread]
    split
    · next h => exact ⟨fun _ => h, fun _ => rfl⟩
    · next h => exact ⟨fun heq => absurd heq (by rintro ⟨⟩), fun hkept => absurd hkept h⟩
  | float x =>
    refine halone (fun d e he => by cases he; exact ⟨rfl, rfl⟩) ?_
    cases x with
    | finite q =>
      constructor
      · intro h q' hq
        cases hq
        exact PyVal.float.inj h
      · exact fun h => congrArg PyVal.float (h q rfl)
    | nan => exact ⟨fun _ q hq => absurd hq (by rintro ⟨⟩), fun _ => rfl⟩
    | inf neg => exact ⟨fun _ q hq => absurd hq (by rintro ⟨⟩), fun _ => rfl⟩
  | str s =>
    exact halone (fun d e he => by cases he; exact ⟨rfl, rfl⟩) ⟨fun _ => trivial, fun _ => rfl⟩
  | bytes b =>
    exact halone (fun d e he => by cases he; exact ⟨rfl, rfl⟩) ⟨fun _ => trivial, fun _ => rfl⟩
  | list items ih =>
    rw [element_list_iff (Q := fun _ => KeptAlone w float), reread, rereadItems_eq,
      PyVal.list.injEq, map_eq_self_iff]
    exact (forall₂_congr fun v hv => ih v hv).trans ⟨fun h => ⟨trivial, h⟩, And.right⟩
  | tuple items ih =>
    refine iff_of_false ?_ fun h => h 0 _ (.root _)
    rw [reread]
    rintro ⟨⟩
  | dict entries ih =>
    rw [element_dict_iff (Q := fun _ => KeptAlone w float), reread, rereadEntries_eq,
      PyVal.dict.injEq, map_eq_self_iff]
    have hentry (e : PyVal Ref × PyVal Ref) : (e.1, reread w float e.2) = e ↔
        reread w float e.2 = e.2 := ⟨congrArg Prod.snd, fun h => Prod.ext rfl h⟩
    refine (forall₂_congr fun e he => (hentry e).trans (ih e he)).trans ?_
    exact ⟨fun h => ⟨trivial, h⟩, And.right⟩
  | response body status headers cookies =>
    exact halone (fun d e he => by cases he; exact ⟨rfl, rfl⟩) ⟨fun _ => trivial, fun _ => rfl⟩
  | object r =>
    exact halone (fun d e he => by cases he; exact ⟨rfl, rfl⟩) ⟨fun _ => trivial, fun _ => rfl⟩

/-- The reader takes what was written if the limits allow its event. -/
theorem jsonBytesToPy_of_written {w : SerdeWriter} {r : SerdeReader} {py : Inspection Ref}
    {v : PyVal Ref} (hdoubles : Doubles v) (hkeys : DistinctKeys v) {bytes : List UInt8}
    (h : pyToJsonBytes w.toSerdeJson py v = .ok bytes) :
    (jsonBytesToPy r bytes : Option (PyVal Ref)) =
      if (eventOf w.toSerdeJson r.float v).readable 128 then
        some (reread w.toSerdeJson r.float v) else none := by
  obtain ⟨t, ht, hbytes⟩ := Except.of_bind_eq_ok h
  cases hbytes
  have hwrites : ∀ d e, v.Element d e → WritesAlone e := fun d e he =>
    ((writePyJson_iff v 0).mp ⟨t, ht⟩ d e he).2
  have htext : SerdeText r.float (String.ofList t).toList (eventOf w.toSerdeJson r.float v) := by
    rw [String.toList_ofList]
    exact readAsWritten hdoubles 0 t ht
  rw [jsonBytesToPy, r.parse_text htext]
  split
  · rw [Option.map_some, visit_eventOf hwrites hkeys]
  · rfl

/-- **What is written and read again.** A value that was written comes back exactly if no list,
tuple or dict in it is deeper than 126 and no number in it overflows; what comes back is the value
with tuples as lists and numbers as they are converted; and it is the value itself exactly if, in
addition, it has no tuple, its integers have 64 bits and its floats are converted exactly. -/
theorem jsonBytesToPy_pyToJsonBytes (w : SerdeWriter) (r : SerdeReader) (py : Inspection Ref)
    (v : PyVal Ref) (hdoubles : Doubles v) (hkeys : DistinctKeys v) {bytes : List UInt8}
    (h : pyToJsonBytes w.toSerdeJson py v = .ok bytes) :
    ((∃ v' : PyVal Ref, jsonBytesToPy r bytes = some v') ↔
      ∀ d e, v.Element d e → TakenAlone w.toSerdeJson r.float 128 d e) ∧
    (∀ v', jsonBytesToPy r bytes = some v' → v' = reread w.toSerdeJson r.float v) ∧
    (jsonBytesToPy r bytes = some v ↔ ∀ d e, v.Element d e →
      TakenAlone w.toSerdeJson r.float 128 d e ∧ KeptAlone w.toSerdeJson r.float e) := by
  have htaken : (eventOf w.toSerdeJson r.float v).readable 128 = true ↔
      ∀ d e, v.Element d e → TakenAlone w.toSerdeJson r.float 128 d e := readable_eventOf v 128
  rw [jsonBytesToPy_of_written hdoubles hkeys h, ← htaken]
  by_cases hreadable : (eventOf w.toSerdeJson r.float v).readable 128 = true
  · rw [if_pos hreadable]
    refine ⟨⟨fun _ => hreadable, fun _ => ⟨_, rfl⟩⟩, fun v' hv' => (Option.some.inj hv').symm, ?_⟩
    rw [Option.some.injEq, reread_eq_self_iff]
    exact forall₃_congr fun d e he => ⟨fun hkept => ⟨htaken.mp hreadable d e he, hkept⟩, And.right⟩
  · rw [if_neg hreadable]
    refine ⟨iff_of_false (by rintro ⟨v', ⟨⟩⟩) hreadable, by rintro v' ⟨⟩, ?_⟩
    exact iff_of_false (by rintro ⟨⟩) fun hall =>
      hreadable (htaken.mpr fun d e he => (hall d e he).1)

-- ════════════════════════════════════════════════════════════════════════
-- A reader that converts numbers exactly
-- ════════════════════════════════════════════════════════════════════════

/-- The double nearest to a number. -/
def nearest (t : List Char) : F64 :=
  match number t with
  | some (.float x) => x
  | some (.int n) => F64.ofRat n
  | _ => .nan

mutual

/-- The calls of the visitor for a JSON value. -/
def jsonEvent : Json → SerdeEvent
  | .null => .unit
  | .bool b => .bool b
  | .int n => intEvent nearest n
  | .float x => .f64 x
  | .str s => .str s
  | .arr a => .seq (jsonEvents a)
  | .obj o => .map (memberEvents o)

def jsonEvents : List Json → List SerdeEvent
  | [] => []
  | j :: a => jsonEvent j :: jsonEvents a

def memberEvents : List (String × Json) → List (String × SerdeEvent)
  | [] => []
  | (k, j) :: o => (k, jsonEvent j) :: memberEvents o

end

theorem jsonEvents_eq (a : List Json) : jsonEvents a = a.map jsonEvent := by
  induction a with
  | nil => rfl
  | cons j a ih => rw [jsonEvents, ih, List.map_cons]

theorem memberEvents_eq (o : List (String × Json)) :
    memberEvents o = o.map fun e => (e.1, jsonEvent e.2) := by
  induction o with
  | nil => rfl
  | cons e o ih => rw [memberEvents, ih, List.map_cons]

instance : Nonempty Json := ⟨.null⟩

/-- The text of an event is a JSON text of the value with this event. -/
theorem SerdeText.spells {t : List Char} {e : SerdeEvent} (h : SerdeText nearest t e) :
    ∃ j, Spells readValue t j ∧ jsonEvent j = e := by
  induction h with
  | null => exact ⟨_, spells_null, rfl⟩
  | bool b => exact ⟨_, spells_bool b, rfl⟩
  | int n => exact ⟨_, spells_number (number_intChars n), rfl⟩
  | @float t q h =>
    refine ⟨_, spells_number h, ?_⟩
    rw [jsonEvent, nearest, h]
  | str h => exact ⟨_, spells_str h.stringToken, rfl⟩
  | @seq l _ ih =>
    choose! j hj using ih
    have hspells := spells_arr (l := l.map fun e => (e.1, j e))
      (List.forall_mem_map.mpr fun e he => (hj e he).1)
    rw [List.map_map, List.map_map] at hspells
    refine ⟨_, hspells, ?_⟩
    rw [jsonEvent, jsonEvents_eq, List.map_map]
    exact congrArg SerdeEvent.seq (List.map_congr_left fun e he => (hj e he).2)
  | @map l hkeys _ ih =>
    choose! j hj using ih
    have hspells := spells_obj
      (l := l.map fun e => (e.1.1 ++ (':' :: ' ' :: e.1.2), (e.2.1, j e)))
      (List.forall_mem_map.mpr fun e he =>
        spells_member (hkeys e he).stringToken (hj e he).1)
    rw [List.map_map, List.map_map] at hspells
    refine ⟨_, hspells, ?_⟩
    rw [jsonEvent, memberEvents_eq, List.map_map]
    exact congrArg SerdeEvent.map (List.map_congr_left fun e he =>
      congrArg (Prod.mk _) (hj e he).2)

open Classical in
/-- The reader that takes what is a JSON text within the limits. -/
noncomputable def SerdeReader.exact : SerdeReader where
  parse bytes :=
    if h : ∃ j, BytesDenote bytes j then
      if (jsonEvent h.choose).readable 128 then some (jsonEvent h.choose) else none
    else none
  float := nearest
  parse_text {s e} he := by
    obtain ⟨j, hj, rfl⟩ := he.spells
    have hdenotes : BytesDenote (utf8 s) j := ⟨s, rfl, hj.denotes⟩
    have hexists : ∃ j, BytesDenote (utf8 s) j := ⟨j, hdenotes⟩
    rw [dif_pos hexists, hexists.choose_spec.unique hdenotes]

/-- The writer that escapes what has to be. -/
def SerdeWriter.exact : SerdeWriter where
  toSerdeJson := SerdeJson.exact
  str_plain := plainToken_quote

/-- A record with a list in it. -/
def sampleRecord : PyVal String :=
  .dict [(.text "id", .list [.int 1, .bool true]), (.text "name", .text "oxy")]

/-- The elements of the record. -/
theorem sampleRecord_elements {Q : ℕ → PyVal String → Prop} (hdict : Q 0 sampleRecord)
    (hlist : Q 1 (.list [.int 1, .bool true])) (hint : Q 2 (.int 1)) (hbool : Q 2 (.bool true))
    (hstr : Q 1 (.text "oxy")) : ∀ d e, sampleRecord.Element d e → Q d e := by
  refine element_dict_iff.mpr ⟨hdict, List.forall_mem_cons.mpr ⟨?_, ?_⟩⟩
  · refine element_list_iff.mpr ⟨hlist, List.forall_mem_cons.mpr ⟨?_, ?_⟩⟩
    · exact (element_alone_iff fun d e he => by cases he; exact ⟨rfl, rfl⟩).mpr hint
    · refine List.forall_mem_singleton.mpr ?_
      exact (element_alone_iff fun d e he => by cases he; exact ⟨rfl, rfl⟩).mpr hbool
  · refine List.forall_mem_singleton.mpr ?_
    exact (element_alone_iff fun d e he => by cases he; exact ⟨rfl, rfl⟩).mpr hstr

theorem sampleRecord_returns : ∃ bytes,
    pyToJsonBytes .exact (plainRuntime segmentMatcher).toInspection sampleRecord = .ok bytes ∧
      jsonBytesToPy .exact bytes = some sampleRecord := by
  have hdoubles : Doubles sampleRecord := by
    have hall : ∀ d e, sampleRecord.Element d e → ∀ q, e = .float (.finite q) →
        F64.ofRat q = .finite q :=
      sampleRecord_elements (by rintro q ⟨⟩) (by rintro q ⟨⟩) (by rintro q ⟨⟩) (by rintro q ⟨⟩)
        (by rintro q ⟨⟩)
    exact fun d q h => hall d _ h q rfl
  have hkeys : DistinctKeys sampleRecord := by
    have hall : ∀ d e, sampleRecord.Element d e → ∀ entries, e = .dict entries →
        (entries.map fun e => keyText e.1).Nodup :=
      sampleRecord_elements (by rintro entries ⟨⟩; decide) (by rintro q ⟨⟩) (by rintro q ⟨⟩)
        (by rintro q ⟨⟩) (by rintro q ⟨⟩)
    exact fun d entries h => hall d _ h entries rfl
  have hwritten : ∃ t, writePyJson SerdeJson.exact (plainRuntime segmentMatcher).toInspection
      sampleRecord 0 = .ok t := by
    refine (writePyJson_iff _ _).mpr (sampleRecord_elements ⟨by decide, ?_⟩ ⟨by decide, trivial⟩
      ⟨by decide, .inl (by decide)⟩ ⟨by decide, trivial⟩ ⟨by decide, rfl⟩)
    exact List.forall_mem_cons.mpr ⟨⟨_, rfl⟩, List.forall_mem_singleton.mpr ⟨_, rfl⟩⟩
  obtain ⟨t, ht⟩ := hwritten
  have hbytes : pyToJsonBytes SerdeJson.exact (plainRuntime segmentMatcher).toInspection
      sampleRecord = .ok (utf8 (String.ofList t)) := by
    rw [pyToJsonBytes, ht]
    rfl
  refine ⟨_, hbytes, ?_⟩
  apply (jsonBytesToPy_pyToJsonBytes .exact .exact _ sampleRecord hdoubles hkeys hbytes).2.2.mpr
  have hroot : 0 + 1 < 128 := by decide
  have hnext : 1 + 1 < 128 := by decide
  refine sampleRecord_elements ⟨hroot, trivial⟩ ⟨hnext, trivial⟩ ⟨?_, ?_⟩ ⟨trivial, trivial⟩
    ⟨trivial, trivial⟩
  · exact .inl (by decide)
  · exact .inl (by decide)

end OxyRoute
