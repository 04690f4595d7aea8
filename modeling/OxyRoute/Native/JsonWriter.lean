import OxyRoute.Lib.JsonText
import OxyRoute.Native.Dispatch

/-!
# JSON texts of Python values

The serializer for what handlers return. It writes the built-in types, containers with their
items in order, and refuses what has no exact JSON text and what is nested too deeply.

## Main definitions

- `writePyJson`, `pyToJsonBytes` — the serializer
- `PyVal.Element` — what a value is made of, and at which depth
- `WritesAlone` — what the serializer takes, apart from what is in it
- `jsonOf` — the JSON value of a Python value

## Main results

- `pyToJsonBytes_spec` — what is written, and that it is read as the value
-/

namespace OxyRoute

open JsonText

variable {Ref : Type}

/-- What `serde_json` writes for a `str` and for a finite `f64`: a token that denotes it. -/
structure SerdeJson where
  str : String → List Char
  float : ℚ → List Char
  str_token : ∀ s, StringToken (str s) s
  float_token : ∀ q, F64.ofRat q = .finite q → number (float q) = some (.float (.finite q))

/-- Writers that leave no character unescaped that has to be, and no digit out. -/
def SerdeJson.exact : SerdeJson where
  str := quote
  float := doubleChars
  str_token := stringToken_quote
  float_token _ h := number_doubleChars h

/-- `extract::<i64>` succeeds. -/
def FitsI64 (n : ℤ) : Prop := -(2 ^ 63) ≤ n ∧ n < 2 ^ 63

/-- `extract::<u64>` succeeds. -/
def FitsU64 (n : ℤ) : Prop := 0 ≤ n ∧ n < 2 ^ 64

/-- `extract::<i128>` succeeds. -/
def FitsI128 (n : ℤ) : Prop := -(2 ^ 127) ≤ n ∧ n < 2 ^ 127

instance (n : ℤ) : Decidable (FitsI64 n) := inferInstanceAs (Decidable (_ ∧ _))

instance (n : ℤ) : Decidable (FitsU64 n) := inferInstanceAs (Decidable (_ ∧ _))

instance (n : ℤ) : Decidable (FitsI128 n) := inferInstanceAs (Decidable (_ ∧ _))

/-- An integer. -/
def writeInt (n : ℤ) : Except (PyErr Ref) (List Char) :=
  if FitsI64 n then .ok (Decimal.intChars n)
  else if FitsU64 n then .ok (Decimal.intChars n)
  else if FitsI128 n then .ok (Decimal.intChars n)
  else .error (.valueError "integer exceeds 128-bit range for native JSON")

section

variable (w : SerdeJson) (py : Inspection Ref)

/-- A float. -/
def writeFloat : F64 → Except (PyErr Ref) (List Char)
  | .finite q => .ok (w.float q)
  | _ => .error (.valueError "non-finite float in JSON")

/-- A string. -/
def writeStr (s : PyStr) : Except (PyErr Ref) (List Char) := do return w.str (← s.toStr)

/-- The key of a dict entry. -/
def writeKey : PyVal Ref → Except (PyErr Ref) (List Char)
  | .str s => writeStr w s
  | _ => .error (.typeError "JSON dict key must be str")

mutual

/-- `write_py_json`. -/
def writePyJson (obj : PyVal Ref) (depth : ℕ) : Except (PyErr Ref) (List Char) :=
  if depth > 128 then .error (.valueError "maximum JSON nesting depth exceeded")
  else
    match obj with
    | .none => .ok "null".toList
    | .bool b => .ok (if b then "true".toList else "false".toList)
    | .int n => writeInt n
    | .float x => writeFloat w x
    | .str s => writeStr w s
    | .dict entries => do
      return '{' :: ((← writeEntries entries true (depth + 1)) ++ ['}'])
    | .list items => do return '[' :: ((← writeItems items true (depth + 1)) ++ [']'])
    | .tuple items => do return '[' :: ((← writeItems items true (depth + 1)) ++ [']'])
    | v => .error (.typeError
        ("unsupported type for native JSON serialization: " ++ v.typeName py))

/-- The loop over the items of a list or tuple. -/
def writeItems : List (PyVal Ref) → Bool → ℕ → Except (PyErr Ref) (List Char)
  | [], _, _ => .ok []
  | v :: items, first, depth => do
    let t ← writePyJson v depth
    return (if first then [] else ", ".toList) ++ (t ++ (← writeItems items false depth))

/-- The loop over the entries of a dict. -/
def writeEntries : List (PyVal Ref × PyVal Ref) → Bool → ℕ → Except (PyErr Ref) (List Char)
  | [], _, _ => .ok []
  | (k, v) :: entries, first, depth => do
    let key ← writeKey w k
    let t ← writePyJson v depth
    return (if first then [] else ", ".toList) ++
      (key ++ ": ".toList ++ t ++ (← writeEntries entries false depth))

end

/-- `py_to_json_bytes`. -/
def pyToJsonBytes (obj : PyVal Ref) : Except (PyErr Ref) (List UInt8) := do
  return utf8 (String.ofList (← writePyJson w py obj 0))

end

-- ════════════════════════════════════════════════════════════════════════
-- Elements
-- ════════════════════════════════════════════════════════════════════════

/-- The value, the items of a list or tuple in it and the values of a dict in it, each with its
depth. -/
inductive PyVal.Element : PyVal Ref → ℕ → PyVal Ref → Prop
  | root (v : PyVal Ref) : Element v 0 v
  | list {items v d e} : v ∈ items → Element v d e → Element (.list items) (d + 1) e
  | tuple {items v d e} : v ∈ items → Element v d e → Element (.tuple items) (d + 1) e
  | dict {entries k v d e} : (k, v) ∈ entries → Element v d e → Element (.dict entries) (d + 1) e

/-- An element that is written if what is in it is: an integer in range, a finite float, a string
with a UTF-8 form, a dict whose keys are such strings, a list or tuple. -/
def WritesAlone : PyVal Ref → Prop
  | .int n => FitsI64 n ∨ FitsU64 n ∨ FitsI128 n
  | .float x => ∃ q, x = .finite q
  | .str s => s.surrogates = false
  | .dict entries => ∀ e ∈ entries, ∃ k, e.1 = .text k
  | .none | .bool _ | .list _ | .tuple _ => True
  | .bytes _ | .response .. | .object _ => False

/-- The text of a key. -/
def keyText : PyVal Ref → String
  | .str s => s.text
  | _ => ""

mutual

/-- The JSON value of a Python value; tuples are arrays. -/
def jsonOf : PyVal Ref → Json
  | .bool b => .bool b
  | .int n => .int n
  | .float x => .float x
  | .str s => .str s.text
  | .list items => .arr (jsonItems items)
  | .tuple items => .arr (jsonItems items)
  | .dict entries => .obj (jsonMembers entries)
  | _ => .null

def jsonItems : List (PyVal Ref) → List Json
  | [] => []
  | v :: items => jsonOf v :: jsonItems items

def jsonMembers : List (PyVal Ref × PyVal Ref) → List (String × Json)
  | [] => []
  | (k, v) :: entries => (keyText k, jsonOf v) :: jsonMembers entries

end

/-- What is shown of the items of a container may be used for the container. -/
@[elab_as_elim]
theorem PyVal.inductionOn {P : PyVal Ref → Prop} (v : PyVal Ref) (none : P .none)
    (bool : ∀ b, P (.bool b)) (int : ∀ n, P (.int n)) (float : ∀ x, P (.float x))
    (str : ∀ s, P (.str s)) (bytes : ∀ b, P (.bytes b))
    (list : ∀ items, (∀ v ∈ items, P v) → P (.list items))
    (tuple : ∀ items, (∀ v ∈ items, P v) → P (.tuple items))
    (dict : ∀ entries, (∀ e ∈ entries, P e.2) → P (.dict entries))
    (response : ∀ body status headers cookies, P (.response body status headers cookies))
    (object : ∀ r, P (.object r)) : P v := by
  refine @PyVal.rec Ref P (fun items => ∀ v ∈ items, P v) (fun entries => ∀ e ∈ entries, P e.2)
    (fun e => P e.2) none bool int float str bytes list tuple dict
    (fun body status headers cookies _ _ _ _ => response body status headers cookies) object
    ?_ ?_ ?_ ?_ ?_ v
  · exact fun v hv => absurd hv List.not_mem_nil
  · exact fun v items hv hitems => List.forall_mem_cons.mpr ⟨hv, hitems⟩
  · exact fun e he => absurd he List.not_mem_nil
  · exact fun e entries he hentries => List.forall_mem_cons.mpr ⟨he, hentries⟩
  · exact fun k v _ hv => hv

variable {w : SerdeJson} {py : Inspection Ref}

-- ════════════════════════════════════════════════════════════════════════
-- What is taken
-- ════════════════════════════════════════════════════════════════════════

theorem exists_bind_ok_iff {ε α β : Type} {x : Except ε α} {f : α → β} :
    (∃ b, (do return f (← x) : Except ε β) = .ok b) ↔ ∃ a, x = .ok a := by
  cases x with
  | ok a => exact ⟨fun _ => ⟨a, rfl⟩, fun _ => ⟨f a, rfl⟩⟩
  | error e =>
    constructor
    · rintro ⟨b, ⟨⟩⟩
    · rintro ⟨a, ⟨⟩⟩

theorem writeInt_iff {n : ℤ} :
    (∃ t, writeInt n = (.ok t : Except (PyErr Ref) (List Char))) ↔
      FitsI64 n ∨ FitsU64 n ∨ FitsI128 n := by
  unfold writeInt
  split
  · next h => exact ⟨fun _ => .inl h, fun _ => ⟨_, rfl⟩⟩
  split
  · next h => exact ⟨fun _ => .inr (.inl h), fun _ => ⟨_, rfl⟩⟩
  split
  · next h => exact ⟨fun _ => .inr (.inr h), fun _ => ⟨_, rfl⟩⟩
  · next h64 hu64 h128 =>
    constructor
    · rintro ⟨t, ⟨⟩⟩
    · rintro (h | h | h)
      · exact absurd h h64
      · exact absurd h hu64
      · exact absurd h h128

theorem writeFloat_iff {x : F64} :
    (∃ t, writeFloat w x = (.ok t : Except (PyErr Ref) (List Char))) ↔ ∃ q, x = .finite q := by
  cases x with
  | finite q => exact ⟨fun _ => ⟨q, rfl⟩, fun _ => ⟨_, rfl⟩⟩
  | _ =>
    constructor
    · rintro ⟨t, ⟨⟩⟩
    · rintro ⟨q, ⟨⟩⟩

theorem writeStr_iff {s : PyStr} :
    (∃ t, writeStr w s = (.ok t : Except (PyErr Ref) (List Char))) ↔ s.surrogates = false := by
  unfold writeStr PyStr.toStr
  rw [exists_bind_ok_iff]
  cases s.surrogates with
  | false => exact ⟨fun _ => rfl, fun _ => ⟨_, rfl⟩⟩
  | true =>
    constructor
    · rintro ⟨t, ⟨⟩⟩
    · rintro ⟨⟩

theorem writeKey_iff {k : PyVal Ref} :
    (∃ t, writeKey w k = .ok t) ↔ ∃ s, k = .text s := by
  cases k with
  | str s =>
    have hstr : (∃ t, writeKey w (.str s : PyVal Ref) = .ok t) ↔ s.surrogates = false :=
      writeStr_iff
    rw [hstr]
    obtain ⟨text, surrogates⟩ := s
    constructor
    · rintro rfl
      exact ⟨text, rfl⟩
    · rintro ⟨k, hk⟩
      cases hk
      rfl
  | _ =>
    constructor
    · rintro ⟨t, ⟨⟩⟩
    · rintro ⟨s, ⟨⟩⟩

theorem writeItems_iff (items : List (PyVal Ref)) (first : Bool) {depth : ℕ} :
    (∃ t, writeItems w py items first depth = .ok t) ↔
      ∀ v ∈ items, ∃ t, writePyJson w py v depth = .ok t := by
  induction items generalizing first with
  | nil => exact ⟨fun _ v hv => absurd hv List.not_mem_nil, fun _ => ⟨[], rfl⟩⟩
  | cons v items ih =>
    rw [List.forall_mem_cons, ← ih false]
    constructor
    · rintro ⟨t, h⟩
      obtain ⟨t', ht', h⟩ := Except.of_bind_eq_ok h
      obtain ⟨t'', ht'', -⟩ := Except.of_bind_eq_ok h
      exact ⟨⟨t', ht'⟩, t'', ht''⟩
    · rintro ⟨⟨t', ht'⟩, t'', ht''⟩
      rw [writeItems, ht', ht'']
      exact ⟨_, rfl⟩

theorem writeEntries_iff (entries : List (PyVal Ref × PyVal Ref)) (first : Bool) {depth : ℕ} :
    (∃ t, writeEntries w py entries first depth = .ok t) ↔
      ∀ e ∈ entries, (∃ k, e.1 = .text k) ∧ ∃ t, writePyJson w py e.2 depth = .ok t := by
  induction entries generalizing first with
  | nil => exact ⟨fun _ e he => absurd he List.not_mem_nil, fun _ => ⟨[], rfl⟩⟩
  | cons e entries ih =>
    rw [List.forall_mem_cons, ← ih false, ← writeKey_iff (w := w)]
    constructor
    · rintro ⟨t, h⟩
      obtain ⟨key, hkey, h⟩ := Except.of_bind_eq_ok h
      obtain ⟨t', ht', h⟩ := Except.of_bind_eq_ok h
      obtain ⟨t'', ht'', -⟩ := Except.of_bind_eq_ok h
      exact ⟨⟨⟨key, hkey⟩, t', ht'⟩, t'', ht''⟩
    · rintro ⟨⟨⟨key, hkey⟩, t', ht'⟩, t'', ht''⟩
      rw [writeEntries, hkey, ht', ht'']
      exact ⟨_, rfl⟩

theorem element_list_iff {items : List (PyVal Ref)} {Q : ℕ → PyVal Ref → Prop} :
    (∀ d e, PyVal.Element (.list items) d e → Q d e) ↔
      Q 0 (.list items) ∧ ∀ v ∈ items, ∀ d e, PyVal.Element v d e → Q (d + 1) e := by
  constructor
  · exact fun h => ⟨h 0 _ (.root _), fun v hv d e he => h (d + 1) e (.list hv he)⟩
  · rintro ⟨hroot, hitems⟩ d e he
    cases he with
    | root => exact hroot
    | list hv he => exact hitems _ hv _ _ he

theorem element_tuple_iff {items : List (PyVal Ref)} {Q : ℕ → PyVal Ref → Prop} :
    (∀ d e, PyVal.Element (.tuple items) d e → Q d e) ↔
      Q 0 (.tuple items) ∧ ∀ v ∈ items, ∀ d e, PyVal.Element v d e → Q (d + 1) e := by
  constructor
  · exact fun h => ⟨h 0 _ (.root _), fun v hv d e he => h (d + 1) e (.tuple hv he)⟩
  · rintro ⟨hroot, hitems⟩ d e he
    cases he with
    | root => exact hroot
    | tuple hv he => exact hitems _ hv _ _ he

theorem element_dict_iff {entries : List (PyVal Ref × PyVal Ref)} {Q : ℕ → PyVal Ref → Prop} :
    (∀ d e, PyVal.Element (.dict entries) d e → Q d e) ↔
      Q 0 (.dict entries) ∧ ∀ e ∈ entries, ∀ d v, PyVal.Element e.2 d v → Q (d + 1) v := by
  constructor
  · exact fun h => ⟨h 0 _ (.root _), fun e he d v hv => h (d + 1) v (.dict he hv)⟩
  · rintro ⟨hroot, hentries⟩ d e he
    cases he with
    | root => exact hroot
    | dict he hv => exact hentries _ he _ _ hv

/-- What has no items is its only element. -/
theorem element_alone_iff {v : PyVal Ref} (hv : ∀ d e, v.Element d e → d = 0 ∧ e = v)
    {Q : ℕ → PyVal Ref → Prop} : (∀ d e, v.Element d e → Q d e) ↔ Q 0 v := by
  constructor
  · exact fun h => h 0 v (.root v)
  · intro h d e he
    obtain ⟨rfl, rfl⟩ := hv d e he
    exact h

/-- Nothing is written below the greatest depth. -/
theorem exists_guarded_iff {ε α : Type} {depth : ℕ} {e : ε} {x : Except ε α} :
    (∃ t, (if depth > 128 then .error e else x) = .ok t) ↔ depth ≤ 128 ∧ ∃ t, x = .ok t := by
  by_cases h : depth > 128
  · rw [if_pos h]
    constructor
    · rintro ⟨t, ⟨⟩⟩
    · exact fun hle => absurd hle.1 (not_le.mpr h)
  · rw [if_neg h]
    exact ⟨fun ht => ⟨not_lt.mp h, ht⟩, fun ht => ht.2⟩

/-- A value is written exactly if no element is too deep and every one is of a kind that is
written. -/
theorem writePyJson_iff (v : PyVal Ref) (depth : ℕ) :
    (∃ t, writePyJson w py v depth = .ok t) ↔
      ∀ d e, v.Element d e → depth + d ≤ 128 ∧ WritesAlone e := by
  -- a value without items is its own only element
  have halone {v : PyVal Ref} {depth : ℕ} {err : PyErr Ref}
      {x : Except (PyErr Ref) (List Char)} (hv : ∀ d e, v.Element d e → d = 0 ∧ e = v)
      (hwrite : writePyJson w py v depth = if depth > 128 then .error err else x)
      (hx : (∃ t, x = .ok t) ↔ WritesAlone v) :
      (∃ t, writePyJson w py v depth = .ok t) ↔
        ∀ d e, v.Element d e → depth + d ≤ 128 ∧ WritesAlone e := by
    rw [hwrite, exists_guarded_iff, element_alone_iff hv, hx, Nat.add_zero]
  -- the items of a container are one level deeper
  have hdeeper {items : List (PyVal Ref)} {depth : ℕ}
      (ih : ∀ v ∈ items, ∀ depth, (∃ t, writePyJson w py v depth = .ok t) ↔
        ∀ d e, v.Element d e → depth + d ≤ 128 ∧ WritesAlone e) :
      (∀ v ∈ items, ∃ t, writePyJson w py v (depth + 1) = .ok t) ↔
        ∀ v ∈ items, ∀ d e, v.Element d e → depth + (d + 1) ≤ 128 ∧ WritesAlone e := by
    refine forall₂_congr fun v hv => ?_
    rw [ih v hv (depth + 1)]
    simp only [Nat.add_assoc, Nat.add_comm 1]
  have hrefused {err : PyErr Ref} : ¬ ∃ t, (.error err : Except (PyErr Ref) (List Char)) = .ok t :=
    by
      rintro ⟨t, ⟨⟩⟩
  induction v using PyVal.inductionOn generalizing depth with
  | none =>
    refine halone (fun d e he => by cases he; exact ⟨rfl, rfl⟩) rfl ?_
    exact ⟨fun _ => trivial, fun _ => ⟨_, rfl⟩⟩
  | bool b =>
    refine halone (fun d e he => by cases he; exact ⟨rfl, rfl⟩) rfl ?_
    exact ⟨fun _ => trivial, fun _ => ⟨_, rfl⟩⟩
  | int n =>
    refine halone (fun d e he => by cases he; exact ⟨rfl, rfl⟩) rfl ?_
    exact writeInt_iff
  | float x =>
    refine halone (fun d e he => by cases he; exact ⟨rfl, rfl⟩) rfl ?_
    exact writeFloat_iff
  | str s =>
    refine halone (fun d e he => by cases he; exact ⟨rfl, rfl⟩) rfl ?_
    exact writeStr_iff
  | bytes b =>
    refine halone (fun d e he => by cases he; exact ⟨rfl, rfl⟩) rfl ?_
    exact ⟨hrefused, False.elim⟩
  | list items ih =>
    rw [writePyJson, exists_guarded_iff, exists_bind_ok_iff, writeItems_iff, element_list_iff,
      hdeeper ih]
    exact ⟨fun h => ⟨⟨h.1, trivial⟩, h.2⟩, fun h => ⟨h.1.1, h.2⟩⟩
  | tuple items ih =>
    rw [writePyJson, exists_guarded_iff, exists_bind_ok_iff, writeItems_iff, element_tuple_iff,
      hdeeper ih]
    exact ⟨fun h => ⟨⟨h.1, trivial⟩, h.2⟩, fun h => ⟨h.1.1, h.2⟩⟩
  | dict entries ih =>
    have hmapped : ∀ v ∈ entries.map Prod.snd, ∀ depth,
        (∃ t, writePyJson w py v depth = .ok t) ↔
          ∀ d e, v.Element d e → depth + d ≤ 128 ∧ WritesAlone e := by
      intro v hv
      obtain ⟨e, he, rfl⟩ := List.mem_map.mp hv
      exact ih e he
    have hvalues := @hdeeper _ depth hmapped
    rw [List.forall_mem_map, List.forall_mem_map] at hvalues
    rw [writePyJson, exists_guarded_iff, exists_bind_ok_iff, writeEntries_iff, element_dict_iff,
      ← hvalues]
    constructor
    · exact fun h => ⟨⟨h.1, fun e he => (h.2 e he).1⟩, fun e he => (h.2 e he).2⟩
    · exact fun h => ⟨h.1.1, fun e he => ⟨h.1.2 e he, h.2 e he⟩⟩
  | response body status headers cookies =>
    refine halone (fun d e he => by cases he; exact ⟨rfl, rfl⟩) rfl ?_
    exact ⟨hrefused, False.elim⟩
  | object r =>
    refine halone (fun d e he => by cases he; exact ⟨rfl, rfl⟩) rfl ?_
    exact ⟨hrefused, False.elim⟩

-- ════════════════════════════════════════════════════════════════════════
-- What is written
-- ════════════════════════════════════════════════════════════════════════

/-- The finite floats of the value are doubles. -/
def Doubles (v : PyVal Ref) : Prop :=
  ∀ d q, v.Element d (.float (.finite q)) → F64.ofRat q = .finite q

/-- The bytes are the UTF-8 form of a JSON text of this value. -/
def BytesDenote (bytes : List UInt8) (j : Json) : Prop :=
  ∃ s : String, bytes = utf8 s ∧ Denotes s.toList j

theorem writeStr_token {s : PyStr} {t : List Char}
    (h : writeStr w s = (.ok t : Except (PyErr Ref) (List Char))) : StringToken t s.text := by
  obtain ⟨text, htext, ht⟩ := Except.of_bind_eq_ok h
  cases ht
  unfold PyStr.toStr at htext
  split at htext
  · cases htext
  · cases htext
    exact w.str_token _

theorem writeKey_token {k : PyVal Ref} {t : List Char} (h : writeKey w k = .ok t) :
    StringToken t (keyText k) := by
  cases k with
  | str s =>
    have hstr : writeStr w s = (.ok t : Except (PyErr Ref) (List Char)) := h
    exact writeStr_token hstr
  | _ => cases h

/-- What the value is written as is read as its JSON value. -/
def WrittenWell (w : SerdeJson) (py : Inspection Ref) (v : PyVal Ref) : Prop :=
  ∀ depth t, writePyJson w py v depth = .ok t → Spells readValue t (jsonOf v)

theorem writeItems_spells {items : List (PyVal Ref)} (ih : ∀ v ∈ items, WrittenWell w py v)
    {first : Bool} {depth : ℕ} {t : List Char} (h : writeItems w py items first depth = .ok t) :
    ∃ l : List (List Char × Json), (∀ e ∈ l, Spells readValue e.1 e.2) ∧
      l.map Prod.snd = jsonItems items ∧
      t = if first then separated (l.map Prod.fst) else following (l.map Prod.fst) := by
  induction items generalizing first t with
  | nil =>
    cases h
    refine ⟨[], fun e he => absurd he List.not_mem_nil, rfl, ?_⟩
    cases first with
    | true => rfl
    | false => rfl
  | cons v items ihitems =>
    obtain ⟨t', ht', h⟩ := Except.of_bind_eq_ok h
    obtain ⟨rest, hrest, h⟩ := Except.of_bind_eq_ok h
    cases h
    obtain ⟨l, hl, hvalues, rfl⟩ :=
      ihitems (fun v' hv' => ih v' (List.mem_cons_of_mem _ hv')) hrest
    have hv := ih v List.mem_cons_self depth t' ht'
    refine ⟨(t', jsonOf v) :: l, List.forall_mem_cons.mpr ⟨hv, hl⟩, ?_, ?_⟩
    · rw [List.map_cons, hvalues]
      rfl
    · cases first with
      | true => rfl
      | false => rfl

theorem writeEntries_spells {entries : List (PyVal Ref × PyVal Ref)}
    (ih : ∀ e ∈ entries, WrittenWell w py e.2) {first : Bool} {depth : ℕ} {t : List Char}
    (h : writeEntries w py entries first depth = .ok t) :
    ∃ l : List (List Char × String × Json), (∀ e ∈ l, Spells member e.1 e.2) ∧
      l.map Prod.snd = jsonMembers entries ∧
      t = if first then separated (l.map Prod.fst) else following (l.map Prod.fst) := by
  induction entries generalizing first t with
  | nil =>
    cases h
    refine ⟨[], fun e he => absurd he List.not_mem_nil, rfl, ?_⟩
    cases first with
    | true => rfl
    | false => rfl
  | cons e entries ihentries =>
    obtain ⟨k, v⟩ := e
    obtain ⟨key, hkey, h⟩ := Except.of_bind_eq_ok h
    obtain ⟨t', ht', h⟩ := Except.of_bind_eq_ok h
    obtain ⟨rest, hrest, h⟩ := Except.of_bind_eq_ok h
    cases h
    obtain ⟨l, hl, hmembers, rfl⟩ :=
      ihentries (fun e he => ih e (List.mem_cons_of_mem _ he)) hrest
    have hv : Spells readValue t' (jsonOf v) := ih (k, v) List.mem_cons_self depth t' ht'
    have hmember := spells_member (writeKey_token hkey) hv
    refine ⟨(key ++ (':' :: ' ' :: t'), keyText k, jsonOf v) :: l,
      List.forall_mem_cons.mpr ⟨hmember, hl⟩, ?_, ?_⟩
    · rw [List.map_cons, hmembers]
      rfl
    · have hcolon : key ++ ": ".toList ++ t' = key ++ (':' :: ' ' :: t') :=
        List.append_assoc key _ t'
      rw [hcolon]
      cases first with
      | true => rfl
      | false => rfl

/-- What is written is read as the value. -/
theorem writePyJson_spells {v : PyVal Ref} (hdoubles : Doubles v) : WrittenWell w py v := by
  have hguard {depth : ℕ} {err : PyErr Ref} {x : Except (PyErr Ref) (List Char)} {t : List Char}
      (h : (if depth > 128 then .error err else x) = .ok t) : x = .ok t := by
    split at h
    · cases h
    · exact h
  induction v using PyVal.inductionOn with
  | none =>
    intro depth t h
    cases hguard h
    exact spells_null
  | bool b =>
    intro depth t h
    cases hguard h
    cases b with
    | true => exact spells_bool true
    | false => exact spells_bool false
  | int n =>
    intro depth t h
    have ht : writeInt n = (.ok t : Except (PyErr Ref) (List Char)) := hguard h
    have hchars : t = Decimal.intChars n := by
      unfold writeInt at ht
      split at ht
      · exact (Except.ok.inj ht).symm
      split at ht
      · exact (Except.ok.inj ht).symm
      split at ht
      · exact (Except.ok.inj ht).symm
      · cases ht
    rw [hchars]
    exact spells_number (number_intChars n)
  | float x =>
    intro depth t h
    have ht : writeFloat w x = (.ok t : Except (PyErr Ref) (List Char)) := hguard h
    cases x with
    | finite q =>
      cases ht
      exact spells_number (w.float_token q (hdoubles 0 q (.root _)))
    | nan => cases ht
    | inf neg => cases ht
  | str s =>
    intro depth t h
    exact spells_str (writeStr_token (hguard h))
  | bytes b =>
    intro depth t h
    cases hguard h
  | list items ih =>
    intro depth t h
    obtain ⟨text, htext, ht⟩ := Except.of_bind_eq_ok (hguard h)
    cases ht
    have hitems : ∀ v ∈ items, WrittenWell w py v :=
      fun v hv => ih v hv fun d q hq => hdoubles (d + 1) q (.list hv hq)
    obtain ⟨l, hl, hvalues, rfl⟩ := writeItems_spells hitems htext
    rw [jsonOf, ← hvalues]
    exact spells_arr hl
  | tuple items ih =>
    intro depth t h
    obtain ⟨text, htext, ht⟩ := Except.of_bind_eq_ok (hguard h)
    cases ht
    have hitems : ∀ v ∈ items, WrittenWell w py v :=
      fun v hv => ih v hv fun d q hq => hdoubles (d + 1) q (.tuple hv hq)
    obtain ⟨l, hl, hvalues, rfl⟩ := writeItems_spells hitems htext
    rw [jsonOf, ← hvalues]
    exact spells_arr hl
  | dict entries ih =>
    intro depth t h
    obtain ⟨text, htext, ht⟩ := Except.of_bind_eq_ok (hguard h)
    cases ht
    have hentries : ∀ e ∈ entries, WrittenWell w py e.2 :=
      fun e he => ih e he fun d q hq => hdoubles (d + 1) q (.dict he hq)
    obtain ⟨l, hl, hmembers, rfl⟩ := writeEntries_spells hentries htext
    rw [jsonOf, ← hmembers]
    exact spells_obj hl
  | response body status headers cookies =>
    intro depth t h
    cases hguard h
  | object r =>
    intro depth t h
    cases hguard h

/-- The bytes of a value are the UTF-8 form of its text. -/
theorem pyToJsonBytes_denotes {v : PyVal Ref} (hdoubles : Doubles v) {bytes : List UInt8}
    (h : pyToJsonBytes w py v = .ok bytes) : BytesDenote bytes (jsonOf v) := by
  obtain ⟨t, ht, hbytes⟩ := Except.of_bind_eq_ok h
  cases hbytes
  refine ⟨String.ofList t, rfl, ?_⟩
  rw [String.toList_ofList]
  exact (writePyJson_spells hdoubles 0 t ht).denotes

theorem BytesDenote.unique {bytes : List UInt8} {j j' : Json} (h : BytesDenote bytes j)
    (h' : BytesDenote bytes j') : j = j' := by
  obtain ⟨s, rfl, hs⟩ := h
  obtain ⟨s', heq, hs'⟩ := h'
  rw [← utf8_injective heq] at hs'
  exact hs.unique hs'

variable (w py) in
/-- **JSON texts.** For every value: it is serialized exactly if no element is deeper than 128 and
every one is of a kind that is written; and what is written is then a JSON text that is read as
the value, and as nothing else. -/
theorem pyToJsonBytes_spec (v : PyVal Ref) (hdoubles : Doubles v) :
    ((∃ bytes, pyToJsonBytes w py v = .ok bytes) ↔
      ∀ d e, v.Element d e → d ≤ 128 ∧ WritesAlone e) ∧
    ∀ bytes, pyToJsonBytes w py v = .ok bytes → ∀ j, BytesDenote bytes j ↔ j = jsonOf v := by
  refine ⟨?_, fun bytes hbytes j => ?_⟩
  · unfold pyToJsonBytes
    rw [exists_bind_ok_iff, writePyJson_iff]
    simp only [Nat.zero_add]
  · have hvalue := pyToJsonBytes_denotes hdoubles hbytes
    refine ⟨fun hj => hj.unique hvalue, fun hj => ?_⟩
    rw [hj]
    exact hvalue

/-- A dict with a list and an empty tuple in it. -/
def sampleDict : PyVal String :=
  .dict [(.text "a", .list [.int (2 ^ 100)]), (.text "b", .tuple [])]

theorem sampleDict_doubles : Doubles sampleDict := by
  have hint {Q : ℕ → PyVal String → Prop} {n : ℤ} (h : Q 0 (.int n)) :
      ∀ d e, (PyVal.int n).Element d e → Q d e :=
    (element_alone_iff fun d e he => by cases he; exact ⟨rfl, rfl⟩).mpr h
  have hall : ∀ d e, sampleDict.Element d e → ∀ q, e = .float (.finite q) →
      F64.ofRat q = .finite q := by
    refine element_dict_iff.mpr ⟨by rintro q ⟨⟩, List.forall_mem_cons.mpr ⟨?_, ?_⟩⟩
    · refine element_list_iff.mpr ⟨by rintro q ⟨⟩, ?_⟩
      exact List.forall_mem_singleton.mpr (hint (by rintro q ⟨⟩))
    · refine List.forall_mem_singleton.mpr (element_tuple_iff.mpr ⟨by rintro q ⟨⟩, ?_⟩)
      exact fun v hv => absurd hv List.not_mem_nil
  exact fun d q h => hall d _ h q rfl

theorem sampleDict_written :
    ((∃ bytes, pyToJsonBytes .exact (plainRuntime segmentMatcher).toInspection sampleDict =
        .ok bytes) ↔
      ∀ d e, sampleDict.Element d e → d ≤ 128 ∧ WritesAlone e) ∧
    ∀ bytes, pyToJsonBytes .exact (plainRuntime segmentMatcher).toInspection sampleDict =
        .ok bytes →
      ∀ j, BytesDenote bytes j ↔ j = jsonOf sampleDict :=
  pyToJsonBytes_spec .exact _ sampleDict sampleDict_doubles

end OxyRoute
