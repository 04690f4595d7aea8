import OxyRoute.Lib.Json
import OxyRoute.Native.Python

/-!
# Python values

The values that pass between the dispatcher and Python code: built-in types by their contents,
`oxyroute.Response` by its fields, everything else by reference. A value is what it is at the
moment it is passed.

## Main definitions

- `PyVal` — the values
- `Inspection` — what the dispatcher asks about objects
- `extractString`, `extractU16`, `extractByteVec` — the conversions of PyO3
- `jsonToPy` — `json_to_py`
-/

namespace OxyRoute

/-- A Python `str`. One with lone surrogates has no UTF-8 form; its text is the lossy one. -/
structure PyStr where
  text : String
  surrogates : Bool := false
  deriving DecidableEq, Repr

/-- A Python value. -/
inductive PyVal (Ref : Type)
  | none
  | bool (b : Bool)
  | int (n : ℤ)
  | float (x : F64)
  | str (s : PyStr)
  | bytes (b : List UInt8)
  | list (items : List (PyVal Ref))
  | tuple (items : List (PyVal Ref))
  | dict (entries : List (PyVal Ref × PyVal Ref))
  | response (body status headers cookies : PyVal Ref)
  | object (r : Ref)

/-- The fields of a raised `HTTPException`. -/
structure HttpException (Ref : Type) where
  statusCode : ℤ
  detail : PyVal Ref
  headers : List (PyVal Ref × PyVal Ref)

/-- What the dispatcher asks about objects and exceptions. None of this runs user code that
changes anything. -/
structure Inspection (Ref : Type) where
  /-- `getattr`; no value for an `AttributeError`. -/
  getattr : Ref → String → Except (PyErr Ref) (Option (PyVal Ref))
  /-- `obj.get(key)` of a mapping that has a `get`. -/
  mappingGet : Ref → Option (String → Except (PyErr Ref) (PyVal Ref))
  /-- `__index__`. -/
  index : Ref → Except (PyErr Ref) ℤ
  /-- `value[0]`, if that is no error. -/
  firstItem : PyVal Ref → Option (PyVal Ref)
  /-- The bytes of an object that is a sequence of them. -/
  byteSequence : Ref → Option (List UInt8)
  typeName : Ref → String
  /-- `str(value)`. -/
  toStr : PyVal Ref → Except (PyErr Ref) PyStr
  /-- `isinstance(exc, cls)`. -/
  isInstance : PyErr Ref → Ref → Bool
  /-- The exception object of an error. -/
  exceptionObject : PyErr Ref → PyVal Ref
  /-- The fields of an exception that is an `HTTPException`. -/
  httpException : Ref → Option (HttpException Ref)
  /-- The exception as `format!` prints it. -/
  displayErr : PyErr Ref → String
  /-- `json.dumps`. -/
  jsonDumps : PyVal Ref → Except (PyErr Ref) String
  /-- `py_to_json_bytes_or_fallback`. -/
  jsonBytes : PyVal Ref → Except (PyErr Ref) (List UInt8)
  /-- `HTTPStatus(code).phrase`. -/
  phrase : ℤ → Option String

variable {Ref : Type}

namespace PyVal

/-- A `str` with a UTF-8 form. -/
def text (s : String) : PyVal Ref := .str ⟨s, false⟩

def isNone : PyVal Ref → Bool
  | .none => true
  | _ => false

/-- `type(value).__name__`. -/
def typeName (py : Inspection Ref) : PyVal Ref → String
  | .none => "NoneType"
  | .bool _ => "bool"
  | .int _ => "int"
  | .float _ => "float"
  | .str _ => "str"
  | .bytes _ => "bytes"
  | .list _ => "list"
  | .tuple _ => "tuple"
  | .dict _ => "dict"
  | .response .. => "Response"
  | .object r => py.typeName r

/-- `getattr` with the names the dispatcher uses; no value for an `AttributeError`. -/
def getattr (py : Inspection Ref) (v : PyVal Ref) (name : String) :
    Except (PyErr Ref) (Option (PyVal Ref)) :=
  match v with
  | .response body status headers cookies =>
    .ok (match name with
      | "body" => some body
      | "status" => some status
      | "headers" => some headers
      | "cookies" => some cookies
      | _ => Option.none)
  | .object r => py.getattr r name
  | _ => .ok Option.none

/-- `dict.get_item`. -/
def getItem (entries : List (PyVal Ref × PyVal Ref)) (key : String) : Option (PyVal Ref) :=
  (entries.find? fun e => match e.1 with
    | .str s => s = ⟨key, false⟩
    | _ => false).map (·.2)

theorem getItem_mem {d : List (PyVal Ref × PyVal Ref)} {key : String} {v : PyVal Ref}
    (h : getItem d key = some v) : ∃ e ∈ d, e.2 = v := by
  obtain ⟨e, he, rfl⟩ := Option.map_eq_some_iff.mp h
  exact ⟨e, List.mem_of_find?_eq_some he, rfl⟩

end PyVal

/-- The UTF-8 bytes of a text. -/
def utf8 (s : String) : List UInt8 := s.toUTF8.toList

theorem toList_loop_eq (b : ByteArray) (i : ℕ) (r : List UInt8) :
    ByteArray.toList.loop b i r = r.reverse ++ b.data.toList.drop i := by
  fun_induction ByteArray.toList.loop b i r with
  | case1 i r h ih =>
    have hlt : i < b.data.toList.length := h
    have hget : b.get! i = b.data.toList[i] := getElem!_pos b.data i h
    rw [ih, List.reverse_cons, List.append_assoc, List.drop_eq_getElem_cons hlt, hget]
    rfl
  | case2 i r h => rw [List.drop_eq_nil_of_le (not_lt.mp h), List.append_nil]

theorem utf8_eq (s : String) : utf8 s = s.toByteArray.data.toList := by
  unfold utf8 ByteArray.toList
  rw [toList_loop_eq]
  rfl

theorem utf8_length (s : String) : (utf8 s).length = s.utf8ByteSize := by
  rw [utf8_eq]
  rfl

theorem utf8_injective : Function.Injective utf8 := by
  intro s t h
  rw [utf8_eq, utf8_eq, Array.toList_inj] at h
  exact String.toByteArray_inj.mp (ByteArray.ext h)

theorem utf8_eq_nil_iff {s : String} : utf8 s = [] ↔ s = "" := by
  rw [← List.length_eq_zero_iff, utf8_length, String.utf8ByteSize_eq_zero_iff]

/-- The error of a failed downcast. -/
def downcastError (py : Inspection Ref) (v : PyVal Ref) (target : String) : PyErr Ref :=
  .typeError ("'" ++ v.typeName py ++ "' object cannot be converted to '" ++ target ++ "'")

/-- `PyString::to_str`. -/
def PyStr.toStr (s : PyStr) : Except (PyErr Ref) String :=
  if s.surrogates then .error .unicodeEncodeError else .ok s.text

/-- `extract::<String>`. -/
def extractString (py : Inspection Ref) : PyVal Ref → Except (PyErr Ref) String
  | .str s => s.toStr
  | v => .error (downcastError py v "PyString")

/-- `extract::<u16>` of an integer. -/
def u16OfInt (n : ℤ) : Except (PyErr Ref) ℕ :=
  if n < -(2 ^ 63) ∨ 2 ^ 63 ≤ n then
    .error (.overflowError "Python int too large to convert to C long")
  else if 0 ≤ n ∧ n < 2 ^ 16 then .ok n.toNat
  else .error (.overflowError "out of range integral type conversion attempted")

/-- `extract::<u16>`. -/
def extractU16 (py : Inspection Ref) : PyVal Ref → Except (PyErr Ref) ℕ
  | .int n => u16OfInt n
  | .bool b => .ok b.toNat
  | .object r => py.index r >>= u16OfInt
  | v => .error (.typeError ("'" ++ v.typeName py ++
      "' object cannot be interpreted as an integer"))

/-- `extract::<bool>`. -/
def extractBool (py : Inspection Ref) : PyVal Ref → Except (PyErr Ref) Bool
  | .bool b => .ok b
  | v => .error (downcastError py v "PyBool")

/-- An item of a byte sequence. -/
def byteOf : PyVal Ref → Option UInt8
  | .int n => if 0 ≤ n ∧ n < 2 ^ 8 then some (UInt8.ofNat n.toNat) else none
  | .bool b => some (UInt8.ofNat b.toNat)
  | _ => none

/-- `extract::<Vec<u8>>`. -/
def extractByteVec (py : Inspection Ref) : PyVal Ref → Option (List UInt8)
  | .bytes b => some b
  | .list items | .tuple items => items.mapM byteOf
  | .object r => py.byteSequence r
  | _ => none

mutual

/-- `json_to_py`. -/
def jsonToPy : Json → PyVal Ref
  | .null => .none
  | .bool b => .bool b
  | .int n => .int n
  | .float x => .float x
  | .str s => .text s
  | .arr a => .list (jsonItemsToPy a)
  | .obj o => .dict (jsonMembersToPy o)

def jsonItemsToPy : List Json → List (PyVal Ref)
  | [] => []
  | j :: a => jsonToPy j :: jsonItemsToPy a

def jsonMembersToPy : List (String × Json) → List (PyVal Ref × PyVal Ref)
  | [] => []
  | (k, j) :: o => (.text k, jsonToPy j) :: jsonMembersToPy o

end

end OxyRoute
