import OxyRoute.Lib.Decimal
import OxyRoute.Native.Params

/-!
# Values of path parameters

A captured segment becomes an integer, a boolean or a double exactly if it is written as one, and
is else passed as it is. A number with a point can be too large for a double, and is then passed
as an infinity.

## Main definitions

- `CoercedAs` — what a segment is passed as

## Main results

- `isValidIntegerLiteral_iff`, `isValidFloatLiteral_iff` — what the two recognizers accept
- `coercedAs_iff` — every segment is passed as it is written, unless it overflows
-/

namespace OxyRoute

open Decimal

variable {Ref : Type}

/-- An integer of 64 bits. -/
def InI64 (i : ℤ) : Prop := -(2 ^ 63) ≤ i ∧ i < 2 ^ 63

/-- The value of a segment: an integer by its decimal form, a boolean by its name, a double by a
number with a point to which it is nearest, and else the segment. -/
structure CoercedAs (s : String) (v : PyVal Ref) : Prop where
  int : ∀ i, v = .int i ↔ s = toString i ∧ InI64 i
  bool : ∀ b, v = .bool b ↔ s = toString b
  float : ∀ x, v = .float x → ∃ d : Literal, s = d.text ∧ x = .finite (F64.round d.value)
  text : v = .text s ∨ (∃ i, v = .int i) ∨ (∃ b, v = .bool b) ∨ ∃ x, v = .float x

-- ════════════════════════════════════════════════════════════════════════
-- Integer literals
-- ════════════════════════════════════════════════════════════════════════

theorem noLeadingZero_iff (l : List Char) :
    (decide (1 < l.length) && decide (l.head? = some '0')) = false ↔
      (1 < l.length → l.head? ≠ some '0') := by
  rw [Bool.and_eq_false_iff, decide_eq_false_iff_not, decide_eq_false_iff_not]
  exact imp_iff_not_or.symm

theorem numeral_iff_all {l : List Char} :
    Numeral l ↔ l ≠ [] ∧ (1 < l.length → l.head? ≠ some '0') ∧ l.all Char.isDigit = true := by
  rw [List.all_eq_true]
  exact ⟨fun h => ⟨h.ne_nil, h.noLeadingZero, h.digits⟩, fun ⟨h, h', h''⟩ => ⟨h, h', h''⟩⟩

theorem isValidIntegerLiteral_minus {s : String} {l : List Char} (h : s.toList = '-' :: l) :
    isValidIntegerLiteral s = true ↔ Numeral l ∧ l ≠ ['0'] := by
  unfold isValidIntegerLiteral
  rw [h]
  simp only [Bool.and_eq_true, Bool.not_eq_true', noLeadingZero_iff, decide_eq_true_iff,
    Bool.true_and, decide_eq_false_iff_not, numeral_iff_all]
  tauto

theorem isValidIntegerLiteral_digits {s : String} (h : ∀ l, s.toList ≠ '-' :: l) :
    isValidIntegerLiteral s = true ↔ Numeral s.toList := by
  unfold isValidIntegerLiteral
  split
  · next heq =>
    split at heq
    · next hs => exact absurd hs (h _)
    · cases heq
      simp only [Bool.and_eq_true, Bool.not_eq_true', noLeadingZero_iff, decide_eq_true_iff,
        Bool.false_and, Bool.not_false, numeral_iff_all]
      tauto

/-- The integer literals are the decimal forms of integers. -/
theorem isValidIntegerLiteral_iff {s : String} :
    isValidIntegerLiteral s = true ↔ ∃ i : ℤ, s = toString i := by
  simp only [toString_eq_iff]
  rw [eq_intChars_iff]
  by_cases hminus : ∃ l, s.toList = '-' :: l
  · obtain ⟨l, hl⟩ := hminus
    rw [isValidIntegerLiteral_minus hl, hl]
    constructor
    · exact fun h => .inr ⟨l, rfl, h⟩
    · rintro (h | ⟨l', heq, h⟩)
      · exact absurd rfl h.ne_minus
      · rwa [(List.cons.inj heq).2]
  · rw [isValidIntegerLiteral_digits (not_exists.mp hminus)]
    exact (or_iff_left fun ⟨l, hl, _⟩ => hminus ⟨l, hl⟩).symm

/-- The decimal form of an integer of 64 bits is read as this integer. -/
theorem parseI64_toString (i : ℤ) :
    parseI64 (toString i) = if -(2 ^ 63) ≤ i ∧ i < 2 ^ 63 then some i else none := by
  show (if -(2 ^ 63) ≤ intValue (toString i).toList ∧ intValue (toString i).toList < 2 ^ 63 then
    some (intValue (toString i).toList) else none) = _
  rw [toList_toString, intValue_intChars]

-- ════════════════════════════════════════════════════════════════════════
-- Float literals
-- ════════════════════════════════════════════════════════════════════════

/-- The part of a float literal after the sign is accepted. -/
def isValidFloatDigits (digits : List Char) : Bool :=
  match digits.splitOn '.' with
  | [intPart, fracPart] =>
    intPart ≠ [] && fracPart ≠ [] && !(1 < intPart.length && intPart.head? = some '0') &&
      intPart.all Char.isDigit && fracPart.all Char.isDigit
  | _ => false

theorem isValidFloatLiteral_minus {s : String} {l : List Char} (h : s.toList = '-' :: l) :
    isValidFloatLiteral s = isValidFloatDigits l := by
  unfold isValidFloatLiteral isValidFloatDigits
  rw [h]
  rfl

theorem isValidFloatLiteral_digits {s : String} (h : ∀ l, s.toList ≠ '-' :: l) :
    isValidFloatLiteral s = isValidFloatDigits s.toList := by
  unfold isValidFloatLiteral isValidFloatDigits
  split
  · next hs => exact absurd hs (h _)
  · rfl

theorem not_mem_of_digits {l : List Char} (h : ∀ c ∈ l, c.isDigit = true) : '.' ∉ l :=
  fun hpoint => absurd (h '.' hpoint) (by decide)

/-- It is a numeral, the point and digits. -/
theorem isValidFloatDigits_iff {l : List Char} :
    isValidFloatDigits l = true ↔ ∃ whole frac, l = whole ++ '.' :: frac ∧ Numeral whole ∧
      frac ≠ [] ∧ ∀ c ∈ frac, c.isDigit = true := by
  unfold isValidFloatDigits
  constructor
  · intro h
    split at h
    · next whole frac hsplit =>
      obtain ⟨-, -, hl⟩ := Text.splitOn_eq_pair_iff.mp hsplit
      simp only [Bool.and_eq_true, Bool.not_eq_true', noLeadingZero_iff, decide_eq_true_iff,
        List.all_eq_true] at h
      obtain ⟨⟨⟨⟨hwhole, hfrac⟩, hzero⟩, hdigits⟩, hdigits'⟩ := h
      exact ⟨whole, frac, hl, ⟨hwhole, hzero, hdigits⟩, hfrac, hdigits'⟩
    · cases h
  · rintro ⟨whole, frac, hl, hwhole, hfrac, hdigits⟩
    have hsplit : l.splitOn '.' = [whole, frac] := Text.splitOn_eq_pair_iff.mpr
      ⟨not_mem_of_digits hwhole.digits, not_mem_of_digits hdigits, hl⟩
    rw [hsplit]
    simp only [Bool.and_eq_true, Bool.not_eq_true', noLeadingZero_iff, decide_eq_true_iff,
      List.all_eq_true]
    exact ⟨⟨⟨⟨hwhole.ne_nil, hfrac⟩, hwhole.noLeadingZero⟩, hwhole.digits⟩, hdigits⟩

/-- The digits of a literal have no minus sign. -/
theorem digits_ne_minus (d : Literal) (l : List Char) : d.digits ≠ '-' :: l := by
  obtain ⟨c, l', hwhole, hdigit⟩ := d.exists_cons
  rw [Literal.digits, hwhole, List.cons_append]
  intro heq
  rw [(List.cons.inj heq).1] at hdigit
  exact absurd hdigit (by decide)

/-- The float literals are the numbers with a point. -/
theorem isValidFloatLiteral_iff {s : String} :
    isValidFloatLiteral s = true ↔ ∃ d : Literal, s = d.text := by
  constructor
  · intro h
    by_cases hminus : ∃ l, s.toList = '-' :: l
    · obtain ⟨l, hl⟩ := hminus
      rw [isValidFloatLiteral_minus hl, isValidFloatDigits_iff] at h
      obtain ⟨whole, frac, rfl, hwhole, hfrac, hdigits⟩ := h
      refine ⟨⟨true, whole, frac, hwhole, hfrac, hdigits⟩, ?_⟩
      rw [← String.toList_inj, hl, Literal.text, String.toList_ofList]
      rfl
    · rw [isValidFloatLiteral_digits (not_exists.mp hminus), isValidFloatDigits_iff] at h
      obtain ⟨whole, frac, hs, hwhole, hfrac, hdigits⟩ := h
      refine ⟨⟨false, whole, frac, hwhole, hfrac, hdigits⟩, ?_⟩
      rw [← String.toList_inj, hs, Literal.text, String.toList_ofList]
      rfl
  · rintro ⟨d, rfl⟩
    have hdigits : isValidFloatDigits d.digits = true :=
      isValidFloatDigits_iff.mpr ⟨_, _, rfl, d.whole_numeral, d.frac_ne_nil, d.frac_digits⟩
    cases hneg : d.neg with
    | true =>
      have htext : d.text.toList = '-' :: d.digits := by
        rw [Literal.text, String.toList_ofList, if_pos hneg]
      rw [isValidFloatLiteral_minus htext, hdigits]
    | false =>
      have htext : d.text.toList = d.digits := by
        rw [Literal.text, String.toList_ofList, hneg, if_neg Bool.false_ne_true]
      have hminus : ∀ l, d.text.toList ≠ '-' :: l := fun l => htext ▸ digits_ne_minus d l
      rw [isValidFloatLiteral_digits hminus, htext, hdigits]

-- ════════════════════════════════════════════════════════════════════════
-- Values
-- ════════════════════════════════════════════════════════════════════════

/-- A character of an integer is a digit or a minus sign. -/
theorem mem_toString {i : ℤ} {c : Char} (h : c ∈ (toString i).toList) :
    c.isDigit = true ∨ c = '-' := by
  have hnumeral := eq_intChars_iff.mp ⟨i, toList_toString i⟩
  rcases hnumeral with hn | ⟨l, hl, hn, -⟩
  · exact .inl (hn.digits c h)
  · rw [hl] at h
    rcases List.mem_cons.mp h with h | h
    · exact .inr h
    · exact .inl (hn.digits c h)

theorem point_mem_text (d : Literal) : '.' ∈ d.text.toList := by
  have hdigits : '.' ∈ d.digits := List.mem_append.mpr (.inr List.mem_cons_self)
  rw [Literal.text, String.toList_ofList]
  split
  · exact List.mem_cons_of_mem _ hdigits
  · exact hdigits

/-- No integer is written with a point. -/
theorem toString_ne_text (i : ℤ) (d : Literal) : toString i ≠ d.text := by
  intro heq
  have hpoint : '.' ∈ (toString i).toList := heq ▸ point_mem_text d
  rcases mem_toString hpoint with h | h
  · exact absurd h (by decide)
  · exact absurd h (by decide)

theorem toString_ne_bool (i : ℤ) (b : Bool) : toString i ≠ toString b := by
  intro heq
  have hletter : 'e' ∈ (toString i).toList := by
    rw [heq]
    cases b <;> decide
  rcases mem_toString hletter with h | h
  · exact absurd h (by decide)
  · exact absurd h (by decide)

theorem text_ne_bool (d : Literal) (b : Bool) : d.text ≠ toString b := by
  intro heq
  have hpoint : '.' ∈ (toString b).toList := heq ▸ point_mem_text d
  revert hpoint
  cases b <;> decide

theorem valueForPathParam_bool (b : Bool) : (valueForPathParam (toString b) : PyVal Ref) = .bool b := by
  cases b <;> rfl

theorem valueForPathParam_int {i : ℤ} (h : InI64 i) :
    (valueForPathParam (toString i) : PyVal Ref) = .int i := by
  have htrue : toString i ≠ "true" := toString_ne_bool i true
  have hfalse : toString i ≠ "false" := toString_ne_bool i false
  have hrange : -(2 ^ 63) ≤ i ∧ i < 2 ^ 63 := h
  unfold valueForPathParam
  rw [if_neg htrue, if_neg hfalse, if_pos (isValidIntegerLiteral_iff.mpr ⟨i, rfl⟩),
    parseI64_toString, if_pos hrange]

theorem valueForPathParam_literal (d : Literal) :
    (valueForPathParam d.text : PyVal Ref) = .float (F64.ofRat d.value) := by
  have hint : ¬ isValidIntegerLiteral d.text = true := by
    rw [isValidIntegerLiteral_iff]
    rintro ⟨i, hi⟩
    exact toString_ne_text i d hi.symm
  have htrue : d.text ≠ "true" := text_ne_bool d true
  have hfalse : d.text ≠ "false" := text_ne_bool d false
  unfold valueForPathParam
  rw [if_neg htrue, if_neg hfalse, if_neg hint, if_pos (isValidFloatLiteral_iff.mpr ⟨d, rfl⟩),
    d.parse_text]

/-- Any other segment is passed as it is. -/
theorem valueForPathParam_text {s : String} (hbool : ∀ b : Bool, s ≠ toString b)
    (hint : ∀ i : ℤ, InI64 i → s ≠ toString i) (hfloat : ∀ d : Literal, s ≠ d.text) :
    (valueForPathParam s : PyVal Ref) = .text s := by
  have hparse : (if isValidIntegerLiteral s = true then parseI64 s else none) = none := by
    by_cases hs : isValidIntegerLiteral s = true
    · obtain ⟨i, rfl⟩ := isValidIntegerLiteral_iff.mp hs
      have hrange : ¬ (-(2 ^ 63) ≤ i ∧ i < 2 ^ 63) := fun h => hint i h rfl
      rw [if_pos hs, parseI64_toString, if_neg hrange]
    · exact if_neg hs
  have hliteral : ¬ isValidFloatLiteral s = true := by
    rw [isValidFloatLiteral_iff]
    rintro ⟨d, hd⟩
    exact hfloat d hd
  have htrue : s ≠ "true" := hbool true
  have hfalse : s ≠ "false" := hbool false
  unfold valueForPathParam
  rw [if_neg htrue, if_neg hfalse, hparse, if_neg hliteral]

-- ════════════════════════════════════════════════════════════════════════
-- Every segment
-- ════════════════════════════════════════════════════════════════════════

theorem toString_bool_injective {b b' : Bool} (h : toString b = toString b') : b = b' := by
  revert h
  cases b <;> cases b' <;> decide

theorem coercedAs_bool (b : Bool) : CoercedAs (toString b) (.bool b : PyVal Ref) where
  int i := iff_of_false (fun h => by cases h) fun h => toString_ne_bool i b h.1.symm
  bool b' := by
    constructor
    · rintro ⟨⟩
      rfl
    · intro h
      rw [toString_bool_injective h]
  float x h := by cases h
  text := .inr (.inr (.inl ⟨b, rfl⟩))

theorem coercedAs_int {i : ℤ} (h : InI64 i) : CoercedAs (toString i) (.int i : PyVal Ref) where
  int j := by
    constructor
    · rintro ⟨⟩
      exact ⟨rfl, h⟩
    · rintro ⟨heq, -⟩
      rw [toString_eq_iff, toList_toString] at heq
      rw [intChars_injective heq]
  bool b := iff_of_false (fun h => by cases h) (toString_ne_bool i b)
  float x h := by cases h
  text := .inr (.inl ⟨i, rfl⟩)

theorem coercedAs_literal {d : Literal} (h : |d.value| < F64.overflow) :
    CoercedAs d.text (.float (F64.ofRat d.value) : PyVal Ref) where
  int i := iff_of_false (fun h => by cases h) fun h => toString_ne_text i d h.1.symm
  bool b := iff_of_false (fun h => by cases h) (text_ne_bool d b)
  float x hx := by
    cases hx
    exact ⟨d, rfl, if_neg (not_le.mpr h)⟩
  text := .inr (.inr (.inr ⟨_, rfl⟩))

theorem coercedAs_text {s : String} (hbool : ∀ b : Bool, s ≠ toString b)
    (hint : ∀ i : ℤ, InI64 i → s ≠ toString i) : CoercedAs s (.text s : PyVal Ref) where
  int i := iff_of_false (fun h => by cases h) fun h => hint i h.2 h.1
  bool b := iff_of_false (fun h => by cases h) (hbool b)
  float x h := by cases h
  text := .inl rfl

theorem coercedAs_of_lt {s : String} (h : ∀ d : Literal, s = d.text → |d.value| < F64.overflow) :
    CoercedAs s (valueForPathParam s : PyVal Ref) := by
  by_cases hbool : ∃ b : Bool, s = toString b
  · obtain ⟨b, rfl⟩ := hbool
    rw [valueForPathParam_bool]
    exact coercedAs_bool b
  by_cases hint : ∃ i : ℤ, InI64 i ∧ s = toString i
  · obtain ⟨i, hi, rfl⟩ := hint
    rw [valueForPathParam_int hi]
    exact coercedAs_int hi
  by_cases hliteral : ∃ d : Literal, s = d.text
  · obtain ⟨d, rfl⟩ := hliteral
    rw [valueForPathParam_literal]
    exact coercedAs_literal (h d rfl)
  have hnotbool : ∀ b : Bool, s ≠ toString b := not_exists.mp hbool
  have hnotint : ∀ i : ℤ, InI64 i → s ≠ toString i := fun i hi heq => hint ⟨i, hi, heq⟩
  rw [valueForPathParam_text hnotbool hnotint (not_exists.mp hliteral)]
  exact coercedAs_text hnotbool hnotint

/-- A number with a point that is too large is passed as an infinity. -/
theorem valueForPathParam_overflow {d : Literal} (h : F64.overflow ≤ |d.value|) :
    (valueForPathParam d.text : PyVal Ref) = .float (.inf (decide (d.value < 0))) := by
  rw [valueForPathParam_literal, F64.ofRat, if_pos h]

/-- The integers are passed by their decimal forms, whatever else is passed. -/
theorem valueForPathParam_eq_int_iff {s : String} {i : ℤ} :
    (valueForPathParam s : PyVal Ref) = .int i ↔ s = toString i ∧ InI64 i := by
  by_cases hliteral : ∃ d : Literal, s = d.text
  · obtain ⟨d, rfl⟩ := hliteral
    rw [valueForPathParam_literal]
    exact iff_of_false (fun h => by cases h) fun h => toString_ne_text i d h.1.symm
  · exact (coercedAs_of_lt fun d hd => absurd ⟨d, hd⟩ hliteral).int i

/-- A segment is passed as it is written exactly if it is no number with a point that is too large
for a double; and no two segments are passed as the same integer. -/
theorem coercedAs_iff (s : String) :
    (CoercedAs s (valueForPathParam s : PyVal Ref) ↔
      ∀ d : Literal, s = d.text → |d.value| < F64.overflow) ∧
      ∀ s' i, (valueForPathParam s : PyVal Ref) = .int i →
        (valueForPathParam s' : PyVal Ref) = .int i → s' = s := by
  refine ⟨⟨?_, coercedAs_of_lt⟩, ?_⟩
  · rintro h d rfl
    by_contra hlarge
    obtain ⟨d', -, hfinite⟩ := h.float _ (valueForPathParam_overflow (not_lt.mp hlarge))
    cases hfinite
  · intro s' i h h'
    rw [(valueForPathParam_eq_int_iff.mp h).1, (valueForPathParam_eq_int_iff.mp h').1]

/-- Twice the power of ten below the largest double. -/
def hugeLiteral : Literal where
  neg := false
  whole := '2' :: List.replicate 308 '0'
  frac := ['0']
  whole_numeral := by
    refine ⟨List.cons_ne_nil _ _, fun _ h => absurd (Option.some.inj h) (by decide), ?_⟩
    intro c hc
    rcases List.mem_cons.mp hc with rfl | hc
    · decide
    · rw [List.eq_of_mem_replicate hc]
      decide
  frac_ne_nil := List.cons_ne_nil _ _
  frac_digits := by
    intro c hc
    rw [List.mem_singleton.mp hc]
    decide

/-- It is passed as an infinity. -/
theorem hugeLiteral_infinite :
    (valueForPathParam hugeLiteral.text : PyVal String) = .float (.inf false) ∧
      ¬ CoercedAs hugeLiteral.text (valueForPathParam hugeLiteral.text : PyVal String) := by
  have hvalue : F64.ofRat hugeLiteral.value = .inf false := by decide +kernel
  have hinfinite : (valueForPathParam hugeLiteral.text : PyVal String) = .float (.inf false) := by
    rw [valueForPathParam_literal, hvalue]
  refine ⟨hinfinite, fun h => ?_⟩
  obtain ⟨d, -, hfinite⟩ := h.float _ hinfinite
  cases hfinite

end OxyRoute
