import OxyRoute.Lib.F64
import Mathlib.Tactic.FieldSimp

/-!
# Decimal numerals

Numbers are written in one way only: without leading zeros, and with a sign only where they are
negative. A numeral is thus read back as what was written, and two numbers are never written
alike.

## Main definitions

- `Decimal.Numeral` — digits that are the decimal form of a number
- `Decimal.intChars` — the decimal form of an integer
- `Decimal.Literal` — a number with a point

## Main results

- `Decimal.toDigits_digitsValue` — a numeral is the decimal form of its value
- `Decimal.digitsValue_toDigits` — the decimal form of a number has this value
- `Decimal.intValue_intChars` — so has that of an integer
- `Decimal.Literal.parse_text` — a number with a point is read as the nearest double
-/

namespace Decimal

open Text

/-- The digits of a number in base ten: no leading zero but for `0`. -/
structure Numeral (l : List Char) : Prop where
  ne_nil : l ≠ []
  noLeadingZero : 1 < l.length → l.head? ≠ some '0'
  digits : ∀ c ∈ l, c.isDigit = true

-- ════════════════════════════════════════════════════════════════════════
-- Digits
-- ════════════════════════════════════════════════════════════════════════

theorem isDigit_iff {c : Char} : c.isDigit = true ↔ 48 ≤ c.toNat ∧ c.toNat ≤ 57 := by
  unfold Char.isDigit
  rw [Bool.and_eq_true, decide_eq_true_iff, decide_eq_true_iff]
  exact Iff.rfl

theorem digitChar_toNat {c : Char} (h : c.isDigit = true) : (c.toNat - 48).digitChar = c := by
  obtain ⟨hlow, hhigh⟩ := isDigit_iff.mp h
  apply Char.toNat_inj.mp
  rw [Nat.toNat_digitChar_of_lt_ten (by omega)]
  omega

theorem digitsValue_eq (l : List Char) : digitsValue l = Nat.ofDigitChars 10 l 0 :=
  Nat.ofDigitChars_eq_foldl.symm

theorem digitsValue_toDigits (n : ℕ) : digitsValue (Nat.toDigits 10 n) = n := by
  rw [digitsValue_eq, Nat.ofDigitChars_ten_toDigits]

theorem digitsValue_append (l l' : List Char) :
    digitsValue (l ++ l') = digitsValue l * 10 ^ l'.length + digitsValue l' := by
  rw [digitsValue_eq, digitsValue_eq, digitsValue_eq, Nat.ofDigitChars_append,
    Nat.ofDigitChars_eq_ofDigitChars_zero, Nat.mul_comm]

/-- Digits after a number that is not zero are appended to its decimal form. -/
theorem toDigits_ofDigitChars {n : ℕ} (hn : 0 < n) {l : List Char}
    (hl : ∀ c ∈ l, c.isDigit = true) :
    Nat.toDigits 10 (Nat.ofDigitChars 10 l n) = Nat.toDigits 10 n ++ l := by
  induction l generalizing n with
  | nil => rw [Nat.ofDigitChars_nil, List.append_nil]
  | cons c l ih =>
    have hc := hl c List.mem_cons_self
    have hdigit : c.toNat - 48 < 10 := by
      obtain ⟨hlow, hhigh⟩ := isDigit_iff.mp hc
      omega
    have hstep : Nat.toDigits 10 (10 * n + (c.toNat - 48)) = Nat.toDigits 10 n ++ [c] := by
      rw [← Nat.toDigits_append_toDigits (by decide) hn hdigit, Nat.toDigits_of_lt_base hdigit,
        digitChar_toNat hc]
    rw [Nat.ofDigitChars_cons]
    have hrest := ih (n := 10 * n + (c.toNat - 48)) (by omega) fun d hd =>
      hl d (List.mem_cons_of_mem c hd)
    rw [hstep, List.append_assoc] at hrest
    exact hrest

-- ════════════════════════════════════════════════════════════════════════
-- Numerals
-- ════════════════════════════════════════════════════════════════════════

/-- A numeral is the decimal form of its value. -/
theorem toDigits_digitsValue {l : List Char} (h : Numeral l) :
    Nat.toDigits 10 (digitsValue l) = l := by
  cases l with
  | nil => exact absurd rfl h.ne_nil
  | cons c l =>
    have hc := h.digits c List.mem_cons_self
    obtain ⟨hlow, hhigh⟩ := isDigit_iff.mp hc
    have hdigit : c.toNat - 48 < 10 := by omega
    have hone : Nat.toDigits 10 (c.toNat - 48) = [c] := by
      rw [Nat.toDigits_of_lt_base hdigit, digitChar_toNat hc]
    have hvalue : digitsValue (c :: l) = Nat.ofDigitChars 10 l (c.toNat - 48) := by
      rw [digitsValue_eq, Nat.ofDigitChars_cons, Nat.mul_zero, Nat.zero_add]
      rfl
    rw [hvalue]
    by_cases hzero : c = '0'
    · have hnil : l = [] := by
        by_contra hne
        have hpos : 0 < l.length := List.length_pos_iff.mpr hne
        have hlen : 1 < (c :: l).length := by
          rw [List.length_cons]
          omega
        exact h.noLeadingZero hlen (by rw [hzero]; rfl)
      rw [hnil, Nat.ofDigitChars_nil, hone]
    · have hne : c.toNat ≠ 48 := fun heq => hzero (Char.toNat_inj.mp heq)
      rw [toDigits_ofDigitChars (by omega) fun d hd => h.digits d (List.mem_cons_of_mem c hd), hone]
      rfl

theorem head?_toDigits {n : ℕ} (hn : 0 < n) : (Nat.toDigits 10 n).head? ≠ some '0' := by
  induction n using Nat.strong_induction_on with
  | _ n ih =>
    by_cases hlt : n < 10
    · rw [Nat.toDigits_of_lt_base hlt, List.head?_cons]
      intro heq
      have hzero := Nat.digitChar_eq_zero.mp (Option.some.inj heq)
      omega
    · rw [Nat.toDigits_of_base_le (by decide) (by omega), List.head?_append_of_ne_nil _
        Nat.toDigits_ne_nil]
      exact ih (n / 10) (by omega) (by omega)

/-- The decimal form of a number is a numeral. -/
theorem numeral_toDigits (n : ℕ) : Numeral (Nat.toDigits 10 n) where
  ne_nil := Nat.toDigits_ne_nil
  noLeadingZero hlen := by
    apply head?_toDigits
    by_contra hzero
    rw [Nat.eq_zero_of_not_pos hzero, Nat.toDigits_zero] at hlen
    exact absurd hlen (by decide)
  digits c hc := Nat.isDigit_of_mem_toDigits (by decide) (by decide) hc

theorem digitsValue_eq_zero_iff {l : List Char} (h : Numeral l) : digitsValue l = 0 ↔ l = ['0'] := by
  constructor
  · intro hzero
    rw [← toDigits_digitsValue h, hzero, Nat.toDigits_zero]
  · rintro rfl
    rfl

-- ════════════════════════════════════════════════════════════════════════
-- Integers
-- ════════════════════════════════════════════════════════════════════════

/-- The decimal form of an integer. -/
def intChars (i : ℤ) : List Char :=
  if 0 ≤ i then Nat.toDigits 10 i.toNat else '-' :: Nat.toDigits 10 (-i).toNat

theorem toList_toString (i : ℤ) : (toString i).toList = intChars i := by
  rw [Int.toString_eq_repr, Int.repr_eq_if, intChars]
  split
  · exact Nat.toList_repr
  · rw [String.toList_append, Nat.toList_repr]
    rfl

theorem toString_eq_iff {s : String} {i : ℤ} : s = toString i ↔ s.toList = intChars i := by
  rw [← toList_toString, String.toList_inj]

theorem intChars_natCast (n : ℕ) : intChars n = Nat.toDigits 10 n := by
  rw [intChars, if_pos (Int.natCast_nonneg n), Int.toNat_natCast]

theorem intChars_neg {n : ℕ} (hn : n ≠ 0) : intChars (-n) = '-' :: Nat.toDigits 10 n := by
  rw [intChars, if_neg (by omega), neg_neg, Int.toNat_natCast]

/-- A numeral has no minus sign. -/
theorem Numeral.ne_minus {l l' : List Char} (h : Numeral l) : l ≠ '-' :: l' := by
  rintro rfl
  exact absurd (h.digits '-' List.mem_cons_self) (by decide)

/-- The number that signed digits stand for. -/
def intValue (l : List Char) : ℤ :=
  match l with
  | '-' :: rest => -digitsValue rest
  | rest => digitsValue rest

theorem intValue_of_numeral {l : List Char} (h : Numeral l) : intValue l = digitsValue l := by
  unfold intValue
  split
  · exact absurd rfl h.ne_minus
  · rfl

/-- Signed digits are the decimal form of a number exactly if there is no leading zero and no
signed zero. -/
theorem eq_intChars_iff {l : List Char} :
    (∃ i, l = intChars i) ↔ Numeral l ∨ ∃ l', l = '-' :: l' ∧ Numeral l' ∧ l' ≠ ['0'] := by
  constructor
  · rintro ⟨i, rfl⟩
    rcases Int.eq_nat_or_neg i with ⟨n, rfl | rfl⟩
    · rw [intChars_natCast]
      exact .inl (numeral_toDigits n)
    · by_cases hn : n = 0
      · rw [hn]
        exact .inl (numeral_toDigits 0)
      · rw [intChars_neg hn]
        refine .inr ⟨_, rfl, numeral_toDigits n, fun hzero => hn ?_⟩
        rw [← digitsValue_toDigits n, hzero]
        rfl
  · rintro (h | ⟨l', rfl, h, hzero⟩)
    · exact ⟨digitsValue l, by rw [intChars_natCast, toDigits_digitsValue h]⟩
    · have hvalue : digitsValue l' ≠ 0 := fun hv => hzero ((digitsValue_eq_zero_iff h).mp hv)
      exact ⟨-digitsValue l', by rw [intChars_neg hvalue, toDigits_digitsValue h]⟩

/-- The decimal form of an integer stands for it. -/
theorem intValue_intChars (i : ℤ) : intValue (intChars i) = i := by
  rcases Int.eq_nat_or_neg i with ⟨n, rfl | rfl⟩
  · rw [intChars_natCast, intValue_of_numeral (numeral_toDigits n), digitsValue_toDigits]
  · by_cases hn : n = 0
    · rw [hn]
      rfl
    · rw [intChars_neg hn]
      show -(digitsValue (Nat.toDigits 10 n) : ℤ) = _
      rw [digitsValue_toDigits]

theorem intChars_injective : Function.Injective intChars :=
  Function.LeftInverse.injective intValue_intChars

/-- What starts with a digit is no special value. -/
theorem lower_ne_of_digit {s l : List Char} {c : Char} (hs : s = c :: l) (hdigit : c.isDigit = true)
    {c' : Char} {l' : List Char} (hc' : 65 ≤ c'.toNat) : s.map Char.toLower ≠ c' :: l' := by
  obtain ⟨-, hhigh⟩ := isDigit_iff.mp hdigit
  rw [hs, List.map_cons]
  intro heq
  have hlower := congrArg Char.toNat (List.cons.inj heq).1
  rw [toNat_toLower, if_neg (by omega)] at hlower
  omega

/-- A number after an optional sign is read as the nearest double. -/
theorem parse_signed {s l : List Char} {c : Char} (hs : s = c :: l) (hdigit : c.isDigit = true)
    {q : ℚ} (hq : F64.parseNumber s = some q) (neg : Bool) :
    F64.parse (String.ofList (if neg then '-' :: s else s)) =
      some (F64.ofRat (if neg then -q else q)) := by
  have hspecial (neg : Bool) :
      (if s.map Char.toLower = "nan".toList then some F64.nan
      else if s.map Char.toLower = "inf".toList ∨ s.map Char.toLower = "infinity".toList then
        some (.inf neg)
      else (F64.parseNumber s).map fun q => F64.ofRat (if neg then -q else q)) =
        some (F64.ofRat (if neg then -q else q)) := by
    have hnan : s.map Char.toLower ≠ "nan".toList := lower_ne_of_digit hs hdigit (by decide)
    have hinf : s.map Char.toLower ≠ "inf".toList := lower_ne_of_digit hs hdigit (by decide)
    have hinfinity : s.map Char.toLower ≠ "infinity".toList :=
      lower_ne_of_digit hs hdigit (by decide)
    rw [if_neg hnan, if_neg (not_or.mpr ⟨hinf, hinfinity⟩), hq, Option.map_some]
  unfold F64.parse
  rw [String.toList_ofList]
  cases neg with
  | true => exact hspecial true
  | false =>
    obtain ⟨hlow, -⟩ := isDigit_iff.mp hdigit
    have hminus : c ≠ '-' := by
      rintro rfl
      exact absurd hlow (by decide)
    have hplus : c ≠ '+' := by
      rintro rfl
      exact absurd hlow (by decide)
    have hspecial := hspecial false
    rw [hs] at hspecial
    rw [if_neg Bool.false_ne_true, hs]
    dsimp only
    split
    · next heq => exact absurd (List.cons.inj heq).1 hminus
    · next heq => exact absurd (List.cons.inj heq).1 hplus
    · exact hspecial

-- ════════════════════════════════════════════════════════════════════════
-- Numbers with a point
-- ════════════════════════════════════════════════════════════════════════

/-- A number with a point: an optional minus sign, a numeral, and at least one digit more. -/
structure Literal where
  neg : Bool
  whole : List Char
  frac : List Char
  whole_numeral : Numeral whole
  frac_ne_nil : frac ≠ []
  frac_digits : ∀ c ∈ frac, c.isDigit = true

namespace Literal

/-- The digits with the point. -/
def digits (d : Literal) : List Char := d.whole ++ '.' :: d.frac

def text (d : Literal) : String := String.ofList (if d.neg then '-' :: d.digits else d.digits)

/-- The absolute value. -/
def magnitude (d : Literal) : ℚ := digitsValue d.whole + digitsValue d.frac / 10 ^ d.frac.length

/-- The number that is written. -/
def value (d : Literal) : ℚ := if d.neg then -d.magnitude else d.magnitude

theorem exists_cons (d : Literal) : ∃ c l, d.whole = c :: l ∧ c.isDigit = true := by
  cases hwhole : d.whole with
  | nil => exact absurd hwhole d.whole_numeral.ne_nil
  | cons c l => exact ⟨c, l, rfl, d.whole_numeral.digits c (hwhole ▸ List.mem_cons_self)⟩

/-- A character of the digits is a digit or the point. -/
theorem mem_digits {d : Literal} {c : Char} (h : c ∈ d.digits) : c.isDigit = true ∨ c = '.' := by
  rcases List.mem_append.mp h with h | h
  · exact .inl (d.whole_numeral.digits c h)
  · rcases List.mem_cons.mp h with h | h
    · exact .inr h
    · exact .inl (d.frac_digits c h)

theorem parseNumber_digits (d : Literal) : F64.parseNumber d.digits = some d.magnitude := by
  have hexponent : splitOnce (fun c => c == 'e' || c == 'E') d.digits = none := by
    apply splitOnce_eq_none
    intro c hc
    rcases mem_digits hc with h | rfl
    · obtain ⟨-, hhigh⟩ := isDigit_iff.mp h
      rw [Bool.or_eq_false_iff, beq_eq_false_iff_ne, beq_eq_false_iff_ne]
      constructor
      · rintro rfl
        exact absurd hhigh (by decide)
      · rintro rfl
        exact absurd hhigh (by decide)
    · decide
  have hpoint : splitOnce (· == '.') d.digits = some (d.whole, d.frac) := by
    apply splitOnce_append
    · intro c hc
      obtain ⟨hlow, -⟩ := isDigit_iff.mp (d.whole_numeral.digits c hc)
      rw [beq_eq_false_iff_ne]
      rintro rfl
      exact absurd hlow (by decide)
    · decide
  have hdigits : d.whole ++ d.frac ≠ [] ∧ (d.whole ++ d.frac).all Char.isDigit = true := by
    refine ⟨List.append_ne_nil_of_left_ne_nil d.whole_numeral.ne_nil _, ?_⟩
    rw [List.all_append, Bool.and_eq_true, List.all_eq_true, List.all_eq_true]
    exact ⟨d.whole_numeral.digits, d.frac_digits⟩
  have hvalue : (digitsValue (d.whole ++ d.frac) : ℚ) * (10 : ℚ) ^ (0 - (d.frac.length : ℤ)) =
      d.magnitude := by
    rw [digitsValue_append, zero_sub, zpow_neg, zpow_natCast, magnitude, Nat.cast_add, Nat.cast_mul,
      Nat.cast_pow]
    field_simp
    norm_num
  unfold F64.parseNumber
  rw [hexponent]
  dsimp only
  rw [hpoint]
  show (if d.whole ++ d.frac ≠ [] ∧ (d.whole ++ d.frac).all Char.isDigit = true then
    (some 0).map fun e : ℤ => (digitsValue (d.whole ++ d.frac) : ℚ) * (10 : ℚ) ^
      (e - (d.frac.length : ℤ)) else none) = _
  rw [if_pos hdigits, Option.map_some, hvalue]

/-- The double that is read is the one nearest to the number. -/
theorem parse_text (d : Literal) : F64.parse d.text = some (F64.ofRat d.value) := by
  obtain ⟨c, l, hwhole, hdigit⟩ := d.exists_cons
  have hcons : d.digits = c :: (l ++ '.' :: d.frac) := by
    rw [digits, hwhole, List.cons_append]
  exact parse_signed hcons hdigit (parseNumber_digits d) d.neg

end Literal

end Decimal
